import Testbed.CommandLine.Report
import Testbed.Proofs.Space.Resolution

/-!
# The commands agree with each other

`validate` and both formats of `plan` read one runbook and tell the same about it. Whatever is valid
is planned, `--strict` changes the exit code and nothing that is printed, and the counts of the text
are those of the entries of the JSON array.
-/
namespace Testbed

/-- The nodes of a match each have a node of the candidate that they are assigned to. -/
theorem resolve_assigns {requirement : EnvironmentSpace} {candidates : List EnvironmentSpace}
    {found : MatchedEnvironment} (resolved : resolve requirement candidates = .ok found) :
    found.nodeAssignment.length = found.space.nodes.length := by
  obtain ⟨candidate, -, -, matched⟩ := resolve_ok _ _ _ resolved
  obtain ⟨-, narrowed, assignment, assigned, indices⟩ := matchCandidate_ok _ _ _ _ matched
  obtain ⟨same, again, nodes⟩ := EnvironmentSpace.intersect_nodes _ _ _ narrowed
  obtain rfl : assignment = same := Except.ok.inj (assigned.symm.trans again)
  have covers := EnvironmentSpace.assignNodes_covers _ _ _ assigned
  rw [indices, nodes, covers.indices_length, covers.nodes_length]

namespace Runbook

theorem found_of_mem_plan {b : Runbook} {case : String} {environment : MatchedEnvironment}
    (planned : .found case environment ∈ b.plan) :
    ∃ c ∈ b.cases, resolve c.requirement b.environments = .ok environment := by
  obtain ⟨c, member, made⟩ := List.mem_map.1 planned
  refine ⟨c, member, ?_⟩
  unfold planCase at made
  split at made
  · rename_i resolved
    obtain ⟨-, rfl⟩ := CasePlan.found.inj made
    exact resolved
  · cases made

end Runbook

theorem planCase_case (environments : List EnvironmentSpace) (c : CaseRequirement) :
    (planCase environments c).case = c.name := by
  unfold planCase
  split <;> rfl

theorem planCase_isMatched (environments : List EnvironmentSpace) (c : CaseRequirement) :
    (planCase environments c).isMatched = true ↔
      ∃ found, resolve c.requirement environments = .ok found := by
  unfold planCase
  split
  · rename_i found resolved
    exact ⟨fun _ => ⟨found, resolved⟩, fun _ => rfl⟩
  · rename_i reasons rejected
    constructor
    · nofun
    · rintro ⟨found, resolved⟩
      rw [rejected] at resolved
      cases resolved

/-- Every case is matched exactly when none is unavailable. -/
theorem Runbook.plan_unavailable (b : Runbook) :
    (b.plan.filter (fun p => !p.isMatched)).length = 0 ↔
      ∀ c ∈ b.cases, ∃ found, resolve c.requirement b.environments = .ok found := by
  simp only [← planCase_isMatched]
  rw [List.length_eq_zero_iff, List.filter_eq_nil_iff]
  simp [Runbook.plan]

/-! ## Entries of a plan -/

/-- The text of a member of an object. -/
def Json.textOf? (name : String) : Json → Option String
  | .object members =>
    match Record.find? name members with
    | some (.string text) => some text
    | _ => none
  | _ => none

namespace CasePlan

theorem textOf?_case (p : CasePlan) : p.toJson.textOf? "case" = some p.case := by
  cases p <;> rfl

theorem textOf?_result (p : CasePlan) :
    p.toJson.textOf? "result" = some (if p.isMatched then "matched" else "unavailable") := by
  cases p <;> rfl

/-- The entries of a plan with a result are as many as the cases that have it. -/
theorem countP_result (plan : List CasePlan) :
    (plan.map toJson).countP (fun entry => entry.textOf? "result" = some "matched") =
        (plan.filter isMatched).length ∧
      (plan.map toJson).countP (fun entry => entry.textOf? "result" = some "unavailable") =
        plan.length - (plan.filter isMatched).length := by
  induction plan with
  | nil => exact ⟨rfl, rfl⟩
  | cons p plan ih =>
    have fewer := List.length_filter_le isMatched plan
    cases matched : p.isMatched
    · simp [textOf?_result, matched, ih]
      omega
    · simp [textOf?_result, matched, ih]

end CasePlan

namespace CommandLine

/-! ## Text -/

/-- A plan as text begins with its counts, and the lines of its cases follow in order. -/
theorem planText_eq (plan : List CasePlan) :
    let found := (plan.filter CasePlan.isMatched).length
    planText plan = s!"Plan\n====\nmatched: {found}\nunavailable: {plan.length - found}\n" ++
      String.join ((plan.flatMap caseLines).map (· ++ "\n")) := by
  intro found
  simp only [planText, List.map_append, String.join_append, List.map_cons, List.map_nil,
    String.join_cons, String.join_nil]
  simp [String.append_assoc, found, ToString.toString]
  rfl

/-- The line of a node of a match names the node of the candidate at its place. -/
theorem matchedLines_getElem? {environment : MatchedEnvironment} (case : String)
    (assigned : environment.nodeAssignment.length = environment.space.nodes.length)
    {index : Nat} {node : NodeSpace} (held : environment.space.nodes[index]? = some node) :
    ∃ place, environment.nodeAssignment[index]? = some place ∧
      (matchedLines case environment)[index + 1]? =
        some s!"      node[{index}] <- candidate node[{place}]: {nodeText node}" := by
  have within : index < environment.nodeAssignment.length :=
    assigned ▸ (List.getElem?_eq_some_iff.1 held).1
  have place := List.getElem?_eq_getElem within
  have paired : (environment.space.nodes.zip environment.nodeAssignment)[index]? =
      some (node, environment.nodeAssignment[index]) :=
    List.getElem?_zip_eq_some.2 ⟨held, place⟩
  refine ⟨environment.nodeAssignment[index], place, ?_⟩
  rw [matchedLines, List.getElem?_cons_succ, List.getElem?_map, List.getElem?_zipIdx, paired]
  simp

/-! ## Commands -/

section Commands

variable {path : String} {content : Except FileError String}

theorem loadValid_ok {runbook : Runbook} (loaded : loadValid path content = .ok runbook) :
    Runbook.ofFile path content = .ok runbook := by
  unfold loadValid at loaded
  split at loaded
  · cases loaded
  · rename_i read
    split at loaded
    · cases loaded
    · rw [read, Except.ok.inj loaded]

theorem loadValid_error {outcome : Outcome} (rejected : loadValid path content = .error outcome) :
    outcome.exit = 1 := by
  unfold loadValid at rejected
  split at rejected
  · rw [← Except.error.inj rejected]
    rfl
  · split at rejected
    · rw [← Except.error.inj rejected]
      rfl
    · cases rejected

theorem runPlan_ok {runbook : Runbook} (loaded : loadValid path content = .ok runbook)
    (format : Format) (strict : Bool) :
    (runPlan path format strict content).stdout = planOutput runbook.plan format ++ "\n" ∧
      ((runPlan path format strict content).exit = 0 ↔
        strict = false ∨ ∀ c ∈ runbook.cases,
          ∃ found, resolve c.requirement runbook.environments = .ok found) := by
  rw [← runbook.plan_unavailable]
  simp only [runPlan, loaded]
  split
  · rename_i short
    refine ⟨rfl, nofun, ?_⟩
    rintro (lax | none')
    · rw [short.1] at lax
      cases lax
    · omega
  · rename_i enough
    refine ⟨rfl, ?_⟩
    cases strict <;> simp_all

/-- A command that exits with 0 has loaded a runbook. -/
theorem loaded_of_runPlan {format : Format} {strict : Bool}
    (done : (runPlan path format strict content).exit = 0) :
    ∃ runbook, loadValid path content = .ok runbook := by
  cases loaded : loadValid path content with
  | ok runbook => exact ⟨runbook, rfl⟩
  | error outcome =>
    simp [runPlan, loaded, loadValid_error loaded] at done

theorem loaded_of_runValidate (done : (runValidate path content).exit = 0) :
    ∃ runbook, loadValid path content = .ok runbook := by
  cases loaded : loadValid path content with
  | ok runbook => exact ⟨runbook, rfl⟩
  | error outcome =>
    simp [runValidate, loaded, loadValid_error loaded] at done

end Commands

/-- `validate` and `plan` agree on every file. What is printed does not depend on `--strict`;
whatever is valid is planned in both formats; and a plan tells in JSON one entry for each case in
order, in text as many matched and unavailable cases as there are such entries, and in its exit code
under `--strict` whether every case is matched. Each node of a match has its own line and a node
that it is assigned to. -/
theorem validate_plan_agree (path : String) (content : Except FileError String) :
    (∀ format, (runPlan path format true content).stdout =
      (runPlan path format false content).stdout) ∧
    ((runValidate path content).exit = 0 → ∀ format, (runPlan path format false content).exit = 0) ∧
    ∀ tried, (runPlan path tried false content).exit = 0 →
      ∃ runbook, Runbook.ofFile path content = .ok runbook ∧
        (∀ format, (runPlan path format false content).exit = 0 ∧
          ((runPlan path format true content).exit = 0 ↔ ∀ c ∈ runbook.cases,
            ∃ found, resolve c.requirement runbook.environments = .ok found)) ∧
        let entries := runbook.plan.map CasePlan.toJson
        let matched := entries.countP (fun entry => entry.textOf? "result" = some "matched")
        let unavailable := entries.countP (fun entry => entry.textOf? "result" = some "unavailable")
        (runPlan path .json false content).stdout = (Json.array entries).indented ++ "\n" ∧
        entries.map (Json.textOf? "case") = runbook.cases.map (fun c => some c.name) ∧
        (runPlan path .text false content).stdout =
          s!"Plan\n====\nmatched: {matched}\nunavailable: {unavailable}\n" ++
            String.join ((runbook.plan.flatMap caseLines).map (· ++ "\n")) ++ "\n" ∧
        ∀ case environment, .found case environment ∈ runbook.plan →
          ∀ index node, environment.space.nodes[index]? = some node →
            ∃ place, environment.nodeAssignment[index]? = some place ∧
              (matchedLines case environment)[index + 1]? =
                some s!"      node[{index}] <- candidate node[{place}]: {nodeText node}" := by
  refine ⟨fun format => ?stdout, fun valid format => ?planned, fun _ done => ?report⟩
  case stdout =>
    cases loaded : loadValid path content with
    | error outcome => simp [runPlan, loaded]
    | ok runbook => rw [(runPlan_ok loaded format true).1, (runPlan_ok loaded format false).1]
  case planned =>
    obtain ⟨runbook, loaded⟩ := loaded_of_runValidate valid
    exact (runPlan_ok loaded format false).2.2 (.inl rfl)
  case report =>
    obtain ⟨runbook, loaded⟩ := loaded_of_runPlan done
    refine ⟨runbook, loadValid_ok loaded, fun format => ⟨?_, ?_⟩,
      (runPlan_ok loaded .json false).1, ?names, ?counts, ?lines⟩
    · exact (runPlan_ok loaded format false).2.2 (.inl rfl)
    · rw [(runPlan_ok loaded format true).2]
      simp
    case names => simp [Runbook.plan, CasePlan.textOf?_case, planCase_case, Function.comp_def]
    case counts =>
      obtain ⟨matched, unavailable⟩ := CasePlan.countP_result runbook.plan
      rw [(runPlan_ok loaded .text false).1, matched, unavailable, planOutput, planText_eq]
    case lines =>
      intro case environment planned index node held
      obtain ⟨c, -, resolved⟩ := Runbook.found_of_mem_plan planned
      exact matchedLines_getElem? case (resolve_assigns resolved) held

/-- A runbook with a case that its one environment satisfies and a case that needs one node more: it
is valid and planned in both formats, and not with `--strict`. -/
theorem validate_plan_agree_mixed :
    let content := .ok <|
      "\x7b\"environments\": [\x7b\"nodes\": [\x7b\x7d]\x7d], " ++
      "\"cases\": [\x7b\"name\": \"smoke\"\x7d, " ++
      "\x7b\"name\": \"pair\", \"requirement\": \x7b\"nodes\": [\x7b\x7d, \x7b\x7d]\x7d\x7d]\x7d"
    (runValidate "runbook.json" content).exit = 0 ∧
    (runPlan "runbook.json" .text true content).exit = 1 ∧
    (∀ format, (runPlan "runbook.json" format false content).exit = 0) ∧
    ∃ runbook, Runbook.ofFile "runbook.json" content = .ok runbook ∧
      ∃ c ∈ runbook.cases, ∀ found, resolve c.requirement runbook.environments ≠ .ok found := by
  intro content
  have valid : (runValidate "runbook.json" content).exit = 0 := by decide +kernel
  have strict : (runPlan "runbook.json" .text true content).exit = 1 := by decide +kernel
  obtain ⟨-, planned, report⟩ := validate_plan_agree "runbook.json" content
  obtain ⟨runbook, read, exits, -⟩ := report .text (planned valid .text)
  refine ⟨valid, strict, planned valid, runbook, read, ?_⟩
  -- were every case matched, the strict plan would exit with 0
  have unmatched := mt (exits .text).2.2 (by rw [strict]; exact Nat.one_ne_zero)
  push Not at unmatched
  exact unmatched

end CommandLine

end Testbed
