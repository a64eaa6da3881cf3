import Testbed.Runbook

/-!
# The problems of a runbook

Validating goes through names once, together with those that it has seen. What it reports can be
told without these: every name is judged by the names before it in its list, and a runbook is valid
exactly if there is nothing to object to. Names of environments that were not declared are made of
their places, so a declared one may clash with them.
-/
namespace Testbed.Runbook

/-- What there is to object to a name after some others: something about the name itself or, failing
that, that it is one of them. -/
def objection (itself : String → Option Problem) (again : String → Problem)
    (before : List String) (name : String) : Option Problem :=
  (itself name).or (if name ∈ before then some (again name) else none)

/-- The objections to each of some names, after all names before it. -/
def objections (itself : String → Option Problem) (again : String → Problem)
    (names : List String) : List Problem :=
  (names.mapIdx (fun i name => (objection itself again (names.take i) name).toList)).flatten

section Objections

variable (itself : String → Option Problem) (again : String → Problem)

/-- It is enough to keep the names that there was nothing to object to. -/
theorem objection_cons (seen before : List String) (name other : String) :
    objection itself again (seen ++ name :: before) other =
      objection itself again
        ((if objection itself again seen name = none then name :: seen else seen) ++ before)
        other := by
  by_cases same : other = name
  · subst same
    cases own : itself other with
    | some problem => simp [objection, own]
    | none => by_cases known : other ∈ seen <;> simp [objection, own, known]
  · split <;> simp [objection, same]

/-- A scan that goes on with the names that it has kept reports the objections. -/
theorem eq_objections {scan : List String → List String → List Problem}
    (nil : ∀ seen, scan seen [] = [])
    (cons : ∀ seen name rest, scan seen (name :: rest) =
      match objection itself again seen name with
      | some problem => problem :: scan seen rest
      | none => scan (name :: seen) rest) (names : List String) :
    scan [] names = objections itself again names := by
  have general (seen : List String) : scan seen names =
      (names.mapIdx (fun i name =>
        (objection itself again (seen ++ names.take i) name).toList)).flatten := by
    induction names generalizing seen with
    | nil => exact nil seen
    | cons name rest ih =>
      rw [cons, List.mapIdx_cons, List.flatten_cons]
      simp only [List.take_succ_cons, List.take_zero, List.append_nil, objection_cons]
      cases objection itself again seen name with
      | some problem => simp [ih]
      | none => simp [ih]
  exact general []

/-- There are none exactly if no name is objected to for itself and all are different. -/
theorem objections_eq_nil_iff (names : List String) : objections itself again names = [] ↔
    (∀ name ∈ names, itself name = none) ∧ names.Nodup := by
  have each : objections itself again names = [] ↔
      ∀ i (inside : i < names.length),
        itself names[i] = none ∧ names[i] ∉ names.take i := by
    rw [objections, List.flatten_eq_nil_iff]
    constructor
    · intro empty i inside
      simpa [objection] using empty _ (List.mem_mapIdx.2 ⟨i, inside, rfl⟩)
    · intro fine l listed
      obtain ⟨i, inside, rfl⟩ := List.mem_mapIdx.1 listed
      simpa [objection] using fine i inside
  rw [each, List.Nodup, List.pairwise_iff_getElem]
  constructor
  · intro fine
    refine ⟨fun name listed => ?_, fun i j inside inside' before same => ?_⟩
    · obtain ⟨i, inside, rfl⟩ := List.getElem_of_mem listed
      exact (fine i inside).1
    · exact (fine j inside').2 (List.mem_take_iff_getElem.2 ⟨i, by omega, same⟩)
  · rintro ⟨plain, different⟩ i inside
    refine ⟨plain _ (List.getElem_mem inside), fun known => ?_⟩
    obtain ⟨k, before, same⟩ := List.mem_take_iff_getElem.1 known
    exact different k i (by omega) inside (by omega) same

end Objections

/-- What is wrong with the name of a case itself. -/
def blankCase (name : String) : Option Problem :=
  if Text.isBlank name then some .unnamedCase else none

theorem environmentProblems_eq (names : List String) : environmentProblems [] names =
    objections (fun _ => none) .duplicateEnvironment names := by
  refine eq_objections _ _ (fun _ => rfl) (fun seen name rest => ?_) names
  rw [environmentProblems, objection]
  split <;> rfl

theorem caseProblems_eq (names : List String) : caseProblems [] names =
    objections blankCase .duplicateCase names := by
  refine eq_objections _ _ (fun _ => rfl) (fun seen name rest => ?_) names
  rw [caseProblems, objection, blankCase]
  split
  · rfl
  · split <;> rfl

theorem objection_environment (before : List String) (name : String) :
    (objection (fun _ => none) .duplicateEnvironment before name).toList =
      if name ∈ before then [.duplicateEnvironment name] else [] := by
  rw [objection]
  split <;> rfl

theorem objection_case (before : List String) (name : String) :
    (objection blankCase .duplicateCase before name).toList =
      if Text.isBlank name then [.unnamedCase]
      else if name ∈ before then [.duplicateCase name] else [] := by
  rw [objection, blankCase]
  split
  · rfl
  · split <;> rfl

theorem validate_eq (b : Runbook) :
    b.validate = if b.problems = [] then .ok () else .error (.invalid b.problems) := by
  rw [validate]
  cases b.problems <;> rfl

theorem problems_eq_nil_iff (b : Runbook) : b.problems = [] ↔
    b.environments ≠ [] ∧ b.candidateNames.Nodup ∧
    (∀ name ∈ b.cases.map CaseRequirement.name, Text.isBlank name = false) ∧
    (b.cases.map CaseRequirement.name).Nodup ∧ 0 < b.lifecycle.connect.timeoutMs := by
  have positive : b.lifecycle.connect.timeoutMs ≠ 0 ↔ 0 < b.lifecycle.connect.timeoutMs := by
    rw [UInt64.lt_iff_toNat_lt, ne_eq, ← UInt64.toNat_inj]
    exact Nat.pos_iff_ne_zero.symm
  rw [problems, environmentProblems_eq, caseProblems_eq]
  simp only [List.append_eq_nil_iff, objections_eq_nil_iff, ← positive]
  simp [blankCase, and_assoc]

/-- The problems of a runbook are these, in this order: that it declares no environments, each
candidate name that is a name of an earlier candidate, each name of a case that is blank or the name
of an earlier case, and that there is no time to connect. A runbook is valid exactly if it has
none. -/
theorem validate_exact (b : Runbook) :
    let candidates := b.environments.mapIdx (fun i e => e.name.getD s!"candidate_{i}")
    let cases := b.cases.map CaseRequirement.name
    let problems : List Problem :=
      (if b.environments.isEmpty then [.noEnvironments] else []) ++
      (candidates.mapIdx (fun i name =>
        if name ∈ candidates.take i then [.duplicateEnvironment name] else [])).flatten ++
      (cases.mapIdx (fun i name =>
        if Text.isBlank name then [.unnamedCase]
        else if name ∈ cases.take i then [.duplicateCase name] else [])).flatten ++
      (if b.lifecycle.connect.timeoutMs = 0 then [.zeroTimeout] else [])
    (b.validate = .ok () ↔
      b.environments ≠ [] ∧ candidates.Nodup ∧ (∀ name ∈ cases, Text.isBlank name = false) ∧
      cases.Nodup ∧ 0 < b.lifecycle.connect.timeoutMs) ∧
    b.validate = if problems = [] then .ok () else .error (.invalid problems) := by
  intro candidates cases problems
  have named : b.candidateNames = candidates := by
    simp [candidateNames, candidates, List.mapIdx_eq_zipIdx_map, candidateName]
  have told : b.problems = problems := by
    rw [Runbook.problems, named, environmentProblems_eq, caseProblems_eq]
    simp only [objections, objection_environment, objection_case, problems, cases]
  have exact := b.validate_eq
  rw [told] at exact
  refine ⟨?_, exact⟩
  rw [← named, ← b.problems_eq_nil_iff, told, exact]
  split <;> simp [*]

/-- The name that is made for the second environment is that of the first one; a blank name is not
reported again when it is repeated. The same environments in the other order are fine. -/
theorem validate_exact_clash :
    let clashing : Runbook :=
      { environments := [{ name := some "candidate_1" }, {}]
        cases := [⟨" ", {}⟩, ⟨"boot", {}⟩, ⟨" ", {}⟩, ⟨"boot", {}⟩, ⟨"boot", {}⟩]
        lifecycle := { connect := { timeoutMs := 0 } } }
    let fine : Runbook :=
      { environments := [{}, { name := some "candidate_1" }], cases := [⟨"boot", {}⟩] }
    clashing.validate = .error (.invalid [.duplicateEnvironment "candidate_1", .unnamedCase,
      .unnamedCase, .duplicateCase "boot", .duplicateCase "boot", .zeroTimeout]) ∧
    (fine.environments ≠ [] ∧
      (∀ name ∈ fine.cases.map CaseRequirement.name, Text.isBlank name = false)) ∧
    fine.validate = .ok () := by
  intro clashing fine
  have named : ∀ name ∈ fine.cases.map CaseRequirement.name, Text.isBlank name = false := by
    decide +kernel
  refine ⟨(validate_exact clashing).2.trans (by rfl), ⟨nofun, named⟩, ?_⟩
  exact (validate_exact fine).1.2
    ⟨nofun, by decide +kernel, named, by decide +kernel, by decide +kernel⟩

end Testbed.Runbook
