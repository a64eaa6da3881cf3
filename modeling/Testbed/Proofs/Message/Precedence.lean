import Testbed.Proofs.Message.Reports

/-!
# Which source a field of a measurement comes from

Four layers are put over a new measurement: the facts of the environment, those of the node, what
the arguments, the node and the result say themselves, and last the overrides. What is to be seen of
a field is said here of the layers alone (`Layers.seen`); building a measurement, which goes twice
through its wire form, comes to the same in every field, and fails exactly where a layer puts
something into a field that the field does not take.
-/
namespace Testbed

open Wire Record FieldRecord

/-- What is put over a new measurement, the lowest layer first. -/
structure Layers where
  start : PerfMessage
  environment : Facts
  information : Facts
  identity : List (String × Json)
  overrides : Dict String Json

namespace Layers

/-- The fact for a field, that of the node if there is one. Facts go where a string is held. -/
def fact (l : Layers) (name : String) : Option Json :=
  if (held l.start name).any FieldPolicy.isString then
    ((l.information.get? name).or (l.environment.get? name)).map .string
  else none

/-- Something is put into a field that the field does not take. -/
def Refused (l : Layers) (f : Field) : Prop :=
  (∃ j, l.fact f.name = some j ∧ f.type.reads j = none) ∨
    ∃ j, l.overrides.get? f.name = some j ∧ f.type.reads j = none

instance (l : Layers) : DecidablePred l.Refused := fun f =>
  decidable_of_iff ((l.fact f.name).any (fun j => (f.type.reads j).isNone) = true ∨
      (l.overrides.get? f.name).any (fun j => (f.type.reads j).isNone) = true)
    (by simp [Refused, Option.any_eq_true])

/-- What is to be seen of a field: what the highest layer has that has anything. -/
def seen (l : Layers) (f : Field) : Option Json :=
  match l.overrides.get? f.name, find? f.name l.identity, l.fact f.name with
  | some j, _, _ => f.type.reads j
  | none, some j, _ => some j
  | none, none, some j => f.type.reads j
  | none, none, none => held l.start f.name

variable {l : Layers} {f : Field}

theorem not_refused_iff : ¬ l.Refused f ↔
    (∀ j, l.fact f.name = some j → (f.type.reads j).isSome = true) ∧
      ∀ j, l.overrides.get? f.name = some j → (f.type.reads j).isSome = true := by
  simp [Refused, Option.isSome_iff_ne_none]

theorem seen_eq : l.seen f = (l.overrides.get? f.name).elim
    ((find? f.name l.identity).or ((l.fact f.name).elim (held l.start f.name) f.type.reads))
    f.type.reads := by
  rw [seen]
  cases l.overrides.get? f.name <;> cases find? f.name l.identity <;> cases l.fact f.name <;> rfl

/-- The facts of a layer are those that are put into a new measurement. -/
theorem given_facts {name : String} (untyped : name ≠ "type") :
    given l.start (stringFields (l.environment.extend l.information)) .stringsOnly name =
      l.fact name := by
  rw [given, fact]
  cases held l.start name with
  | none => rfl
  | some j =>
    simp [FieldPolicy.replacement?, FieldPolicy.admits, untyped, get?_stringFields,
      Dict.get?_extend]

end Layers

/-- Any field that a message has is given the value of its name. -/
theorem given_any {α : Type} [Wire α] [FieldRecord α] {a : α} {values : Dict String Json}
    {name : String} (holds : (held a name).isSome = true) (untyped : name ≠ "type") :
    given a values .any name = values.get? name := by
  obtain ⟨j, holds⟩ := Option.isSome_iff_exists.1 holds
  rw [given, holds]
  simp [FieldPolicy.replacement?, FieldPolicy.admits, untyped]

/-- The time of a result is finite: it is less than a clock can tell. -/
theorem TestResult.isFinite_elapsedSeconds {result : TestResult} {now : Nat}
    (inRange : result.elapsed now < 2 ^ 64 * 1000000000) :
    (result.elapsedSeconds now).isFinite = true := by
  have seconds : (Binary64.ofNat (result.elapsed now / 1000000000)).Below 68 := by
    refine Binary64.below_ofRatio Nat.one_ne_zero (Binary64.log2_le_of_lt ?_) (by decide)
      (by decide)
    omega
  have nanoseconds : (Binary64.ofNat (result.elapsed now % 1000000000)).Below 64 := by
    refine Binary64.below_ofRatio Nat.one_ne_zero (Binary64.log2_le_of_lt ?_) (by decide)
      (by decide)
    omega
  have part := Binary64.below_div (y := .ofNat 1000000000) nanoseconds (by decide +kernel)
    (by decide) (by decide)
  exact Binary64.isFinite_add seconds part (by decide)

section Created

variable {wall : Timestamp} {now : Nat} {detail : PerfDetail} {node : Node} {result : TestResult}
  {environment : Facts} {caseName : String} {overrides : Dict String Json}

/-- The fields that the arguments, the node and the result say themselves. -/
def identityFields (now : Nat) (node : Node) (result : TestResult) (caseName : String) :
    List (String × Json) := [
  ("elapsed", encode (result.elapsedSeconds now)), ("test_case_name", encode caseName),
  ("data_path", encode ((node.capability.dataPath.map NetworkDataPath.name).getD "")),
  ("test_result_id", encode result.id)]

/-- The layers of a measurement of a node under a result. -/
def Layers.ofSources (wall : Timestamp) (now : Nat) (detail : PerfDetail) (node : Node)
    (result : TestResult) (environment : Facts) (caseName : String)
    (overrides : Dict String Json) : Layers where
  start := .new wall detail
  environment
  information := node.information
  identity := identityFields now node result caseName
  overrides

theorem held_identify {m : PerfMessage} {name : String} :
    held (m.identify now node result caseName) name =
      (find? name (identityFields now node result caseName)).or (held m name) := by
  by_cases own : name = "elapsed" ∨ name = "test_case_name" ∨ name = "data_path" ∨
      name = "test_result_id"
  · rcases own with rfl | rfl | rfl | rfl <;> rfl
  simp only [not_or] at own
  obtain ⟨elapsed, testCaseName, dataPath, testResultId⟩ := own
  -- a name of its own stands in no other layer, and the header is searched past the four
  have others : find? name (identityFields now node result caseName) = none := by
    simp only [identityFields, find?_cons, if_neg (Ne.symm elapsed), if_neg (Ne.symm testCaseName),
      if_neg (Ne.symm dataPath), if_neg (Ne.symm testResultId)]
    rfl
  rw [others, Option.none_or]
  simp only [held, FieldRecord.members, PerfMessage.members, PerfMessage.header,
    PerfMessage.identify, List.cons_append, find?_cons, if_neg (Ne.symm elapsed),
    if_neg (Ne.symm testCaseName), if_neg (Ne.symm dataPath), if_neg (Ne.symm testResultId)]

theorem PerfMessage.Sound.identify {m : PerfMessage} (sound : m.Sound)
    (inRange : result.elapsed now < 2 ^ 64 * 1000000000) :
    (m.identify now node result caseName).Sound where
  time := sound.time
  testDate := sound.testDate
  finite := allFinite_cons.2 ⟨TestResult.isFinite_elapsedSeconds inRange,
    (allFinite_cons.1 sound.finite).2⟩

end Created

/-- A layer that is put over a sound measurement and leaves the kind as it is: the measurement takes
it exactly if each field takes what it is given, and holds then what was read from that. -/
theorem PerfMessage.applyFields_layer {a : PerfMessage} {values : Dict String Json}
    {policy : FieldPolicy} {layer : String → Option Json} (sound : a.Sound)
    (proper : ∀ name j, values.get? name = some j → j.Proper)
    (gives : ∀ f ∈ fields a.detail, given a values policy f.name = layer f.name)
    (noKind : layer "perf_kind" = none) :
    ((∃ b, applyFields a values policy = .ok b) ↔ ∀ f ∈ fields a.detail, ∀ j,
        layer f.name = some j → (f.type.reads j).isSome = true) ∧
    ∀ b, applyFields a values policy = .ok b → b.Sound ∧ fields b.detail = fields a.detail ∧
      ∀ f ∈ fields a.detail,
        held b f.name = (layer f.name).elim (held a f.name) f.type.reads := by
  have tag : Field.required String "perf_kind" ∈ fields a.detail :=
    List.mem_append_right _ List.mem_cons_self
  have readable (name : String) (j : Json) (set : values.get? name = some j) :
      j.readable = true := (proper name j set).readable
  have untagged : ∀ name ∈ tags PerfMessage, given a values policy name = none := by
    intro name listed
    obtain rfl := List.mem_singleton.1 listed
    exact (gives _ tag).trans noKind
  obtain ⟨takes, holds⟩ := FieldRecord.applyFields_layer sound.stable readable untagged gives
  refine ⟨takes, fun b set => ?_⟩
  have kind : some (Json.string b.detail.kind) = some (.string a.detail.kind) := by
    have kept := holds b set _ tag
    rw [show (Field.required String "perf_kind").name = "perf_kind" from rfl, noKind] at kept
    exact kept
  refine ⟨sound.applyFields proper set, ?_, holds b set⟩
  have same : b.detail.kind = a.detail.kind := by simpa using kind
  rw [fields, fields, PerfDetail.sharedFields, PerfDetail.sharedFields,
    PerfDetail.fields_of_kind same]

section Created

variable {wall : Timestamp} {now : Nat} {detail : PerfDetail} {node : Node} {result : TestResult}
  {environment : Facts} {caseName : String} {overrides : Dict String Json}

/-- With an environment, only a field that does not take its value keeps a measurement from being
built. -/
theorem createPerfMessage_error {error : MessageError}
    (assigned : result.environment = some environment)
    (failed : createPerfMessage wall now detail node result caseName overrides = .error error) :
    ∃ name value, error = .invalidField name value := by
  rw [createPerfMessage_eq assigned] at failed
  rcases bind_error.1 failed with failed | ⟨first, -, failed⟩
  · exact applyFields_error failed
  · exact applyFields_error failed

variable (inRange : result.elapsed now < 2 ^ 64 * 1000000000)
  (proper : ∀ name j, overrides.get? name = some j → j.Proper)
  (noOverride : overrides.get? "perf_kind" = none)

include inRange proper noOverride

/-- The two highest layers over a measurement that has taken the facts. -/
theorem applyFields_identify {first : PerfMessage} (sound : first.Sound)
    (same : PerfMessage.fields first.detail = PerfMessage.fields detail) :
    ((∃ m, applyFields (first.identify now node result caseName) overrides .any = .ok m) ↔
      ∀ f ∈ PerfMessage.fields detail, ∀ j, overrides.get? f.name = some j →
        (f.type.reads j).isSome = true) ∧
    ∀ m, applyFields (first.identify now node result caseName) overrides .any = .ok m →
      m.members.map (·.1) = (PerfMessage.fields detail).map (·.name) ∧
      ∀ f ∈ PerfMessage.fields detail, held m f.name = (overrides.get? f.name).elim
        ((find? f.name (identityFields now node result caseName)).or (held first f.name))
        f.type.reads := by
  have identified : (first.identify now node result caseName).Sound := sound.identify inRange
  obtain ⟨takes, sets⟩ := PerfMessage.applyFields_layer identified proper
    (fun f listed => given_any (held_isSome listed) (PerfMessage.name_ne_type listed)) noOverride
  rw [← same]
  refine ⟨takes, fun m set => ?_⟩
  obtain ⟨-, kept, holds⟩ := sets m set
  constructor
  · rw [m.names_members, kept]
    rfl
  · intro f listed
    rw [holds f listed, held_identify]

variable (valid : wall.Valid) (finite : AllFinite detail.floats)
  (noNodeKind : node.information.get? "perf_kind" = none)

include valid finite noNodeKind

/-- With an environment, a measurement is built exactly if no layer puts something into a field that
the field does not take, and each of its fields holds then what is to be seen of the layers. -/
theorem createPerfMessage_seen (assigned : result.environment = some environment)
    (noKind : environment.get? "perf_kind" = none) :
    let l := Layers.ofSources wall now detail node result environment caseName overrides
    ((∃ m, createPerfMessage wall now detail node result caseName overrides = .ok m) ↔
      ∀ f ∈ PerfMessage.fields detail, ¬ l.Refused f) ∧
    ∀ m, createPerfMessage wall now detail node result caseName overrides = .ok m →
      m.members.map (·.1) = (PerfMessage.fields detail).map (·.name) ∧
      ∀ f ∈ PerfMessage.fields detail, held m f.name = l.seen f := by
  intro l
  have noFact : l.fact "perf_kind" = none := by
    change (if _ then Option.map _ ((node.information.get? "perf_kind").or
      (environment.get? "perf_kind")) else none) = none
    rw [noNodeKind, noKind]
    split <;> rfl
  have sound : l.start.Sound := .new valid finite
  obtain ⟨takesFacts, afterFacts⟩ := PerfMessage.applyFields_layer sound proper_stringFields
    (fun f listed => l.given_facts (PerfMessage.name_ne_type listed)) noFact
  have built : (∃ m, createPerfMessage wall now detail node result caseName overrides = .ok m) ↔
      ∃ first, applyFields l.start (stringFields (l.environment.extend l.information))
          .stringsOnly = .ok first ∧
        ∃ m, applyFields (first.identify now node result caseName) overrides .any = .ok m := by
    simp only [createPerfMessage_eq assigned, bind_ok, ← exists_and_left]
    exact exists_comm
  constructor
  · rw [built]
    constructor
    · rintro ⟨first, set, more⟩ f listed
      obtain ⟨sound, same, -⟩ := afterFacts first set
      rw [Layers.not_refused_iff]
      exact ⟨takesFacts.1 ⟨first, set⟩ f listed,
        (applyFields_identify inRange proper noOverride sound same).1.1 more f listed⟩
    · intro free
      simp only [Layers.not_refused_iff] at free
      obtain ⟨first, set⟩ := takesFacts.2 (fun f listed => (free f listed).1)
      obtain ⟨sound, same, -⟩ := afterFacts first set
      exact ⟨first, set, (applyFields_identify inRange proper noOverride sound same).1.2
        (fun f listed => (free f listed).2)⟩
  · intro m created
    rw [createPerfMessage_eq assigned] at created
    obtain ⟨first, set, more⟩ := bind_ok.1 created
    obtain ⟨sound, same, holds⟩ := afterFacts first set
    obtain ⟨names, seen⟩ := (applyFields_identify inRange proper noOverride sound same).2 m more
    refine ⟨names, fun f listed => ?_⟩
    rw [seen f listed, holds f listed, Layers.seen_eq]
    rfl

end Created

/-- Where a measurement gets its fields from. It cannot be built without an environment, and with
one it cannot exactly if a fact or an override is put into a field that does not take it. Otherwise
it has the fields of the kind that was measured, and each of them holds what is to be seen of the
layers. What is built is notified once. -/
theorem createPerfMessage_layers {wall : Timestamp} {now : Nat} {detail : PerfDetail} {node : Node}
    {result : TestResult} {caseName : String} {overrides : Dict String Json} (valid : wall.Valid)
    (finite : AllFinite detail.floats) (inRange : result.elapsed now < 2 ^ 64 * 1000000000)
    (proper : ∀ name j, overrides.get? name = some j → j.Proper)
    (noKind : ∀ environment, result.environment = some environment →
      environment.get? "perf_kind" = none)
    (noNodeKind : node.information.get? "perf_kind" = none)
    (noOverride : overrides.get? "perf_kind" = none) :
    let created := createPerfMessage wall now detail node result caseName overrides
    let sent := sendPerfMessage wall now detail node result caseName overrides
    (created = .error (.missingEnvironment result.id) ↔ result.environment = none) ∧
    (∀ environment, result.environment = some environment →
      let l := Layers.ofSources wall now detail node result environment caseName overrides
      ((∃ name value, created = .error (.invalidField name value)) ↔
        ∃ f ∈ PerfMessage.fields detail, l.Refused f) ∧
      ((∃ m, created = .ok m) ↔ ∀ f ∈ PerfMessage.fields detail, ¬ l.Refused f) ∧
      ∀ m, created = .ok m →
        m.members.map (·.1) = (PerfMessage.fields detail).map (·.name) ∧
        ∀ f ∈ PerfMessage.fields detail, held m f.name = l.seen f) ∧
    (∀ m, created = .ok m → sent = (.ok m, [.performance m])) ∧
    ∀ error, created = .error error → sent = (.error error, []) := by
  intro created sent
  refine ⟨?missing, ?present, ?notified, ?nothing⟩
  case missing =>
    cases assigned : result.environment with
    | none => simp [created, createPerfMessage, assigned]
    | some environment =>
      refine ⟨fun failed => ?_, fun absent => absurd absent (Option.some_ne_none environment)⟩
      obtain ⟨name, value, invalid⟩ := createPerfMessage_error assigned failed
      cases invalid
  case present =>
    intro environment assigned l
    obtain ⟨built, seen⟩ := createPerfMessage_seen inRange proper noOverride valid finite noNodeKind
      assigned (noKind environment assigned)
    refine ⟨⟨?_, ?_⟩, built, seen⟩
    · rintro ⟨name, value, failed⟩
      by_contra none
      obtain ⟨m, made⟩ := built.2 (fun f listed refused => none ⟨f, listed, refused⟩)
      cases failed.symm.trans made
    · rintro ⟨f, listed, refused⟩
      cases made : created with
      | ok m => exact absurd refused (built.1 ⟨m, made⟩ f listed)
      | error error =>
        obtain ⟨name, value, rfl⟩ := createPerfMessage_error assigned made
        exact ⟨name, value, rfl⟩
  case notified =>
    intro m made
    simp only [sent, sendPerfMessage, show createPerfMessage wall now detail node result caseName
      overrides = .ok m from made]
  case nothing =>
    intro error failed
    simp only [sent, sendPerfMessage, show createPerfMessage wall now detail node result caseName
      overrides = .error error from failed]

/-- Facts of the node cover those of the environment, what the result says covers both, and an
override covers everything. -/
theorem createPerfMessage_layers_four :
    let environment : Facts := Dict.ofList [
      ("kernel_version", "5.15"), ("test_case_name", "fact"), ("vmsize", "large")]
    let node : Node := { Node.new 0 {} with information := Dict.ofList [("vmsize", "small")] }
    let result : TestResult := { id := "r0", name := "case", environment := some environment }
    let overrides : Dict String Json := Dict.empty.insert "test_result_id" (.string "r1")
    ∃ m, createPerfMessage .epoch 0 (.cpu {}) node result "perf_case" overrides = .ok m ∧
      m.kernelVersion = "5.15" ∧ m.vmsize = "small" ∧ m.testCaseName = "perf_case" ∧
      m.testResultId = "r1" := by
  intro environment node result overrides
  have epoch : Timestamp.epoch.Valid := by constructor <;> decide
  have finite : AllFinite (PerfDetail.cpu {}).floats := by unfold AllFinite; decide
  have inRange : result.elapsed 0 < 2 ^ 64 * 1000000000 := by decide
  have proper (name : String) (j : Json) (given : overrides.get? name = some j) : j.Proper := by
    rw [Dict.get?_insert] at given
    split at given
    · obtain rfl := Option.some.inj given
      exact .string "r1"
    · cases given
  have noKind (other : Facts) (same : result.environment = some other) :
      other.get? "perf_kind" = none := by
    obtain rfl := Option.some.inj same
    decide
  have noNodeKind : node.information.get? "perf_kind" = none := by decide
  have noOverride : overrides.get? "perf_kind" = none := rfl
  obtain ⟨-, present, -⟩ := @createPerfMessage_layers .epoch 0 (.cpu {}) node result "perf_case"
    overrides epoch finite inRange proper noKind noNodeKind noOverride
  obtain ⟨-, built, seen⟩ := present environment rfl
  obtain ⟨m, made⟩ := built.2 (by decide +kernel)
  have field (name : String) (listed : .required String name ∈ PerfMessage.headerFields) :=
    (seen m made).2 (.required String name) (List.mem_append_left _ listed)
  have kernelVersion : some (Json.string m.kernelVersion) = some (.string "5.15") :=
    field "kernel_version" (by simp [PerfMessage.headerFields])
  have vmsize : some (Json.string m.vmsize) = some (.string "small") :=
    field "vmsize" (by simp [PerfMessage.headerFields])
  have testCaseName : some (Json.string m.testCaseName) = some (.string "perf_case") :=
    field "test_case_name" (by simp [PerfMessage.headerFields])
  have testResultId : some (Json.string m.testResultId) = some (.string "r1") :=
    field "test_result_id" (by simp [PerfMessage.headerFields])
  simp only [Option.some.injEq, Json.string.injEq] at kernelVersion vmsize testCaseName testResultId
  exact ⟨m, made, kernelVersion, vmsize, testCaseName, testResultId⟩

end Testbed
