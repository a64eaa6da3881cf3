import Testbed.Proofs.Message.Frame
import Testbed.Proofs.Message.Precedence

/-!
# Results that are reported from inside a case

A sub-result is put together from the facts of the environment, what the result and the arguments
say, and the overrides, in this order, and is attached to the result last: its parent is the result
whatever stands below. It is notified once, and not at all if it could not be built.
-/
namespace Testbed

open Wire Record FieldRecord

theorem Binary64.encode_inj {x y : Binary64} (finite : x.isFinite = true)
    (finite' : y.isFinite = true) (same : encode x = encode y) : x = y := by
  have read := congrArg (decode : Json → Option Binary64) same
  rw [Binary64.decode_encode finite, Binary64.decode_encode finite'] at read
  exact Option.some.inj read

namespace SubTestMessage

variable {wall : Timestamp} {now : Nat} {result : TestResult} {caseName text : String}
  {status : TestStatus} {overrides : Dict String Json}

/-- What a sub-result of a result says: in each field but the parent what an override says, or else
what the result and the arguments do. -/
structure Attached (m : SubTestMessage) (now : Nat) (result : TestResult) (caseName : String)
    (status : TestStatus) (text : String) (overrides : Dict String Json) : Prop where
  parent : m.parentTest = result.name
  overridden : ∀ f ∈ fields, f.name ≠ "parent_test" → ∀ j, overrides.get? f.name = some j →
    held m f.name = f.type.reads j
  id : overrides.get? "id_" = none → m.id = result.id
  name : overrides.get? "name" = none → m.name = caseName
  status : overrides.get? "status" = none → m.status = status
  message : overrides.get? "message" = none → m.message = text
  elapsed : overrides.get? "elapsed" = none → m.elapsed = result.elapsedSeconds now
  stacktrace : overrides.get? "stacktrace" = none → m.stacktrace = none
  information : overrides.get? "information" = none → m.information = ∅

theorem held_attached {m : SubTestMessage} {parent name : String} (other : name ≠ "parent_test") :
    held { m with parentTest := parent } name = held m name := by
  simp [held, FieldRecord.members, members, find?_cons, other.symm]

/-- Facts leave a new sub-result sound, and do not get to where it holds no string. -/
theorem of_facts {id name : String} {facts : Facts} {first : SubTestMessage} (valid : wall.Valid)
    (set : applyFields (new wall id name status) (stringFields facts) .stringsOnly = .ok first) :
    (Message.subTestResult first).Sound ∧ first.stacktrace = none ∧ first.information = ∅ := by
  have readable (name : String) (j : Json) (fact : (stringFields facts).get? name = some j) :
      j.readable = true := (proper_stringFields name j fact).readable
  have sets := sets_of_applyFields (stable_new valid) readable
    (fun _ tag => absurd tag List.not_mem_nil) set
  have sound : (Message.subTestResult (new wall id name status)).Sound :=
    ⟨List.forall_mem_singleton.2 valid,
      List.forall_mem_singleton.2 (show Binary64.zero.isFinite = true by decide)⟩
  refine ⟨?sound, ?stacktrace, ?information⟩
  case sound =>
    exact MessageType.sound_of_applyFields (t := .subTestResult) sound proper_stringFields set
  case stacktrace =>
    have kept : held first "stacktrace" = held (new wall id name status) "stacktrace" :=
      sets.held_eq (given_eq_none_of_ne nofun)
    exact encode_injective (Option.some.inj kept)
  case information =>
    have kept : held first "information" = held (new wall id name status) "information" :=
      sets.held_eq (given_eq_none_of_ne nofun)
    exact encode_injective (Option.some.inj kept)

section Overridden

variable {first set : SubTestMessage} (sound : (Message.subTestResult first).Sound)
  (inRange : result.elapsed now < 2 ^ 64 * 1000000000)
  (proper : ∀ name j, overrides.get? name = some j → j.Proper)

include sound inRange

theorem sound_identify :
    (Message.subTestResult (first.identify now result caseName status text)).Sound :=
  ⟨sound.times, List.forall_mem_singleton.2 (TestResult.isFinite_elapsedSeconds inRange)⟩

include proper

/-- Overrides are taken exactly if the fields of their names take them, and then they are held. -/
theorem overrides_frame :
    let identified := first.identify now result caseName status text
    ((∃ m, applyFields identified overrides .any = .ok m) ↔
      ∀ f ∈ fields, ∀ j, overrides.get? f.name = some j → (f.type.reads j).isSome = true) ∧
    ∀ m, applyFields identified overrides .any = .ok m →
      (Message.subTestResult m).Sound ∧
      (∀ f ∈ fields, ∀ j, overrides.get? f.name = some j → held m f.name = f.type.reads j) ∧
      ∀ name, overrides.get? name = none → held m name = held identified name := by
  intro identified
  have identifiedSound : (MessageType.subTestResult.message identified).Sound :=
    sound_identify sound inRange
  have stable : decode (encode identified) = some identified :=
    MessageType.stable (t := .subTestResult) identifiedSound
  have readable (name : String) (j : Json) (entry : overrides.get? name = some j) :
      j.readable = true := (proper name j entry).readable
  have untagged : ∀ tag ∈ tags SubTestMessage, given identified overrides .any tag = none :=
    fun _ tag => absurd tag List.not_mem_nil
  have gives : ∀ f ∈ fields, given identified overrides .any f.name = overrides.get? f.name := by
    have untyped : ∀ f ∈ fields, f.name ≠ "type" := by decide
    exact fun f listed => given_any (held_isSome listed) (untyped f listed)
  obtain ⟨takes, holds⟩ := FieldRecord.applyFields_layer stable readable untagged gives
  refine ⟨takes, fun m set => ⟨?sound, ?overridden, ?kept⟩⟩
  case sound =>
    exact MessageType.sound_of_applyFields (t := .subTestResult) identifiedSound proper set
  case overridden =>
    intro f listed j entry
    rw [holds m set f listed, entry, Option.elim_some]
  case kept =>
    intro name unset
    have sets := sets_of_applyFields stable readable untagged set
    exact sets.held_eq (given_eq_none_iff.2 (fun j applied => by
      cases unset.symm.trans applied.entry))

/-- What was built is attached to the result. -/
theorem attached_of_overrides
    (done : applyFields (first.identify now result caseName status text) overrides .any = .ok set)
    (noStacktrace : first.stacktrace = none) (noInformation : first.information = ∅) :
    Attached { set with parentTest := result.name } now result caseName status text overrides := by
  obtain ⟨sound, overridden, kept⟩ := (overrides_frame sound inRange proper).2 set done
  constructor
  case parent => rfl
  case overridden =>
    intro f listed other j entry
    rw [held_attached other, overridden f listed j entry]
  case id => exact fun unset => encode_injective (Option.some.inj (kept "id_" unset))
  case name => exact fun unset => encode_injective (Option.some.inj (kept "name" unset))
  case status => exact fun unset => encode_injective (Option.some.inj (kept "status" unset))
  case message => exact fun unset => encode_injective (Option.some.inj (kept "message" unset))
  case elapsed =>
    intro unset
    exact Binary64.encode_inj (sound.finite set.elapsed (List.mem_singleton_self _))
      (TestResult.isFinite_elapsedSeconds inRange) (Option.some.inj (kept "elapsed" unset))
  case stacktrace =>
    intro unset
    exact (encode_injective (Option.some.inj (kept "stacktrace" unset))).trans noStacktrace
  case information =>
    intro unset
    exact (encode_injective (Option.some.inj (kept "information" unset))).trans noInformation

end Overridden

end SubTestMessage

section Created

variable {wall : Timestamp} {now : Nat} {result : TestResult} {caseName text : String}
  {status : TestStatus} {overrides : Dict String Json}

theorem createSubTestMessage_unnamed (unnamed : result.name = "") :
    createSubTestMessage wall now result caseName status text overrides =
      .error (.missingField "parent_test") := by
  rw [createSubTestMessage, unnamed]
  rfl

/-- Under a result with a name only a field that does not take its value keeps a sub-result from
being built. -/
theorem createSubTestMessage_error {error : MessageError} (named : result.name.isEmpty = false)
    (failed : createSubTestMessage wall now result caseName status text overrides =
      .error error) : ∃ name value, error = .invalidField name value := by
  rw [createSubTestMessage_eq named] at failed
  obtain failed | ⟨first, -, failed⟩ := bind_error.1 failed
  · exact applyFields_error failed
  · obtain failed | ⟨m, -, failed⟩ := bind_error.1 failed
    · exact applyFields_error failed
    · cases failed

variable (valid : wall.Valid) (inRange : result.elapsed now < 2 ^ 64 * 1000000000)
  (proper : ∀ name j, overrides.get? name = some j → j.Proper)

include valid inRange proper

theorem exists_createSubTestMessage_iff (named : result.name.isEmpty = false) :
    (∃ m, createSubTestMessage wall now result caseName status text overrides = .ok m) ↔
      Spells Timestamp (result.environment.getD ∅) "time" ∧
      Spells TestStatus (result.environment.getD ∅) "status" ∧
      ∀ f ∈ SubTestMessage.fields, ∀ j, overrides.get? f.name = some j →
        (f.type.reads j).isSome = true := by
  have takesFacts : (∃ first, applyFields (SubTestMessage.new wall result.id caseName status)
        (stringFields (result.environment.getD ∅)) .stringsOnly = .ok first) ↔
      Spells Timestamp (result.environment.getD ∅) "time" ∧
      Spells TestStatus (result.environment.getD ∅) "status" :=
    SubTestMessage.exists_new_facts_iff valid
  rw [← and_assoc, ← takesFacts, createSubTestMessage_eq named]
  constructor
  · rintro ⟨m, created⟩
    obtain ⟨first, facts, created⟩ := bind_ok.1 created
    obtain ⟨set, overridden, -⟩ := bind_ok.1 created
    obtain ⟨sound, -⟩ := SubTestMessage.of_facts valid facts
    exact ⟨⟨first, facts⟩,
      (SubTestMessage.overrides_frame sound inRange proper).1.1 ⟨set, overridden⟩⟩
  · rintro ⟨⟨first, facts⟩, takes⟩
    obtain ⟨sound, -⟩ := SubTestMessage.of_facts valid facts
    obtain ⟨set, overridden⟩ := (SubTestMessage.overrides_frame sound inRange proper).1.2 takes
    exact ⟨_, bind_ok.2 ⟨first, facts, bind_ok.2 ⟨set, overridden, rfl⟩⟩⟩

theorem SubTestMessage.attached_of_created {m : SubTestMessage}
    (named : result.name.isEmpty = false)
    (created : createSubTestMessage wall now result caseName status text overrides = .ok m) :
    m.Attached now result caseName status text overrides := by
  rw [createSubTestMessage_eq named] at created
  obtain ⟨first, facts, created⟩ := bind_ok.1 created
  obtain ⟨set, overridden, created⟩ := bind_ok.1 created
  obtain ⟨sound, noStacktrace, noInformation⟩ := SubTestMessage.of_facts valid facts
  obtain rfl := Except.ok.inj created
  exact attached_of_overrides sound inRange proper overridden noStacktrace noInformation

end Created

/-- Where a sub-result gets its fields from. It cannot be built if the result has no name, and
otherwise exactly if a fact does not spell the moment or the status that it is given to, or an
override is not taken by its field. What is built is attached to the result and notified once, and
on any error nothing is. -/
theorem sendSubTestMessage_attached {wall : Timestamp} {now : Nat} {result : TestResult}
    {caseName : String} {status : TestStatus} {text : String} {overrides : Dict String Json}
    (valid : wall.Valid) (inRange : result.elapsed now < 2 ^ 64 * 1000000000)
    (proper : ∀ name j, overrides.get? name = some j → j.Proper) :
    let sent := sendSubTestMessage wall now result caseName status text overrides
    let facts := result.environment.getD ∅
    ((∃ field, sent.1 = .error (.missingField field)) ↔ result.name = "") ∧
    (result.name = "" → sent = (.error (.missingField "parent_test"), [])) ∧
    ((∃ m, sent.1 = .ok m) ↔ result.name ≠ "" ∧
      Spells Timestamp facts "time" ∧ Spells TestStatus facts "status" ∧
      ∀ f ∈ SubTestMessage.fields, ∀ j, overrides.get? f.name = some j →
        (f.type.reads j).isSome = true) ∧
    (∀ m, sent.1 = .ok m → sent.2 = [.subTestResult m] ∧
      m.Attached now result caseName status text overrides) ∧
    ∀ error, sent.1 = .error error → sent.2 = [] := by
  intro sent facts
  have answered : sent.1 = createSubTestMessage wall now result caseName status text overrides :=
    fst_sendSubTestMessage
  have named (present : result.name ≠ "") : result.name.isEmpty = false := by
    simpa using present
  have unnamed (absent : result.name = "") : sent = (.error (.missingField "parent_test"), []) := by
    simp only [sent, sendSubTestMessage, createSubTestMessage_unnamed absent]
  have nameOf {m : SubTestMessage} (made : sent.1 = .ok m) : result.name ≠ "" := by
    intro absent
    rw [unnamed absent] at made
    cases made
  refine ⟨⟨?missing, ?absent⟩, unnamed, ?built, ?attached, ?nothing⟩
  case missing =>
    rintro ⟨field, failed⟩
    by_contra present
    rw [answered] at failed
    obtain ⟨name, value, invalid⟩ := createSubTestMessage_error (named present) failed
    cases invalid
  case absent =>
    intro absent
    rw [unnamed absent]
    exact ⟨_, rfl⟩
  case built =>
    constructor
    · rintro ⟨m, made⟩
      exact ⟨nameOf made, (exists_createSubTestMessage_iff valid inRange proper
        (named (nameOf made))).1 ⟨m, answered ▸ made⟩⟩
    · rintro ⟨present, takes⟩
      rw [answered]
      exact (exists_createSubTestMessage_iff valid inRange proper (named present)).2 takes
  case attached =>
    intro m made
    have created := answered ▸ made
    constructor
    · simp only [sent, sendSubTestMessage, created]
    · exact SubTestMessage.attached_of_created valid inRange proper (named (nameOf made)) created
  case nothing =>
    intro error failed
    have created := answered ▸ failed
    simp only [sent, sendSubTestMessage, created]

/-- Neither facts nor overrides detach a sub-result, and an override covers what the arguments
say. -/
theorem sendSubTestMessage_attached_overridden :
    let environment : Facts := Dict.ofList [
      ("hardware_platform", "arm64"), ("id_", "fact"), ("stacktrace", "fact")]
    let result : TestResult := { id := "r0", name := "case", environment := some environment }
    let overrides : Dict String Json := Dict.ofList [
      ("message", .string "overridden"), ("parent_test", .string "other")]
    ∃ m, sendSubTestMessage .epoch 0 result "step" .passed "done" overrides =
        (.ok m, [.subTestResult m]) ∧
      m.parentTest = "case" ∧ m.message = "overridden" ∧ m.id = "r0" ∧ m.name = "step" ∧
      m.status = .passed ∧ m.stacktrace = none := by
  intro environment result overrides
  have epoch : Timestamp.epoch.Valid := by constructor <;> decide
  have inRange : result.elapsed 0 < 2 ^ 64 * 1000000000 := by decide
  have proper (name : String) (j : Json) (entry : overrides.get? name = some j) : j.Proper := by
    have listed := (overrides.mem_entries name j).2 entry
    rw [show overrides.entries = [("message", .string "overridden"),
      ("parent_test", .string "other")] from rfl] at listed
    simp only [List.mem_cons, Prod.mk.injEq, List.not_mem_nil, or_false] at listed
    rcases listed with ⟨-, rfl⟩ | ⟨-, rfl⟩ <;> exact .string _
  have noFact (name : String) (text : String) (fact : environment.get? name = some text) :
      name ≠ "time" ∧ name ≠ "status" := by
    constructor <;> rintro rfl <;> cases fact
  have taken : ∀ f ∈ SubTestMessage.fields, (overrides.get? f.name).all
      (fun j => (f.type.reads j).isSome) = true := by decide +kernel
  obtain ⟨-, -, built, attached, -⟩ := @sendSubTestMessage_attached .epoch 0 result "step" .passed
    "done" overrides epoch inRange proper
  obtain ⟨m, made⟩ := built.2 ⟨by decide, fun text fact => absurd rfl (noFact _ text fact).1,
    fun text fact => absurd rfl (noFact _ text fact).2, fun f listed j entry => by
      have read := taken f listed
      rwa [entry] at read⟩
  obtain ⟨notified, attached⟩ := attached m made
  have message : some (Json.string m.message) = some (.string "overridden") :=
    attached.overridden (.required String "message") (by simp [SubTestMessage.fields]) (by decide)
      _ rfl
  exact ⟨m, Prod.ext made notified, attached.parent, Json.string.inj (Option.some.inj message),
    attached.id rfl, attached.name rfl, attached.status rfl, attached.stacktrace rfl⟩

end Testbed
