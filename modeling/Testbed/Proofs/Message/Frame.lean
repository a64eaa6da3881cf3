import Testbed.Proofs.Message.Facts
import Testbed.Proofs.Message.Kinds

/-!
# What setting fields leaves alone

Setting fields of a message of any type is an update of its wire form, name by name: a name that is
set holds what its field reads from the value, every other name what it held, and the message stays
what it is. It fails only where a value that is set cannot be read.
-/
namespace Testbed

open Wire Record FieldRecord

section Applied

variable {α : Type} [Wire α] [FieldRecord α] {a b : α} {values : Dict String Json}
  {policy : FieldPolicy} {name : String} {j : Json}

/-- An entry that is applied: it names a field that there is, which is not the type and, where only
strings may be set, holds one. -/
structure Applied (a : α) (values : Dict String Json) (policy : FieldPolicy) (name : String)
    (j : Json) : Prop where
  entry : values.get? name = some j
  exists_field : (held a name).isSome = true
  untyped : name ≠ "type"
  admitted : policy = .stringsOnly → ∃ text, held a name = some (.string text)

theorem applied_iff_given :
    Applied a values policy name j ↔ given a values policy name = some j := by
  constructor
  · rintro ⟨entry, field, untyped, admitted⟩
    obtain ⟨k, holds⟩ := Option.isSome_iff_exists.1 field
    rw [given, holds, Option.bind_some, FieldPolicy.replacement?, if_pos, entry]
    cases policy with
    | any => simp [FieldPolicy.admits, untyped]
    | stringsOnly =>
      obtain ⟨text, string⟩ := admitted rfl
      obtain rfl := Option.some.inj (holds.symm.trans string)
      simp [FieldPolicy.admits, FieldPolicy.isString, untyped]
  · intro set
    obtain ⟨k, holds, replaced⟩ := Option.bind_eq_some_iff.1 set
    unfold FieldPolicy.replacement? at replaced
    split at replaced
    · rename_i admits
      simp only [FieldPolicy.admits, Bool.and_eq_true, decide_eq_true_eq, Bool.or_eq_true]
        at admits
      refine ⟨replaced, by rw [holds]; rfl, admits.1, fun strings => ?_⟩
      obtain any | string := admits.2
      · exact absurd (any.symm.trans strings) (by decide)
      · cases k <;> first | exact ⟨_, holds⟩ | cases string
    · cases replaced

theorem given_eq_none_iff : given a values policy name = none ↔
    ∀ j, ¬ Applied a values policy name j := by
  simp only [applied_iff_given, Option.eq_none_iff_forall_ne_some]

/-- What is not set stays, whether or not there is a field of the name. -/
theorem FieldRecord.Sets.held_eq (sets : Sets a values policy b)
    (kept : given a values policy name = none) : held b name = held a name := by
  by_cases named : name ∈ (fields a).map (·.name)
  · obtain ⟨f, listed, rfl⟩ := List.mem_map.1 named
    rw [sets.holds listed, kept, Option.elim_none]
  · have absent : name ∉ (members a).map (·.1) := names_members a ▸ named
    have absent' : name ∉ (members b).map (·.1) := sets.names ▸ absent
    rw [held, held, Option.not_isSome_iff_eq_none.1 (mt find?_isSome_iff.1 absent),
      Option.not_isSome_iff_eq_none.1 (mt find?_isSome_iff.1 absent')]

end Applied

namespace Message

/-- The kind of what a message measured, if it measured anything. -/
def kind? : Message → Option String
  | performance m => some m.detail.kind
  | _ => none

end Message

namespace MessageType

variable {t : MessageType} {m m' : t.Content}

/-- The kind of a measurement stands among its fields, and nowhere else. -/
theorem held_kind (m : t.Content) :
    held m "perf_kind" = (t.message m).kind?.map .string := by
  cases t with
  | typed => cases m <;> rfl
  | _ => rfl

theorem eq_of_mem_tags {tag : String} (listed : tag ∈ tags t.Content) :
    tag = "type" ∨ tag = "perf_kind" := by
  cases t with
  | typed => simpa using (show tag ∈ ["type", "perf_kind"] from listed)
  | performance => exact .inr (List.mem_singleton.1 listed)
  | _ => cases listed

/-- A message stays sound when its fields are set to proper values. -/
theorem sound_of_applyFields {values : Dict String Json} {policy : FieldPolicy}
    (sound : (t.message m).Sound) (proper : ∀ name j, values.get? name = some j → j.Proper)
    (set : applyFields m values policy = .ok m') : (t.message m').Sound :=
  t.decode_gives (.object (forall_replace (t.proper_members m) proper)) m'
    ((applyFields_eq_ok_iff (t.stable sound)).1 set)

/-- Messages of a type that hold the same type are of the same type. -/
theorem typeName_eq (same : held m "type" = held m' "type") :
    (t.message m).typeName = (t.message m').typeName := by
  cases named : t.typeName? with
  | some type => rw [(encode_of_typeName named m).2, (encode_of_typeName named m').2]
  | none =>
    cases t <;> cases named
    exact Json.string.inj (Option.some.inj same)

end MessageType

/-- Setting fields of a sound message, without naming a kind of measurement: it succeeds exactly if
every entry that is applied can be read at the type of its field. Then what is applied is held as it
was read, and under any other name the message holds what it held; it has the same names, is of the
same type and kind, and is sound. -/
theorem applyFields_frame {t : MessageType} {m : t.Content} {values : Dict String Json}
    (policy : FieldPolicy) (sound : (t.message m).Sound)
    (proper : ∀ name j, values.get? name = some j → j.Proper)
    (noKind : values.get? "perf_kind" = none) :
    ((∃ m', applyFields m values policy = .ok m') ↔ ∀ f ∈ fields m, ∀ j,
      Applied m values policy f.name j → (f.type.reads j).isSome = true) ∧
    ∀ m', applyFields m values policy = .ok m' →
      (∀ f ∈ fields m, ∀ j, Applied m values policy f.name j →
        held m' f.name = f.type.reads j) ∧
      (∀ name, (∀ j, ¬ Applied m values policy name j) → held m' name = held m name) ∧
      (members m').map (·.1) = (members m).map (·.1) ∧
      (t.message m').typeName = (t.message m).typeName ∧
      (t.message m').kind? = (t.message m).kind? ∧
      (t.message m').Sound := by
  have readable (name : String) (j : Json) (set : values.get? name = some j) :
      j.readable = true := (proper name j set).readable
  have noType : given m values policy "type" = none :=
    given_eq_none_iff.2 (fun j applied => applied.untyped rfl)
  have noKind : given m values policy "perf_kind" = none :=
    given_eq_none_iff.2 (fun j applied => by cases noKind.symm.trans applied.entry)
  have untagged : ∀ tag ∈ tags t.Content, given m values policy tag = none := by
    intro tag listed
    obtain rfl | rfl := MessageType.eq_of_mem_tags listed
    · exact noType
    · exact noKind
  constructor
  · rw [exists_applyFields_eq_ok_iff (t.stable sound) readable untagged]
    simp only [applied_iff_given]
  · intro m' set
    have sets := sets_of_applyFields (t.stable sound) readable untagged set
    refine ⟨?applied, ?kept, sets.names, ?type, ?kind, ?sound⟩
    case applied =>
      intro f listed j applied
      rw [sets.holds listed, applied_iff_given.1 applied, Option.elim_some]
    case kept =>
      intro name unset
      exact sets.held_eq (given_eq_none_iff.2 unset)
    case type => exact t.typeName_eq (sets.held_eq noType)
    case kind =>
      have kept := sets.held_eq noKind
      rw [t.held_kind, t.held_kind] at kept
      exact Option.map_injective (fun _ _ => Json.string.inj) kept
    case sound => exact MessageType.sound_of_applyFields sound proper set

/-- Facts about a build of a kernel go where it holds a text: not to its outcome, and not to its
type. -/
theorem applyFields_frame_strings :
    let m : MessageType.typed.Content := Message.kernelBuild { isSuccess := true }
    let facts : Facts := Dict.ofList [
      ("error_message", "boom"), ("is_success", "no"), ("type", "Performance")]
    (MessageType.typed.message m).Sound ∧ (stringFields facts).get? "perf_kind" = none ∧
    ∃ m', applyFields m (stringFields facts) .stringsOnly = .ok m' ∧
      held m' "error_message" = some (.string "boom") ∧
      held m' "is_success" = some (.bool true) ∧ held m' "type" = some (.string "KernelBuild") := by
  intro m facts
  have sound : (MessageType.typed.message m).Sound := by
    constructor
    · have epoch : Timestamp.epoch.Valid := by constructor <;> decide
      exact List.forall_mem_singleton.2 epoch
    · exact List.forall_mem_singleton.2 (by decide)
  have noKind : (stringFields facts).get? "perf_kind" = none := by decide
  obtain ⟨accepted, framed⟩ :=
    applyFields_frame .stringsOnly sound proper_stringFields noKind
  have taken : ∀ f ∈ fields m, (given m (stringFields facts) .stringsOnly f.name).all
      (fun j => (f.type.reads j).isSome) = true := by decide +kernel
  obtain ⟨m', set⟩ := accepted.2 (fun f listed j applied => by
    have read := taken f listed
    rwa [applied_iff_given.1 applied] at read)
  obtain ⟨applied, kept, -⟩ := framed m' set
  refine ⟨sound, noKind, m', set, ?message, ?success, ?type⟩
  case message =>
    have listed : Field.defaulted "error_message" "" ∈ KernelBuildMessage.fields := by
      simp [KernelBuildMessage.fields]
    exact applied _ (.tail _ listed) (.string "boom") (applied_iff_given.2 rfl)
  case success => exact kept "is_success" (given_eq_none_iff.1 rfl)
  case type => exact kept "type" (given_eq_none_iff.1 rfl)

end Testbed
