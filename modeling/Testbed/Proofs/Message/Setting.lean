import Testbed.Message.Fields
import Testbed.Proofs.Message.Records

/-!
# Setting fields

Setting fields of a message goes through its wire form, and still every field is on its own: it
holds what was read from the value that it was given, or what it held before. The message is refused
exactly if one of its fields cannot take its value.
-/
namespace Testbed

open Wire Record

section Members

variable {name : String} {j : Json} {members : List (String × Json)} {policy : FieldPolicy}
  {values : Dict String Json}

theorem find?_isSome_iff : (find? name members).isSome = true ↔ name ∈ members.map (·.1) := by
  induction members with
  | nil => simp [find?, Json.valuesOf]
  | cons member members ih =>
    obtain ⟨key, j⟩ := member
    rw [find?_cons, List.map_cons, List.mem_cons, ← ih, eq_comm (a := name)]
    split <;> simp [*]

theorem mem_of_find? (found : find? name members = some j) : (name, j) ∈ members := by
  induction members with
  | nil => cases found
  | cons member members ih =>
    obtain ⟨key, j'⟩ := member
    rw [find?_cons] at found
    split at found
    · rename_i same
      obtain rfl := Option.some.inj found
      rw [same]
      exact List.mem_cons_self
    · exact List.mem_cons_of_mem _ (ih found)

theorem find?_of_mem (distinct : (members.map (·.1)).Nodup) (listed : (name, j) ∈ members) :
    find? name members = some j := by
  induction members with
  | nil => cases listed
  | cons member members ih =>
    obtain ⟨key, first⟩ := member
    obtain ⟨fresh, distinct⟩ := List.nodup_cons.1 distinct
    rw [find?_cons]
    rcases List.mem_cons.1 listed with here | later
    · obtain ⟨rfl, rfl⟩ := Prod.mk.inj here
      exact if_pos rfl
    · have apart : key ≠ name := by
        rintro rfl
        exact fresh (List.mem_map.2 ⟨_, later, rfl⟩)
      rw [if_neg apart, ih distinct later]

/-- A member that is replaced keeps its name. -/
theorem names_replace : (members.map (policy.replace values)).map (·.1) = members.map (·.1) := by
  rw [List.map_map]
  rfl

theorem find?_replace : find? name (members.map (policy.replace values)) =
    (find? name members).map fun held =>
      (policy.replacement? values (name, held)).getD held := by
  induction members with
  | nil => rfl
  | cons member members ih =>
    obtain ⟨key, j⟩ := member
    rw [List.map_cons, FieldPolicy.replace, find?_cons, find?_cons, ih]
    split
    · rename_i same
      obtain rfl : key = name := same
      rfl
    · rfl

/-- Members are as they were where nothing is replaced. -/
theorem replace_eq_self (nothing : members.all (fun member =>
    (policy.replacement? values member).isNone) = true) :
    members.map (policy.replace values) = members := by
  have same : ∀ member ∈ members, policy.replace values member = id member := by
    intro member listed
    have kept := Option.isNone_iff_eq_none.1 (List.all_eq_true.1 nothing member listed)
    rw [FieldPolicy.replace, kept]
    rfl
  rw [List.map_congr_left same, List.map_id]

/-- A value that a member is replaced by is one of those that are given. -/
theorem get?_of_replacement? {member : String × Json} {j : Json}
    (replaced : policy.replacement? values member = some j) : values.get? member.1 = some j := by
  unfold FieldPolicy.replacement? at replaced
  split at replaced
  · exact replaced
  · cases replaced

/-- What holds of all members and of all values holds of the members as they are replaced. -/
theorem forall_replace {P : Json → Prop} (held : ∀ member ∈ members, P member.2)
    (given : ∀ name j, values.get? name = some j → P j) :
    ∀ member ∈ members.map (policy.replace values), P member.2 := by
  intro member listed
  obtain ⟨before, present, rfl⟩ := List.mem_map.1 listed
  cases replaced : policy.replacement? values before with
  | none =>
    rw [FieldPolicy.replace, replaced]
    exact held before present
  | some j =>
    rw [FieldPolicy.replace, replaced]
    exact given _ j (get?_of_replacement? replaced)

end Members

namespace FieldRecord

variable {α : Type} [Wire α] [FieldRecord α]

/-- What a message holds under a name. -/
def held (a : α) (name : String) : Option Json := find? name (members a)

/-- The value that a field of a message is set to, if it is set. -/
def given (a : α) (values : Dict String Json) (policy : FieldPolicy) (name : String) :
    Option Json :=
  (held a name).bind fun j => policy.replacement? values (name, j)

variable {a b : α} {values : Dict String Json} {policy : FieldPolicy} {f : Field}

theorem held_isSome (listed : f ∈ fields a) : (held a f.name).isSome = true := by
  rw [held, find?_isSome_iff, names_members]
  exact List.mem_map_of_mem listed

/-- A message that is read back from its wire form holds in each field what is read from it. -/
theorem value_members (stable : decode (encode a) = some a) (listed : f ∈ fields a) :
    f.value (members a) = held a f.name := by
  have whole : Field.readAll (fields a) (members a) = some (members a) := by
    rw [← reads (names_members a) (readable_members a) (fun _ _ => rfl), ← encode_eq, stable]
    rfl
  exact (Field.find?_of_readAll (distinct a) whole listed).symm

theorem value_of_held {j : Json} (holds : held a f.name = some j) :
    f.value (members a) = f.type.reads j := by
  rw [held] at holds
  rw [Field.value, holds]
  rfl

/-- Any field is read from what the message is given for it, or else as it was before. -/
theorem value_replace : f.value ((members a).map (policy.replace values)) =
    (given a values policy f.name).elim (f.value (members a)) f.type.reads := by
  rw [Field.value, Field.value, find?_replace, given, held]
  cases find? f.name (members a) with
  | none => rfl
  | some j =>
    simp only [Option.map_some, Option.bind_some, Option.elim_some]
    cases policy.replacement? values (f.name, j) <;> rfl

/-- What a message is after its fields have been set. -/
structure Sets (a : α) (values : Dict String Json) (policy : FieldPolicy) (b : α) : Prop where
  names : (members b).map (·.1) = (members a).map (·.1)
  holds {f : Field} : f ∈ fields a →
    held b f.name = (given a values policy f.name).elim (held a f.name) f.type.reads

theorem given_eq_none (nothing : (members a).all (fun member =>
      (policy.replacement? values member).isNone) = true) (name : String) :
    given a values policy name = none := by
  cases holds : held a name with
  | none => rw [given, holds, Option.bind_none]
  | some j =>
    rw [given, holds, Option.bind_some]
    exact Option.isNone_iff_eq_none.1 (List.all_eq_true.1 nothing _ (mem_of_find? holds))

/-- Setting fields comes to reading the members as they are replaced, if the message is read back
from its wire form: then it may be read also where nothing is set. -/
theorem applyFields_eq_ok_iff (stable : decode (encode a) = some a) :
    applyFields a values policy = .ok b ↔
      decode (.object ((members a).map (policy.replace values))) = some b := by
  unfold applyFields
  rw [encode_eq]
  dsimp only
  split
  · rename_i nothing
    rw [replace_eq_self nothing, ← encode_eq, stable, Except.ok.injEq, Option.some.injEq]
  · cases (decode (.object ((members a).map (policy.replace values))) : Option α) <;> simp

/-- Without that, nothing may be set, and otherwise the replaced members are read. -/
theorem applyFields_ok (set : applyFields a values policy = .ok b) :
    (b = a ∧ ∀ name, given a values policy name = none) ∨
      decode (.object ((members a).map (policy.replace values))) = some b := by
  unfold applyFields at set
  rw [encode_eq] at set
  dsimp only at set
  split at set
  · rename_i nothing
    exact .inl ⟨(Except.ok.inj set).symm, given_eq_none nothing⟩
  · split at set
    · rename_i read
      rw [read, Except.ok.inj set]
      exact .inr rfl
    · cases set

variable (stable : decode (encode a) = some a)
  (whole : ∀ name j, values.get? name = some j → j.readable = true)
  (untagged : ∀ tag ∈ tags α, given a values policy tag = none)

include whole untagged

/-- The replaced members are read field by field. -/
theorem reads_replace :
    ((decode (.object ((members a).map (policy.replace values))) : Option α)).map members =
      Field.readAll (fields a) ((members a).map (policy.replace values)) := by
  refine reads (names_replace.trans (names_members a))
    (forall_replace (P := fun j => j.readable = true) (readable_members a) whole) ?_
  intro tag listed
  have kept := untagged tag listed
  rw [find?_replace]
  cases holds : find? tag (members a) with
  | none => rfl
  | some j =>
    rw [given, held, holds, Option.bind_some] at kept
    rw [Option.map_some, kept]
    rfl

include stable

/-- Fields can be set exactly if each of them takes its value. -/
theorem exists_applyFields_eq_ok_iff : (∃ b, applyFields a values policy = .ok b) ↔
    ∀ f ∈ fields a, ∀ j, given a values policy f.name = some j →
      (f.type.reads j).isSome = true := by
  have each : (∀ f ∈ fields a,
        (f.value ((members a).map (policy.replace values))).isSome = true) ↔
      ∀ f ∈ fields a, ∀ j, given a values policy f.name = some j →
        (f.type.reads j).isSome = true := by
    refine forall₂_congr (fun f listed => ?_)
    rw [value_replace, value_members stable listed]
    cases given a values policy f.name with
    | none => simpa using held_isSome listed
    | some j => simp
  rw [← each, ← Field.readAll_isSome, ← reads_replace whole untagged, Option.isSome_map,
    Option.isSome_iff_exists]
  exact exists_congr (fun b => applyFields_eq_ok_iff stable)

theorem sets_of_applyFields (set : applyFields a values policy = .ok b) :
    Sets a values policy b := by
  have read := reads_replace whole untagged
  rw [(applyFields_eq_ok_iff stable).1 set, Option.map_some] at read
  constructor
  · rw [Field.names_of_readAll read.symm, names_members]
  · intro f listed
    rw [held, Field.find?_of_readAll (distinct a) read.symm listed, value_replace,
      value_members stable listed]

/-- Where it is known what each field is given, fields can be set exactly if each of them takes that,
and hold then what was read from it. -/
theorem applyFields_layer {layer : String → Option Json}
    (gives : ∀ f ∈ fields a, given a values policy f.name = layer f.name) :
    ((∃ b, applyFields a values policy = .ok b) ↔ ∀ f ∈ fields a, ∀ j,
      layer f.name = some j → (f.type.reads j).isSome = true) ∧
    ∀ b, applyFields a values policy = .ok b → ∀ f ∈ fields a,
      held b f.name = (layer f.name).elim (held a f.name) f.type.reads := by
  constructor
  · rw [exists_applyFields_eq_ok_iff stable whole untagged]
    refine forall₂_congr (fun f listed => ?_)
    rw [gives f listed]
  · intro b set f listed
    rw [(sets_of_applyFields stable whole untagged set).holds listed, gives f listed]

end FieldRecord

/-- Setting fields fails in one way only. -/
theorem applyFields_error {α : Type} [Wire α] {a : α} {values : Dict String Json}
    {policy : FieldPolicy} {error : MessageError}
    (failed : applyFields a values policy = .error error) :
    ∃ name value, error = .invalidField name value := by
  unfold applyFields at failed
  split at failed
  · split at failed
    · cases failed
    · split at failed
      · cases failed
      · obtain rfl := Except.error.inj failed
        exact ⟨_, _, rfl⟩
  · cases failed

end Testbed
