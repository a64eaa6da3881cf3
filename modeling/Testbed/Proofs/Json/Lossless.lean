import Mathlib.Data.List.Nodup
import Testbed.Json.Record
import Testbed.Proofs.Json.Text

/-!
# Lossless wire forms

A wire form is lossless if every value is decoded from its own encoding. Elementary values, lists,
sets and dictionaries are; a record is when each of its fields is found under its name and is
decoded, or when it may be left out and is put back as its default.
-/
namespace Testbed

namespace Json

/-- A list of values is readable when each of them is. -/
theorem readableElements_iff {elements : List Json} :
    readableElements elements = true ↔ ∀ j ∈ elements, j.readable = true := by
  induction elements with
  | nil => simp [readableElements]
  | cons j elements ih => simp [readableElements, ih]

theorem readableMembers_iff {members : List (String × Json)} :
    readableMembers members = true ↔ ∀ member ∈ members, member.2.readable = true := by
  induction members with
  | nil => simp [readableMembers]
  | cons member members ih =>
    obtain ⟨name, j⟩ := member
    simp [readableMembers, ih]

end Json

namespace Wire

/-- Types whose values are decoded from their encodings. -/
class Lossless (α : Type) [Wire α] : Prop where
  decode_encode (a : α) : decode (encode a) = some a

/-- Types whose values are encoded without unreadable parts. -/
class Readable (α : Type) [Wire α] : Prop where
  readable_encode (a : α) : (encode a).readable = true

/-- Types without a value that is encoded as null. -/
class NeverNull (α : Type) [Wire α] : Prop where
  encode_ne_null (a : α) : encode a ≠ .null

export Lossless (decode_encode)
export Readable (readable_encode)
export NeverNull (encode_ne_null)

attribute [simp] Lossless.decode_encode Readable.readable_encode NeverNull.encode_ne_null

theorem encode_injective {α : Type} [Wire α] [Lossless α] :
    Function.Injective (encode : α → Json) := by
  intro a b same
  have read := congrArg (decode : Json → Option α) same
  rw [decode_encode, decode_encode] at read
  exact Option.some.inj read

instance : Lossless Bool := ⟨fun _ => rfl⟩
instance : Readable Bool := ⟨fun _ => rfl⟩
instance : NeverNull Bool := ⟨fun _ => nofun⟩

instance : Lossless String := ⟨fun _ => rfl⟩
instance : Readable String := ⟨fun _ => rfl⟩
instance : NeverNull String := ⟨fun _ => nofun⟩

theorem decodeInteger_eq {low high i : Int} (above : low ≤ i) (below : i ≤ high) :
    decodeInteger low high (.integer i) = some i :=
  if_pos ⟨above, below⟩

instance : Lossless UInt32 where
  decode_encode n := by
    have fits := n.toNat_lt
    have read : decodeInteger 0 0xffffffff (.integer n.toNat) = some n.toNat :=
      decodeInteger_eq (by omega) (by omega)
    simp [encode, decode, read]

instance : Readable UInt32 := ⟨fun _ => rfl⟩
instance : NeverNull UInt32 := ⟨fun _ => nofun⟩

instance : Lossless UInt64 where
  decode_encode n := by
    have fits := n.toNat_lt
    have read : decodeInteger 0 0xffffffffffffffff (.integer n.toNat) = some n.toNat :=
      decodeInteger_eq (by omega) (by omega)
    simp [encode, decode, read]

instance : Readable UInt64 := ⟨fun _ => rfl⟩
instance : NeverNull UInt64 := ⟨fun _ => nofun⟩

variable {α : Type} [Wire α]

/-- What may be absent is read back if null stands for nothing else. -/
instance [Lossless α] [NeverNull α] : Lossless (Option α) where
  decode_encode
    | none => rfl
    | some a => by
      have held : encode a ≠ .null := encode_ne_null a
      have value : (decode (encode a) : Option α) = some a := decode_encode a
      change (match encode a with | .null => some none | j => (decode j).map some) = some (some a)
      split
      · exact absurd ‹_› held
      · rw [value]
        rfl

instance [Readable α] : Readable (Option α) where
  readable_encode
    | none => rfl
    | some a => readable_encode a

theorem decodeAll_encode [Lossless α] (as : List α) : decodeAll (as.map encode) = some as := by
  induction as with
  | nil => rfl
  | cons a as ih => simp [decodeAll, ih]

instance [Lossless α] : Lossless (List α) := ⟨decodeAll_encode⟩

instance [Readable α] : Readable (List α) where
  readable_encode as := by
    refine Json.readableElements_iff.2 (fun j listed => ?_)
    obtain ⟨a, -, rfl⟩ := List.mem_map.1 listed
    exact readable_encode a

instance : NeverNull (List α) := ⟨fun _ => nofun⟩

theorem decodeEntries_encode [Lossless α] (entries : List (String × α)) :
    decodeEntries (entries.map (fun entry => (entry.1, encode entry.2))) = some entries := by
  induction entries with
  | nil => rfl
  | cons entry entries ih => simp [decodeEntries, ih]

instance [Lossless α] : Lossless (Dict String α) where
  decode_encode d := by
    change (decodeEntries _).map Dict.ofList = some d
    rw [decodeEntries_encode]
    simp

instance [Readable α] : Readable (Dict String α) where
  readable_encode d := by
    refine Json.readableMembers_iff.2 (fun member listed => ?_)
    obtain ⟨entry, -, rfl⟩ := List.mem_map.1 listed
    exact readable_encode entry.2

instance {κ : Type} [LT κ] [DecidableLT κ] [StrictOrder κ] [Wire κ] [Lossless κ] :
    Lossless (SortedSet κ) where
  decode_encode s := by
    change (decode (encode s.toList) : Option (List κ)).map SortedSet.ofList = some s
    simp

end Wire

/-- What is left of an object's members keeps the order of their names. -/
theorem Json.sublist_present (fields : List (String × Option Json)) :
    ((Json.present fields).map (·.1)).Sublist (fields.map (·.1)) := by
  induction fields with
  | nil => exact .slnil
  | cons field fields ih =>
    obtain ⟨name, value⟩ := field
    cases value with
    | none => exact .cons _ ih
    | some j => exact .cons_cons _ ih

namespace Record

open Wire

section Members

variable {name key : String} {j : Json} {members : List (String × Json)}

theorem find?_cons : find? name ((key, j) :: members) =
    if key = name then some j else find? name members := by
  by_cases same : key = name <;> simp [find?, Json.valuesOf, same]

theorem find?_present_cons {value : Option Json} {rest : List (String × Option Json)} :
    find? name (Json.present ((key, value) :: rest)) =
      if key = name then value <|> find? name (Json.present rest)
      else find? name (Json.present rest) := by
  cases value with
  | none => by_cases same : key = name <;> simp [Json.present, same]
  | some j =>
    change find? name ((key, j) :: Json.present rest) = _
    rw [find?_cons]
    rfl

@[simp]
theorem find?_present_nil : find? name (Json.present []) = none := rfl

/-- An object that repeats none of a record's fields is a record, whatever else it holds. -/
theorem ofMembers?_of_count {names : List String}
    (once : ∀ name ∈ names, (members.map (·.1)).count name ≤ 1) :
    ofMembers? names members = some ⟨false, members⟩ := by
  refine if_pos (List.all_eq_true.2 (fun name listed => decide_eq_true ?_))
  have count : (Json.valuesOf name members).length = (members.map (·.1)).count name := by
    rw [Json.valuesOf, List.length_map, ← List.countP_eq_length_filter, List.count,
      List.countP_map]
    rfl
  rw [count]
  exact once name listed

/-- The fields of a record may stand beside members that have other names. -/
theorem ofMembers?_append {names : List String} {others : List (String × Json)}
    (listed : members.map (·.1) = names) (distinct : names.Nodup)
    (apart : ∀ other ∈ others, other.1 ∉ names) :
    ofMembers? names (members ++ others) = some ⟨false, members ++ others⟩ := by
  refine ofMembers?_of_count (fun name field => ?_)
  have absent : name ∉ others.map (·.1) := by
    intro shared
    obtain ⟨other, member, rfl⟩ := List.mem_map.1 shared
    exact apart other member field
  rw [List.map_append, List.count_append, listed, List.count_eq_zero_of_not_mem absent]
  exact List.nodup_iff_count_le_one.1 distinct name

theorem ofJson?_of_nodup (names : List String) (distinct : (members.map (·.1)).Nodup) :
    ofJson? names (.object members) = some ⟨false, members⟩ :=
  ofMembers?_of_count (fun name _ => List.nodup_iff_count_le_one.1 distinct name)

/-- An object with exactly the fields of a record in order is a record. -/
theorem ofJson?_of_names {names : List String} (listed : members.map (·.1) = names)
    (distinct : names.Nodup) : ofJson? names (.object members) = some ⟨false, members⟩ :=
  ofJson?_of_nodup names (listed ▸ distinct)

theorem ofJson?_present (names : List String) {fields : List (String × Option Json)}
    (distinct : (fields.map (·.1)).Nodup) :
    ofJson? names (.object (Json.present fields)) = some ⟨false, Json.present fields⟩ :=
  ofJson?_of_nodup names ((Json.sublist_present fields).nodup distinct)

end Members

/-- A field that has been read is handed to what reads the next one. This is about the bind of the
monad and not about `Option.bind`, whose congruence lemma has `simp` go through what comes next
twice for each field. -/
theorem some_bind {α β : Type} (a : α) (next : α → Option β) : (some a >>= next) = next a := rfl

section Fields

variable {α : Type} [Wire α]

theorem defaulted_eq (r : Record) (name : String) (default : α) :
    r.defaulted name default = (find? name r.fields).elim (some default) decode := by
  unfold defaulted
  cases find? name r.fields <;> rfl

theorem nullable_eq (r : Record) (name : String) : (r.nullable name : Option (Option α)) =
    (find? name r.fields).elim (if r.positional then none else some none) decode := by
  unfold nullable
  cases find? name r.fields <;> rfl

variable [Lossless α]

/-- What is written only when it is present is read back, its absence included. -/
@[simp]
theorem elim_decode_encode [NeverNull α] (value : Option α) :
    value.elim (some none) (decode ∘ encode) = some value := by
  cases value with
  | none => rfl
  | some a => exact decode_encode (some a)

/-- What is written unless a test says that it holds its default is read back. -/
@[simp]
theorem elim_ite_encode (isDefault : Prop) [Decidable isDefault] (default a : α) :
    (if isDefault then none else some (encode a)).elim (some default) decode =
      some (if isDefault then default else a) := by
  split <;> simp

end Fields

end Record

namespace Json

/-- The tag of a tagged value is found among its members, and the others are left. -/
theorem tagged?_cons {tag : String} {kind : Json} {members : List (String × Json)}
    (whole : (Json.object ((tag, kind) :: members)).readable = true)
    (apart : tag ∉ members.map (·.1)) :
    (Json.object ((tag, kind) :: members)).tagged? tag = some (kind, .object members) := by
  have others (member : String × Json) (listed : member ∈ members) : member.1 ≠ tag := by
    rintro rfl
    exact apart (List.mem_map_of_mem listed)
  have tags : valuesOf tag ((tag, kind) :: members) = [kind] := by
    have none' : members.filter (fun member => member.1 = tag) = [] :=
      List.filter_eq_nil_iff.2 (fun member listed => by simpa using others member listed)
    simp [valuesOf, none']
  have rest : ((tag, kind) :: members).filter (fun member => member.1 ≠ tag) = members := by
    have kept : members.filter (fun member => member.1 ≠ tag) = members :=
      List.filter_eq_self.2 (fun member listed => by simpa using others member listed)
    rw [List.filter_cons_of_neg (by simp), kept]
  simp only [tagged?, whole, tags, rest]
  rfl

theorem Plain.readable {depth : Nat} {j : Json} (plain : Plain depth j) : j.readable = true := by
  induction plain with
  | null | bool _ | integer _ _ | float _ | string _ => rfl
  | array _ ih => exact readableElements_iff.2 ih
  | object _ ih => exact readableMembers_iff.2 ih

end Json

/-! ## Plain encodings -/

section Plain

variable {α : Type} [Wire α] {depth : Nat}

open Json (Plain)
open Wire

theorem plain_uint32 (n : UInt32) : Plain depth (encode n) := by
  have fits := n.toNat_lt
  exact .integer (by omega) (by omega)

theorem plain_uint64 (n : UInt64) : Plain depth (encode n) := by
  have fits := n.toNat_lt
  exact .integer (by omega) (by omega)

theorem plain_list (each : ∀ a : α, Plain depth (encode a)) (as : List α) :
    Plain (depth + 1) (encode as) := by
  refine .array (fun j listed => ?_)
  obtain ⟨a, -, rfl⟩ := List.mem_map.1 listed
  exact each a

theorem plain_set {κ : Type} [LT κ] [DecidableLT κ] [StrictOrder κ] [Wire κ]
    (each : ∀ a : κ, Plain depth (encode a)) (s : SortedSet κ) : Plain (depth + 1) (encode s) :=
  plain_list each s.toList

theorem plain_dict (each : ∀ a : α, Plain depth (encode a)) (d : Dict String α) :
    Plain (depth + 1) (encode d) := by
  refine .object (fun member listed => ?_)
  obtain ⟨entry, -, rfl⟩ := List.mem_map.1 listed
  exact each entry.2

/-- An object is plain if each of its members is, where it is present. -/
theorem plain_present {fields : List (String × Option Json)}
    (each : ∀ field ∈ fields, ∀ j ∈ field.2, Plain depth j) :
    ∀ member ∈ Json.present fields, Plain depth member.2 := by
  intro member listed
  obtain ⟨field, present, written⟩ := List.mem_filterMap.1 listed
  obtain ⟨j, found, rfl⟩ := Option.map_eq_some_iff.1 written
  exact each field present j found

end Plain

end Testbed
