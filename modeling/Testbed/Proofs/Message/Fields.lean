import Testbed.Proofs.Message.RoundTrip

/-!
# Reading messages field by field

A message is a record whose fields have a name and a type each. Reading one comes to reading its
fields one by one, each from the value that stands at its name: the message that is read is written
as what its fields were read as, and it is not read at all if one of them is not. The fields of a
measurement depend on its kind, so this is said of objects that leave the kind as it is.
-/
namespace Testbed

open Wire Record

/-- The types of the fields of messages. -/
inductive FieldType where
  | text | moment | double | count32 | count64 | flag | optionalText | labels | facts
  | testStatus | runStatus | diskSetup | diskKind
  deriving DecidableEq

/-- What a value comes to at a type: the wire form of what it spells there, if anything. -/
def respell (α : Type) [Wire α] (j : Json) : Option Json := (decode j : Option α).map encode

/-- What a field holds into which a value is read, if it takes the value. -/
def FieldType.reads : FieldType → Json → Option Json
  | text => respell String
  | moment => respell Timestamp
  | double => respell Binary64
  | count32 => respell UInt32
  | count64 => respell UInt64
  | flag => respell Bool
  | optionalText => respell (Option String)
  | labels => respell (Option (List String))
  | facts => respell Facts
  | testStatus => respell TestStatus
  | runStatus => respell TestRunStatus
  | diskSetup => respell DiskSetupType
  | diskKind => respell PerformanceDiskType

/-- Whether a type is one of measured numbers. -/
def FieldType.isNumber : FieldType → Bool
  | double | count32 | count64 => true
  | _ => false

theorem FieldType.reads_string_of_isNumber {type : FieldType} {s : String}
    (number : type.isNumber = true) : type.reads (.string s) = none := by
  cases type <;> first | rfl | cases number

/-- The types that fields of messages have, by name. -/
class Typed (α : Type) [Wire α] where
  type : FieldType
  reads : type.reads = respell α

instance : Typed String := ⟨.text, rfl⟩
instance : Typed Timestamp := ⟨.moment, rfl⟩
instance : Typed Binary64 := ⟨.double, rfl⟩
instance : Typed UInt32 := ⟨.count32, rfl⟩
instance : Typed UInt64 := ⟨.count64, rfl⟩
instance : Typed (Option String) := ⟨.optionalText, rfl⟩
instance : Typed Facts := ⟨.facts, rfl⟩
instance : Typed TestStatus := ⟨.testStatus, rfl⟩
instance : Typed DiskSetupType := ⟨.diskSetup, rfl⟩
instance : Typed PerformanceDiskType := ⟨.diskKind, rfl⟩

/-- A field of a record. -/
structure Field where
  name : String
  type : FieldType
  /-- What the field holds when no value is given for it. -/
  missing : Option Json := none

namespace Field

def required (α : Type) [Wire α] [Typed α] (name : String) : Field := { name, type := Typed.type α }

def defaulted {α : Type} [Wire α] [Typed α] (name : String) (default : α) : Field where
  name
  type := Typed.type α
  missing := some (encode default)

def nullable (α : Type) [Wire α] [Typed (Option α)] (name : String) : Field where
  name
  type := Typed.type (Option α)
  missing := some .null

/-- What a field holds that is read from an object. -/
def value (f : Field) (members : List (String × Json)) : Option Json :=
  (find? f.name members).elim f.missing f.type.reads

/-- What all fields of a record hold that are read from an object; none when one cannot be read. -/
def readAll : List Field → List (String × Json) → Option (List (String × Json))
  | [], _ => some []
  | f :: rest, members => do
    let j ← f.value members
    let others ← readAll rest members
    return (f.name, j) :: others

variable {f : Field} {fields others : List Field} {members read : List (String × Json)}

theorem readAll_append : readAll (fields ++ others) members =
    (readAll fields members).bind fun front => (readAll others members).map (front ++ ·) := by
  induction fields with
  | nil => simp [readAll]
  | cons f fields ih =>
    cases here : f.value members with
    | none => simp [readAll, here]
    | some j =>
      simp only [List.cons_append, readAll, here, ih]
      cases readAll fields members <;> cases readAll others members <;> rfl

theorem readAll_isSome : (readAll fields members).isSome = true ↔
    ∀ f ∈ fields, (f.value members).isSome = true := by
  induction fields with
  | nil => simp [readAll]
  | cons f fields ih =>
    rw [List.forall_mem_cons, ← ih, readAll]
    cases f.value members <;> cases readAll fields members <;> simp

theorem names_of_readAll (h : readAll fields members = some read) :
    read.map (·.1) = fields.map (·.name) := by
  induction fields generalizing read with
  | nil =>
    obtain rfl := Option.some.inj h
    rfl
  | cons f fields ih =>
    obtain ⟨j, -, h⟩ := Option.bind_eq_some_iff.1 h
    obtain ⟨others, rest, h⟩ := Option.bind_eq_some_iff.1 h
    obtain rfl := Option.some.inj h
    rw [List.map_cons, List.map_cons, ih rest]

/-- What was read stands under the names of the fields. -/
theorem find?_of_readAll (distinct : (fields.map (·.name)).Nodup)
    (h : readAll fields members = some read) (listed : f ∈ fields) :
    find? f.name read = f.value members := by
  induction fields generalizing read with
  | nil => cases listed
  | cons first fields ih =>
    obtain ⟨j, here, h⟩ := Option.bind_eq_some_iff.1 h
    obtain ⟨others, rest, h⟩ := Option.bind_eq_some_iff.1 h
    obtain rfl := Option.some.inj h
    obtain ⟨fresh, distinct⟩ := List.nodup_cons.1 distinct
    rw [find?_cons]
    rcases List.mem_cons.1 listed with rfl | listed
    · rw [if_pos rfl, here]
    · have apart : first.name ≠ f.name := fun same =>
        fresh (List.mem_map.2 ⟨f, listed, same.symm⟩)
      rw [if_neg apart, ih distinct rest listed]

/-- Fields are read alike from objects that have the same values under their names. -/
theorem readAll_congr {members' : List (String × Json)}
    (same : ∀ f ∈ fields, find? f.name members = find? f.name members') :
    readAll fields members = readAll fields members' := by
  induction fields with
  | nil => rfl
  | cons f fields ih =>
    obtain ⟨here, rest⟩ := List.forall_mem_cons.1 same
    rw [readAll, readAll, value, value, here, ih rest]

end Field

/-! ## Records -/

section Reading

variable {α β : Type} [Wire α] {r : Record} {name : String} {rest : List Field}
  {next : α → Option β} {written : β → List (String × Json)}
  {behind : List (String × Json) → List (String × Json)}

/-- A reader starts with nothing written. -/
theorem reads_all {fields : List Field} {members : List (String × Json)} {result : Option β}
    (h : result.map written = (Field.readAll fields members).map id) :
    result.map written = Field.readAll fields members := by
  rwa [Option.map_id] at h

/-- A reader that ends is written as what was read before. -/
theorem reads_done {fields : List (String × Json)} {b : β} (h : written b = behind []) :
    (some b).map written = (Field.readAll [] fields).map behind := congrArg some h

/-- A field is read first, and then the others: what was read is written before them. -/
theorem reads_first {first : Option α} {f : Field} {fields : List (String × Json)}
    (here : first.map encode = f.value fields)
    (goesOn : ∀ a, (next a).map written =
      (Field.readAll rest fields).map (fun others => behind ((f.name, encode a) :: others))) :
    (first >>= next).map written = (Field.readAll (f :: rest) fields).map behind := by
  rw [Field.readAll, ← here]
  cases first with
  | none => rfl
  | some a =>
    change (next a).map written = _
    rw [goesOn]
    simp only [Option.map_some, Option.bind_eq_bind, Option.bind_some]
    cases Field.readAll rest fields <;> rfl

variable [Typed α]

theorem reads_required
    (goesOn : ∀ a, (next a).map written =
      (Field.readAll rest r.fields).map (fun others => behind ((name, encode a) :: others))) :
    (r.required name >>= next).map written =
      (Field.readAll (.required α name :: rest) r.fields).map behind := by
  refine reads_first ?_ goesOn
  simp only [required, Field.required, Field.value, Typed.reads]
  cases find? name r.fields <;> rfl

theorem reads_defaulted {default : α}
    (goesOn : ∀ a, (next a).map written =
      (Field.readAll rest r.fields).map (fun others => behind ((name, encode a) :: others))) :
    (r.defaulted name default >>= next).map written =
      (Field.readAll (.defaulted name default :: rest) r.fields).map behind := by
  refine reads_first ?_ goesOn
  simp only [defaulted_eq, Field.defaulted, Field.value, Typed.reads]
  cases find? name r.fields <;> rfl

omit [Typed α] in
theorem reads_nullable [Typed (Option α)] (byName : r.positional = false)
    {next : Option α → Option β}
    (goesOn : ∀ a, (next a).map written =
      (Field.readAll rest r.fields).map (fun others => behind ((name, encode a) :: others))) :
    (r.nullable name >>= next).map written =
      (Field.readAll (.nullable α name :: rest) r.fields).map behind := by
  refine reads_first ?_ goesOn
  simp only [nullable_eq, byName, Field.nullable, Field.value, Typed.reads]
  cases find? name r.fields <;> rfl

end Reading

section Members

variable {name tag : String} {j : Json} {members : List (String × Json)}

/-- Members that are left out are not found, and the others still are. -/
theorem find?_filter (keep : String → Bool) (kept : keep name = true) :
    find? name (members.filter (fun member => keep member.1)) = find? name members := by
  induction members with
  | nil => rfl
  | cons member members ih =>
    obtain ⟨key, j⟩ := member
    rw [find?_cons, List.filter_cons]
    split
    · rw [find?_cons, ih]
    · rename_i dropped
      have apart : key ≠ name := by
        rintro rfl
        exact dropped kept
      rw [if_neg apart, ih]

theorem distinct_filter (distinct : (members.map (·.1)).Nodup) (keep : String × Json → Bool) :
    ((members.filter keep).map (·.1)).Nodup :=
  (List.filter_sublist.map Prod.fst).nodup distinct

/-- Among members of distinct names the tag is the one of its name. -/
theorem tagged?_of_find? (whole : ∀ member ∈ members, member.2.readable = true)
    (distinct : (members.map (·.1)).Nodup) (found : find? tag members = some j) :
    (Json.object members).tagged? tag =
      some (j, .object (members.filter (fun member => member.1 ≠ tag))) := by
  have readable : (Json.object members).readable = true := Json.readableMembers_iff.2 whole
  have once : (Json.valuesOf tag members).length ≤ 1 := by
    rw [Json.valuesOf, List.length_map, ← List.countP_eq_length_filter]
    have count := List.nodup_iff_count_le_one.1 distinct tag
    rw [List.count, List.countP_map] at count
    exact count
  have values : Json.valuesOf tag members = [j] := by
    rw [find?] at found
    cases value : Json.valuesOf tag members with
    | nil => simp [value] at found
    | cons kind rest =>
      rw [value] at found once
      obtain rfl := Option.some.inj found
      obtain rfl : rest = [] := by simpa using once
      rfl
  simp only [Json.tagged?, readable, values]
  rfl

end Members

/-- Messages that are read field by field, from every object that has their names and leaves the
tags as they are. -/
class FieldRecord (α : Type) [Wire α] where
  members : α → List (String × Json)
  fields : α → List Field
  /-- The names under which a message says how its other fields are read. -/
  tags : List String
  encode_eq (a : α) : encode a = .object (members a)
  names_members (a : α) : (members a).map (·.1) = (fields a).map (·.name)
  distinct (a : α) : ((fields a).map (·.name)).Nodup
  readable_members (a : α) : ∀ member ∈ members a, member.2.readable = true
  reads {a : α} {others : List (String × Json)} :
    others.map (·.1) = (fields a).map (·.name) →
    (∀ member ∈ others, member.2.readable = true) →
    (∀ tag ∈ tags, find? tag others = find? tag (members a)) →
    (decode (.object others)).map members = Field.readAll (fields a) others

end Testbed
