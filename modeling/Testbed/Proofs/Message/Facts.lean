import Testbed.Message.Builder
import Testbed.Proofs.Message.Setting

/-!
# Facts in messages

Facts are put wherever a new message holds a string. Not every such field is one for texts: moments,
the status of a result, how disks were set up and the kind of a measurement are written as strings
as well, and a fact of that name must spell one of them. A fact about the kind even changes which
fields there are.
-/
namespace Testbed

open Wire Record FieldRecord

theorem get?_stringFields (facts : Facts) (name : String) :
    (stringFields facts).get? name = (facts.get? name).map .string :=
  Dict.get?_mapValues ..

theorem proper_stringFields {facts : Facts} (name : String) (j : Json)
    (fact : (stringFields facts).get? name = some j) : j.Proper := by
  rw [get?_stringFields] at fact
  obtain ⟨text, -, rfl⟩ := Option.map_eq_some_iff.1 fact
  exact .string text

/-- Whether a fact, if there is one of the name, spells a value of a type. -/
def Spells (α : Type) [Wire α] (facts : Facts) (name : String) : Prop :=
  ∀ text, facts.get? name = some text → (decode (.string text) : Option α).isSome = true

section Given

variable {α : Type} [Wire α] [FieldRecord α] {a : α} {facts : Facts} {name : String}

/-- Facts are given to the fields that hold a string. -/
theorem given_stringFields {j : Json} : given a (stringFields facts) .stringsOnly name = some j ↔
    name ≠ "type" ∧ (∃ s, held a name = some (.string s)) ∧
      ∃ text, facts.get? name = some text ∧ .string text = j := by
  rw [given]
  cases holds : held a name with
  | none => simp
  | some held =>
    simp only [Option.bind_some, FieldPolicy.replacement?, FieldPolicy.admits, get?_stringFields]
    cases held <;> simp [FieldPolicy.isString]

/-- A field can be read from the fact that it is given, if it is given one. -/
def Takes (a : α) (facts : Facts) (f : Field) : Prop :=
  ∀ j, given a (stringFields facts) .stringsOnly f.name = some j → (f.type.reads j).isSome = true

theorem given_eq_none_of_ne (noString : ∀ s, held a name ≠ some (.string s)) :
    given a (stringFields facts) .stringsOnly name = none := by
  refine Option.eq_none_iff_forall_ne_some.2 (fun j given => ?_)
  obtain ⟨-, ⟨s, holds⟩, -⟩ := given_stringFields.1 given
  exact noString s holds

/-- A field that holds a string takes a fact only if the fact spells a value of its type. -/
theorem Takes.spells {β : Type} [Wire β] [Typed β] {f : Field} {s : String}
    (takes : Takes a facts f) (untyped : f.name ≠ "type")
    (holds : held a f.name = some (.string s)) (typed : f.type = Typed.type β) :
    Spells β facts f.name := by
  intro text fact
  have read := takes (.string text) (given_stringFields.2 ⟨untyped, ⟨s, holds⟩, text, fact, rfl⟩)
  rwa [typed, Typed.reads, respell, Option.isSome_map] at read

/-- And a field of the type can be read from a fact that does. -/
theorem Spells.takes {β : Type} [Wire β] [Typed β] {type : FieldType} {text : String}
    (spells : Spells β facts name) (typed : type = Typed.type β)
    (fact : facts.get? name = some text) : (type.reads (.string text)).isSome = true := by
  rw [typed, Typed.reads, respell, Option.isSome_map]
  exact spells text fact

theorem spells_text : Spells String facts name := fun _ _ => rfl

end Given

/-- Setting no fields changes nothing. -/
theorem applyFields_empty {α : Type} [Wire α] [FieldRecord α] (a : α) (policy : FieldPolicy) :
    applyFields a ∅ policy = .ok a := by
  have nothing : (members a).all (fun member => (policy.replacement? ∅ member).isNone) = true := by
    refine List.all_eq_true.2 (fun member _ => ?_)
    unfold FieldPolicy.replacement?
    split <;> rfl
  unfold applyFields
  rw [encode_eq]
  exact if_pos nothing

/-! ## Measurements -/

namespace PerfDetail

/-- The kind of some values under facts: the one that the facts name, if they do. -/
def kindBy (d : PerfDetail) (facts : Facts) : String := (facts.get? "perf_kind").getD d.kind

theorem exists_kind_eq_iff {name : String} : (∃ d : PerfDetail, d.kind = name) ↔ name ∈ kinds := by
  constructor
  · rintro ⟨d, rfl⟩
    cases d <;> exact of_decide_eq_true rfl
  · intro listed
    simp only [kinds, List.mem_cons, List.not_mem_nil, or_false] at listed
    rcases listed with rfl | rfl | rfl | rfl | rfl
    · exact ⟨disk {}, rfl⟩
    · exact ⟨cpu {}, rfl⟩
    · exact ⟨networkTcp {}, rfl⟩
    · exact ⟨networkUdp {}, rfl⟩
    · exact ⟨networkLatency {}, rfl⟩

theorem kind_eq_disk_iff {d : PerfDetail} : d.kind = "disk" ↔ ∃ v, d = disk v := by
  cases d <;> simp [kind]

end PerfDetail

namespace PerfMessage

/-- A measurement with moments of the calendar and finite numbers. -/
structure Sound (m : PerfMessage) : Prop where
  time : m.time.Valid
  testDate : m.testDate.Valid
  finite : AllFinite m.floats

namespace Sound

variable {m : PerfMessage} {values : Dict String Json} {policy : FieldPolicy}

theorem stable (sound : m.Sound) : decode (encode m) = some m :=
  ofJson?_members sound.time sound.testDate sound.finite

/-- Setting fields to proper values leaves a measurement sound. -/
theorem applyFields {set : PerfMessage} (sound : m.Sound)
    (proper : ∀ name j, values.get? name = some j → j.Proper)
    (done : applyFields m values policy = .ok set) : set.Sound := by
  have read := (applyFields_eq_ok_iff sound.stable).1 done
  obtain ⟨time, testDate, finite⟩ :=
    ofJson?_gives (.object (forall_replace (proper_members m) proper)) set read
  exact ⟨time, testDate, finite⟩

end Sound

section New

variable {wall : Timestamp} {detail : PerfDetail} {facts : Facts}

/-- The members of a new measurement with facts put into them. -/
def withFacts (wall : Timestamp) (detail : PerfDetail) (facts : Facts) : List (String × Json) :=
  (members (new wall detail)).map (FieldPolicy.stringsOnly.replace (stringFields facts))

theorem proper_withFacts : ∀ member ∈ withFacts wall detail facts, member.2.Proper :=
  forall_replace (proper_members _) proper_stringFields

theorem distinct_withFacts : ((withFacts wall detail facts).map (·.1)).Nodup := by
  rw [withFacts, names_replace, names_members]
  exact distinct_fields detail

theorem kind_withFacts : find? "perf_kind" (withFacts wall detail facts) =
    some (.string (detail.kindBy facts)) := by
  have held : find? "perf_kind" (members (new wall detail)) = some (.string detail.kind) := rfl
  rw [withFacts, find?_replace, held, PerfDetail.kindBy]
  simp only [FieldPolicy.replacement?, get?_stringFields]
  cases facts.get? "perf_kind" <;> rfl

theorem Sound.new (valid : wall.Valid) (finite : AllFinite detail.floats) :
    (PerfMessage.new wall detail).Sound where
  time := valid
  testDate := valid
  finite := by
    have zero : Binary64.zero.isFinite = true := by decide
    exact allFinite_cons.2 ⟨zero, finite⟩

theorem stable_new (valid : wall.Valid) (finite : AllFinite detail.floats) :
    decode (encode (new wall detail)) = some (new wall detail) :=
  (Sound.new valid finite).stable

/-- A new measurement with facts put into it is of the kind that the facts name, if they do. -/
theorem kind_of_withFacts {m : PerfMessage}
    (read : ofJson? (.object (withFacts wall detail facts)) = some m) :
    m.detail.kind = detail.kindBy facts :=
  ofJson?_kind (fun member listed => (proper_withFacts member listed).readable)
    distinct_withFacts kind_withFacts m read

/-- Each field of the new kind is read from the fact for it, or else from the value of its name. -/
theorem withFacts_reads {d : PerfDetail} (kind : d.kind = detail.kindBy facts) :
    (ofJson? (.object (withFacts wall detail facts))).map members =
      Field.readAll (fields d) (withFacts wall detail facts) :=
  ofJson?_reads (fun member listed => (proper_withFacts member listed).readable)
    distinct_withFacts (kind ▸ kind_withFacts)

theorem readAll_withFacts {d : PerfDetail} {m : PerfMessage}
    (kind : d.kind = detail.kindBy facts)
    (read : ofJson? (.object (withFacts wall detail facts)) = some m) :
    Field.readAll (fields d) (withFacts wall detail facts) = some m.members := by
  rw [← withFacts_reads kind, read]
  rfl

/-- Every field is read from the fact that is given for it, or else from the new measurement. -/
theorem value_withFacts {f : Field} : f.value (withFacts wall detail facts) =
    (given (new wall detail) (stringFields facts) .stringsOnly f.name).elim
      (f.value (FieldRecord.members (new wall detail))) f.type.reads := by
  rw [← value_replace]
  rfl

theorem name_ne_type {d : PerfDetail} {f : Field} (listed : f ∈ fields d) : f.name ≠ "type" := by
  have names : "type" ∉ (fields d).map (·.name) := by
    rw [names_fields]
    cases d <;> exact of_decide_eq_true rfl
  exact fun same => names (same ▸ List.mem_map_of_mem listed)

theorem held_new_isSome_iff {name : String} : (held (new wall detail) name).isSome = true ↔
    name ∈ (fields detail).map (·.name) := by
  rw [held, find?_isSome_iff]
  exact Iff.of_eq (congrArg (name ∈ ·) (names_members (new wall detail)))

variable {d : PerfDetail} {f : Field} (valid : wall.Valid) (finite : AllFinite detail.floats)

include valid finite in
/-- What a new measurement holds under a field's name can be read there also if the field is of
another kind. -/
theorem reads_held (listed : f ∈ fields d) {j : Json}
    (holds : held (new wall detail) f.name = some j) : f.type.reads j = some j := by
  have named := held_new_isSome_iff.1 (Option.isSome_iff_exists.2 ⟨j, holds⟩)
  obtain ⟨g, own, same⟩ := List.mem_map.1 named
  have read := value_members (stable_new valid finite) (f := g) own
  rw [same, holds, value_of_held (same ▸ holds)] at read
  rw [type_eq_of_name listed own same.symm]
  exact read

include valid finite in
/-- A field of any kind can be read from a new measurement: it holds a value of that name, or the
field may be left out. -/
theorem value_new_isSome (listed : f ∈ fields d) :
    (f.value (FieldRecord.members (new wall detail))).isSome = true := by
  have common : ∀ f ∈ fields d,
      f.missing.isSome = true ∨ f.name ∈ headerNames ++ ["perf_kind"] := by
    cases d <;> exact of_decide_eq_true rfl
  cases holds : held (new wall detail) f.name with
  | some j =>
    rw [value_of_held holds, reads_held valid finite listed holds]
    rfl
  | none =>
    have absent := mt held_new_isSome_iff.2 (Option.not_isSome_iff_eq_none.2 holds)
    rw [names_fields] at absent
    rw [Field.value, show find? f.name (FieldRecord.members (new wall detail)) = none from holds]
    refine (common f listed).resolve_right (fun everywhere => absent ?_)
    simp only [List.mem_append, List.mem_cons] at everywhere ⊢
    tauto

include valid finite in
/-- A measurement with facts put into it is read exactly if each field of the new kind takes what it
is given. -/
theorem exists_withFacts_iff (kind : d.kind = detail.kindBy facts) :
    (∃ m, ofJson? (.object (withFacts wall detail facts)) = some m) ↔
      ∀ f ∈ fields d, Takes (new wall detail) facts f := by
  rw [← Option.isSome_iff_exists, ← Option.isSome_map, withFacts_reads kind, Field.readAll_isSome]
  refine forall₂_congr (fun f listed => ?_)
  rw [value_withFacts, Takes]
  cases given (new wall detail) (stringFields facts) .stringsOnly f.name with
  | none => simpa using value_new_isSome valid finite listed
  | some j => simp

/-- The types of fields. All others than texts and numbers belong to few names. -/
theorem types (d : PerfDetail) : ∀ f ∈ fields d, f.type = .text ∨
    f.type = .moment ∧ (f.name = "time" ∨ f.name = "test_date") ∨
    f.type = .diskSetup ∧ f.name = "disk_setup_type" ∧ d.kind = "disk" ∨
    f.type = .diskKind ∧ f.name = "disk_type" ∧ d.kind = "disk" ∨ f.type.isNumber = true := by
  cases d <;> exact of_decide_eq_true rfl

/-- How disks were set up is told of disks only. -/
theorem kind_of_held_disk {name : String} (disk : name = "disk_setup_type" ∨ name = "disk_type")
    (holds : (held (new wall detail) name).isSome = true) : detail.kind = "disk" := by
  have only : ∀ name ∈ (fields detail).map (·.name),
      name = "disk_setup_type" ∨ name = "disk_type" → detail.kind = "disk" := by
    cases detail <;> exact of_decide_eq_true rfl
  exact only name (held_new_isSome_iff.1 holds) disk

/-- Facts that spell everything which a new measurement writes as a string and not as a text: a
kind, moments, and how disks were set up if the measurement is one of disks and stays one. -/
structure SpeltBy (facts : Facts) (detail : PerfDetail) : Prop where
  kind : detail.kindBy facts ∈ PerfDetail.kinds
  time : Spells Timestamp facts "time"
  testDate : Spells Timestamp facts "test_date"
  diskSetup : detail.kind = "disk" → detail.kindBy facts = "disk" →
    Spells DiskSetupType facts "disk_setup_type"
  diskType : detail.kind = "disk" → detail.kindBy facts = "disk" →
    Spells PerformanceDiskType facts "disk_type"

/-- Facts that a new measurement takes spell all that. -/
theorem SpeltBy.of_takes (kind : d.kind = detail.kindBy facts)
    (takes : ∀ f ∈ fields d, Takes (new wall detail) facts f) : SpeltBy facts detail := by
  have header (f : Field) (listed : f ∈ headerFields) : Takes (new wall detail) facts f :=
    takes f (List.mem_append_left _ listed)
  have disk (stays : detail.kindBy facts = "disk") (f : Field)
      (listed : f ∈ DiskPerformance.fields) : Takes (new wall detail) facts f := by
    obtain ⟨v, rfl⟩ := PerfDetail.kind_eq_disk_iff.1 (kind.trans stays)
    exact takes f (List.mem_append_right _ (List.mem_cons_of_mem _ listed))
  constructor
  case kind => exact PerfDetail.exists_kind_eq_iff.1 ⟨d, kind⟩
  case time =>
    have time := header (.required Timestamp "time") (by simp [headerFields])
    exact time.spells (by decide) rfl rfl
  case testDate =>
    have testDate := header (.required Timestamp "test_date") (by simp [headerFields])
    exact testDate.spells (by decide) rfl rfl
  case diskSetup =>
    intro isDisk stays
    obtain ⟨v, rfl⟩ := PerfDetail.kind_eq_disk_iff.1 isDisk
    have setup := disk stays (.defaulted "disk_setup_type" DiskSetupType.raw)
      (by simp [DiskPerformance.fields])
    exact setup.spells (by decide) rfl rfl
  case diskType =>
    intro isDisk stays
    obtain ⟨v, rfl⟩ := PerfDetail.kind_eq_disk_iff.1 isDisk
    have diskType := disk stays (.defaulted "disk_type" PerformanceDiskType.nvme)
      (by simp [DiskPerformance.fields])
    exact diskType.spells (by decide) rfl rfl

include valid finite in
/-- Facts that spell all that are taken: any other goes into a text, or nowhere. -/
theorem SpeltBy.takes (spelt : SpeltBy facts detail) (kind : d.kind = detail.kindBy facts) :
    ∀ f ∈ fields d, Takes (new wall detail) facts f := by
  intro f listed j taken
  obtain ⟨-, ⟨s, holds⟩, text, fact, rfl⟩ := given_stringFields.1 taken
  have whole : (held (new wall detail) f.name).isSome = true := by
    rw [holds]
    rfl
  rcases types d f listed with
    type | ⟨type, name⟩ | ⟨type, name, disk⟩ | ⟨type, name, disk⟩ | number
  · exact spells_text.takes type fact
  · rcases name with name | name
    · exact spelt.time.takes type (name ▸ fact)
    · exact spelt.testDate.takes type (name ▸ fact)
  · have setup := spelt.diskSetup (kind_of_held_disk (.inl name) whole) (kind ▸ disk)
    exact setup.takes type (name ▸ fact)
  · have diskType := spelt.diskType (kind_of_held_disk (.inr name) whole) (kind ▸ disk)
    exact diskType.takes type (name ▸ fact)
  · have read := reads_held valid finite listed holds
    rw [FieldType.reads_string_of_isNumber number] at read
    cases read

include valid finite in
/-- A new measurement takes all facts exactly if they spell what is not a text. -/
theorem exists_new_facts_iff : (∃ m,
      applyFields (new wall detail) (stringFields facts) .stringsOnly = .ok m) ↔
    SpeltBy facts detail := by
  have read : (∃ m, applyFields (new wall detail) (stringFields facts) .stringsOnly = .ok m) ↔
      ∃ m, ofJson? (.object (withFacts wall detail facts)) = some m :=
    exists_congr (fun m => applyFields_eq_ok_iff (stable_new valid finite))
  rw [read]
  constructor
  · rintro ⟨m, taken⟩
    have kind := kind_of_withFacts taken
    exact .of_takes kind ((exists_withFacts_iff valid finite kind).1 ⟨m, taken⟩)
  · intro spelt
    obtain ⟨d, kind⟩ := PerfDetail.exists_kind_eq_iff.2 spelt.kind
    exact (exists_withFacts_iff valid finite kind).2 (spelt.takes valid finite kind)

end New

end PerfMessage

/-! ## Sub-results -/

namespace SubTestMessage

variable {wall : Timestamp} {id name : String} {status : TestStatus} {facts : Facts}

theorem stable_new (valid : wall.Valid) :
    decode (encode (new wall id name status)) = some (new wall id name status) := by
  have zero : Binary64.zero.isFinite = true := by decide
  exact ofJson?_members valid zero

/-- A new sub-result takes all facts exactly if they spell a moment and a status. -/
theorem exists_new_facts_iff (valid : wall.Valid) : (∃ m,
      applyFields (new wall id name status) (stringFields facts) .stringsOnly = .ok m) ↔
    Spells Timestamp facts "time" ∧ Spells TestStatus facts "status" := by
  have readable (name : String) (j : Json) (fact : (stringFields facts).get? name = some j) :
      j.readable = true := (proper_stringFields name j fact).readable
  rw [exists_applyFields_eq_ok_iff (stable_new valid) readable
    (fun _ tag => absurd tag List.not_mem_nil)]
  constructor
  · intro takes
    constructor
    · have time : Takes (new wall id name status) facts (.required Timestamp "time") :=
        takes _ (.head _)
      exact time.spells (by decide) rfl rfl
    · have known : Takes (new wall id name status) facts (.required TestStatus "status") :=
        takes _ (by simp [FieldRecord.fields, fields])
      exact known.spells (by decide) rfl rfl
  · rintro ⟨time, known⟩ f listed j taken
    have types : ∀ f ∈ fields, f.type = .text ∨ f.type = .moment ∧ f.name = "time" ∨
        f.type = .testStatus ∧ f.name = "status" ∨ f.type.isNumber = true ∨
        f.name = "stacktrace" ∨ f.name = "information" := by decide
    obtain ⟨-, ⟨s, holds⟩, text, fact, rfl⟩ := given_stringFields.1 taken
    rcases types f listed with type | ⟨type, name⟩ | ⟨type, name⟩ | number | name | name
    · exact spells_text.takes type fact
    · exact time.takes type (name ▸ fact)
    · exact known.takes type (name ▸ fact)
    · have read := value_members (stable_new valid) listed
      rw [holds, value_of_held holds, FieldType.reads_string_of_isNumber number] at read
      cases read
    · rw [name] at holds
      cases holds
    · rw [name] at holds
      cases holds

end SubTestMessage

end Testbed
