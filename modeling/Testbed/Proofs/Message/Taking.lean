import Testbed.Proofs.Message.Frame

/-!
# Taking one entry

A message that takes each of the entries that are applied by itself takes them all. Mostly this is
so because every field is read on its own. A new kind of measurement is among the entries at most
once, and then what the other entries set is read as before, since fields of one name are of one
type whatever the kind.
-/
namespace Testbed

open Wire Record FieldRecord

/-! ## Taking one entry -/

section Members

variable {name key : String} {j : Json} {members : List (String × Json)}

theorem find?_putMember : find? key (putMember name j members) =
    (find? key members).map (fun held => if key = name then j else held) := by
  induction members with
  | nil => rfl
  | cons member members ih =>
    obtain ⟨first, k⟩ := member
    rw [putMember, List.map_cons, ← putMember, find?_cons]
    by_cases here : first = key
    · subst here
      by_cases same : first = name
      · subst same
        simp [find?_cons]
      · simp [find?_cons, same]
    · by_cases same : first = name
      · subst same
        simp [find?_cons, here, ih]
      · simp [find?_cons, here, same, ih]

theorem names_putMember : (putMember name j members).map (·.1) = members.map (·.1) := by
  rw [putMember, List.map_map]
  refine List.map_congr_left (fun member _ => ?_)
  dsimp only [Function.comp_apply]
  split
  · exact Eq.symm ‹_›
  · rfl

theorem readable_putMember (whole : ∀ member ∈ members, member.2.readable = true)
    (readable : j.readable = true) :
    ∀ member ∈ putMember name j members, member.2.readable = true := by
  intro member listed
  obtain ⟨before, present, rfl⟩ := List.mem_map.1 listed
  split
  · exact readable
  · exact whole before present

end Members

section Taking

variable {α : Type} [Wire α] [FieldRecord α] {a : α} {values : Dict String Json}
  {policy : FieldPolicy} {name : String} {j : Json} {f : Field}

/-- A message that has a field of a name cannot be read with a value in its place. -/
structure Spoils (a : α) (name : String) (j : Json) : Prop where
  exists_field : (held a name).isSome = true
  unread : (decode (.object (putMember name j (members a))) : Option α).isNone = true

instance : Decidable (Spoils a name j) :=
  decidable_of_iff ((held a name).isSome = true ∧
      (decode (.object (putMember name j (members a))) : Option α).isNone = true)
    ⟨fun ⟨holds, unread⟩ => ⟨holds, unread⟩,
      fun spoils => ⟨spoils.exists_field, spoils.unread⟩⟩

theorem not_spoils_iff (holds : (held a name).isSome = true) : ¬ Spoils a name j ↔
    (decode (.object (putMember name j (members a))) : Option α).isSome = true := by
  rw [← Option.not_isNone, Bool.not_eq_true', ← Bool.not_eq_true, not_iff_not]
  exact ⟨Spoils.unread, fun unread => ⟨holds, unread⟩⟩

theorem value_putMember_self (holds : (held a f.name).isSome = true) :
    f.value (putMember f.name j (members a)) = f.type.reads j := by
  obtain ⟨k, holds⟩ := Option.isSome_iff_exists.1 holds
  rw [Field.value, find?_putMember, show find? f.name (members a) = some k from holds]
  simp

theorem value_putMember_of_ne (other : f.name ≠ name) :
    f.value (putMember name j (members a)) = f.value (members a) := by
  rw [Field.value, Field.value, find?_putMember]
  simp [other]

/-- A message takes a value in the place of another if each of its fields can be read then. -/
theorem not_spoils_iff_values (holds : (held a name).isSome = true) (readable : j.readable = true)
    (untagged : name ∉ tags α) : ¬ Spoils a name j ↔
      ∀ f ∈ fields a, (f.value (putMember name j (members a))).isSome = true := by
  have read : (decode (.object (putMember name j (members a))) : Option α).map members =
      Field.readAll (fields a) (putMember name j (members a)) := by
    refine reads (names_putMember.trans (names_members a))
      (readable_putMember (readable_members a) readable) (fun tag listed => ?_)
    have other : tag ≠ name := fun same => untagged (same ▸ listed)
    simp [find?_putMember, other]
  rw [not_spoils_iff holds, ← Field.readAll_isSome, ← read, Option.isSome_map]

theorem held_isSome_of_given (set : given a values policy name = some j) :
    (held a name).isSome = true := (applied_iff_given.2 set).exists_field

/-- A message that takes each of the entries that are applied by itself takes them together, if
they leave alone how its fields are read. -/
theorem replace_isSome_of_alone (whole : ∀ name j, values.get? name = some j → j.readable = true)
    (untagged : ∀ tag ∈ tags α, given a values policy tag = none)
    (something : ∃ name j, given a values policy name = some j)
    (alone : ∀ name j, given a values policy name = some j → ¬ Spoils a name j) :
    (decode (.object ((members a).map (policy.replace values))) : Option α).isSome = true := by
  have takes (name : String) (j : Json) (set : given a values policy name = some j) :
      ∀ f ∈ fields a, (f.value (putMember name j (members a))).isSome = true := by
    have noTag : name ∉ tags α := fun tag => by cases set.symm.trans (untagged name tag)
    have entry := (applied_iff_given.2 set).entry
    exact (not_spoils_iff_values (held_isSome_of_given set) (whole name j entry) noTag).1
      (alone name j set)
  rw [← Option.isSome_map, reads_replace whole untagged, Field.readAll_isSome]
  intro f listed
  rw [value_replace]
  cases set : given a values policy f.name with
  | some j =>
    have taken := takes f.name j set f listed
    rwa [value_putMember_self (held_isSome_of_given set)] at taken
  | none =>
    -- What is not set can be read, as it could be when another entry was taken.
    obtain ⟨name, j, other⟩ := something
    have apart : f.name ≠ name := by
      rintro rfl
      cases set.symm.trans other
    have taken := takes name j other f listed
    rwa [value_putMember_of_ne apart] at taken

end Taking

/-! ## Another kind of measurement -/

namespace PerfDetail

/-- The kind that a tag names, by its name or by its place. -/
def kindNamed? : Json → Option String
  | .string name => some name
  | .integer place => if 0 ≤ place then kinds[place.toNat]? else none
  | _ => none

variable {others : List (String × Json)} {tag : Json}

theorem ofShared?_of_tag (whole : ∀ member ∈ others, member.2.readable = true)
    (distinct : (others.map (·.1)).Nodup) (tagged : find? "perf_kind" others = some tag) :
    ofShared? others = (kindNamed? tag).bind fun name =>
      ofKind? name (.object (others.filter (fun member => member.1 ≠ "perf_kind"))) := by
  rw [ofShared?, tagged?_of_find? whole distinct tagged, some_bind]
  cases tag with
  | integer place =>
    dsimp only [kindNamed?]
    split <;> rfl
  | _ => rfl

/-- Values are read if their tag names a kind of which every field can be read. -/
theorem ofShared?_isSome_iff (whole : ∀ member ∈ others, member.2.readable = true)
    (distinct : (others.map (·.1)).Nodup) (tagged : find? "perf_kind" others = some tag) :
    (ofShared? others).isSome = true ↔ ∃ d : PerfDetail, kindNamed? tag = some d.kind ∧
      ∀ f ∈ d.fields, (f.value others).isSome = true := by
  have read (d : PerfDetail) :
      (ofKind? d.kind (.object (others.filter (fun member => member.1 ≠ "perf_kind")))).isSome =
        true ↔ ∀ f ∈ d.fields, (f.value others).isSome = true := by
    rw [← Field.readAll_isSome, ← ofKind?_untagged_reads distinct, Option.isSome_map]
  rw [ofShared?_of_tag whole distinct tagged]
  constructor
  · intro found
    obtain ⟨d, joint⟩ := Option.isSome_iff_exists.1 found
    obtain ⟨name, named, given⟩ := Option.bind_eq_some_iff.1 joint
    obtain rfl := ofKind?_kind _ _ d given
    exact ⟨d, named, (read d).1 (Option.isSome_of_eq_some given)⟩
  · rintro ⟨d, named, all⟩
    rw [named, Option.bind_some]
    exact (read d).2 all

end PerfDetail

namespace PerfMessage

variable {others : List (String × Json)} {tag : Json}

theorem ofJson?_header (distinct : (others.map (·.1)).Nodup) :
    (ofJson? (.object others)).map header =
      (PerfDetail.ofShared? (others.filter (fun member => member.1 ∉ headerNames))).bind
        fun _ => Field.readAll headerFields others := by
  have isRecord : ofMembers? headerNames others = some ⟨false, others⟩ :=
    ofMembers?_of_count (fun name _ => List.nodup_iff_count_le_one.1 distinct name)
  simp only [ofJson?, isRecord, some_bind]
  cases PerfDetail.ofShared? (others.filter (fun member => member.1 ∉ headerNames)) with
  | none => rfl
  | some detail =>
    rw [some_bind, Option.bind_some]
    refine reads_all ?_
    iterate 18 refine reads_required fun _ => ?_
    exact reads_done rfl

/-- Beside the tag there are the fields of the header and those of the values. -/
theorem forall_fields_iff {d : PerfDetail} {P : Field → Prop} :
    (∀ f ∈ fields d, f.name ≠ "perf_kind" → P f) ↔
      (∀ f ∈ headerFields, P f) ∧ ∀ f ∈ d.fields, P f := by
  have inHeader : ∀ f ∈ headerFields, f.name ≠ "perf_kind" := by decide
  have inValues : ∀ f ∈ d.fields, f.name ≠ "perf_kind" := fun f listed tag =>
    d.perfKind_notMem (d.names_values ▸ d.names_fields ▸ tag ▸ List.mem_map_of_mem listed)
  simp only [fields, PerfDetail.sharedFields, List.forall_mem_append, List.forall_mem_cons]
  grind [Field.required]

/-- A measurement is read if its tag names a kind of which every field can be read. -/
theorem ofJson?_isSome_iff (whole : ∀ member ∈ others, member.2.readable = true)
    (distinct : (others.map (·.1)).Nodup) (tagged : find? "perf_kind" others = some tag) :
    (ofJson? (.object others)).isSome = true ↔ ∃ d : PerfDetail,
      PerfDetail.kindNamed? tag = some d.kind ∧
      ∀ f ∈ fields d, f.name ≠ "perf_kind" → (f.value others).isSome = true := by
  let values := others.filter (fun member => member.1 ∉ headerNames)
  have kept : find? "perf_kind" values = some tag := find?_perfKind.trans tagged
  have shared (d : PerfDetail) : (∀ f ∈ d.fields, (f.value values).isSome = true) ↔
      ∀ f ∈ d.fields, (f.value others).isSome = true := by
    refine forall₂_congr (fun f listed => ?_)
    rw [Field.value, Field.value, find?_sharedField (List.mem_cons_of_mem _ listed)]
  have both : ((PerfDetail.ofShared? values).bind fun _ =>
      Field.readAll headerFields others).isSome = true ↔
      (PerfDetail.ofShared? values).isSome = true ∧
        ∀ f ∈ headerFields, (f.value others).isSome = true := by
    rw [← Field.readAll_isSome]
    cases PerfDetail.ofShared? values <;> simp
  rw [← Option.isSome_map, ofJson?_header distinct, both, PerfDetail.ofShared?_isSome_iff
    (fun member listed => whole member (List.mem_filter.1 listed).1)
    (distinct_filter distinct _) kept]
  simp only [forall_fields_iff]
  constructor
  · rintro ⟨⟨d, named, values⟩, header⟩
    exact ⟨d, named, header, (shared d).1 values⟩
  · rintro ⟨d, named, header, values⟩
    exact ⟨⟨d, named, (shared d).2 values⟩, header⟩

/-- A measurement that takes a tag becomes one of the kind that it names, of which it has all other
fields. -/
theorem exists_kind_of_takes {m : PerfMessage} (readable : tag.readable = true)
    (takes : ¬ Spoils m "perf_kind" tag) : ∃ d : PerfDetail,
      PerfDetail.kindNamed? tag = some d.kind ∧
      ∀ f ∈ fields d, f.name ≠ "perf_kind" → (f.value m.members).isSome = true := by
  have distinct : ((putMember "perf_kind" tag m.members).map (·.1)).Nodup := by
    rw [names_putMember, m.names_members]
    exact distinct_fields m.detail
  have tagged : find? "perf_kind" (putMember "perf_kind" tag m.members) = some tag := by
    rw [find?_putMember]
    rfl
  obtain ⟨d, named, read⟩ := (ofJson?_isSome_iff
    (readable_putMember m.readable_members readable) distinct tagged).1
    ((not_spoils_iff rfl).1 takes)
  refine ⟨d, named, fun f listed other => ?_⟩
  have value : f.value (putMember "perf_kind" tag m.members) = f.value m.members :=
    value_putMember_of_ne (a := m) other
  exact value ▸ read f listed other

/-- A field of any kind can be read from what a measurement takes in the place of its name: what is
there before is of the same type. -/
theorem reads_isSome_of_takes {m : PerfMessage} {d : PerfDetail} {f : Field} {j : Json}
    (listed : f ∈ fields d) (other : f.name ≠ "perf_kind") (holds : (held m f.name).isSome = true)
    (readable : j.readable = true) (takes : ¬ Spoils m f.name j) :
    (f.type.reads j).isSome = true := by
  obtain ⟨g, before, same⟩ : ∃ g ∈ fields m.detail, g.name = f.name := by
    have present := find?_isSome_iff.1 holds
    rw [show (FieldRecord.members m).map (·.1) = _ from m.names_members] at present
    exact List.mem_map.1 present
  have untagged : f.name ∉ tags PerfMessage := fun tag => other (List.mem_singleton.1 tag)
  have taken := (not_spoils_iff_values holds readable untagged).1 takes g before
  rw [← same] at holds taken
  rwa [value_putMember_self holds, ← type_eq_of_name listed before same.symm] at taken

/-- A measurement that is given another kind, and takes each of the entries that are applied by
itself, takes them together. -/
theorem replace_isSome_of_alone {m : PerfMessage} {values : Dict String Json}
    {policy : FieldPolicy} (whole : ∀ name j, values.get? name = some j → j.readable = true)
    (retagged : given m values policy "perf_kind" = some tag)
    (alone : ∀ name j, given m values policy name = some j → ¬ Spoils m name j) :
    (ofJson? (.object (m.members.map (policy.replace values)))).isSome = true := by
  have readable (name : String) (j : Json) (set : given m values policy name = some j) :
      j.readable = true := whole name j (applied_iff_given.2 set).entry
  obtain ⟨d, named, taken⟩ := exists_kind_of_takes (readable _ _ retagged) (alone _ _ retagged)
  have tagged : find? "perf_kind" (m.members.map (policy.replace values)) = some tag := by
    obtain ⟨k, holds, replaced⟩ := Option.bind_eq_some_iff.1 retagged
    rw [find?_replace, show find? "perf_kind" m.members = some k from holds, Option.map_some,
      replaced, Option.getD_some]
  have distinct : ((m.members.map (policy.replace values)).map (·.1)).Nodup := by
    rw [names_replace, m.names_members]
    exact distinct_fields m.detail
  refine (ofJson?_isSome_iff (forall_replace (P := fun j => j.readable = true)
    m.readable_members whole) distinct tagged).2 ⟨d, named, ?_⟩
  intro f listed other
  rw [show f.value (m.members.map (policy.replace values)) =
    (given m values policy f.name).elim (f.value m.members) f.type.reads from
      value_replace (a := m)]
  cases set : given m values policy f.name with
  | none => exact taken f listed other
  | some j =>
    exact reads_isSome_of_takes listed other (held_isSome_of_given set) (readable _ _ set)
      (alone _ _ set)

end PerfMessage

/-! ## Messages of every type -/

namespace Message

variable {p : PerfMessage} {values : Dict String Json} {policy : FieldPolicy} {name : String}
  {j : Json} {others : List (String × Json)}

theorem held_performance (untyped : name ≠ "type") :
    held (performance p) name = held p name := (find?_cons ..).trans (if_neg untyped.symm)

/-- The fields of a measurement are set alike with and without its type beside them. -/
theorem given_performance :
    given (performance p) values policy name = given p values policy name := by
  by_cases typed : name = "type"
  · rw [given_eq_none_iff.2 (fun _ applied => applied.untyped typed),
      given_eq_none_iff.2 (fun _ applied => applied.untyped typed)]
  · rw [given, given, held_performance typed]

theorem decode_performance (whole : ∀ member ∈ others, member.2.readable = true)
    (named : others.map (·.1) = p.members.map (·.1)) :
    (decode (.object (("type", .string "Performance") :: others)) : Option Message) =
      (PerfMessage.ofJson? (.object others)).map performance :=
  decode_typed (m := performance p) whole (named ▸ (performance p).type_notMem)

theorem spoils_performance (readable : j.readable = true) (spoils : Spoils p name j) :
    Spoils (performance p) name j := by
  have untyped : name ≠ "type" := by
    rintro rfl
    exact (performance p).type_notMem (find?_isSome_iff.1 spoils.exists_field)
  refine ⟨(held_performance untyped).symm ▸ spoils.exists_field, ?_⟩
  have put : putMember name j (FieldRecord.members (performance p)) =
      ("type", .string "Performance") :: putMember name j p.members :=
    congrArg (· :: _) (if_neg untyped.symm)
  have unread : (PerfMessage.ofJson? (.object (putMember name j p.members))).isNone = true :=
    spoils.unread
  rw [put, decode_performance (readable_putMember p.readable_members readable) names_putMember,
    Option.isNone_map]
  exact unread

end Message

/-- A message that cannot take the entries that are applied cannot take one of them by itself. -/
theorem MessageType.exists_spoils {t : MessageType} {m : t.Content} {values : Dict String Json}
    {policy : FieldPolicy} (whole : ∀ name j, values.get? name = some j → j.readable = true)
    (something : ∃ name j, given m values policy name = some j)
    (unread : (decode (.object ((members m).map (policy.replace values))) : Option t.Content) =
      none) : ∃ name j, given m values policy name = some j ∧ Spoils m name j := by
  by_contra alone
  push Not at alone
  refine absurd unread (Option.isSome_iff_ne_none.1 ?_)
  cases retagged : given m values policy "perf_kind" with
  | none =>
    refine replace_isSome_of_alone whole (fun tag listed => ?_) something alone
    obtain rfl | rfl := eq_of_mem_tags listed
    · exact given_eq_none_iff.2 (fun _ applied => applied.untyped rfl)
    · exact retagged
  | some tag =>
    cases t with
    | performance => exact PerfMessage.replace_isSome_of_alone whole retagged alone
    | typed =>
      cases m with
      | performance p =>
        have replaced : (decode (.object ((members (Message.performance p)).map
              (policy.replace values))) : Option Message) =
            (PerfMessage.ofJson? (.object (p.members.map (policy.replace values)))).map
              .performance :=
          Message.decode_performance (forall_replace (P := fun j => j.readable = true)
            p.readable_members whole) names_replace
        have measured : (PerfMessage.ofJson?
            (.object (p.members.map (policy.replace values)))).isSome = true := by
          refine PerfMessage.replace_isSome_of_alone whole
            (Message.given_performance.symm.trans retagged) (fun name j set spoils => ?_)
          exact alone name j (Message.given_performance.trans set) (Message.spoils_performance
            (whole name j (applied_iff_given.2 set).entry) spoils)
        exact (congrArg Option.isSome replaced).trans (Option.isSome_map.trans measured)
      | _ => cases retagged
    | _ => cases retagged

end Testbed
