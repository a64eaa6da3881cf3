import Testbed.Proofs.Message.Taking

/-!
# Which entry is blamed

A message that cannot take some fields blames the first entry which it cannot take by itself. There
always is one that was applied, also where a new kind of measurement is among the entries. The
search, however, looks at entries that were passed over as well, so an earlier one of these may be
blamed for what it did not do.
-/
namespace Testbed

open Wire Record FieldRecord

section Search

variable {α : Type} [Wire α] [FieldRecord α] {a : α} {values : Dict String Json}
  {policy : FieldPolicy} {name : String} {j value : Json}

theorem firstMismatch_eq_find? (entries : List (String × Json)) :
    firstMismatch α (members a) entries =
      entries.find? (fun entry => Spoils a entry.1 entry.2) := by
  induction entries with
  | nil => rfl
  | cons entry entries ih =>
    obtain ⟨name, j⟩ := entry
    have here : ((members a).any (fun member => member.1 = name) &&
        (decode (.object (putMember name j (members a))) : Option α).isNone) =
        decide (Spoils a name j) := by
      have holds : (held a name).isSome = (members a).any (fun member => member.1 = name) := by
        rw [Bool.eq_iff_iff, held, find?_isSome_iff]
        simp
      rw [← holds, Bool.eq_iff_iff, Bool.and_eq_true, decide_eq_true_eq]
      constructor
      · rintro ⟨holds, unread⟩
        exact ⟨holds, unread⟩
      · intro spoils
        exact ⟨spoils.exists_field, spoils.unread⟩
    rw [firstMismatch, here, ih, List.find?_cons]
    cases decide (Spoils a name j) <;> rfl

theorem firstMismatch_cons {entries : List (String × Json)} (spoils : Spoils a name value) :
    firstMismatch α (members a) ((name, value) :: entries) = some (name, value) := by
  simp [firstMismatch_eq_find?, spoils]

/-- The first of the entries that spoil a message by themselves. -/
theorem firstMismatch_eq_some (found : firstMismatch α (members a) values.entries =
    some (name, value)) : values.get? name = some value ∧ Spoils a name value ∧
      ∀ key j, values.get? key = some j → Spoils a key j → ¬ key < name := by
  rw [firstMismatch_eq_find?, List.find?_eq_some_iff_append] at found
  obtain ⟨spoils, before, behind, entries, earlier⟩ := found
  have listed : (name, value) ∈ values.entries := entries ▸ by simp
  refine ⟨(values.mem_entries _ _).1 listed, of_decide_eq_true spoils, ?_⟩
  intro key j entry spoils' below
  have ascending := entries ▸ values.ascending
  have listed' := entries ▸ (values.mem_entries _ _).2 entry
  obtain inFront | here | inBack : (key, j) ∈ before ∨ (key, j) = (name, value) ∨
      (key, j) ∈ behind := by simpa using listed'
  · simpa [spoils'] using earlier _ inFront
  · exact StrictOrder.ne_of_lt below (congrArg Prod.fst here)
  · have above := (List.pairwise_cons.1 (List.pairwise_append.1 ascending).2.1).1 _ inBack
    exact StrictOrder.asymm below above

/-- Fields cannot be set if what is set spoils the message, and then the search says what is
blamed. -/
theorem applyFields_eq_invalidField_iff :
    applyFields a values policy = .error (.invalidField name value) ↔
      (∃ key j, given a values policy key = some j) ∧
      (decode (.object ((members a).map (policy.replace values))) : Option α) = none ∧
      (firstMismatch α (members a) values.entries).getD ("", .null) = (name, value) := by
  have nothing : (members a).all (fun member =>
      (policy.replacement? values member).isNone) = true ↔
      ¬ ∃ key j, given a values policy key = some j := by
    constructor
    · rintro nothing ⟨key, j, set⟩
      cases set.symm.trans (given_eq_none nothing key)
    · intro nothing
      refine List.all_eq_true.2 (fun member listed => ?_)
      obtain ⟨key, held⟩ := member
      by_contra replaced
      obtain ⟨j, replaced⟩ := Option.ne_none_iff_exists'.1 (mt Option.isNone_iff_eq_none.2 replaced)
      have holds := find?_of_mem (names_members a ▸ distinct a) listed
      exact nothing ⟨key, j, Option.bind_eq_some_iff.2 ⟨held, holds, replaced⟩⟩
  unfold applyFields
  rw [encode_eq]
  dsimp only
  split
  · rename_i unset
    simp [nothing.1 unset]
  · rename_i something
    rw [nothing, not_not] at something
    cases (decode (.object ((members a).map (policy.replace values))) : Option α) with
    | some b => simp
    | none => simp [something, Prod.ext_iff]

/-- An entry that is applied is applied also when it is the only one. -/
theorem Applied.single (applied : Applied a values policy name j) :
    Applied a (Dict.empty.insert name j) policy name j :=
  { applied with entry := Dict.get?_insert_self _ _ _ }

/-- Setting a single field replaces the member of its name. -/
theorem map_replace_single (applied : Applied a values policy name j) :
    (members a).map (policy.replace (Dict.empty.insert name j)) =
      putMember name j (members a) := by
  refine List.map_congr_left (fun member listed => ?_)
  obtain ⟨key, held⟩ := member
  by_cases here : key = name
  · subst here
    have holds := find?_of_mem (names_members a ▸ distinct a) listed
    obtain ⟨k, holds', replaced⟩ := Option.bind_eq_some_iff.1 (applied_iff_given.1 applied.single)
    obtain rfl := Option.some.inj (holds.symm.trans holds')
    rw [FieldPolicy.replace, replaced, if_pos rfl, Option.getD_some]
  · have other : policy.replacement? (Dict.empty.insert name j) (key, held) = none := by
      rw [Option.eq_none_iff_forall_ne_some]
      intro k replaced
      have entry := get?_of_replacement? replaced
      rw [Dict.get?_insert, if_neg here] at entry
      cases entry
    rw [FieldPolicy.replace, other, if_neg here, Option.getD_none]

/-- An entry that was applied and that fails also when it is the only one. -/
structure Blamed (a : α) (values : Dict String Json) (policy : FieldPolicy) (name : String)
    (value : Json) : Prop extends Applied a values policy name value where
  alone : ∃ error, applyFields a (Dict.empty.insert name value) policy = .error error

theorem Applied.blamed (applied : Applied a values policy name value)
    (spoils : Spoils a name value) : Blamed a values policy name value := by
  refine ⟨applied, ?_⟩
  cases set : applyFields a (Dict.empty.insert name value) policy with
  | error error => exact ⟨error, rfl⟩
  | ok b =>
    obtain ⟨-, nothing⟩ | read := applyFields_ok set
    · cases (applied_iff_given.1 applied.single).symm.trans (nothing name)
    · rw [map_replace_single applied, Option.isNone_iff_eq_none.1 spoils.unread] at read
      cases read

end Search

/-- When fields cannot be set, what is blamed is the first of all entries that the message cannot
take by themselves. One that was applied is always among these; the blame is right exactly if such
a one comes before all that were passed over. -/
theorem applyFields_blame_iff {t : MessageType} {m : t.Content} {values : Dict String Json}
    {policy : FieldPolicy} {name : String} {value : Json}
    (readable : ∀ key j, values.get? key = some j → j.readable = true)
    (failed : applyFields m values policy = .error (.invalidField name value)) :
    (values.get? name = some value ∧ Spoils m name value ∧
      ∀ key j, values.get? key = some j → Spoils m key j → ¬ key < name) ∧
    (∃ key j, Applied m values policy key j ∧ Spoils m key j) ∧
    (Blamed m values policy name value ↔ ∀ key j, values.get? key = some j → Spoils m key j →
      ¬ Applied m values policy key j →
      ∃ key' j', Applied m values policy key' j' ∧ Spoils m key' j' ∧ key' < key) := by
  obtain ⟨something, unread, blamed⟩ := applyFields_eq_invalidField_iff.1 failed
  obtain ⟨culprit, k, set, spoils⟩ := MessageType.exists_spoils readable something unread
  have applied := applied_iff_given.2 set
  have found : firstMismatch t.Content (members m) values.entries = some (name, value) := by
    cases found : firstMismatch t.Content (members m) values.entries with
    | some entry =>
      rw [found, Option.getD_some] at blamed
      rw [blamed]
    | none =>
      rw [firstMismatch_eq_find?, List.find?_eq_none] at found
      have listed := (values.mem_entries culprit k).2 applied.entry
      exact absurd (decide_eq_true spoils) (found _ listed)
  obtain ⟨entry, spoils', first⟩ := firstMismatch_eq_some found
  refine ⟨⟨entry, spoils', first⟩, ⟨culprit, k, applied, spoils⟩, ?right, ?wrong⟩
  case right =>
    intro right key j entry' spoilt passedOver
    have apart : key ≠ name := by
      rintro rfl
      obtain rfl := Option.some.inj (entry.symm.trans entry')
      exact passedOver right.toApplied
    have below : name < key := by
      by_contra notBelow
      exact apart (StrictOrder.eq_of_not_lt (first key j entry' spoilt) notBelow)
    exact ⟨name, value, right.toApplied, spoils', below⟩
  case wrong =>
    intro earlier
    have applied' : Applied m values policy name value := by
      by_contra passedOver
      obtain ⟨key, j, applied, spoilt, below⟩ := earlier name value entry spoils' passedOver
      exact first key j applied.entry spoilt below
    exact applied'.blamed spoils'

/-- A flag is passed over by facts, but blamed for a moment that cannot be read. -/
theorem applyFields_blame_iff_flag :
    let m : MessageType.kernelBuild.Content := ({} : KernelBuildMessage)
    let values := stringFields (Dict.ofList [("is_success", "yes"), ("time", "noon")])
    (∀ key j, values.get? key = some j → j.readable = true) ∧
    applyFields m values .stringsOnly = .error (.invalidField "is_success" (.string "yes")) ∧
    ¬ Blamed m values .stringsOnly "is_success" (.string "yes") ∧
    Blamed m values .stringsOnly "time" (.string "noon") := by
  intro m values
  have readable (key : String) (j : Json) (entry : values.get? key = some j) :
      j.readable = true := (proper_stringFields key j entry).readable
  have failed : applyFields m values .stringsOnly =
      .error (.invalidField "is_success" (.string "yes")) := by
    have spoils : Spoils m "is_success" (.string "yes") :=
      show Spoils ({} : KernelBuildMessage) _ _ by decide +kernel
    have found : firstMismatch _ (members m) values.entries = some ("is_success", .string "yes") :=
      firstMismatch_cons spoils
    refine applyFields_eq_invalidField_iff.2 ⟨⟨"time", .string "noon", rfl⟩, ?_, ?_⟩
    · exact Option.isNone_iff_eq_none.1 (by decide +kernel)
    · rw [found, Option.getD_some]
  obtain ⟨⟨entry, spoils, first⟩, -, right⟩ := applyFields_blame_iff readable failed
  refine ⟨readable, failed, ?flag, ?moment⟩
  case flag =>
    have passedOver : ¬ Applied m values .stringsOnly "is_success" (.string "yes") := by
      intro applied
      obtain ⟨text, holds⟩ := applied.admitted rfl
      cases holds
    rw [right]
    intro earlier
    obtain ⟨key, j, applied, spoilt, below⟩ := earlier _ _ entry spoils passedOver
    exact first key j applied.entry spoilt below
  case moment =>
    have applied : Applied m values .stringsOnly "time" (.string "noon") := applied_iff_given.2 rfl
    have spoils : Spoils m "time" (.string "noon") :=
      show Spoils ({} : KernelBuildMessage) _ _ by decide +kernel
    exact applied.blamed spoils

end Testbed
