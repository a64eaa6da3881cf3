import Mathlib.Data.List.Forall2
import Testbed.Proofs.Json.Lossless

/-!
# Trees that differ in places

Two objects may have the same names in the same order, and the same values except under some names,
where values may differ in ways of their own. A record that is read from both differs in the fields
of these names only. Sorting members keeps such a likeness, and so does putting them together to a
dictionary.
-/
namespace Testbed

open Wire

section Lists

variable {α β γ : Type} {f : α → β} {g : α → γ} {as bs : List α}

theorem map_eq_of_forall₂ (same : List.Forall₂ (fun a b => f a = f b) as bs) :
    as.map f = bs.map f := by
  induction same with
  | nil => rfl
  | cons here _ ih => rw [List.map_cons, List.map_cons, here, ih]

theorem map_eq_iff_of_forall₂ (same : List.Forall₂ (fun a b => f a = f b ↔ g a = g b) as bs) :
    as.map f = bs.map f ↔ as.map g = bs.map g := by
  induction same with
  | nil => simp
  | cons here _ ih => simp [here, ih]

end Lists

namespace Json

variable {may : String → Json → Json → Prop} {a b : List (String × Json)}

/-- Members with the same names, in order, and with the same values or such as may differ there. -/
def MembersAlike (may : String → Json → Json → Prop) (a b : List (String × Json)) : Prop :=
  List.Forall₂ (fun x y => x.1 = y.1 ∧ (x.2 = y.2 ∨ may x.1 x.2 y.2)) a b

/-- Objects with such members, or the same tree. -/
def ObjectsAlike (may : String → Json → Json → Prop) : Json → Json → Prop
  | .object a, .object b => MembersAlike may a b
  | j, j' => j = j'

/-- Records, given as objects or by position, that differ in some fields. -/
def RecordsAlike (names : List String) (may : String → Json → Json → Prop) : Json → Json → Prop
  | .array a, .array b =>
    MembersAlike may (names.zip a) (names.zip b) ∧ a.drop names.length = b.drop names.length
  | j, j' => ObjectsAlike may j j'

/-- Arrays whose elements differ in some way, or the same tree. -/
def ElementsAlike (may : Json → Json → Prop) : Json → Json → Prop
  | .array a, .array b => List.Forall₂ may a b
  | j, j' => j = j'

namespace MembersAlike

theorem refl (may : String → Json → Json → Prop) (a : List (String × Json)) :
    MembersAlike may a a := by
  induction a with
  | nil => exact .nil
  | cons member rest ih => exact .cons ⟨rfl, .inl rfl⟩ ih

/-- Names that are left out of both leave the others alike, and no longer count. -/
theorem filter {may' : String → Json → Json → Prop} (alike : MembersAlike may a b)
    (keep : String → Bool) (kept : ∀ name x y, keep name = true → may name x y → may' name x y) :
    MembersAlike may' (a.filter (fun member => keep member.1))
      (b.filter (fun member => keep member.1)) := by
  induction alike with
  | nil => exact .nil
  | cons here _ ih =>
    rw [List.filter_cons, List.filter_cons, here.1]
    split
    · rename_i keeps
      exact .cons ⟨here.1, here.2.imp_right (kept _ _ _ (here.1 ▸ keeps))⟩ ih
    · exact ih

/-- The first values of a name differ only in ways that the name allows. -/
theorem find? (alike : MembersAlike may a b) (name : String) :
    Option.Rel (fun x y => x = y ∨ may name x y) (Record.find? name a) (Record.find? name b) := by
  induction alike with
  | nil => exact .none
  | @cons member member' rest rest' here _ ih =>
    obtain ⟨key, j⟩ := member
    obtain ⟨key', j'⟩ := member'
    obtain ⟨rfl, close⟩ := here
    rw [Record.find?_cons, Record.find?_cons]
    split
    · rename_i same
      exact .some (same ▸ close)
    · exact ih

/-- A name under which nothing may differ has the same value. -/
theorem find?_eq (alike : MembersAlike may a b) {name : String} (same : ∀ x y, ¬ may name x y) :
    Record.find? name a = Record.find? name b := by
  have close := alike.find? name
  generalize Record.find? name a = x at close ⊢
  generalize Record.find? name b = y at close ⊢
  cases close with
  | none => rfl
  | some held => rw [held.resolve_right (same _ _)]

/-- Members that may differ under one name are the same if the values of that name are. -/
theorem eq_of_valuesOf (alike : MembersAlike may a b) {name : String}
    (only : ∀ key x y, may key x y → key = name) (same : valuesOf name a = valuesOf name b) :
    a = b := by
  induction alike with
  | nil => rfl
  | @cons member member' rest rest' here _ ih =>
    obtain ⟨key, j⟩ := member
    obtain ⟨key', j'⟩ := member'
    obtain ⟨rfl, close⟩ := here
    by_cases at_name : key = name
    · simp only [valuesOf, at_name, List.filter_cons, decide_true, if_true, List.map_cons,
        List.cons.injEq] at same
      rw [same.1, ih same.2]
    · simp only [valuesOf, at_name, List.filter_cons, decide_false] at same
      have unchanged : j = j' := close.resolve_right (fun may => at_name (only key j j' may))
      rw [unchanged, ih same]

theorem insertEntry (alike : MembersAlike may a b) {name : String} {j j' : Json}
    (here : j = j' ∨ may name j j') :
    MembersAlike may (Dict.insertEntry name j a) (Dict.insertEntry name j' b) := by
  induction alike with
  | nil => exact .cons ⟨rfl, here⟩ .nil
  | @cons member member' rest rest' close others ih =>
    rw [Dict.insertEntry, Dict.insertEntry, close.1]
    split
    · exact .cons ⟨rfl, here⟩ (.cons close others)
    · split
      · exact .cons close ih
      · exact .cons ⟨rfl, here⟩ others

end MembersAlike

/-- Members are put into an object as entries are into a dictionary. -/
theorem insertMember_eq_insertEntry (name : String) (j : Json) (members : List (String × Json)) :
    insertMember name j members = Dict.insertEntry name j members := by
  induction members with
  | nil => rfl
  | cons member rest ih => rw [insertMember, Dict.insertEntry, ih]

/-- Sorting keeps members close if it keeps the ways in which values may differ. -/
theorem MembersAlike.sorted (kept : ∀ name x y, may name x y → may name x.sorted y.sorted)
    {done done' : List (String × Json)} (before : MembersAlike may done done')
    (alike : MembersAlike may a b) :
    MembersAlike may (sortedMembers done a) (sortedMembers done' b) := by
  induction alike generalizing done done' with
  | nil => simpa [sortedMembers] using before
  | @cons member member' rest rest' here _ ih =>
    obtain ⟨name, j⟩ := member
    obtain ⟨name', j'⟩ := member'
    obtain ⟨rfl, close⟩ := here
    rw [sortedMembers, sortedMembers, insertMember_eq_insertEntry, insertMember_eq_insertEntry]
    apply ih
    apply before.insertEntry
    exact close.imp (congrArg Json.sorted) (kept name j j')

theorem decodeTree_eq {j k : Json} (read : (decode j : Option Json) = some k) : k = j.sorted := by
  change (if j.readable then some j.sorted else none) = some k at read
  split at read
  · exact (Option.some.inj read).symm
  · cases read

theorem MembersAlike.decodeEntries (kept : ∀ name x y, may name x y → may name x.sorted y.sorted)
    {entries entries' : List (String × Json)} (alike : MembersAlike may a b)
    (read : Wire.decodeEntries a = some entries) (read' : Wire.decodeEntries b = some entries') :
    MembersAlike may entries entries' := by
  induction alike generalizing entries entries' with
  | nil =>
    obtain rfl := Option.some.inj read
    obtain rfl := Option.some.inj read'
    exact .nil
  | @cons member member' rest rest' here _ ih =>
    obtain ⟨name, j⟩ := member
    obtain ⟨name', j'⟩ := member'
    obtain ⟨rfl, close⟩ := here
    simp only [Wire.decodeEntries, Option.bind_eq_bind, Option.bind_eq_some_iff, Option.pure_def,
      Option.some.injEq] at read read'
    obtain ⟨k, tree, others, rest_read, rfl⟩ := read
    obtain ⟨k', tree', others', rest_read', rfl⟩ := read'
    obtain rfl := decodeTree_eq tree
    obtain rfl := decodeTree_eq tree'
    refine .cons ⟨rfl, ?_⟩ (ih rest_read rest_read')
    exact close.imp (congrArg Json.sorted) (kept name j j')

theorem MembersAlike.foldl_insert {d d' : Dict String Json}
    (before : MembersAlike may d.entries d'.entries) (alike : MembersAlike may a b) :
    MembersAlike may (a.foldl (fun d entry => d.insert entry.1 entry.2) d).entries
      (b.foldl (fun d entry => d.insert entry.1 entry.2) d').entries := by
  induction alike generalizing d d' with
  | nil => exact before
  | @cons member member' rest rest' here _ ih =>
    rw [List.foldl_cons, List.foldl_cons]
    apply ih
    rw [← here.1]
    exact before.insertEntry here.2

/-- The dictionaries that are read from objects that differ in places do so, too. -/
theorem MembersAlike.decode (kept : ∀ name x y, may name x y → may name x.sorted y.sorted)
    {d d' : Dict String Json} (alike : MembersAlike may a b)
    (read : Wire.decode (.object a) = some d) (read' : Wire.decode (.object b) = some d') :
    MembersAlike may d.entries d'.entries := by
  obtain ⟨entries, decoded, rfl⟩ := Option.map_eq_some_iff.1 read
  obtain ⟨entries', decoded', rfl⟩ := Option.map_eq_some_iff.1 read'
  exact foldl_insert (MembersAlike.refl may _) (alike.decodeEntries kept decoded decoded')

theorem find?_eq_get? (d : Dict String Json) (name : String) :
    Record.find? name d.entries = d.get? name := by
  have found (entries : List (String × Json)) :
      Record.find? name entries = Dict.lookupEntry name entries := by
    induction entries with
    | nil => rfl
    | cons entry rest ih => rw [Record.find?_cons, Dict.lookupEntry, ih]
  exact found d.entries

/-- Dictionaries that may differ at one key are the same if their values at that key are. -/
theorem MembersAlike.dict_eq {d d' : Dict String Json} (name : String)
    (alike : MembersAlike may d.entries d'.entries) (only : ∀ key x y, may key x y → key = name)
    (same : d.get? name = d'.get? name) : d = d' := by
  apply Dict.eq_of_get?
  intro key
  by_cases at_name : key = name
  · rw [at_name, same]
  · have unchanged := alike.find?_eq (fun x y may => at_name (only key x y may))
    rwa [find?_eq_get?, find?_eq_get?] at unchanged

theorem ObjectsAlike.refl (may : String → Json → Json → Prop) (j : Json) : ObjectsAlike may j j := by
  cases j with
  | object members => exact MembersAlike.refl may members
  | null | bool | integer | float | string | array | unreadable => rfl

/-- Objects are one form of records. -/
theorem ObjectsAlike.records {names : List String} {j j' : Json} (alike : ObjectsAlike may j j') :
    RecordsAlike names may j j' := by
  unfold RecordsAlike
  split
  · obtain rfl := Json.array.inj alike
    exact ⟨.refl may _, rfl⟩
  · exact alike

end Json

namespace Record

variable {may : String → Json → Json → Prop} {names : List String} {j j' : Json} {r r' : Record}

theorem ofMembers?_fields {members : List (String × Json)}
    (read : ofMembers? names members = some r) : r.fields = members := by
  unfold ofMembers? at read
  split at read
  · obtain rfl := Option.some.inj read
    rfl
  · cases read

/-- What is read from records that differ in some fields differs in these. -/
theorem fields_alike (alike : Json.RecordsAlike names may j j') (read : ofJson? names j = some r)
    (read' : ofJson? names j' = some r') : Json.MembersAlike may r.fields r'.fields := by
  unfold Json.RecordsAlike Json.ObjectsAlike at alike
  split at alike
  · simp only [ofJson?, Option.ite_none_right_eq_some, Option.some.injEq] at read read'
    obtain ⟨-, rfl⟩ := read
    obtain ⟨-, rfl⟩ := read'
    exact alike.1
  · split at alike
    · rw [ofMembers?_fields read, ofMembers?_fields read']
      exact alike
    · subst alike
      rw [read] at read'
      obtain rfl := Option.some.inj read'
      exact .refl may _

variable {α : Type} [Wire α] {name : String} {R : α → α → Prop}

/-- A field in which nothing may differ is the same. -/
theorem required_eq (alike : Json.MembersAlike may r.fields r'.fields)
    (same : ∀ x y, ¬ may name x y) : (r.required name : Option α) = r'.required name := by
  rw [required, required, alike.find?_eq same]

theorem defaulted_eq_of_alike (alike : Json.MembersAlike may r.fields r'.fields)
    (same : ∀ x y, ¬ may name x y) (default : α) :
    r.defaulted name default = r'.defaulted name default := by
  rw [defaulted_eq, defaulted_eq, alike.find?_eq same]

/-- What is read of a field that may differ is related if it is of all values that may stand there.
-/
theorem required_related (refl : ∀ a, R a a) (alike : Json.MembersAlike may r.fields r'.fields)
    (each : ∀ x y a b, may name x y → decode x = some a → decode y = some b → R a b) {a b : α}
    (read : r.required name = some a) (read' : r'.required name = some b) : R a b := by
  obtain ⟨x, found, decoded⟩ := Option.bind_eq_some_iff.1 read
  obtain ⟨y, found', decoded'⟩ := Option.bind_eq_some_iff.1 read'
  have values := alike.find? name
  rw [found, found'] at values
  cases values with
  | some close =>
    rcases close with rfl | differ
    · obtain rfl := Option.some.inj (decoded.symm.trans decoded')
      exact refl a
    · exact each x y a b differ decoded decoded'

theorem defaulted_related (refl : ∀ a, R a a) (alike : Json.MembersAlike may r.fields r'.fields)
    (each : ∀ x y a b, may name x y → decode x = some a → decode y = some b → R a b)
    {default a b : α} (read : r.defaulted name default = some a)
    (read' : r'.defaulted name default = some b) : R a b := by
  rw [defaulted_eq] at read read'
  have values := alike.find? name
  generalize find? name r.fields = x at values read
  generalize find? name r'.fields = y at values read'
  cases values with
  | none =>
    obtain rfl := Option.some.inj (read.symm.trans read')
    exact refl a
  | @some x y close =>
    rcases close with rfl | differ
    · obtain rfl := Option.some.inj (read.symm.trans read')
      exact refl a
    · exact each x y a b differ read read'

end Record

/-- The lists that are read from arrays with related elements are related. -/
theorem Json.ElementsAlike.decode {α : Type} [Wire α] {R : α → α → Prop} (refl : ∀ a, R a a)
    {may : Json → Json → Prop}
    (each : ∀ x y a b, may x y → Wire.decode x = some a → Wire.decode y = some b → R a b)
    {x y : Json} (alike : ElementsAlike may x y) {as bs : List α} (read : Wire.decode x = some as)
    (read' : Wire.decode y = some bs) : List.Forall₂ R as bs := by
  unfold ElementsAlike at alike
  split at alike
  · change decodeAll _ = some as at read
    change decodeAll _ = some bs at read'
    induction alike generalizing as bs with
    | nil =>
      obtain rfl := Option.some.inj read
      obtain rfl := Option.some.inj read'
      exact .nil
    | cons here _ ih =>
      simp only [decodeAll, Option.bind_eq_bind, Option.bind_eq_some_iff, Option.pure_def,
        Option.some.injEq] at read read'
      obtain ⟨a, first, others, rest, rfl⟩ := read
      obtain ⟨b, first', others', rest', rfl⟩ := read'
      exact .cons (each _ _ a b here first first') (ih rest rest')
  · subst alike
    obtain rfl := Option.some.inj (read.symm.trans read')
    exact List.forall₂_same.2 (fun a _ => refl a)

end Testbed
