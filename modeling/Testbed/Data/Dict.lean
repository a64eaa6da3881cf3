import Testbed.Data.StrictOrder

/-!
# Dictionaries

A finite map kept as a list of entries in ascending order of their keys. The order is part of the
type, so two dictionaries with the same entries are equal, and listing one needs no sorting.
-/
namespace Testbed

/-- A finite map from `κ` to `α`, entries ascending by key. -/
structure Dict (κ : Type) [LT κ] (α : Type) where
  entries : List (κ × α)
  ascending : entries.Pairwise (fun a b => a.1 < b.1)

namespace Dict

section Entries

variable {κ α : Type} [LT κ] [DecidableLT κ]

/-- Put a value at a key of an ascending list of entries. -/
def insertEntry (key : κ) (value : α) : List (κ × α) → List (κ × α)
  | [] => [(key, value)]
  | entry :: rest =>
    if key < entry.1 then (key, value) :: entry :: rest
    else if entry.1 < key then entry :: insertEntry key value rest
    else (key, value) :: rest

theorem fst_of_mem_insertEntry {key : κ} {value : α} {entries : List (κ × α)} {entry : κ × α}
    (h : entry ∈ insertEntry key value entries) : entry = (key, value) ∨ entry ∈ entries := by
  induction entries with
  | nil => simpa [insertEntry] using h
  | cons first rest ih =>
    unfold insertEntry at h
    split at h
    · simpa using h
    · split at h
      · rcases List.mem_cons.1 h with h | h
        · exact .inr (h ▸ List.mem_cons_self ..)
        · exact (ih h).imp_right (List.mem_cons_of_mem _)
      · rcases List.mem_cons.1 h with h | h
        · exact .inl h
        · exact .inr (List.mem_cons_of_mem _ h)

theorem ascending_insertEntry [StrictOrder κ] (key : κ) (value : α) {entries : List (κ × α)}
    (h : entries.Pairwise (fun a b => a.1 < b.1)) :
    (insertEntry key value entries).Pairwise (fun a b => a.1 < b.1) := by
  induction entries with
  | nil => simp [insertEntry]
  | cons first rest ih =>
    obtain ⟨hfirst, hrest⟩ := List.pairwise_cons.1 h
    unfold insertEntry
    split
    · rename_i hlt
      refine List.pairwise_cons.2 ⟨?_, h⟩
      intro entry hmem
      rcases List.mem_cons.1 hmem with hmem | hmem
      · exact hmem ▸ hlt
      · exact StrictOrder.trans hlt (hfirst _ hmem)
    · split
      · rename_i hlt
        refine List.pairwise_cons.2 ⟨?_, ih hrest⟩
        intro entry hmem
        rcases fst_of_mem_insertEntry hmem with hmem | hmem
        · exact hmem ▸ hlt
        · exact hfirst _ hmem
      · rename_i hge hle
        have heq : key = first.1 := StrictOrder.eq_of_not_lt hge hle
        refine List.pairwise_cons.2 ⟨?_, hrest⟩
        intro entry hmem
        exact heq ▸ hfirst _ hmem

/-- The value at a key of a list of entries. -/
def lookupEntry [DecidableEq κ] (key : κ) : List (κ × α) → Option α
  | [] => none
  | entry :: rest => if entry.1 = key then some entry.2 else lookupEntry key rest

/-- Inserting changes what is found at one key only. -/
theorem lookupEntry_insertEntry [DecidableEq κ] [StrictOrder κ] (key other : κ) (value : α)
    (entries : List (κ × α)) :
    lookupEntry other (insertEntry key value entries) =
      if other = key then some value else lookupEntry other entries := by
  induction entries with
  | nil => simp [insertEntry, lookupEntry, eq_comm]
  | cons first rest ih =>
    unfold insertEntry
    split
    · simp [lookupEntry, eq_comm]
    · split
      · rename_i hlt
        by_cases h : first.1 = other
        · have hne : ¬ other = key := fun e => StrictOrder.ne_of_lt hlt (h.trans e)
          simp [lookupEntry, h, hne]
        · simp [lookupEntry, h, ih]
      · rename_i hge hle
        have heq : key = first.1 := StrictOrder.eq_of_not_lt hge hle
        subst heq
        by_cases h : first.1 = other
        · simp [lookupEntry, h]
        · simp [lookupEntry, h, Ne.symm h]

omit [DecidableLT κ] in
/-- In an ascending list every entry is the one that is found at its key. -/
theorem mem_iff_lookupEntry [DecidableEq κ] [StrictOrder κ] {entries : List (κ × α)}
    (h : entries.Pairwise (fun a b => a.1 < b.1)) (key : κ) (value : α) :
    (key, value) ∈ entries ↔ lookupEntry key entries = some value := by
  induction entries with
  | nil => simp [lookupEntry]
  | cons first rest ih =>
    obtain ⟨hfirst, hrest⟩ := List.pairwise_cons.1 h
    by_cases hk : first.1 = key
    · have hout : (key, value) ∉ rest := fun hmem =>
        StrictOrder.ne_of_lt (hfirst _ hmem) hk
      simp [lookupEntry, hk, hout, Prod.ext_iff, eq_comm]
    · have hne : (key, value) ≠ first := fun e => hk (e ▸ rfl)
      simp [lookupEntry, hk, hne, ih hrest]

end Entries

variable {κ α β : Type} [LT κ] [DecidableLT κ] [DecidableEq κ] [StrictOrder κ]

omit [DecidableLT κ] [DecidableEq κ] [StrictOrder κ] in
@[ext]
theorem ext {a b : Dict κ α} (h : a.entries = b.entries) : a = b := by
  cases a; cases b; simp_all

instance [DecidableEq α] : DecidableEq (Dict κ α) := fun a b =>
  decidable_of_iff (a.entries = b.entries) ⟨Dict.ext, fun h => h ▸ rfl⟩

/-- The dictionary without entries. -/
def empty : Dict κ α := ⟨[], .nil⟩

instance : Inhabited (Dict κ α) := ⟨empty⟩

instance : EmptyCollection (Dict κ α) := ⟨empty⟩

def isEmpty (d : Dict κ α) : Bool := d.entries.isEmpty

/-- Put a value at a key, replacing the value that was there. -/
def insert (d : Dict κ α) (key : κ) (value : α) : Dict κ α :=
  ⟨insertEntry key value d.entries, ascending_insertEntry key value d.ascending⟩

def get? (d : Dict κ α) (key : κ) : Option α := lookupEntry key d.entries

def contains (d : Dict κ α) (key : κ) : Bool := (d.get? key).isSome

def keys (d : Dict κ α) : List κ := d.entries.map (·.1)

/-- Insert a list of entries from left to right, so that the last entry of a key stays. -/
def ofList (entries : List (κ × α)) : Dict κ α :=
  entries.foldl (fun d entry => d.insert entry.1 entry.2) empty

/-- All entries of both; where both have a key, the second one's value. -/
def extend (d other : Dict κ α) : Dict κ α :=
  other.entries.foldl (fun acc entry => acc.insert entry.1 entry.2) d

/-- The entries of all keys but one. -/
def erase (d : Dict κ α) (key : κ) : Dict κ α :=
  ⟨d.entries.filter (fun entry => entry.1 ≠ key), d.ascending.filter _⟩

/-- The same keys with every value transformed. -/
def mapValues (f : α → β) (d : Dict κ α) : Dict κ β :=
  ⟨d.entries.map (fun entry => (entry.1, f entry.2)),
    List.pairwise_map.2 (d.ascending.imp (fun h => h))⟩

omit [DecidableEq κ] in
/-- An entry above all others is put behind them. -/
theorem insertEntry_of_above {key : κ} {value : α} {entries : List (κ × α)}
    (above : ∀ entry ∈ entries, entry.1 < key) :
    insertEntry key value entries = entries ++ [(key, value)] := by
  induction entries with
  | nil => rfl
  | cons first rest ih =>
    have below : first.1 < key := above first (.head _)
    have rest_above := ih (fun entry h => above entry (.tail _ h))
    rw [insertEntry, if_neg (StrictOrder.asymm below), if_pos below, rest_above]
    rfl

omit [DecidableEq κ] in
theorem entries_foldl_insert {d : Dict κ α} {entries : List (κ × α)}
    (ascending : (d.entries ++ entries).Pairwise (fun a b => a.1 < b.1)) :
    (entries.foldl (fun d entry => d.insert entry.1 entry.2) d).entries = d.entries ++ entries := by
  induction entries generalizing d with
  | nil => exact (List.append_nil _).symm
  | cons entry rest ih =>
    have above (held : κ × α) (h : held ∈ d.entries) : held.1 < entry.1 :=
      (List.pairwise_append.1 ascending).2.2 held h entry (.head _)
    have inserted : (d.insert entry.1 entry.2).entries = d.entries ++ [entry] :=
      insertEntry_of_above above
    rw [List.foldl_cons, ih (by rw [inserted]; simpa using ascending), inserted]
    simp

omit [DecidableEq κ] in
/-- Putting the entries of a dictionary together gives the dictionary. -/
@[simp]
theorem ofList_entries (d : Dict κ α) : ofList d.entries = d :=
  Dict.ext (entries_foldl_insert (d := empty) d.ascending)

omit [DecidableLT κ] [DecidableEq κ] [StrictOrder κ] in
@[simp]
theorem ite_isEmpty (d : Dict κ α) : (if d.isEmpty then ∅ else d) = d := by
  split
  · rename_i none'
    exact (Dict.ext (List.isEmpty_iff.1 none')).symm
  · rfl

omit [DecidableLT κ] [StrictOrder κ] in
@[simp]
theorem get?_empty (key : κ) : (empty : Dict κ α).get? key = none := rfl

theorem get?_insert (d : Dict κ α) (key other : κ) (value : α) :
    (d.insert key value).get? other = if other = key then some value else d.get? other :=
  lookupEntry_insertEntry key other value d.entries

@[simp]
theorem get?_insert_self (d : Dict κ α) (key : κ) (value : α) :
    (d.insert key value).get? key = some value := by
  simp [get?_insert]

omit [DecidableLT κ] in
theorem mem_entries (d : Dict κ α) (key : κ) (value : α) :
    (key, value) ∈ d.entries ↔ d.get? key = some value :=
  mem_iff_lookupEntry d.ascending key value

/-- Where both have a key, the second one's value is found. -/
theorem get?_extend (d other : Dict κ α) (key : κ) :
    (d.extend other).get? key = (other.get? key).or (d.get? key) := by
  obtain ⟨entries, ascending⟩ := other
  change (entries.foldl (fun acc entry => acc.insert entry.1 entry.2) d).get? key =
    (lookupEntry key entries).or (d.get? key)
  induction entries generalizing d with
  | nil => rfl
  | cons entry rest ih =>
    obtain ⟨above, ascending⟩ := List.pairwise_cons.1 ascending
    rw [List.foldl_cons, ih _ ascending, get?_insert, lookupEntry]
    by_cases here : entry.1 = key
    · have later : lookupEntry key rest = none := by
        refine Option.eq_none_iff_forall_ne_some.2 (fun value found => ?_)
        have listed := (mem_iff_lookupEntry ascending key value).2 found
        exact StrictOrder.ne_of_lt (above _ listed) here
      rw [if_pos here, if_pos here.symm, later]
      rfl
    · rw [if_neg here, if_neg (Ne.symm here)]

omit [DecidableLT κ] in
theorem get?_mapValues (f : α → β) (d : Dict κ α) (key : κ) :
    (d.mapValues f).get? key = (d.get? key).map f := by
  apply Option.ext
  intro value
  rw [← mem_entries]
  rw [Option.map_eq_some_iff]
  simp only [← mem_entries]
  constructor
  · intro h
    obtain ⟨entry, hmem, heq⟩ := List.mem_map.1 h
    obtain ⟨rfl, rfl⟩ := Prod.mk.inj heq
    exact ⟨entry.2, hmem, rfl⟩
  · rintro ⟨held, hmem, rfl⟩
    exact List.mem_map.2 ⟨(key, held), hmem, rfl⟩

omit [DecidableLT κ] in
/-- Dictionaries that give the same at every key are the same. -/
theorem eq_of_get? {a b : Dict κ α} (h : ∀ key, a.get? key = b.get? key) : a = b := by
  refine Dict.ext (List.Perm.eq_of_pairwise ?_ a.ascending b.ascending ?_)
  · intro x y _ _ hxy hyx
    exact absurd hyx (StrictOrder.asymm hxy)
  · refine (List.perm_ext_iff_of_nodup ?_ ?_).2 ?_
    · exact a.ascending.imp (fun hlt e => StrictOrder.ne_of_lt hlt (congrArg Prod.fst e))
    · exact b.ascending.imp (fun hlt e => StrictOrder.ne_of_lt hlt (congrArg Prod.fst e))
    · intro entry
      rw [show entry = (entry.1, entry.2) from rfl, mem_entries, mem_entries, h]

omit [DecidableLT κ] in
theorem mem_keys (d : Dict κ α) (key : κ) : key ∈ d.keys ↔ (d.get? key).isSome = true := by
  rw [keys, Option.isSome_iff_exists, List.mem_map]
  constructor
  · rintro ⟨entry, listed, rfl⟩
    exact ⟨entry.2, (d.mem_entries ..).1 listed⟩
  · rintro ⟨value, found⟩
    exact ⟨(key, value), (d.mem_entries ..).2 found, rfl⟩

omit [DecidableLT κ] in
/-- Dictionaries that have the same keys list them alike. -/
theorem keys_eq_of_mem {a : Dict κ α} {b : Dict κ β} (h : ∀ key, key ∈ a.keys ↔ key ∈ b.keys) :
    a.keys = b.keys := by
  have same : a.mapValues (fun _ => ()) = b.mapValues (fun _ => ()) := by
    apply eq_of_get?
    intro key
    have both := h key
    rw [mem_keys, mem_keys] at both
    rw [get?_mapValues, get?_mapValues]
    cases at_a : a.get? key <;> cases at_b : b.get? key <;> simp_all
  have listed := congrArg keys same
  simpa [keys, mapValues, Function.comp_def] using listed

end Dict

end Testbed
