import Testbed.Data.StrictOrder

/-!
# Sorted sets

A finite set kept as its strictly ascending list of members, so that equal sets are equal values.
-/
namespace Testbed

/-- A finite set, members ascending. -/
structure SortedSet (κ : Type) [LT κ] where
  toList : List κ
  ascending : toList.Pairwise (· < ·)

namespace SortedSet

variable {κ : Type} [LT κ]

@[ext]
theorem ext {a b : SortedSet κ} (h : a.toList = b.toList) : a = b := by
  cases a; cases b; simp_all

instance [DecidableEq κ] : DecidableEq (SortedSet κ) := fun a b =>
  decidable_of_iff (a.toList = b.toList) ⟨SortedSet.ext, fun h => h ▸ rfl⟩

/-- The set without members. -/
def empty : SortedSet κ := ⟨[], .nil⟩

instance : Inhabited (SortedSet κ) := ⟨empty⟩

instance : EmptyCollection (SortedSet κ) := ⟨empty⟩

instance : Membership κ (SortedSet κ) := ⟨fun s a => a ∈ s.toList⟩

instance [DecidableEq κ] (a : κ) (s : SortedSet κ) : Decidable (a ∈ s) :=
  inferInstanceAs (Decidable (a ∈ s.toList))

def isEmpty (s : SortedSet κ) : Bool := s.toList.isEmpty

def contains [DecidableEq κ] (s : SortedSet κ) (a : κ) : Bool := decide (a ∈ s)

/-- The members that satisfy a test. -/
def filter (p : κ → Bool) (s : SortedSet κ) : SortedSet κ :=
  ⟨s.toList.filter p, s.ascending.filter p⟩

/-- The members of both. -/
def inter [DecidableEq κ] (s t : SortedSet κ) : SortedSet κ := s.filter t.contains

/-- The least member. -/
def least? (s : SortedSet κ) : Option κ := s.toList.head?

theorem mem_toList {s : SortedSet κ} {a : κ} : a ∈ s.toList ↔ a ∈ s := Iff.rfl

@[simp]
theorem not_mem_empty (a : κ) : a ∉ (empty : SortedSet κ) := List.not_mem_nil

@[simp]
theorem mem_filter {p : κ → Bool} {s : SortedSet κ} {a : κ} : a ∈ s.filter p ↔ a ∈ s ∧ p a :=
  List.mem_filter

@[simp]
theorem contains_iff [DecidableEq κ] {s : SortedSet κ} {a : κ} : s.contains a ↔ a ∈ s := by
  simp [contains]

@[simp]
theorem mem_inter [DecidableEq κ] {s t : SortedSet κ} {a : κ} :
    a ∈ s.inter t ↔ a ∈ s ∧ a ∈ t := by
  simp [inter]

theorem isEmpty_iff {s : SortedSet κ} : s.isEmpty ↔ ∀ a, a ∉ s := by
  simp [isEmpty, ← mem_toList, List.eq_nil_iff_forall_not_mem]

@[simp]
theorem ite_isEmpty (s : SortedSet κ) : (if s.isEmpty then ∅ else s) = s := by
  split
  · rename_i none'
    exact (SortedSet.ext (List.isEmpty_iff.1 none')).symm
  · rfl

theorem isEmpty_eq_false_iff {s : SortedSet κ} : s.isEmpty = false ↔ ∃ a, a ∈ s := by
  simp [Bool.eq_false_iff, isEmpty_iff]

theorem least?_mem {s : SortedSet κ} {a : κ} (h : s.least? = some a) : a ∈ s :=
  List.mem_of_head? h

/-- Nothing in a set is below its least member. -/
theorem least?_minimal [StrictOrder κ] {s : SortedSet κ} {a b : κ} (h : s.least? = some a)
    (hb : b ∈ s) : ¬ b < a := by
  obtain ⟨rest, hrest⟩ := List.head?_eq_some_iff.1 h
  have hasc := s.ascending
  rw [← mem_toList, hrest] at hb
  rw [hrest] at hasc
  rcases List.mem_cons.1 hb with rfl | hb
  · exact StrictOrder.irrefl b
  · exact StrictOrder.asymm ((List.pairwise_cons.1 hasc).1 _ hb)

/-- Sets with the same members are the same. -/
theorem eq_of_mem [StrictOrder κ] {s t : SortedSet κ} (h : ∀ a, a ∈ s ↔ a ∈ t) : s = t := by
  refine SortedSet.ext (List.Perm.eq_of_pairwise ?_ s.ascending t.ascending ?_)
  · intro a b _ _ hab hba
    exact absurd hba (StrictOrder.asymm hab)
  · exact (List.perm_ext_iff_of_nodup (s.ascending.imp StrictOrder.ne_of_lt)
      (t.ascending.imp StrictOrder.ne_of_lt)).2 h

section Insertion

variable [DecidableLT κ]

/-- Put a member into an ascending list. -/
def insertMember (a : κ) : List κ → List κ
  | [] => [a]
  | b :: rest =>
    if a < b then a :: b :: rest
    else if b < a then b :: insertMember a rest
    else b :: rest

theorem mem_insertMember [StrictOrder κ] {a x : κ} {members : List κ} :
    x ∈ insertMember a members ↔ x = a ∨ x ∈ members := by
  induction members with
  | nil => simp [insertMember]
  | cons b rest ih =>
    unfold insertMember
    split
    · simp
    · split
      · simp [ih, or_left_comm]
      · rename_i hge hle
        have heq : a = b := StrictOrder.eq_of_not_lt hge hle
        simp [heq]

theorem ascending_insertMember [StrictOrder κ] (a : κ) {members : List κ}
    (h : members.Pairwise (· < ·)) : (insertMember a members).Pairwise (· < ·) := by
  induction members with
  | nil => simp [insertMember]
  | cons b rest ih =>
    obtain ⟨hb, hrest⟩ := List.pairwise_cons.1 h
    unfold insertMember
    split
    · rename_i hlt
      refine List.pairwise_cons.2 ⟨?_, h⟩
      intro x hx
      rcases List.mem_cons.1 hx with hx | hx
      · exact hx ▸ hlt
      · exact StrictOrder.trans hlt (hb _ hx)
    · split
      · rename_i hlt
        refine List.pairwise_cons.2 ⟨?_, ih hrest⟩
        intro x hx
        rcases mem_insertMember.1 hx with hx | hx
        · exact hx ▸ hlt
        · exact hb _ hx
      · exact h

variable [StrictOrder κ]

def insert (s : SortedSet κ) (a : κ) : SortedSet κ :=
  ⟨insertMember a s.toList, ascending_insertMember a s.ascending⟩

/-- The set of a list's members. -/
def ofList (members : List κ) : SortedSet κ := members.foldl insert empty

@[simp]
theorem mem_insert {s : SortedSet κ} {a b : κ} : b ∈ s.insert a ↔ b = a ∨ b ∈ s :=
  mem_insertMember

theorem mem_foldl_insert {members : List κ} {s : SortedSet κ} {a : κ} :
    a ∈ members.foldl insert s ↔ a ∈ members ∨ a ∈ s := by
  induction members generalizing s with
  | nil => simp
  | cons b rest ih => simp [ih, or_left_comm, or_assoc]

@[simp]
theorem mem_ofList {members : List κ} {a : κ} : a ∈ ofList members ↔ a ∈ members := by
  simp [ofList, mem_foldl_insert]

@[simp]
theorem ofList_toList (s : SortedSet κ) : ofList s.toList = s :=
  eq_of_mem (fun _ => mem_ofList)

end Insertion

end SortedSet

end Testbed
