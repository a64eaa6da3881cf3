import Mathlib.Order.ConditionallyCompleteLattice.Basic
import Testbed.Proofs.Capability.Bounds
import Testbed.Proofs.Capability.Laws

/-!
# Counts

A space of counts stands for the counts that it allows, for whether it lists none, and for its
bounds. Narrowing is the meet of the three and picks the least count that is left. The bounds that
narrowing makes contradictory allow nothing, so they never come out of a narrowing that succeeds.
-/
namespace Testbed

namespace CountSpace

/-- Without listed counts all counts within the bounds are allowed. -/
def Free (s : CountSpace) : Prop := s.counts.isEmpty

instance (s : CountSpace) : Decidable s.Free :=
  inferInstanceAs (Decidable (s.counts.isEmpty = true))

/-- A count is within the bounds and, where counts are listed, one of them. -/
def Allows (s : CountSpace) (value : UInt32) : Prop :=
  s.inBounds value ∧ (s.Free ∨ value ∈ s.counts)

def span (s : CountSpace) : Span := .of s.min s.max

theorem inBounds_iff {s : CountSpace} {value : UInt32} :
    s.inBounds value ↔ Span.of value (some value) ≤ s.span :=
  Span.within_of

theorem mem_boundedCounts {s : CountSpace} {value : UInt32} :
    value ∈ s.boundedCounts ↔ value ∈ s.counts ∧ s.inBounds value :=
  SortedSet.mem_filter

theorem not_free_iff {s : CountSpace} : ¬ s.Free ↔ ∃ value, value ∈ s.counts := by
  rw [← SortedSet.isEmpty_eq_false_iff, ← Bool.not_eq_true]
  rfl

theorem inBounds_min {s : CountSpace} {value : UInt32} (h : s.inBounds value) :
    s.inBounds s.min := by
  have within := inBounds_iff.1 h
  refine inBounds_iff.2 ⟨le_refl _, le_trans ?_ within.2⟩
  exact WithTop.coe_le_coe.2 within.1

theorem isEmpty_iff {s : CountSpace} : s.isEmpty = false ↔ ∃ value, s.Allows value := by
  have crossed : s.max.any (· < s.min) = false ↔ s.inBounds s.min := by
    rw [inBounds_iff, ← Span.proper_of]
    exact ⟨fun proper => ⟨le_refl _, proper⟩, fun within => within.2⟩
  have emptied : (!s.counts.isEmpty && s.boundedCounts.isEmpty) = false ↔
      (s.Free ∨ ∃ value, value ∈ s.boundedCounts) := by
    cases listed : s.counts.isEmpty <;>
      simp [listed, Free, SortedSet.isEmpty_iff, Bool.eq_false_iff]
  unfold isEmpty
  rw [Bool.or_eq_false_iff, crossed, emptied]
  constructor
  · rintro ⟨within, free | ⟨value, member⟩⟩
    · exact ⟨s.min, within, .inl free⟩
    · obtain ⟨listed, within⟩ := mem_boundedCounts.1 member
      exact ⟨value, within, .inr listed⟩
  · rintro ⟨value, within, allowed⟩
    exact ⟨inBounds_min within,
      allowed.imp_right (fun listed => ⟨value, mem_boundedCounts.2 ⟨listed, within⟩⟩)⟩

/-- The bounds that two spaces share and the listed counts that both allow. -/
def shared (a b : CountSpace) : CountSpace :=
  let joined : CountSpace :=
    { counts := commonCounts a.counts b.counts
      min := Max.max a.min b.min
      max := leastBound a.max b.max }
  { joined with counts := joined.boundedCounts }

theorem mem_commonCounts {a b : CountSpace} {value : UInt32} :
    value ∈ commonCounts a.counts b.counts ↔
      ¬ (a.Free ∧ b.Free) ∧ (a.Free ∨ value ∈ a.counts) ∧ (b.Free ∨ value ∈ b.counts) := by
  have none {s : CountSpace} (free : s.Free) : value ∉ s.counts :=
    SortedSet.isEmpty_iff.1 free value
  unfold commonCounts
  by_cases left : a.Free <;> by_cases right : b.Free
  · rw [if_pos (show a.counts.isEmpty from left)]
    simp [left, right, none right]
  · rw [if_pos (show a.counts.isEmpty from left)]
    simp [left, right]
  · rw [if_neg (show ¬ a.counts.isEmpty from left), if_pos (show b.counts.isEmpty from right)]
    simp [left, right]
  · rw [if_neg (show ¬ a.counts.isEmpty from left), if_neg (show ¬ b.counts.isEmpty from right)]
    simp [left, right]

theorem span_shared (a b : CountSpace) : (shared a b).span = a.span ⊓ b.span :=
  Span.of_meet _ _ _ _

theorem inBounds_shared {a b : CountSpace} {value : UInt32} :
    (shared a b).inBounds value ↔ a.inBounds value ∧ b.inBounds value := by
  simp only [inBounds_iff, span_shared, le_inf_iff]

theorem mem_shared {a b : CountSpace} {value : UInt32} :
    value ∈ (shared a b).counts ↔ ¬ (a.Free ∧ b.Free) ∧ a.Allows value ∧ b.Allows value := by
  have bounded : value ∈ (shared a b).counts ↔
      value ∈ commonCounts a.counts b.counts ∧ (shared a b).inBounds value :=
    SortedSet.mem_filter
  rw [bounded, mem_commonCounts, inBounds_shared]
  constructor
  · rintro ⟨⟨listed, wanted, given⟩, within, within'⟩
    exact ⟨listed, ⟨within, wanted⟩, within', given⟩
  · rintro ⟨listed, ⟨within, wanted⟩, within', given⟩
    exact ⟨⟨listed, wanted, given⟩, within, within'⟩

theorem free_shared {a b : CountSpace} (free : a.Free ∧ b.Free) : (shared a b).Free :=
  SortedSet.isEmpty_iff.2 (fun _ member => (mem_shared.1 member).1 free)

theorem free_of_shared {a b : CountSpace} (common : ∃ value, a.Allows value ∧ b.Allows value)
    (free : (shared a b).Free) : a.Free ∧ b.Free := by
  obtain ⟨value, both⟩ := common
  by_contra listed
  exact SortedSet.isEmpty_iff.1 free value (mem_shared.2 ⟨listed, both⟩)

theorem allows_shared {a b : CountSpace} {value : UInt32}
    (free : (shared a b).Free → a.Free ∧ b.Free) :
    (shared a b).Allows value ↔ a.Allows value ∧ b.Allows value := by
  constructor
  · rintro ⟨within, unlisted | listed⟩
    · obtain ⟨required, offered⟩ := inBounds_shared.1 within
      obtain ⟨left, right⟩ := free unlisted
      exact ⟨⟨required, .inl left⟩, offered, .inl right⟩
    · exact (mem_shared.1 listed).2
  · intro both
    refine ⟨inBounds_shared.2 ⟨both.1.1, both.2.1⟩, ?_⟩
    by_cases unlisted : a.Free ∧ b.Free
    · exact .inl (free_shared unlisted)
    · exact .inr (mem_shared.2 ⟨unlisted, both⟩)

/-- Narrowing makes its bounds contradictory exactly if counts are listed and none is left. -/
theorem narrow_eq (a b : CountSpace) :
    a.narrow b = if (shared a b).Free → a.Free ∧ b.Free then shared a b else
      { counts := (shared a b).counts, min := 1, max := some 0 } := by
  have emptied : (!(a.counts.isEmpty && b.counts.isEmpty) && (shared a b).counts.isEmpty) ↔
      ¬ ((shared a b).Free → a.Free ∧ b.Free) := by
    cases left : a.counts.isEmpty <;> cases right : b.counts.isEmpty <;> simp [Free, left, right]
  by_cases kept : (shared a b).Free → a.Free ∧ b.Free
  · rw [if_pos kept]
    exact if_neg (emptied.not.2 (not_not.2 kept))
  · rw [if_neg kept]
    exact if_pos (emptied.2 kept)

theorem allows_narrow {a b : CountSpace} {value : UInt32} :
    (a.narrow b).Allows value ↔ a.Allows value ∧ b.Allows value := by
  rw [narrow_eq]
  split
  next left => exact allows_shared left
  next emptied =>
    obtain ⟨none, listed⟩ := Classical.not_imp.1 emptied
    constructor
    · rintro ⟨within, -⟩
      have bounds : 1 ≤ value.toNat ∧ value.toNat ≤ 0 := by
        simpa [inBounds, UInt32.le_iff_toNat_le] using within
      omega
    · intro both
      exact absurd (mem_shared.2 ⟨listed, both⟩) (SortedSet.isEmpty_iff.1 none value)

theorem isEmpty_narrow {a b : CountSpace} :
    (a.narrow b).isEmpty = false ↔ ∃ value, a.Allows value ∧ b.Allows value := by
  simp only [isEmpty_iff, allows_narrow]

/-- A check has no reasons exactly if some count is allowed by both sides. -/
theorem check_nil {a b : CountSpace} :
    a.check b = [] ↔ ∃ value, a.Allows value ∧ b.Allows value := by
  have common : (if (a.narrow b).isEmpty then [Reason.countsDisjoint a b] else []) = [] ↔
      ∃ value, a.Allows value ∧ b.Allows value := by
    rw [← isEmpty_narrow]
    simp
  unfold check
  rw [guards_nil, isEmpty_iff, isEmpty_iff, common]
  constructor
  · rintro ⟨-, -, both⟩
    exact both
  · rintro ⟨value, wanted, given⟩
    exact ⟨⟨value, wanted⟩, ⟨value, given⟩, value, wanted, given⟩

theorem intersect_ok {a b narrowed : CountSpace} :
    a.intersect b = .ok narrowed ↔ (∃ value, a.Allows value ∧ b.Allows value) ∧
      { shared a b with current := some (shared a b).smallest } = narrowed := by
  unfold intersect
  rw [requireNone_ok, check_nil]
  refine and_congr_right (fun common => ?_)
  rw [narrow_eq, if_pos (free_of_shared common)]

theorem smallest_least {s : CountSpace} (bounded : ∀ value ∈ s.counts, s.inBounds value)
    (usable : ∃ value, s.Allows value) :
    s.Allows s.smallest ∧ ∀ value, s.Allows value → s.smallest ≤ value := by
  unfold smallest
  cases first : s.counts.least? with
  | none =>
    have free : s.Free := by simpa [SortedSet.least?, Free, SortedSet.isEmpty] using first
    obtain ⟨value, within, -⟩ := usable
    refine ⟨⟨inBounds_min within, .inl free⟩, fun other allowed => ?_⟩
    exact Word.le_iff.2 (inBounds_iff.1 allowed.1).1
  | some least =>
    have listed : least ∈ s.counts := SortedSet.least?_mem first
    refine ⟨⟨bounded least listed, .inr listed⟩, fun other allowed => ?_⟩
    have member : other ∈ s.counts := allowed.2.resolve_left (not_free_iff.2 ⟨least, listed⟩)
    exact UInt32.not_lt.1 (SortedSet.least?_minimal first member)

/-- What narrowing gives: only counts within the bounds are listed, and the least of those that are
allowed is picked. -/
structure Settled (s : CountSpace) : Prop where
  bounded : ∀ value ∈ s.counts, s.inBounds value
  picked : ∃ least, s.current = some least ∧ s.Allows least ∧
    ∀ value, s.Allows value → least ≤ value

theorem settled_shared {a b : CountSpace} (common : ∃ value, a.Allows value ∧ b.Allows value) :
    Settled { shared a b with current := some (shared a b).smallest } := by
  have bounded : ∀ value ∈ (shared a b).counts, (shared a b).inBounds value := by
    intro value member
    exact (SortedSet.mem_filter.1 member).2
  have usable : ∃ value, (shared a b).Allows value :=
    common.imp (fun value => (allows_shared (free_of_shared common)).2)
  exact ⟨bounded, _, rfl, smallest_least bounded usable⟩

theorem Settled.mem_counts {s : CountSpace} (settled : s.Settled) {value : UInt32} :
    value ∈ s.counts ↔ ¬ s.Free ∧ s.Allows value := by
  constructor
  · intro member
    exact ⟨not_free_iff.2 ⟨value, member⟩, settled.bounded value member, .inr member⟩
  · rintro ⟨listed, allowed⟩
    exact allowed.2.resolve_left listed

/-- What is picked is determined by what is allowed. -/
theorem Settled.current_eq {a b : CountSpace} (left : a.Settled) (right : b.Settled)
    (same : a.Allows = b.Allows) : a.current = b.current := by
  obtain ⟨least, picked, allowed, minimal⟩ := left.picked
  obtain ⟨least', picked', allowed', minimal'⟩ := right.picked
  have below : least ≤ least' := minimal least' (same ▸ allowed')
  have above : least' ≤ least := minimal' least (same ▸ allowed)
  rw [picked, picked', UInt32.le_antisymm below above]

/-- A space of counts up to its pick. -/
def meaning (s : CountSpace) : (UInt32 → Prop) × Prop × Span := (s.Allows, s.Free, s.span)

theorem Settled.eq_of_meaning {a b : CountSpace} (left : a.Settled) (right : b.Settled)
    (same : meaning a = meaning b) : a = b := by
  obtain ⟨allows, rest⟩ := Prod.mk.inj same
  obtain ⟨free, span⟩ := Prod.mk.inj rest
  obtain ⟨min, max⟩ := Span.of_inj span
  have counts : a.counts = b.counts := by
    refine SortedSet.eq_of_mem (fun value => ?_)
    rw [left.mem_counts, right.mem_counts, free, allows]
  have current : a.current = b.current := left.current_eq right allows
  cases a
  cases b
  simp_all

theorem meaning_shared {a b : CountSpace} (common : ∃ value, a.Allows value ∧ b.Allows value) :
    meaning (shared a b) = meaning a ⊓ meaning b := by
  have free : (shared a b).Free → a.Free ∧ b.Free := free_of_shared common
  refine Prod.ext (funext fun value => propext (allows_shared free)) ?_
  exact Prod.ext (propext ⟨free, free_shared⟩) (span_shared a b)

theorem narrowsByMeet : NarrowsByMeet meaning (fun m => ∃ value, m.1 value) Settled where
  leaves_mono below := fun ⟨value, left⟩ => ⟨value, below.1 value left⟩
  settled_leaves settled := by
    obtain ⟨least, -, allowed, -⟩ := settled.picked
    exact ⟨least, allowed⟩
  settled_inj := Settled.eq_of_meaning
  total := by
    intro a b common
    exact ⟨_, intersect_ok.2 ⟨common, rfl⟩⟩
  sound := by
    intro a b narrowed h
    obtain ⟨common, rfl⟩ := intersect_ok.1 h
    exact ⟨settled_shared common, meaning_shared common⟩

instance : LawfulNarrowing CountSpace := narrowsByMeet.lawful

end CountSpace

end Testbed
