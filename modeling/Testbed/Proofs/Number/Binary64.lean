import Mathlib.Algebra.Group.Nat.Defs
import Mathlib.Tactic.Ring
import Testbed.Number.Binary64

/-!
# Finite doubles

Every quotient that is not too large has a finite double, so every integer of a machine word has
one.
-/
namespace Testbed.Binary64

/-- The sign is not part of the exponent field. -/
theorem biased_of_magnitude {sign magnitude : Nat} (signed : sign = 0 ∨ sign = 2 ^ 63)
    (below : magnitude < 2 ^ 63) :
    biased ⟨(sign + magnitude).toUInt64⟩ = magnitude / 2 ^ 52 := by
  have fits : sign + magnitude < 2 ^ 64 := by omega
  have bits : ((sign + magnitude).toUInt64).toNat = sign + magnitude := by
    simpa using Nat.mod_eq_of_lt fits
  have exponent : (sign + magnitude) / 2 ^ 52 % 2 ^ 11 = magnitude / 2 ^ 52 := by omega
  unfold biased
  rw [bits]
  exact exponent

theorem roundDiv_le (num den : Nat) : roundDiv num den ≤ num / den + 1 := by
  simp only [roundDiv]
  split
  · omega
  · split <;> omega

/-- The leading power of a quotient is that of its logarithms, or one less. -/
theorem leadingPower_bounds (num den : Nat) :
    leadingPower num den ≤ num.log2 + 1074 - den.log2 ∧
      num.log2 + 1073 ≤ leadingPower num den + den.log2 := by
  unfold leadingPower
  -- the power of the smallest double is too large to be computed in passing
  generalize smallest : num * Nat.pow 2 1074 = scaled
  dsimp only
  split
  · omega
  · split <;> omega

/-- A quotient with its leading bit moved to place 52 has at most two bits above that. -/
theorem aligned_lt {num den place : Nat} (positive : den ≠ 0)
    (high : num.log2 + 1021 ≤ place + den.log2) :
    num * 2 ^ (1074 - place) / (den * 2 ^ (place - 1074)) < 2 ^ 54 := by
  have upper : num < 2 ^ (num.log2 + 1) := Nat.lt_log2_self
  have lower : 2 ^ den.log2 ≤ den := Nat.log2_self_le positive
  refine Nat.div_lt_of_lt_mul ?_
  calc num * 2 ^ (1074 - place)
    _ < 2 ^ (num.log2 + 1) * 2 ^ (1074 - place) :=
      Nat.mul_lt_mul_of_pos_right upper (Nat.pow_pos (by decide))
    _ = 2 ^ (num.log2 + 1 + (1074 - place)) := (Nat.pow_add ..).symm
    _ ≤ 2 ^ (den.log2 + (place - 1074) + 54) := Nat.pow_le_pow_right (by decide) (by omega)
    _ = 2 ^ den.log2 * 2 ^ (place - 1074) * 2 ^ 54 := by rw [Nat.pow_add, Nat.pow_add]
    _ ≤ den * 2 ^ (place - 1074) * 2 ^ 54 :=
      Nat.mul_le_mul_right _ (Nat.mul_le_mul_right _ lower)

/-- The exponent field of the magnitude of a quotient. -/
theorem magnitudeBits_le {num den power : Nat} (positive : den ≠ 0)
    (small : num.log2 ≤ den.log2 + power) :
    magnitudeBits num den ≤ (power + 1026) * 2 ^ 52 := by
  unfold magnitudeBits
  split
  · exact Nat.zero_le _
  · obtain ⟨above, below⟩ := leadingPower_bounds num den
    dsimp only
    generalize at_place : leadingPower num den - 52 = place
    have rounded := roundDiv_le (num * 2 ^ (1074 - place)) (den * 2 ^ (place - 1074))
    have aligned : num * 2 ^ (1074 - place) / (den * 2 ^ (place - 1074)) < 2 ^ 54 :=
      aligned_lt positive (by omega)
    refine Nat.le_trans (Nat.min_le_left _ _) ?_
    simp only [Nat.pow_eq] at rounded ⊢
    omega

theorem biased_ofRatio_le {negative : Bool} {num den power : Nat} (positive : den ≠ 0)
    (small : num.log2 ≤ den.log2 + power) (finite : power ≤ 960) :
    (ofRatio negative num den).biased ≤ power + 1026 := by
  have bits := magnitudeBits_le positive small
  refine Nat.le_trans (Nat.le_of_eq (biased_of_magnitude ?signed (by omega))) ?_
  case signed =>
    split
    · exact .inr rfl
    · exact .inl rfl
  exact Nat.div_le_of_le_mul (Nat.mul_comm .. ▸ bits)

theorem isFinite_ofRatio {negative : Bool} {num den : Nat} (positive : den ≠ 0)
    (small : num.log2 ≤ den.log2 + 960) : (ofRatio negative num den).isFinite = true := by
  have bounded : (ofRatio negative num den).biased ≤ 960 + 1026 :=
    biased_ofRatio_le positive small (Nat.le_refl _)
  exact decide_eq_true (by omega)

theorem isFinite_ofInt {i : Int} (word : i.natAbs ≤ 2 ^ 64) : (ofInt i).isFinite = true := by
  refine isFinite_ofRatio Nat.one_ne_zero ?_
  by_cases zero : i.natAbs = 0
  · rw [zero]
    decide
  · have below : i.natAbs.log2 < 65 := (Nat.log2_lt zero).2 (by omega)
    omega

/-- Whether the magnitude of a double is less than a power of two. -/
def Below (power : Nat) (x : Binary64) : Prop := x.ratio.1 < x.ratio.2 * 2 ^ power

theorem significand_lt (x : Binary64) : x.significand < 2 ^ 53 := by
  have fraction : x.fraction < 2 ^ 52 := Nat.mod_lt _ (by decide)
  unfold significand
  simp only [Nat.pow_eq]
  split <;> omega

theorem ratio_den_pos (x : Binary64) : 0 < x.ratio.2 := Nat.pow_pos (by decide)

/-- How large a double is, its exponent field tells. -/
theorem below_of_biased {x : Binary64} {power : Nat} (small : x.biased ≤ power + 1022)
    (whole : 53 ≤ power) : x.Below power := by
  have digits := x.significand_lt
  unfold Below ratio
  simp only [Nat.pow_eq]
  calc x.significand * 2 ^ (x.scale - 1075)
    _ < 2 ^ 53 * 2 ^ (x.scale - 1075) :=
      Nat.mul_lt_mul_of_pos_right digits (Nat.pow_pos (by decide))
    _ = 2 ^ (53 + (x.scale - 1075)) := (Nat.pow_add ..).symm
    _ ≤ 2 ^ power := Nat.pow_le_pow_right (by decide) (by unfold scale; omega)
    _ ≤ 2 ^ (1075 - x.scale) * 2 ^ power := Nat.le_mul_of_pos_left _ (Nat.pow_pos (by decide))

theorem below_ofRatio {negative : Bool} {num den power : Nat} (positive : den ≠ 0)
    (small : num.log2 ≤ den.log2 + power) (whole : 49 ≤ power) (finite : power ≤ 960) :
    (ofRatio negative num den).Below (power + 4) :=
  below_of_biased (biased_ofRatio_le positive small finite) (by omega)

theorem log2_le_of_lt {num den power : Nat} (below : num < den * 2 ^ power) :
    num.log2 ≤ den.log2 + power := by
  by_cases zero : num = 0
  · rw [zero]
    exact Nat.zero_le _
  · have bounded : num < 2 ^ (den.log2 + 1 + power) :=
      calc num
        _ < den * 2 ^ power := below
        _ ≤ 2 ^ (den.log2 + 1) * 2 ^ power := Nat.mul_le_mul_right _ (Nat.le_of_lt Nat.lt_log2_self)
        _ = 2 ^ (den.log2 + 1 + power) := (Nat.pow_add ..).symm
    have log := (Nat.log2_lt zero).2 bounded
    omega

/-- Division by what is not less than one. -/
theorem below_div {x y : Binary64} {power : Nat} (first : x.Below power)
    (large : y.ratio.2 ≤ y.ratio.1) (whole : 49 ≤ power) (finite : power ≤ 960) :
    (x.div y).Below (power + 4) := by
  have nonzero : 0 < y.ratio.1 := Nat.lt_of_lt_of_le y.ratio_den_pos large
  refine below_ofRatio (Nat.ne_of_gt (Nat.mul_pos x.ratio_den_pos nonzero)) ?_ whole finite
  refine log2_le_of_lt ?_
  calc x.ratio.1 * y.ratio.2
    _ < x.ratio.2 * 2 ^ power * y.ratio.2 := Nat.mul_lt_mul_of_pos_right first y.ratio_den_pos
    _ ≤ x.ratio.2 * 2 ^ power * y.ratio.1 := Nat.mul_le_mul_left _ large
    _ = x.ratio.2 * y.ratio.1 * 2 ^ power := Nat.mul_right_comm ..

/-- A sum of doubles that are not too large is finite. -/
theorem isFinite_add {x y : Binary64} {power : Nat} (first : x.Below power)
    (second : y.Below power) (small : power ≤ 958) : (x.add y).isFinite = true := by
  have positive : 0 < x.ratio.2 * y.ratio.2 := Nat.mul_pos x.ratio_den_pos y.ratio_den_pos
  have numerator (z : Binary64) : (if z.negative then -z.ratio.1 else z.ratio.1 : Int).natAbs =
      z.ratio.1 := by
    split
    · exact (Int.natAbs_neg _).trans (Int.natAbs_natCast _)
    · exact Int.natAbs_natCast _
  unfold add
  dsimp only
  generalize sum_eq : (_ + _ : Int) = sum
  have magnitude : sum.natAbs < x.ratio.2 * y.ratio.2 * 2 ^ (power + 1) := by
    subst sum_eq
    calc _
      _ ≤ x.ratio.1 * y.ratio.2 + y.ratio.1 * x.ratio.2 := by
        refine Nat.le_trans (Int.natAbs_add_le ..) (Nat.le_of_eq ?_)
        simp only [Int.natAbs_mul, numerator, Int.natAbs_natCast]
      _ < x.ratio.2 * 2 ^ power * y.ratio.2 + y.ratio.2 * 2 ^ power * x.ratio.2 :=
        Nat.add_lt_add (Nat.mul_lt_mul_of_pos_right first y.ratio_den_pos)
          (Nat.mul_lt_mul_of_pos_right second x.ratio_den_pos)
      _ = x.ratio.2 * y.ratio.2 * 2 ^ (power + 1) := by
        rw [Nat.pow_succ]
        generalize 2 ^ power = bound
        ring
  have log := log2_le_of_lt magnitude
  exact isFinite_ofRatio (Nat.ne_of_gt positive) (by omega)

end Testbed.Binary64
