/-!
# Strict linear orders

The order laws that the sorted containers rely on. Keys of the library are texts, machine words and
finite enumerations; an enumeration is ordered by the place of its members in their declaration.
-/
namespace Testbed

/-- A strict order in which any two different members compare one way or the other. -/
class StrictOrder (κ : Type) [LT κ] : Prop where
  irrefl (a : κ) : ¬ a < a
  trans {a b c : κ} : a < b → b < c → a < c
  trichotomous (a b : κ) : a < b ∨ a = b ∨ b < a

namespace StrictOrder

variable {κ : Type} [LT κ] [StrictOrder κ]

theorem asymm {a b : κ} (h : a < b) : ¬ b < a :=
  fun h' => irrefl a (trans h h')

theorem ne_of_lt {a b : κ} (h : a < b) : a ≠ b :=
  fun e => irrefl b (e ▸ h)

theorem eq_of_not_lt {a b : κ} (h : ¬ a < b) (h' : ¬ b < a) : a = b := by
  rcases trichotomous a b with h1 | h1 | h1
  · exact absurd h1 h
  · exact h1
  · exact absurd h1 h'

/-- An order pulled back along an injection into the numbers. -/
theorem ofIndex {κ : Type} [LT κ] (index : κ → Nat) (injective : ∀ a b, index a = index b → a = b)
    (lt_iff : ∀ a b : κ, a < b ↔ index a < index b) : StrictOrder κ where
  irrefl a h := Nat.lt_irrefl _ ((lt_iff a a).1 h)
  trans h h' := (lt_iff _ _).2 (Nat.lt_trans ((lt_iff _ _).1 h) ((lt_iff _ _).1 h'))
  trichotomous a b := by
    rcases Nat.lt_trichotomy (index a) (index b) with h | h | h
    · exact .inl ((lt_iff a b).2 h)
    · exact .inr (.inl (injective a b h))
    · exact .inr (.inr ((lt_iff b a).2 h))

end StrictOrder

instance : StrictOrder Nat where
  irrefl := Nat.lt_irrefl
  trans := Nat.lt_trans
  trichotomous := Nat.lt_trichotomy

instance : StrictOrder UInt32 where
  irrefl a := UInt32.lt_irrefl a
  trans := UInt32.lt_trans
  trichotomous a b := by
    rcases Nat.lt_trichotomy a.toNat b.toNat with h | h | h
    · exact .inl (UInt32.lt_iff_toNat_lt.2 h)
    · exact .inr (.inl (UInt32.toNat_inj.1 h))
    · exact .inr (.inr (UInt32.lt_iff_toNat_lt.2 h))

instance : StrictOrder String where
  irrefl a := String.lt_irrefl a
  trans := String.lt_trans
  trichotomous a b := by
    by_cases h : a < b
    · exact .inl h
    · by_cases h' : b < a
      · exact .inr (.inr h')
      · exact .inr (.inl (String.le_antisymm (String.not_lt.1 h') (String.not_lt.1 h)))

end Testbed
