import Mathlib.Data.List.Basic
import Testbed.Digest.Sha256

/-!
# Digests in hexadecimal digits

Writing a hash in hexadecimal digits and a text in bytes loses nothing, so two texts share their
digest only if they are the same or if their bytes collide.
-/
namespace Testbed.Sha256

theorem hexByte_eq (b : UInt8) :
    hexByte b = [(b.toNat / 16).digitChar, (b.toNat % 16).digitChar] := by
  have below := b.toNat_lt
  unfold hexByte
  by_cases small : b.toNat < 16
  · rw [Nat.toDigits_of_lt_base small, Nat.div_eq_of_lt small, Nat.mod_eq_of_lt small]
    rfl
  · have upper : b.toNat / 16 < 16 := by omega
    rw [Nat.toDigits_of_base_le (by decide) (by omega), Nat.toDigits_of_lt_base upper]
    rfl

theorem digitChar_injective : ∀ m < 16, ∀ n < 16, m.digitChar = n.digitChar → m = n := by
  decide

theorem hexByte_injective {a b : UInt8} (same : hexByte a = hexByte b) : a = b := by
  have := a.toNat_lt
  have := b.toNat_lt
  simp only [hexByte_eq, List.cons.injEq, and_true] at same
  have upper := digitChar_injective _ (by omega) _ (by omega) same.1
  have lower := digitChar_injective _ (by omega) _ (by omega) same.2
  exact UInt8.toNat_inj.1 (by omega)

theorem flatMap_hexByte_injective {m n : List UInt8}
    (same : m.flatMap hexByte = n.flatMap hexByte) : m = n := by
  induction m generalizing n with
  | nil =>
    cases n with
    | nil => rfl
    | cons b n => simp [hexByte_eq] at same
  | cons a m ih =>
    cases n with
    | nil => simp [hexByte_eq] at same
    | cons b n =>
      rw [List.flatMap_cons, List.flatMap_cons] at same
      have lengths : (hexByte a).length = (hexByte b).length := by simp [hexByte_eq]
      obtain ⟨first, rest⟩ := List.append_inj same lengths
      rw [hexByte_injective first, ih rest]

/-- Listing the bytes of an array from a place on. -/
theorem byteArray_loop (bytes : ByteArray) (i : Nat) (done : List UInt8) :
    ByteArray.toList.loop bytes i done = done.reverse ++ bytes.data.toList.drop i := by
  fun_induction ByteArray.toList.loop bytes i done with
  | case1 i done inside ih =>
    have inside : i < bytes.data.toList.length := inside
    rw [ih, List.drop_eq_getElem_cons inside]
    simp [ByteArray.get!, getElem!_pos bytes.data i inside]
  | case2 i done outside =>
    have outside : bytes.data.toList.length ≤ i := Nat.le_of_not_lt outside
    simp [List.drop_of_length_le outside]

theorem utf8_injective {s t : String} (same : s.toUTF8.toList = t.toUTF8.toList) : s = t := by
  have listed (bytes : ByteArray) : bytes.toList = bytes.data.toList := byteArray_loop bytes 0 []
  rw [listed, listed, Array.toList_inj] at same
  exact String.toByteArray_inj.1 (ByteArray.ext same)

/-- Different messages with the same hash. -/
def Collide (m n : List UInt8) : Prop := m ≠ n ∧ hash m = hash n

/-- Texts with the same digest are the same unless their bytes collide. -/
theorem hexDigest_eq_iff {s t : String} :
    hexDigest s = hexDigest t ↔ s = t ∨ Collide s.toUTF8.toList t.toUTF8.toList := by
  constructor
  · intro same
    have hashes : hash s.toUTF8.toList = hash t.toUTF8.toList :=
      flatMap_hexByte_injective (String.ofList_injective same)
    by_cases texts : s = t
    · exact .inl texts
    · exact .inr ⟨fun bytes => texts (utf8_injective bytes), hashes⟩
  · rintro (rfl | ⟨-, hashes⟩)
    · rfl
    · rw [hexDigest, hexDigest, hashes]

end Testbed.Sha256
