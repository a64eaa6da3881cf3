/-!
# What optional results satisfy

A reader gives a result or none. A property of its result is put together along the reader: what the
first part gives is known when the rest begins.
-/
namespace Testbed

variable {α β : Type} {P : α → Prop} {Q : β → Prop}

/-- Every result has a property. -/
def Gives (P : α → Prop) (result : Option α) : Prop := ∀ a, result = some a → P a

namespace Gives

theorem none : Gives P none := nofun

theorem some {a : α} (h : P a) : Gives P (some a) := by
  rintro _ ⟨⟩
  exact h

theorem bind {first : Option β} {rest : β → Option α} (known : Gives Q first)
    (goesOn : ∀ b, Q b → Gives P (rest b)) : Gives P (first >>= rest) := by
  intro a h
  obtain ⟨b, came, h⟩ := Option.bind_eq_some_iff.1 h
  exact goesOn b (known b came) a h

/-- What the first part gives does not matter. -/
theorem after {first : Option β} {rest : β → Option α} (goesOn : ∀ b, Gives P (rest b)) :
    Gives P (first >>= rest) := by
  intro a h
  obtain ⟨b, -, h⟩ := Option.bind_eq_some_iff.1 h
  exact goesOn b a h

theorem map {result : Option β} {f : β → α} (known : Gives Q result) (h : ∀ b, Q b → P (f b)) :
    Gives P (result.map f) := by
  intro a came
  obtain ⟨b, given, rfl⟩ := Option.map_eq_some_iff.1 came
  exact h b (known b given)

end Gives

end Testbed
