import Testbed.Proofs.Program.Contract

/-!
# Programs that come to an end

A program winds down if each of its stretches is of some kind, its requests are of some kind, and
there are only so many of them. A program closes if every answer that it gets in a state of some
kind is its last one: it is over in the same stretch, with an outcome that goes with the answer.
-/
namespace Testbed

namespace Program

variable {σ Request α β : Type} {Reply : Request → Type}

section Winds

variable (R : σ → σ → Prop) (A : Request → Prop)

/-- Whether a program winds down from the middle of a stretch on: what is left of it is made of
stretches `R` and of at most so many requests `A`. -/
def Winds : Program σ Request Reply α → (left : Nat) → (start now : σ) → Prop
  | done _, _, start, now => R start now
  | act change next, left, start, now => (next now).Winds left start (change now)
  | ask r next, left, start, now => R start now ∧ A r ∧ ∃ fewer, left = fewer + 1 ∧
    ∀ later reply, (next reply).Winds fewer later later

variable {R A} {p : Program σ Request Reply α} {f : α → Program σ Request Reply β} {left n : Nat}
  {s start now : σ}

namespace Winds

theorem pure {a : α} (came : R start now) :
    (Pure.pure a : Program σ Request Reply α).Winds R A left start now := came

theorem mono (h : p.Winds R A left start now) (enough : left ≤ n) : p.Winds R A n start now := by
  induction p generalizing left n start now with
  | done value => exact h
  | act change next ih => exact ih now h enough
  | ask r next ih =>
    obtain ⟨came, kind, fewer, rfl, goesOn⟩ := h
    obtain ⟨room, rfl⟩ : ∃ room, n = room + 1 := ⟨n - 1, by omega⟩
    exact ⟨came, kind, room, rfl, fun later reply => ih reply (goesOn later reply) (by omega)⟩

theorem bind (first : p.Winds R A left start now)
    (rest : ∀ a start now, R start now → (f a).Winds R A n start now) :
    (p >>= f).Winds R A (left + n) start now := by
  induction p generalizing left start now with
  | done value => exact (rest value start now first).mono (by omega)
  | act change next ih => exact ih now first
  | ask r next ih =>
    obtain ⟨came, kind, fewer, rfl, goesOn⟩ := first
    exact ⟨came, kind, fewer + n, by omega, fun later reply => ih reply (goesOn later reply)⟩

theorem modify_bind {change : σ → σ} {f : Unit → Program σ Request Reply α}
    (h : (f ()).Winds R A left start (change now)) :
    (modify change >>= f).Winds R A left start now := h

theorem update_bind {change : σ → β × σ} {f : β → Program σ Request Reply α}
    (h : (f (change now).1).Winds R A left start (change now).2) :
    (update change >>= f).Winds R A left start now := h

theorem request_bind {r : Request} {f : Reply r → Program σ Request Reply α} (came : R start now)
    (kind : A r) (rest : ∀ later reply, (f reply).Winds R A left later later) :
    (request r >>= f).Winds R A (left + 1) start now :=
  ⟨came, kind, left, rfl, rest⟩

/-- A program that pauses nowhere has wound down. -/
theorem of_advance {a : α} (advanced : p.advance now = (.finished a, s)) (came : R start s) :
    p.Winds R A left start now := by
  induction p generalizing now with
  | done value =>
    cases advanced
    exact came
  | act change next ih => exact ih now advanced
  | ask r next _ => cases advanced

/-- What is known where a program that winds down comes to rest. -/
theorem advance (h : p.Winds R A left start now) :
    R start (p.advance now).2 ∧
      match (p.advance now).1 with
      | .finished _ => True
      | .waiting r next => A r ∧ ∃ fewer, left = fewer + 1 ∧
        ∀ later reply, (next reply).Winds R A fewer later later := by
  induction p generalizing now with
  | done value => exact ⟨h, trivial⟩
  | act change next ih => exact ih now h
  | ask r next _ => exact h

end Winds

end Winds

section Closes

variable (G : σ → Prop) (L : σ → (r : Request) → Reply r → α → σ → Prop)

/-- Whether every answer that a program gets in a state `G` is the last one: the program is over in
the same stretch, with a value and in a state that go with the answer as `L` says. -/
def Closes : Program σ Request Reply α → Prop
  | done _ => True
  | act _ next => ∀ s, (next s).Closes
  | ask r next => ∀ reply, (next reply).Closes ∧
    ∀ s, G s → ∃ value t, (next reply).advance s = (.finished value, t) ∧ L s r reply value t

variable {G L} {K : σ → (r : Request) → Reply r → β → σ → Prop} {p : Program σ Request Reply α}
  {f : α → Program σ Request Reply β}

namespace Closes

theorem pure (a : α) : (Pure.pure a : Program σ Request Reply α).Closes G L := trivial

theorem mono {L' : σ → (r : Request) → Reply r → α → σ → Prop} (h : p.Closes G L)
    (weaker : ∀ s r reply value t, L s r reply value t → L' s r reply value t) :
    p.Closes G L' := by
  induction p with
  | done value => trivial
  | act change next ih => exact fun s => ih s (h s)
  | ask r next ih =>
    refine fun reply => ⟨ih reply (h reply).1, fun s allowed => ?_⟩
    obtain ⟨value, t, advanced, outcome⟩ := (h reply).2 s allowed
    exact ⟨value, t, advanced, weaker _ _ _ _ _ outcome⟩

/-- After the last answer to the first of two programs, the second one is to be over at once. -/
theorem bind (first : p.Closes G L)
    (closed : ∀ s r reply value t, G s → L s r reply value t →
      ∃ result u, (f value).advance t = (.finished result, u) ∧ K s r reply result u)
    (rest : ∀ value, (f value).Closes G K) : (p >>= f).Closes G K := by
  induction p with
  | done value => exact rest value
  | act change next ih => exact fun s => ih s (first s)
  | ask r next ih =>
    refine fun reply => ⟨ih reply (first reply).1, fun s allowed => ?_⟩
    obtain ⟨value, t, advanced, outcome⟩ := (first reply).2 s allowed
    obtain ⟨result, u, finished, outcome⟩ := closed s r reply value t allowed outcome
    exact ⟨result, u, (advance_bind advanced).trans finished, outcome⟩

/-- A program that makes no requests waits for no answer. -/
theorem of_respects {S : σ → σ → Prop} (h : p.Respects S (fun _ => False)) : p.Closes G L := by
  induction p with
  | done value => trivial
  | act change next ih => exact fun s => ih s (h s).2
  | ask r next _ => exact h.1.elim

/-- Nor does it matter before another one. -/
theorem after {S : σ → σ → Prop} (first : p.Respects S (fun _ => False))
    (rest : ∀ value, (f value).Closes G K) : (p >>= f).Closes G K :=
  (of_respects (L := fun _ _ _ _ _ => False) first).bind (fun _ _ _ _ _ _ never => never.elim) rest

theorem modify_bind {change : σ → σ} {f : Unit → Program σ Request Reply α}
    (h : (f ()).Closes G L) : (modify change >>= f).Closes G L := fun _ => h

theorem request_bind {r : Request} {f : Reply r → Program σ Request Reply α}
    (rest : ∀ reply, (f reply).Closes G L)
    (closed : ∀ reply s, G s →
      ∃ value t, (f reply).advance s = (.finished value, t) ∧ L s r reply value t) :
    (request r >>= f).Closes G L := fun reply => ⟨rest reply, closed reply⟩

/-- What is known where a program that closes comes to rest. -/
theorem advance (h : p.Closes G L) (s : σ) :
    match (p.advance s).1 with
    | .finished _ => True
    | .waiting r next => ∀ reply, (next reply).Closes G L ∧
      ∀ s, G s → ∃ value t, (next reply).advance s = (.finished value, t) ∧ L s r reply value t := by
  induction p generalizing s with
  | done value => trivial
  | act change next ih => exact ih s (h s) (change s)
  | ask r next _ => exact h

end Closes

end Closes

end Program

end Testbed
