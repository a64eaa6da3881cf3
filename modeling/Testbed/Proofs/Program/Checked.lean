import Testbed.Proofs.Program.Contract

/-!
# Checked runs

A checked run is broken off where the state becomes unsound. If a state that is unsound stays so,
and only the program itself can make it unsound, a run without checks tells what becomes of one with
checks: it goes the same way if it ends in a sound state, and it is broken off if it does not.
-/
namespace Testbed.Program

variable {σ Request ω α β : Type} {Reply : Request → Type} (sound : σ → Bool)
  (answer : (r : Request) → σ → ω → Reply r × σ × ω)

/-- The second of two programs runs from where the first one ended, if it did. -/
theorem runWhile_bind (p : Program σ Request Reply α) (f : α → Program σ Request Reply β) (s : σ)
    (w : ω) :
    (p >>= f).runWhile sound answer s w =
      let ran := p.runWhile sound answer s w
      match ran.1 with
      | some a => (f a).runWhile sound answer ran.2.1 ran.2.2
      | none => (none, ran.2) := by
  induction p generalizing s w with
  | done _ => rfl
  | act change next ih =>
    change (if _ then (next s >>= f).runWhile sound answer (change s) w else _) = _
    simp only [runWhile, ih]
    split <;> rfl
  | ask r next ih => exact ih _ _ _

theorem runWhile_request_bind (r : Request) (f : Reply r → Program σ Request Reply α) (s : σ)
    (w : ω) :
    (request r >>= f).runWhile sound answer s w =
      let answered := answer r s w
      (f answered.1).runWhile sound answer answered.2.1 answered.2.2 := rfl

theorem runWhile_modify_bind (change : σ → σ) (f : Unit → Program σ Request Reply α) (s : σ)
    (w : ω) :
    (modify change >>= f).runWhile sound answer s w =
      if sound (change s) then (f ()).runWhile sound answer (change s) w
      else (none, change s, w) := rfl

variable {sound answer} in
/-- Nothing follows where a run is broken off. -/
theorem runWhile_bind_of_none {p : Program σ Request Reply α} {s : σ} {w : ω} {broken : σ × ω}
    (f : α → Program σ Request Reply β) (h : p.runWhile sound answer s w = (none, broken)) :
    (p >>= f).runWhile sound answer s w = (none, broken) := by
  rw [runWhile_bind, h]

/-- Unsound states stay unsound. -/
def Spoils (sound : σ → Bool) (s t : σ) : Prop := sound s = false → sound t = false

variable {sound answer}

theorem Respects.run_spoils {p : Program σ Request Reply α} {A : Request → Prop}
    (spoils : p.Respects (Spoils sound) A)
    (answers : ∀ r s w, sound (answer r s w).2.1 = sound s) {s : σ} (unsound : sound s = false)
    (w : ω) : sound (p.run answer s w).2.1 = false := by
  induction p generalizing s w with
  | done value => exact unsound
  | act change next ih => exact ih s (spoils s).2 ((spoils s).1 unsound) w
  | ask r next ih => exact ih _ (spoils.2 _) ((answers r s w).trans unsound) _

variable (answer) in
/-- What follows the first of two programs makes changes and requests of the same kind. -/
theorem Respects.of_bind {R : σ → σ → Prop} {A : Request → Prop} {p : Program σ Request Reply α}
    {f : α → Program σ Request Reply β} (h : (p >>= f).Respects R A) (s : σ) (w : ω) :
    (f (p.run answer s w).1).Respects R A := by
  induction p generalizing s w with
  | done value => exact h
  | act change next ih => exact ih s (h s).2 (change s) w
  | ask r next ih => exact ih _ (h.2 _) _ _

/-- A state that the first of two programs has made unsound is so in the end. -/
theorem Respects.run_bind_spoils {p : Program σ Request Reply α}
    {f : α → Program σ Request Reply β} {A : Request → Prop}
    (spoils : (p >>= f).Respects (Spoils sound) A)
    (answers : ∀ r s w, sound (answer r s w).2.1 = sound s) {s : σ} {w : ω}
    (unsound : sound (p.run answer s w).2.1 = false) :
    sound ((p >>= f).run answer s w).2.1 = false := by
  rw [run_bind]
  exact (of_bind answer spoils s w).run_spoils answers unsound _

/-- Where a run comes to a sound state, checks make no difference. Where it does not, the checked run
is broken off. -/
theorem Respects.runWhile_eq {p : Program σ Request Reply α} {A : Request → Prop}
    (spoils : p.Respects (Spoils sound) A)
    (answers : ∀ r s w, sound (answer r s w).2.1 = sound s) {s : σ} (start : sound s = true)
    (w : ω) :
    let ran := p.run answer s w
    (sound ran.2.1 = true → p.runWhile sound answer s w = (some ran.1, ran.2)) ∧
    (sound ran.2.1 = false → (p.runWhile sound answer s w).1 = none) := by
  induction p generalizing s w with
  | done value => exact ⟨fun _ => rfl, fun unsound => absurd (start.symm.trans unsound) nofun⟩
  | act change next ih =>
    simp only [runWhile, Program.run]
    cases changed : sound (change s) with
    | true => simpa using ih s (spoils s).2 changed w
    | false =>
      have ends := run_spoils (spoils s).2 answers changed w
      simp [ends]
  | ask r next ih => exact ih _ (spoils.2 _) ((answers r s w).trans start) _

end Testbed.Program
