import Testbed.Proofs.Program.Contract

/-!
# Programs that keep an invariant

An invariant of a state that a program shares with others has to hold whenever one of its requests
is pending and when it ends, not in between. The program may count on it in turn when an answer
comes, and on answers of the expected kind, and on the state having changed in expected ways only.
Programs that keep a contract and an invariant at once may rely on both.
-/
namespace Testbed

namespace Program

variable {σ Request α β : Type} {Reply : Request → Type}

section Sustains

variable (F : σ → σ → Prop) (I : σ → Prop) (A : (r : Request) → Reply r → Prop)

/-- Whether a program that goes on from a state has the invariant `I` at each of its requests and
comes to such a value and such a state, as long as what others do meanwhile is of the kind `F` and
keeps the invariant, and answers are of the kind `A`. -/
def Sustains (Q : α → σ → Prop) : Program σ Request Reply α → σ → Prop
  | done value, s => Q value s
  | act change next, s => (next s).Sustains Q (change s)
  | ask r next, s =>
    I s ∧ ∀ later reply, F s later → I later → A r reply → (next reply).Sustains Q later

variable {F I A} {s : σ} {Q : α → σ → Prop}

namespace Sustains

theorem pure {a : α} (h : Q a s) : (Pure.pure a : Program σ Request Reply α).Sustains F I A Q s := h

theorem mono {p : Program σ Request Reply α} {Q' : α → σ → Prop} (h : p.Sustains F I A Q s)
    (weaker : ∀ a t, Q a t → Q' a t) : p.Sustains F I A Q' s := by
  induction p generalizing s with
  | done value => exact weaker value s h
  | act change next ih => exact ih s h
  | ask r next ih =>
    exact ⟨h.1, fun later reply framed kept kind => ih reply (h.2 later reply framed kept kind)⟩

theorem bind {p : Program σ Request Reply α} {f : α → Program σ Request Reply β}
    {Q' : β → σ → Prop} (first : p.Sustains F I A Q s)
    (rest : ∀ a t, Q a t → (f a).Sustains F I A Q' t) : (p >>= f).Sustains F I A Q' s := by
  induction p generalizing s with
  | done value => exact rest value s first
  | act change next ih => exact ih s first
  | ask r next ih =>
    refine ⟨first.1, fun later reply framed kept kind => ?_⟩
    exact ih reply (first.2 later reply framed kept kind)

theorem modify_bind {change : σ → σ} {f : Unit → Program σ Request Reply α}
    (h : (f ()).Sustains F I A Q (change s)) : (modify change >>= f).Sustains F I A Q s := h

theorem update_bind {change : σ → β × σ} {f : β → Program σ Request Reply α}
    (h : (f (change s).1).Sustains F I A Q (change s).2) :
    (update change >>= f).Sustains F I A Q s := h

theorem get_bind {f : σ → Program σ Request Reply α} (h : (f s).Sustains F I A Q s) :
    (get >>= f).Sustains F I A Q s := h

theorem request_bind {r : Request} {f : Reply r → Program σ Request Reply α} (here : I s)
    (rest : ∀ later reply, F s later → I later → A r reply → (f reply).Sustains F I A Q later) :
    (request r >>= f).Sustains F I A Q s := ⟨here, rest⟩

/-- A program of changes of a kind that can be put together comes to such a change, if what others
do is of the same kind. -/
theorem of_respects {R : σ → σ → Prop} {B : Request → Prop} {p : Program σ Request Reply α}
    (h : p.Respects R B) (refl : ∀ s, R s s) (trans : ∀ s t u, R s t → R t u → R s u)
    (frame : ∀ s t, F s t → R s t) :
    p.Sustains F (fun _ => True) A (fun _ t => R s t) s := by
  induction p generalizing s with
  | done value => exact refl s
  | act change next ih => exact (ih s (h s).2).mono (fun _ t => trans _ _ _ (h s).1)
  | ask r next ih =>
    refine ⟨trivial, fun later reply framed _ _ => ?_⟩
    exact (ih reply (h.2 reply)).mono (fun _ t => trans _ _ _ (frame s later framed))

/-- A program keeps what its own changes keep and what others keep. -/
theorem of_keeps {P : σ → Prop} {B : Request → Prop} {p : Program σ Request Reply α}
    (keeps : p.Respects (fun s t => P s → P t) B) (invariant : ∀ s, P s → I s)
    (frame : ∀ s t, F s t → I t → P s → P t) (here : P s) :
    p.Sustains F I A (fun _ t => P t) s := by
  induction p generalizing s with
  | done value => exact here
  | act change next ih => exact ih s (keeps s).2 ((keeps s).1 here)
  | ask r next ih =>
    constructor
    · exact invariant s here
    · intro later reply framed kept _
      exact ih reply (keeps.2 reply) (frame s later framed kept here)

theorem and {p : Program σ Request Reply α} {Q' : α → σ → Prop} (first : p.Sustains F I A Q s)
    (second : p.Sustains F I A Q' s) : p.Sustains F I A (fun a t => Q a t ∧ Q' a t) s := by
  induction p generalizing s with
  | done value => exact ⟨first, second⟩
  | act change next ih => exact ih s first second
  | ask r next ih =>
    refine ⟨first.1, fun later reply framed kept kind => ?_⟩
    exact ih reply (first.2 later reply framed kept kind) (second.2 later reply framed kept kind)

/-- What is known where a program comes to rest. -/
theorem advance {p : Program σ Request Reply α} (h : p.Sustains F I A Q s) :
    match (p.advance s).1 with
    | .finished a => Q a (p.advance s).2
    | .waiting r next => I (p.advance s).2 ∧ ∀ later reply, F (p.advance s).2 later → I later →
      A r reply → (next reply).Sustains F I A Q later := by
  induction p generalizing s with
  | done value => exact h
  | act change next ih => exact ih s h
  | ask r next _ => exact h

/-- A program whose state is its own comes to what it sustains. -/
theorem runUntil {ω : Type} {p : Program σ Request Reply α}
    (h : p.Sustains (fun s t => s = t) (fun _ => True) (fun _ _ => True) Q s)
    (answer : (r : Request) → ω → Option (Reply r) × ω) (w : ω) {a : α}
    (ended : (p.runUntil answer s w).1 = some a) : Q a (p.runUntil answer s w).2.1 := by
  induction p generalizing s w with
  | done value =>
    cases ended
    exact h
  | act change next ih => exact ih s h w ended
  | ask r next ih =>
    simp only [Program.runUntil] at ended ⊢
    split at ended
    · rename_i reply v answered
      exact ih reply (h.2 s reply rfl trivial trivial) v ended
    · cases ended

end Sustains

end Sustains

section Maintains

variable {Stance : Type} (c : Contract σ Request Reply Stance) (I : σ → Prop)
  (A : (r : Request) → Reply r → Prop)

/-- Whether a program keeps a contract and has the invariant `I` at each of its requests, the latter
as long as others keep it and answers are of the kind `A`. It then ends with `Q`, and anyway with
`ends`. -/
def Maintains (ends Q : α → Stance → σ → σ → Prop) :
    Program σ Request Reply α → Stance → σ → σ → Prop
  | done value, stance, start, now => Q value stance start now
  | act change next, stance, start, now => (next now).Maintains ends Q stance start (change now)
  | ask r next, stance, start, now =>
    I now ∧ ∃ rest, c.stretch stance start rest now ∧ c.waits rest r ∧
      ∀ later reply, c.rely rest now later → c.admits later r reply →
        (next reply).Meets c ends (c.resume rest r) later later ∧
        (I later → A r reply → (next reply).Maintains ends Q (c.resume rest r) later later)

variable {c I A} {ends Q : α → Stance → σ → σ → Prop} {stance : Stance} {start now : σ}

namespace Maintains

theorem bind {f : α → Program σ Request Reply β} {ends Q : β → Stance → σ → σ → Prop}
    (p : Program σ Request Reply α)
    (h : p.Maintains c I A (fun value stance start now => (f value).Meets c ends stance start now)
      (fun value stance start now => (f value).Maintains c I A ends Q stance start now)
      stance start now) :
    (p >>= f).Maintains c I A ends Q stance start now := by
  induction p generalizing stance start now with
  | done value => exact h
  | act change next ih => exact ih now h
  | ask r next ih =>
    obtain ⟨here, rest, stretch, waits, resumed⟩ := h
    refine ⟨here, rest, stretch, waits, fun later reply relied admitted => ?_⟩
    obtain ⟨meets, maintains⟩ := resumed later reply relied admitted
    exact ⟨.bind _ meets, fun kept kind => ih reply (maintains kept kind)⟩

/-- A program that keeps the contract, of changes that keep the invariant each. -/
theorem of_respects {B : Request → Prop} {p : Program σ Request Reply α}
    (meets : p.Meets c ends stance start now) (respects : p.Respects (fun s t => I s → I t) B)
    (here : I now) :
    p.Maintains c I A ends (fun value stance start now => ends value stance start now ∧ I now)
      stance start now := by
  induction p generalizing stance start now with
  | done value => exact ⟨meets, here⟩
  | act change next ih => exact ih now meets (respects now).2 ((respects now).1 here)
  | ask r next ih =>
    obtain ⟨rest, stretch, waits, resumed⟩ := meets
    refine ⟨here, rest, stretch, waits, fun later reply relied admitted => ?_⟩
    have again := resumed later reply relied admitted
    exact ⟨again, fun kept _ => ih reply again (respects.2 reply) kept⟩

end Maintains

/-- What is known where a program comes to rest. -/
def Contract.RestsWith (c : Contract σ Request Reply Stance) (I : σ → Prop)
    (A : (r : Request) → Reply r → Prop) (ends Q : α → Stance → σ → σ → Prop) (stance : Stance)
    (start : σ) : Rest σ Request Reply α × σ → Prop
  | (.finished value, now) => Q value stance start now
  | (.waiting r next, now) =>
    I now ∧ ∃ rest, c.stretch stance start rest now ∧ c.waits rest r ∧
      ∀ later reply, c.rely rest now later → c.admits later r reply →
        (next reply).Meets c ends (c.resume rest r) later later ∧
        (I later → A r reply →
          (next reply).Maintains c I A ends Q (c.resume rest r) later later)

theorem Maintains.advance (p : Program σ Request Reply α)
    (h : p.Maintains c I A ends Q stance start now) :
    Contract.RestsWith c I A ends Q stance start (p.advance now) := by
  induction p generalizing now with
  | done value => exact h
  | act change next ih => exact ih now h
  | ask r next _ => exact h

end Maintains

end Program

end Testbed
