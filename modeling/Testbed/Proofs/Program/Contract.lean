import Testbed.Program

/-!
# Programs that share a state

Between two of its requests a program runs without interruption. A contract says what such a stretch
may do to the shared state, what the program may rely on while a request is pending, and how both
depend on its stance. A program that meets a contract does so however others, who keep to theirs,
use the time of its requests. Programs whose changes all have a property by themselves meet every
contract that allows for it, so most parts of a program need no reasoning about others at all.
-/
namespace Testbed

variable {σ Request α β : Type} {Reply : Request → Type}

/-- Where a program comes to rest: at its end or at a request. -/
inductive Rest (σ Request : Type) (Reply : Request → Type) (α : Type) : Type where
  | finished (value : α)
  | waiting (request : Request) (next : Reply request → Program σ Request Reply α)

/-- What a program owes to others that share its state, and they to it. -/
structure Contract (σ Request : Type) (Reply : Request → Type) (Stance : Type) where
  /-- What a stretch may do that begins and ends in these stances and states. -/
  stretch : Stance → σ → Stance → σ → Prop
  /-- The requests that may be pending in a stance. -/
  waits : Stance → Request → Prop
  /-- What others may do while a request is pending. -/
  rely : Stance → σ → σ → Prop
  /-- The answers that a request can get. -/
  admits : σ → (r : Request) → Reply r → Prop
  /-- The stance in which a program goes on after an answer. -/
  resume : Stance → Request → Stance

namespace Program

/-- Run a program up to its next request. -/
def advance : Program σ Request Reply α → σ → Rest σ Request Reply α × σ
  | done value, s => (.finished value, s)
  | act change next, s => (next s).advance (change s)
  | ask request next, s => (.waiting request next, s)

/-- A program that pauses nowhere hands over to the next one in the same stretch. -/
theorem advance_bind {p : Program σ Request Reply α} {f : α → Program σ Request Reply β}
    {s t : σ} {a : α} (advanced : p.advance s = (.finished a, t)) :
    (p >>= f).advance s = (f a).advance t := by
  induction p generalizing s with
  | done value =>
    cases advanced
    rfl
  | act change next ih => exact ih s advanced
  | ask request next _ => cases advanced

section Meets

variable {Stance : Type} (c : Contract σ Request Reply Stance)

/-- Whether a program keeps a contract from the middle of a stretch on: the stretch began in a
stance and a state, and the state is another one now. Where the program ends, `ends` is to hold of
its value and of the stretch that is still open. -/
def Meets (ends : α → Stance → σ → σ → Prop) :
    Program σ Request Reply α → Stance → σ → σ → Prop
  | done value, stance, start, now => ends value stance start now
  | act change next, stance, start, now => (next now).Meets ends stance start (change now)
  | ask r next, stance, start, now =>
    ∃ rest, c.stretch stance start rest now ∧ c.waits rest r ∧
      ∀ later reply, c.rely rest now later → c.admits later r reply →
        (next reply).Meets ends (c.resume rest r) later later

variable {c}

theorem Meets.bind {f : α → Program σ Request Reply β} {ends : β → Stance → σ → σ → Prop}
    (p : Program σ Request Reply α) {stance : Stance} {start now : σ}
    (h : p.Meets c (fun value stance start now => (f value).Meets c ends stance start now)
      stance start now) :
    (p >>= f).Meets c ends stance start now := by
  induction p generalizing stance start now with
  | done value => exact h
  | act change next ih => exact ih now h
  | ask r next ih =>
    obtain ⟨rest, stretch, waits, resumed⟩ := h
    exact ⟨rest, stretch, waits, fun later reply rely admitted =>
      ih reply (resumed later reply rely admitted)⟩

/-- What is known where a program comes to rest. -/
def Contract.Rests (c : Contract σ Request Reply Stance) (ends : α → Stance → σ → σ → Prop)
    (stance : Stance) (start : σ) : Rest σ Request Reply α × σ → Prop
  | (.finished value, now) => ends value stance start now
  | (.waiting r next, now) =>
    ∃ rest, c.stretch stance start rest now ∧ c.waits rest r ∧
      ∀ later reply, c.rely rest now later → c.admits later r reply →
        (next reply).Meets c ends (c.resume rest r) later later

theorem Meets.advance {ends : α → Stance → σ → σ → Prop} (p : Program σ Request Reply α)
    {stance : Stance} {start now : σ} (h : p.Meets c ends stance start now) :
    Contract.Rests c ends stance start (p.advance now) := by
  induction p generalizing now with
  | done value => exact h
  | act change next ih => exact ih now h
  | ask r next _ => exact h

/-- A program that makes no request is over after one stretch. -/
theorem Meets.of_advance {ends : α → Stance → σ → σ → Prop} (p : Program σ Request Reply α)
    {stance : Stance} {start now later : σ} {value : α}
    (h : p.advance now = (.finished value, later)) (ended : ends value stance start later) :
    p.Meets c ends stance start now := by
  induction p generalizing now with
  | done _ =>
    cases h
    exact ended
  | act change next ih => exact ih now h
  | ask r next _ => cases h

theorem run_of_advance {ω : Type} (answer : (r : Request) → σ → ω → Reply r × σ × ω)
    (p : Program σ Request Reply α) {s s' : σ} {value : α}
    (h : p.advance s = (.finished value, s')) (w : ω) : p.run answer s w = (value, s', w) := by
  induction p generalizing s with
  | done _ =>
    cases h
    rfl
  | act change next ih => exact ih s h
  | ask r next _ => cases h

end Meets

/-- Every change of a program is of some kind whatever the state, and so is every request. -/
def Respects (R : σ → σ → Prop) (A : Request → Prop) : Program σ Request Reply α → Prop
  | done _ => True
  | act change next => ∀ s, R s (change s) ∧ (next s).Respects R A
  | ask r next => A r ∧ ∀ reply, (next reply).Respects R A

namespace Respects

variable {R : σ → σ → Prop} {A : Request → Prop}

theorem pure (value : α) : (Pure.pure value : Program σ Request Reply α).Respects R A := trivial

theorem bind {p : Program σ Request Reply α} {f : α → Program σ Request Reply β}
    (first : p.Respects R A) (rest : ∀ value, (f value).Respects R A) :
    (p >>= f).Respects R A := by
  induction p with
  | done value => exact rest value
  | act change next ih => exact fun s => ⟨(first s).1, ih s (first s).2⟩
  | ask r next ih => exact ⟨first.1, fun reply => ih reply (first.2 reply)⟩

theorem get (same : ∀ s, R s s) : (get : Program σ Request Reply σ).Respects R A :=
  fun s => ⟨same s, trivial⟩

theorem modify {f : σ → σ} (h : ∀ s, R s (f s)) :
    (modify f : Program σ Request Reply Unit).Respects R A := fun s => ⟨h s, trivial⟩

theorem update {f : σ → α × σ} (h : ∀ s, R s (f s).2) :
    (update f : Program σ Request Reply α).Respects R A := fun s => ⟨h s, trivial⟩

theorem request {r : Request} (h : A r) :
    (request r : Program σ Request Reply (Reply r)).Respects R A := ⟨h, fun _ => trivial⟩

theorem mono {R' : σ → σ → Prop} {A' : Request → Prop} {p : Program σ Request Reply α}
    (h : p.Respects R A) (weaker : ∀ s s', R s s' → R' s s') (fewer : ∀ r, A r → A' r) :
    p.Respects R' A' := by
  induction p with
  | done value => trivial
  | act change next ih => exact fun s => ⟨weaker _ _ (h s).1, ih s (h s).2⟩
  | ask r next ih => exact ⟨fewer r h.1, fun reply => ih reply (h.2 reply)⟩

/-- What each change keeps holds where a program comes to rest. -/
theorem advance {P : σ → Prop} {p : Program σ Request Reply α} (h : p.Respects R A)
    (kept : ∀ s s', R s s' → P s → P s') {s : σ} (here : P s) :
    P (p.advance s).2 ∧
      match (p.advance s).1 with
      | .finished _ => True
      | .waiting r next => A r ∧ ∀ reply, (next reply).Respects R A := by
  induction p generalizing s with
  | done value => exact ⟨here, trivial⟩
  | act change next ih => exact ih s (h s).2 (kept _ _ (h s).1 here)
  | ask r next _ => exact ⟨here, h⟩

/-- A run of such changes, among such answers, is related from end to end. -/
theorem run {ω : Type} {answer : (r : Request) → σ → ω → Reply r × σ × ω}
    {T : σ × ω → σ × ω → Prop} (refl : ∀ x, T x x)
    (trans : ∀ {x y z}, T x y → T y z → T x z)
    (changes : ∀ s s' w, R s s' → T (s, w) (s', w))
    (answers : ∀ r s w, A r → T (s, w) (answer r s w).2) {p : Program σ Request Reply α}
    (h : p.Respects R A) (s : σ) (w : ω) : T (s, w) (p.run answer s w).2 := by
  induction p generalizing s w with
  | done value => exact refl _
  | act change next ih => exact trans (changes _ _ w (h s).1) (ih s (h s).2 _ w)
  | ask r next ih => exact trans (answers r s w h.1) (ih _ (h.2 _) _ _)

/-- A program of such changes meets a contract wherever they are made inside, which is a property of
open stretches: it outlasts the changes, such a stretch may be closed to wait for such a request,
and it holds again when the answer comes. -/
theorem meets {Stance : Type} {c : Contract σ Request Reply Stance}
    (inside : Stance → σ → σ → Prop)
    (changes : ∀ stance start now next, inside stance start now → R now next →
      inside stance start next)
    (pauses : ∀ stance start now r, inside stance start now → A r →
      c.stretch stance start stance now ∧ c.waits stance r ∧
        ∀ later, c.rely stance now later → inside (c.resume stance r) later later)
    {ends : α → Stance → σ → σ → Prop}
    (finish : ∀ value stance start now, inside stance start now → ends value stance start now)
    (p : Program σ Request Reply α) (h : p.Respects R A) {stance : Stance} {start now : σ}
    (here : inside stance start now) : p.Meets c ends stance start now := by
  induction p generalizing stance start now with
  | done value => exact finish _ _ _ _ here
  | act change next ih => exact ih now (h now).2 (changes _ _ _ _ here (h now).1)
  | ask r next ih =>
    obtain ⟨closed, waits, again⟩ := pauses _ _ _ r here h.1
    exact ⟨stance, closed, waits, fun later reply rely _ => ih reply (h.2 reply) (again later rely)⟩

end Respects

end Program

end Testbed
