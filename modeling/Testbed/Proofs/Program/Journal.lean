import Testbed.Proofs.Program.Contract

/-!
# What programs ask and are answered

A run can keep a journal of its exchanges, which has no influence on it. What a program ensures
about its exchanges and its value holds in every run: from any state, whatever the answers are, and
however the state is changed by others while a request is pending. It is put together along the
program.
-/
namespace Testbed

/-- A request and its answer. -/
structure Exchange (Request : Type) (Reply : Request → Type) where
  request : Request
  reply : Reply request

namespace Program

variable {σ Request ω α β : Type} {Reply : Request → Type}

/-- Answer requests and keep a journal of the exchanges. -/
def journaling (answer : (r : Request) → σ → ω → Reply r × σ × ω) (r : Request) (s : σ)
    (w : ω × List (Exchange Request Reply)) : Reply r × σ × ω × List (Exchange Request Reply) :=
  let answered := answer r s w.1
  (answered.1, answered.2.1, answered.2.2, w.2 ++ [⟨r, answered.1⟩])

/-- Whether something holds of the exchanges and the value of a program in all of its runs. -/
def Ensures : Program σ Request Reply α → (List (Exchange Request Reply) → α → Prop) → Prop
  | done value, Q => Q [] value
  | act _ next, Q => ∀ s, (next s).Ensures Q
  | ask r next, Q => ∀ reply, (next reply).Ensures (fun exchanges => Q (⟨r, reply⟩ :: exchanges))

/-- A run goes the same way with a journal. -/
theorem run_journaling (answer : (r : Request) → σ → ω → Reply r × σ × ω)
    (p : Program σ Request Reply α) (s : σ) (w : ω × List (Exchange Request Reply)) :
    let ran := p.run (journaling answer) s w
    p.run answer s w.1 = (ran.1, ran.2.1, ran.2.2.1) := by
  induction p generalizing s w with
  | done _ => rfl
  | act change next ih => exact ih s (change s) w
  | ask r next ih =>
    let answered := answer r s w.1
    exact ih answered.1 answered.2.1 (answered.2.2, w.2 ++ [⟨r, answered.1⟩])

namespace Ensures

variable {Q Q' : List (Exchange Request Reply) → α → Prop}

/-- What is ensured holds of what a run adds to its journal. -/
theorem run {p : Program σ Request Reply α} (h : p.Ensures Q)
    (answer : (r : Request) → σ → ω → Reply r × σ × ω) (s : σ) (w : ω)
    (earlier : List (Exchange Request Reply)) :
    let ran := p.run (journaling answer) s (w, earlier)
    ∃ exchanges, ran.2.2.2 = earlier ++ exchanges ∧ Q exchanges ran.1 := by
  induction p generalizing s w earlier Q with
  | done value => exact ⟨[], (List.append_nil _).symm, h⟩
  | act change next ih => exact ih s (h s) (change s) w earlier
  | ask r next ih =>
    let answered := answer r s w
    obtain ⟨exchanges, more, holds⟩ := ih answered.1 (h answered.1) answered.2.1 answered.2.2
      (earlier ++ [⟨r, answered.1⟩])
    exact ⟨⟨r, answered.1⟩ :: exchanges, more.trans (List.append_assoc ..), holds⟩

theorem mono {p : Program σ Request Reply α} (h : p.Ensures Q)
    (weaker : ∀ exchanges value, Q exchanges value → Q' exchanges value) : p.Ensures Q' := by
  induction p generalizing Q Q' with
  | done value => exact weaker _ _ h
  | act change next ih => exact fun s => ih s (h s) weaker
  | ask r next ih => exact fun reply => ih reply (h reply) (fun _ => weaker _)

theorem and {p : Program σ Request Reply α} (first : p.Ensures Q) (second : p.Ensures Q') :
    p.Ensures (fun exchanges value => Q exchanges value ∧ Q' exchanges value) := by
  induction p generalizing Q Q' with
  | done value => exact ⟨first, second⟩
  | act change next ih => exact fun s => ih s (first s) (second s)
  | ask r next ih => exact fun reply => ih reply (first reply) (second reply)

theorem of_forall (p : Program σ Request Reply α) (h : ∀ exchanges value, Q exchanges value) :
    p.Ensures Q := by
  induction p generalizing Q with
  | done value => exact h [] value
  | act change next ih => exact fun s => ih s h
  | ask r next ih => exact fun reply => ih reply (fun _ => h _)

theorem pure {value : α} (h : Q [] value) :
    (Pure.pure value : Program σ Request Reply α).Ensures Q := h

theorem bind {p : Program σ Request Reply α} {f : α → Program σ Request Reply β}
    {Q' : List (Exchange Request Reply) → β → Prop} (first : p.Ensures Q)
    (rest : ∀ exchanges value, Q exchanges value →
      (f value).Ensures (fun more => Q' (exchanges ++ more))) :
    (p >>= f).Ensures Q' := by
  induction p generalizing Q Q' with
  | done value => exact rest [] value first
  | act change next ih => exact fun s => ih s (first s) rest
  | ask r next ih => exact fun reply => ih reply (first reply) (fun _ => rest _)

theorem modify_bind {change : σ → σ} {f : Unit → Program σ Request Reply α}
    (h : (f ()).Ensures Q) : (modify change >>= f).Ensures Q := fun _ => h

theorem update_bind {change : σ → β × σ} {f : β → Program σ Request Reply α}
    (h : ∀ value, (f value).Ensures Q) : (update change >>= f).Ensures Q := fun _ => h _

theorem request_bind {r : Request} {f : Reply r → Program σ Request Reply α}
    (h : ∀ reply, (f reply).Ensures (fun exchanges => Q (⟨r, reply⟩ :: exchanges))) :
    (request r >>= f).Ensures Q := h

end Ensures

/-- A program makes requests of its kind only. -/
theorem Respects.ensures {R : σ → σ → Prop} {A : Request → Prop} {p : Program σ Request Reply α}
    (h : p.Respects R A) : p.Ensures (fun exchanges _ => ∀ e ∈ exchanges, A e.request) := by
  induction p with
  | done value => exact fun _ member => nomatch member
  | act change next ih => exact fun s => ih s (h s).2
  | ask r next ih =>
    intro reply
    refine (ih reply (h.2 reply)).mono (fun exchanges _ kinds => ?_)
    exact List.forall_mem_cons.2 ⟨h.1, kinds⟩

end Program

end Testbed
