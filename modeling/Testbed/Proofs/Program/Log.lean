import Testbed.Proofs.Program.Journal

/-!
# What a program did before it was given up

A program that may be given up keeps a log of the requests that it began. Its traces are the logs
that it can leave, each with the value that was reached, if any was, and with the state at that
moment. They are put together along the program.
-/
namespace Testbed

/-- The requests that were begun, the last one perhaps without an answer. -/
abbrev Log (Request : Type) (Reply : Request → Type) :=
  List (Exchange Request (fun r => Option (Reply r)))

namespace Program

variable {σ Request ω α β : Type} {Reply : Request → Type}

/-- Answer requests or give them up, and keep a log of them. -/
def noting (answer : (r : Request) → ω → Option (Reply r) × ω) (r : Request)
    (w : ω × Log Request Reply) : Option (Reply r) × ω × Log Request Reply :=
  let answered := answer r w.1
  (answered.1, answered.2, w.2 ++ [⟨r, answered.1⟩])

/-- Whether something holds wherever a program that begins in a state ends or is given up. -/
def Traces (Q : Log Request Reply → Option α → σ → Prop) : Program σ Request Reply α → σ → Prop
  | done value, s => Q [] (some value) s
  | act change next, s => (next s).Traces Q (change s)
  | ask r next, s => Q [⟨r, none⟩] none s ∧
    ∀ reply, (next reply).Traces (fun log => Q (⟨r, some reply⟩ :: log)) s

namespace Traces

variable {Q Q' : Log Request Reply → Option α → σ → Prop} {s : σ}

/-- What a run leaves is one of the traces. -/
theorem runUntil {p : Program σ Request Reply α} (h : p.Traces Q s)
    (answer : (r : Request) → ω → Option (Reply r) × ω) (w : ω) (earlier : Log Request Reply) :
    let ran := p.runUntil (noting answer) s (w, earlier)
    ∃ log, ran.2.2.2 = earlier ++ log ∧ Q log ran.1 ran.2.1 := by
  induction p generalizing s w earlier Q with
  | done value => exact ⟨[], (List.append_nil _).symm, h⟩
  | act change next ih => exact ih s h w earlier
  | ask r next ih =>
    simp only [Program.runUntil, noting]
    obtain ⟨reply, later⟩ := answer r w
    cases reply with
    | none => exact ⟨[⟨r, none⟩], rfl, h.1⟩
    | some reply =>
      obtain ⟨log, more, holds⟩ := ih reply (h.2 reply) later (earlier ++ [⟨r, some reply⟩])
      exact ⟨⟨r, some reply⟩ :: log, more.trans (List.append_assoc ..), holds⟩

theorem mono {p : Program σ Request Reply α} (h : p.Traces Q s)
    (weaker : ∀ log outcome t, Q log outcome t → Q' log outcome t) : p.Traces Q' s := by
  induction p generalizing s Q Q' with
  | done value => exact weaker _ _ _ h
  | act change next ih => exact ih s h weaker
  | ask r next ih => exact ⟨weaker _ _ _ h.1, fun reply => ih reply (h.2 reply) (fun _ => weaker _)⟩

theorem and {p : Program σ Request Reply α} (first : p.Traces Q s) (second : p.Traces Q' s) :
    p.Traces (fun log outcome t => Q log outcome t ∧ Q' log outcome t) s := by
  induction p generalizing s Q Q' with
  | done value => exact ⟨first, second⟩
  | act change next ih => exact ih s first second
  | ask r next ih =>
    exact ⟨⟨first.1, second.1⟩, fun reply => ih reply (first.2 reply) (second.2 reply)⟩

theorem pure {value : α} (h : Q [] (some value) s) :
    (Pure.pure value : Program σ Request Reply α).Traces Q s := h

/-- The second of two programs begins unless the first one was given up. -/
theorem bind {p : Program σ Request Reply α} {f : α → Program σ Request Reply β}
    {Q' : Log Request Reply → Option β → σ → Prop} (first : p.Traces Q s)
    (broken : ∀ log t, Q log none t → Q' log none t)
    (rest : ∀ log value t, Q log (some value) t →
      (f value).Traces (fun more => Q' (log ++ more)) t) :
    (p >>= f).Traces Q' s := by
  induction p generalizing s Q Q' with
  | done value => exact rest [] value s first
  | act change next ih => exact ih s first broken rest
  | ask r next ih =>
    refine ⟨broken _ _ first.1, fun reply => ?_⟩
    exact ih reply (first.2 reply) (fun _ => broken _) (fun _ => rest _)

/-- The second of two programs begins unless the first one failed or was given up. -/
theorem unless_failed {ε : Type} {p : Program σ Request Reply (Except ε Unit)}
    {f : Except ε Unit → Program σ Request Reply (Except ε Unit)}
    {Q Q' : Log Request Reply → Option (Except ε Unit) → σ → Prop} (first : p.Traces Q s)
    (fails : ∀ error, f (.error error) = Pure.pure (.error error))
    (stops : ∀ log outcome t, outcome ≠ some (.ok ()) → Q log outcome t → Q' log outcome t)
    (goes : ∀ log t, Q log (some (.ok ())) t →
      (f (.ok ())).Traces (fun more => Q' (log ++ more)) t) :
    (p >>= f).Traces Q' s := by
  refine .bind first (fun log t => stops log none t nofun) (fun log ended t came => ?_)
  cases ended with
  | ok _ => exact goes log t came
  | error error =>
    rw [fails]
    refine .pure ?_
    rw [List.append_nil]
    exact stops log _ t nofun came

theorem modify_bind {change : σ → σ} {f : Unit → Program σ Request Reply α}
    (h : (f ()).Traces Q (change s)) : (modify change >>= f).Traces Q s := h

theorem get_bind {f : σ → Program σ Request Reply α} (h : (f s).Traces Q s) :
    (get >>= f).Traces Q s := h

theorem request_bind {r : Request} {f : Reply r → Program σ Request Reply α}
    (broken : Q [⟨r, none⟩] none s)
    (rest : ∀ reply, (f reply).Traces (fun log => Q (⟨r, some reply⟩ :: log)) s) :
    (request r >>= f).Traces Q s := ⟨broken, rest⟩

/-- A program of changes of a kind that can be put together, and of requests of a kind, leaves such
a change and has begun such requests only. -/
theorem of_respects {R : σ → σ → Prop} {A : Request → Prop} {p : Program σ Request Reply α}
    (h : p.Respects R A) (refl : ∀ s, R s s) (trans : ∀ s t u, R s t → R t u → R s u) :
    p.Traces (fun log _ t => R s t ∧ ∀ exchange ∈ log, A exchange.request) s := by
  induction p generalizing s with
  | done value => exact ⟨refl s, nofun⟩
  | act change next ih =>
    exact (ih s (h s).2).mono (fun _ _ t => And.imp_left (trans _ _ _ (h s).1))
  | ask r next ih =>
    refine ⟨⟨refl s, List.forall_mem_singleton.2 h.1⟩, fun reply => ?_⟩
    refine (ih reply (h.2 reply)).mono (fun log _ t traced => ⟨traced.1, ?_⟩)
    exact List.forall_mem_cons.2 ⟨h.1, traced.2⟩

end Traces

end Program

end Testbed
