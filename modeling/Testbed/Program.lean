/-!
# Programs

A program works on a state and asks its surroundings for everything else. Between two requests it
runs without interruption, so a run is a sequence of such stretches, and whatever else is going on
can only take place while a request is pending. Programs form a monad, and running a sequence of
two is running the second from where the first one ended.
-/
namespace Testbed

/-- A program over a state `σ` that asks for requests and gives a value. -/
inductive Program (σ Request : Type) (Reply : Request → Type) (α : Type) : Type where
  | done (value : α)
  /-- Change the state and go on from what it was before. -/
  | act (change : σ → σ) (next : σ → Program σ Request Reply α)
  /-- Make a request and go on with the reply. -/
  | ask (request : Request) (next : Reply request → Program σ Request Reply α)

namespace Program

variable {σ Request ω α β : Type} {Reply : Request → Type}

/-- Run a program and then the one that its value leads to. -/
def bind : Program σ Request Reply α → (α → Program σ Request Reply β) → Program σ Request Reply β
  | done value, f => f value
  | act change next, f => act change (fun s => (next s).bind f)
  | ask request next, f => ask request (fun reply => (next reply).bind f)

instance : Monad (Program σ Request Reply) where
  pure := done
  bind := bind

theorem bind_done (p : Program σ Request Reply α) : p.bind done = p := by
  induction p with
  | done _ => rfl
  | act change next ih => simp only [bind, ih]
  | ask request next ih => simp only [bind, ih]

theorem bind_bind {γ : Type} (p : Program σ Request Reply α) (f : α → Program σ Request Reply β)
    (g : β → Program σ Request Reply γ) : (p.bind f).bind g = p.bind (fun a => (f a).bind g) := by
  induction p with
  | done _ => rfl
  | act change next ih => simp only [bind, ih]
  | ask request next ih => simp only [bind, ih]

instance : LawfulMonad (Program σ Request Reply) :=
  .mk' _ bind_done (fun _ _ => rfl) bind_bind

/-- The state as it is. -/
def get : Program σ Request Reply σ := act id done

/-- Change the state. -/
def modify (f : σ → σ) : Program σ Request Reply Unit := act f (fun _ => done ())

/-- Take a value out of the state while changing it. -/
def update (f : σ → α × σ) : Program σ Request Reply α :=
  act (fun s => (f s).2) (fun s => done (f s).1)

/-- Make a request. -/
def request (r : Request) : Program σ Request Reply (Reply r) := ask r done

/-- Run a program in surroundings `ω` that answer its requests and may change its state while one
is pending. -/
def run (answer : (r : Request) → σ → ω → Reply r × σ × ω) :
    Program σ Request Reply α → σ → ω → α × σ × ω
  | done value, s, w => (value, s, w)
  | act change next, s, w => run answer (next s) (change s) w
  | ask r next, s, w =>
    let answered := answer r s w
    run answer (next answered.1) answered.2.1 answered.2.2

/-- Run a program in surroundings that may give it up instead of answering. The state is left as it
is at that moment. -/
def runUntil (answer : (r : Request) → ω → Option (Reply r) × ω) :
    Program σ Request Reply α → σ → ω → Option α × σ × ω
  | done value, s, w => (some value, s, w)
  | act change next, s, w => runUntil answer (next s) (change s) w
  | ask r next, s, w =>
    match answer r w with
    | (some reply, w) => runUntil answer (next reply) s w
    | (none, w) => (none, s, w)

/-- Run a program as long as its state is sound. A run that makes it unsound is broken off there and
gives no value. -/
def runWhile (sound : σ → Bool) (answer : (r : Request) → σ → ω → Reply r × σ × ω) :
    Program σ Request Reply α → σ → ω → Option α × σ × ω
  | done value, s, w => (some value, s, w)
  | act change next, s, w =>
    if sound (change s) then runWhile sound answer (next s) (change s) w else (none, change s, w)
  | ask r next, s, w =>
    let answered := answer r s w
    runWhile sound answer (next answered.1) answered.2.1 answered.2.2

section Run

variable (answer : (r : Request) → σ → ω → Reply r × σ × ω) (s : σ) (w : ω)

@[simp]
theorem run_pure (a : α) : (pure a : Program σ Request Reply α).run answer s w = (a, s, w) := rfl

@[simp]
theorem run_get : (get : Program σ Request Reply σ).run answer s w = (s, s, w) := rfl

@[simp]
theorem run_modify (f : σ → σ) :
    (modify f : Program σ Request Reply Unit).run answer s w = ((), f s, w) := rfl

@[simp]
theorem run_update (f : σ → α × σ) :
    (update f : Program σ Request Reply α).run answer s w = ((f s).1, (f s).2, w) := rfl

@[simp]
theorem run_request (r : Request) :
    (request r : Program σ Request Reply (Reply r)).run answer s w = answer r s w := rfl

end Run

/-- The second of two programs runs from where the first one ended. -/
@[simp]
theorem run_bind (answer : (r : Request) → σ → ω → Reply r × σ × ω)
    (p : Program σ Request Reply α) (f : α → Program σ Request Reply β) (s : σ) (w : ω) :
    (p >>= f).run answer s w =
      (f (p.run answer s w).1).run answer (p.run answer s w).2.1 (p.run answer s w).2.2 := by
  induction p generalizing s w with
  | done _ => rfl
  | act change next ih => exact ih s (change s) w
  | ask r next ih => exact ih _ _ _

@[simp]
theorem run_map (answer : (r : Request) → σ → ω → Reply r × σ × ω) (f : α → β)
    (p : Program σ Request Reply α) (s : σ) (w : ω) :
    (f <$> p).run answer s w =
      (f (p.run answer s w).1, (p.run answer s w).2.1, (p.run answer s w).2.2) :=
  run_bind answer p (fun a => pure (f a)) s w

end Program

end Testbed
