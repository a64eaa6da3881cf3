import Testbed.Proofs.Lifecycle.Journal

/-!
# What work yields

What work asks and is answered, what it gives and what it leaves, when nobody else works on the pool
and only the cancellation of the run comes from outside. It is put together along the work.
-/
namespace Testbed

open Program

variable {ω α β : Type}

/-- The requests to the platform, in the order in which they were made. -/
def platformCalls (journal : Journal) : List Request :=
  journal.map Exchange.request |>.filter (fun
    | .prepare _ | .deploy _ | .delete _ => true
    | .lock _ | .interruptible _ | .call _ | .notify _ => false)

theorem platformCalls_append (first rest : Journal) :
    platformCalls (first ++ rest) = platformCalls first ++ platformCalls rest := by
  simp [platformCalls]

/-- Only the cancellation of the run comes with an answer. -/
theorem Surroundings.answer_pool (s : Surroundings ω) (r : Request) (p : Pool) (w : ω) :
    ∃ cancelled, (s.answer r p w).2.1 = { p with cancelled } := by
  unfold answer
  dsimp only
  split
  · exact ⟨true, rfl⟩
  · exact ⟨p.cancelled, rfl⟩

namespace Work

/-- Whether work that begins with a pool, in a world, yields such exchanges, such a value, such a
pool and such a world. -/
def Yields (s : Surroundings ω) (work : Work α) (p : Pool) (w : ω)
    (Q : Journal → α → Pool → ω → Prop) : Prop :=
  ∀ earlier, ∃ journal,
    let ran := Work.follow s.answer work p (w, earlier)
    ran.2.2.2 = earlier ++ journal ∧ Q journal ran.1 ran.2.1 ran.2.2.1

namespace Yields

variable {s : Surroundings ω} {work : Work α} {p : Pool} {w : ω}
  {Q Q' : Journal → α → Pool → ω → Prop}

/-- What is yielded is what a run shows. -/
theorem run (h : Yields s work p w Q) :
    let ran := Work.follow s.answer work p (w, [])
    Q ran.2.2.2 ran.1 ran.2.1 ran.2.2.1 := by
  obtain ⟨journal, kept, holds⟩ := h []
  dsimp only at kept ⊢
  rw [kept]
  exact holds

theorem mono (h : Yields s work p w Q)
    (weaker : ∀ journal a q v, Q journal a q v → Q' journal a q v) : Yields s work p w Q' := by
  intro earlier
  obtain ⟨journal, kept, holds⟩ := h earlier
  exact ⟨journal, kept, weaker _ _ _ _ holds⟩

theorem pure {a : α} (h : Q [] a p w) : Yields s (Pure.pure a) p w Q :=
  fun earlier => ⟨[], (List.append_nil earlier).symm, h⟩

theorem bind {f : α → Work β} {Q' : Journal → β → Pool → ω → Prop} (first : Yields s work p w Q)
    (rest : ∀ journal a q v, Q journal a q v →
      Yields s (f a) q v (fun more => Q' (journal ++ more))) :
    Yields s (work >>= f) p w Q' := by
  intro earlier
  obtain ⟨journal, kept, holds⟩ := first earlier
  unfold Work.follow at kept holds ⊢
  rw [Program.run_bind]
  generalize Program.run (journaling s.answer) work p (w, earlier) = ran at kept holds ⊢
  obtain ⟨a, q, v, recorded⟩ := ran
  obtain rfl : recorded = earlier ++ journal := kept
  obtain ⟨more, kept, holds⟩ := rest journal a q v holds (earlier ++ journal)
  exact ⟨journal ++ more, kept.trans (List.append_assoc ..), holds⟩

theorem modify {change : Pool → Pool} {Q : Journal → Unit → Pool → ω → Prop}
    (h : Q [] () (change p) w) : Yields s (Program.modify change) p w Q :=
  fun earlier => ⟨[], (List.append_nil earlier).symm, h⟩

theorem modify_bind {change : Pool → Pool} {f : Unit → Work α}
    (h : Yields s (f ()) (change p) w Q) : Yields s (Program.modify change >>= f) p w Q := h

theorem update_bind {change : Pool → β × Pool} {f : β → Work α}
    (h : Yields s (f (change p).1) (change p).2 w Q) :
    Yields s (Program.update change >>= f) p w Q := h

theorem environment_bind {id : EnvironmentId} {f : Environment → Work α}
    (h : Yields s (f (p.environment id)) p w Q) : Yields s (Work.environment id >>= f) p w Q := h

theorem cancelled_bind {f : Bool → Work α} (h : Yields s (f p.cancelled) p w Q) :
    Yields s (Work.cancelled >>= f) p w Q := h

/-- Work that makes no request comes before the rest. -/
theorem advance_bind {first : Work β} {f : β → Work α} {b : β} {q : Pool}
    (advanced : first.advance p = (.finished b, q)) (h : Yields s (f b) q w Q) :
    Yields s (first >>= f) p w Q := by
  intro earlier
  unfold Work.follow
  rw [Program.run_bind, Program.run_of_advance _ _ advanced]
  exact h earlier

theorem of_advance {a : α} {q : Pool} (advanced : work.advance p = (.finished a, q))
    (h : Q [] a q w) : Yields s work p w Q := by
  intro earlier
  unfold Work.follow
  rw [Program.run_of_advance _ _ advanced]
  exact ⟨[], (List.append_nil earlier).symm, h⟩

/-- The surroundings answer a request. -/
theorem asked_bind {r : Request} {f : r.Reply → Work α}
    (h : let answered := s.answer r p w
      Yields s (f answered.1) answered.2.1 answered.2.2
        (fun journal => Q (⟨r, answered.1⟩ :: journal))) :
    Yields s (Program.request r >>= f) p w Q := by
  intro earlier
  obtain ⟨journal, kept, holds⟩ := h (earlier ++ [⟨r, (s.answer r p w).1⟩])
  exact ⟨_, kept.trans (List.append_assoc ..), holds⟩

/-- Only the cancellation of the run can come while a request is pending. -/
theorem request_bind {r : Request} {f : r.Reply → Work α}
    (h : ∀ reply cancelled v, Yields s (f reply) { p with cancelled } v
      (fun journal => Q (⟨r, reply⟩ :: journal))) :
    Yields s (Program.request r >>= f) p w Q := by
  refine asked_bind ?_
  obtain ⟨cancelled, same⟩ := s.answer_pool r p w
  dsimp only
  rw [same]
  exact h _ cancelled _

theorem holding {id : EnvironmentId}
    (h : let locked := s.answer (.lock id) p w
      Yields s work (locked.2.1.lock id) locked.2.2
        (fun journal a q => Q (⟨.lock id, ()⟩ :: journal) a (q.unlock id))) :
    Yields s (Work.holding id work) p w Q := by
  refine asked_bind (modify_bind ?_)
  refine bind h (fun journal a q v holds => modify_bind (pure ?_))
  rw [List.append_nil]
  exact holds

end Yields

end Work

end Testbed
