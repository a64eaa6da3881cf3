import Mathlib.Algebra.Order.Floor.Div
import Testbed.Platform.Power

/-!
# The course of waiting for a power state

A machine whose status is any function of the time is asked at the start and then after every pause,
up to the first query that fails, that finds the expected state, or that falls on the deadline or
behind it. The state that is reached between the last query before the deadline and the next one is
thus still found, and the wait is over by one pause after the deadline.

That is so as long as the clock has room for the deadline and for the pauses. There is no wait
without a deadline, and a pause that is too long for the clock is cut short.
-/
namespace Testbed

/-- A virtual clock and the times at which a status was asked for. -/
structure PowerWatch where
  now : Nat := 0
  queries : List Nat := []
  deriving DecidableEq

namespace PowerWatch

/-- A machine that answers at once, with what its status is at that time. -/
def probe (answer : Nat → Except FeatureError String) : PowerProbe (StateM PowerWatch) where
  status := modifyGet fun w => (answer w.now, { w with queries := w.queries ++ [w.now] })
  now := do return (← get).now
  pause ms := modify fun w => { w with now := w.now + ms }

/-- How a wait ends with the query of a time: with the error of the status, with the expected state
or, failing that, because the deadline has come. None when the wait goes on. -/
def verdict? (answer : Nat → Except FeatureError String) (expected : PowerState)
    (operation : String) (deadline time : Nat) : Option (Except FeatureError Unit) :=
  match answer time with
  | .error error => some (.error error)
  | .ok status =>
    if status = expected.statusText then some (.ok ())
    else if deadline ≤ time then some (.error (.powerStateTimeout expected.shortName operation))
    else none

section Verdicts

variable {answer : Nat → Except FeatureError String} {expected : PowerState} {operation : String}
  {deadline time : Nat}

theorem verdict?_eq_ok_iff : verdict? answer expected operation deadline time = some (.ok ()) ↔
    answer time = .ok expected.statusText := by
  unfold verdict?
  split
  · simp [*]
  · split
    · simp [*]
    · split <;> simp [*]

/-- The wait goes on after a query that is answered, with another state and before the deadline. -/
theorem verdict?_eq_none_iff : verdict? answer expected operation deadline time = none ↔
    (∃ status, answer time = .ok status ∧ status ≠ expected.statusText) ∧ time < deadline := by
  unfold verdict?
  split
  · simp [*]
  · split
    · simp [*]
    · split <;> simp [*]; omega

/-- Before the deadline only an error or the expected state ends the wait. -/
theorem eq_ok_of_verdict? {result : Except FeatureError Unit} {status : String}
    (ends : verdict? answer expected operation deadline time = some result)
    (answered : answer time = .ok status) (early : time < deadline) : result = .ok () := by
  rw [verdict?, answered] at ends
  dsimp only at ends
  split at ends
  · exact (Option.some.inj ends).symm
  · rw [if_neg (Nat.not_le_of_lt early)] at ends
    cases ends

/-- A query at the deadline or behind it ends the wait. -/
theorem exists_verdict? (due : deadline ≤ time) :
    ∃ result, verdict? answer expected operation deadline time = some result := by
  rw [← Option.ne_none_iff_exists']
  intro waiting
  have early := (verdict?_eq_none_iff.1 waiting).2
  omega

end Verdicts

section Polling

variable (answer : Nat → Except FeatureError String) (expected : PowerState) (operation : String)

/-- A query ends polling, or a pause and the other queries follow, unless the pause cannot be
made. -/
theorem pollPower_succ (deadline poll tries : Nat) (w : PowerWatch) :
    (pollPower (probe answer) expected operation deadline poll (tries + 1)).run w =
      match verdict? answer expected operation deadline w.now with
      | some result => (result, { w with queries := w.queries ++ [w.now] })
      | none => match timer? w.now poll with
        | none => (.error .noDeadline, { w with queries := w.queries ++ [w.now] })
        | some ms => (pollPower (probe answer) expected operation deadline poll tries).run
          { now := w.now + ms, queries := w.queries ++ [w.now] } := by
  rw [pollPower, verdict?]
  simp only [probe, StateT.run_bind, StateT.run_modifyGet, pure_bind]
  cases answer w.now with
  | error error => rfl
  | ok status =>
    dsimp only
    split
    · rfl
    · simp only [StateT.run_bind, StateT.run_get, StateT.run_pure, pure_bind]
      split
      · rfl
      · cases timer? w.now poll <;> rfl

/-- Queries that do not end polling are made one pause apart. -/
theorem pollPower_skip {deadline poll count tries : Nat} {w : PowerWatch}
    (waiting : ∀ k < count,
      verdict? answer expected operation deadline (w.now + k * poll) = none)
    (room : ∀ k < count, w.now + (k + 1) * poll < clockEnd) :
    (pollPower (probe answer) expected operation deadline poll (count + tries)).run w =
      (pollPower (probe answer) expected operation deadline poll tries).run {
        now := w.now + count * poll
        queries := w.queries ++ (List.range count).map (fun k => w.now + k * poll) } := by
  induction count generalizing w with
  | zero => simp
  | succ count ih =>
    have later (k : Nat) : w.now + poll + k * poll = w.now + (k + 1) * poll := by
      rw [Nat.add_mul, Nat.one_mul]
      omega
    have first := waiting 0 (Nat.zero_lt_succ count)
    have pause := room 0 (Nat.zero_lt_succ count)
    rw [Nat.zero_mul, Nat.add_zero] at first
    rw [Nat.zero_add, Nat.one_mul] at pause
    rw [Nat.add_right_comm, pollPower_succ, first, timer?_of_fits pause]
    dsimp only
    rw [ih]
    · simp only [later, List.range_succ_eq_map (n := count), List.map_cons, List.map_map,
        Nat.zero_mul, Nat.add_zero, List.append_assoc, List.singleton_append]
      rfl
    · intro k before
      rw [later]
      exact waiting (k + 1) (Nat.succ_lt_succ before)
    · intro k before
      rw [later]
      exact room (k + 1) (Nat.succ_lt_succ before)

/-- Polling comes to the first query that ends it, if it is given that many. -/
theorem pollPower_run {deadline poll tries last : Nat} {w : PowerWatch}
    {result : Except FeatureError Unit} (enough : last < tries)
    (waiting : ∀ k < last,
      verdict? answer expected operation deadline (w.now + k * poll) = none)
    (room : ∀ k < last, w.now + (k + 1) * poll < clockEnd)
    (ends : verdict? answer expected operation deadline (w.now + last * poll) = some result) :
    (pollPower (probe answer) expected operation deadline poll tries).run w =
      (result, {
        now := w.now + last * poll
        queries := w.queries ++ (List.range (last + 1)).map (fun k => w.now + k * poll) }) := by
  obtain ⟨more, rfl⟩ := Nat.exists_eq_add_of_lt enough
  rw [Nat.add_assoc, pollPower_skip answer expected operation waiting room, pollPower_succ, ends]
  simp [List.range_succ]

/-- Queries are added to those that were made. -/
theorem pollPower_queries (deadline poll tries : Nat) (w : PowerWatch) :
    w.queries <+:
      ((pollPower (probe answer) expected operation deadline poll tries).run w).2.queries := by
  induction tries generalizing w with
  | zero => exact List.prefix_rfl
  | succ tries ih =>
    have asked : w.queries <+: w.queries ++ [w.now] := List.prefix_append _ _
    rw [pollPower_succ]
    cases verdict? answer expected operation deadline w.now with
    | some result => exact asked
    | none =>
      cases timer? w.now poll with
      | none => exact asked
      | some ms => exact asked.trans (ih ⟨w.now + ms, w.queries ++ [w.now]⟩)

/-- The first one is made at once. -/
theorem pollPower_asks (deadline poll tries : Nat) (w : PowerWatch) :
    w.queries ++ [w.now] <+:
      ((pollPower (probe answer) expected operation deadline poll (tries + 1)).run w).2.queries := by
  rw [pollPower_succ]
  cases verdict? answer expected operation deadline w.now with
  | some result => exact List.prefix_rfl
  | none =>
    cases timer? w.now poll with
    | none => exact List.prefix_rfl
    | some ms =>
      exact pollPower_queries answer expected operation deadline poll tries
        ⟨w.now + ms, w.queries ++ [w.now]⟩

/-- After a pause that is too long for the clock, polling is broken off or the next query comes too
early. -/
theorem pollPower_hurried {deadline poll : Nat} (tries : Nat) {w : PowerWatch}
    (waiting : verdict? answer expected operation deadline w.now = none)
    (endless : clockEnd ≤ w.now + poll) :
    let ran := (pollPower (probe answer) expected operation deadline poll (tries + 2)).run w
    ran.2.queries = w.queries ++ [w.now] ∨
      ∃ early < w.now + poll, w.queries ++ [w.now] ++ [early] <+: ran.2.queries := by
  intro ran
  have went := pollPower_succ answer expected operation deadline poll (tries + 1) w
  rw [waiting] at went
  simp only [ran, went]
  cases set : timer? w.now poll with
  | none => exact .inl rfl
  | some ms =>
    have early : w.now + ms < w.now + poll := timer?_early endless set
    refine .inr ⟨w.now + ms, early, ?_⟩
    exact pollPower_asks answer expected operation deadline poll tries
      ⟨w.now + ms, w.queries ++ [w.now]⟩

end Polling

section Waiting

variable (answer : Nat → Except FeatureError String) (expected : PowerState) (operation : String)

/-- The first query that ends a wait is no later than the first one behind the deadline. -/
theorem exists_first_verdict (timeout : Nat) {poll : Nat} (positive : 0 < poll) (start : Nat) :
    ∃ last ≤ timeout ⌈/⌉ poll, ∃ result,
      (∀ k < last,
        verdict? answer expected operation (start + timeout) (start + k * poll) = none) ∧
      verdict? answer expected operation (start + timeout) (start + last * poll) = some result := by
  have covered : timeout ≤ poll * (timeout ⌈/⌉ poll) := le_smul_ceilDiv positive
  have due : start + timeout ≤ start + timeout ⌈/⌉ poll * poll :=
    Nat.add_le_add_left (Nat.mul_comm poll _ ▸ covered) start
  have ended : ∃ k, ∃ result,
      verdict? answer expected operation (start + timeout) (start + k * poll) = some result :=
    ⟨_, exists_verdict? due⟩
  classical
  obtain ⟨result, ends⟩ := Nat.find_spec ended
  refine ⟨Nat.find ended, Nat.find_min' ended (exists_verdict? due), result, ?_, ends⟩
  intro k before
  exact Option.eq_none_iff_forall_ne_some.2 (fun result ends =>
    Nat.find_min ended before ⟨result, ends⟩)

/-- The first query that ends a wait finds the expected state exactly if that is ever found before a
query fails. -/
theorem first_verdict_eq_ok_iff {timeout poll start last : Nat} (positive : 0 < poll)
    {result : Except FeatureError Unit} (within : last ≤ timeout ⌈/⌉ poll)
    (waiting : ∀ k < last,
      verdict? answer expected operation (start + timeout) (start + k * poll) = none)
    (ends : verdict? answer expected operation (start + timeout) (start + last * poll) =
      some result) :
    result = .ok () ↔ ∃ k ≤ timeout ⌈/⌉ poll,
      answer (start + k * poll) = .ok expected.statusText ∧
      ∀ i < k, ∃ status, answer (start + i * poll) = .ok status := by
  constructor
  · intro succeeded
    rw [succeeded] at ends
    refine ⟨last, within, verdict?_eq_ok_iff.1 ends, fun i before => ?_⟩
    obtain ⟨⟨status, answered, -⟩, -⟩ := verdict?_eq_none_iff.1 (waiting i before)
    exact ⟨status, answered⟩
  · intro finds
    obtain ⟨k, possible, found, answered⟩ := finds
    have notLater : last ≤ k := by
      by_contra later
      have goesOn := waiting k (Nat.lt_of_not_le later)
      rw [verdict?_eq_ok_iff.2 found] at goesOn
      cases goesOn
    rcases Nat.lt_or_eq_of_le notLater with before | rfl
    · obtain ⟨status, answered⟩ := answered last before
      have early : ¬ timeout ≤ poll * last := fun due =>
        absurd ((ceilDiv_le_iff_le_smul positive).2 due) (by omega)
      rw [Nat.mul_comm] at early
      exact eq_ok_of_verdict? ends answered (by omega)
    · exact Option.some.inj (ends.symm.trans (verdict?_eq_ok_iff.2 found))

/-- What a wait is to come to: the status is asked for at the start and after every pause, and the
first query that ends the wait gives its result, at the time of that query. -/
structure Course (timeout poll : Nat) (w : PowerWatch)
    (ran : Except FeatureError Unit × PowerWatch) : Prop where
  course : ∃ last ≤ timeout ⌈/⌉ poll,
    (∀ k < last,
      verdict? answer expected operation (w.now + timeout) (w.now + k * poll) = none) ∧
    verdict? answer expected operation (w.now + timeout) (w.now + last * poll) = some ran.1 ∧
    ran.2.queries = w.queries ++ (List.range (last + 1)).map (fun k => w.now + k * poll) ∧
    ran.2.now = w.now + last * poll
  count : ran.2.queries.length ≤ w.queries.length + (timeout ⌈/⌉ poll + 1)
  time : ran.2.now ≤ w.now + timeout + poll
  success : ran.1 = .ok () ↔ ∃ k ≤ timeout ⌈/⌉ poll,
    answer (w.now + k * poll) = .ok expected.statusText ∧
    ∀ i < k, ∃ status, answer (w.now + i * poll) = .ok status

/-- No query is left out for being one too many. -/
theorem lt_powerQueries (timeout : Nat) {poll : Nat} (positive : 0 < poll) :
    timeout ⌈/⌉ poll < powerQueries timeout poll := by
  have far : 0 < farFuture := by decide
  have shorter : 0 < min poll farFuture := Nat.lt_min.2 ⟨positive, far⟩
  have covered : timeout ≤ min poll farFuture * (timeout ⌈/⌉ min poll farFuture) :=
    le_smul_ceilDiv shorter
  have most : timeout ⌈/⌉ poll ≤ timeout ⌈/⌉ min poll farFuture :=
    (ceilDiv_le_iff_le_smul positive).2
      (Nat.le_trans covered (Nat.mul_le_mul_right _ (Nat.min_le_left _ _)))
  exact Nat.lt_succ_of_le most

section Courses

variable {answer expected operation} {timeout poll : Nat} {w : PowerWatch}

theorem waitForPower_eq (fits : w.now + timeout < clockEnd) :
    (waitForPower (probe answer) expected operation timeout poll).run w =
      (pollPower (probe answer) expected operation (w.now + timeout) poll
        (powerQueries timeout poll)).run w := by
  rw [waitForPower]
  simp only [probe, StateT.run_bind, StateT.run_get, StateT.run_pure, pure_bind,
    deadline?_of_fits fits]

theorem waitForPower_eq_noDeadline (late : clockEnd ≤ w.now + timeout) :
    (waitForPower (probe answer) expected operation timeout poll).run w =
      (.error .noDeadline, w) := by
  rw [waitForPower]
  simp only [probe, StateT.run_bind, StateT.run_get, StateT.run_pure, pure_bind,
    deadline?_of_late late]
  rfl

/-- Where the clock has room for the deadline and for every pause, the wait takes its course. -/
theorem Course.of_room (positive : 0 < poll) (fits : w.now + timeout < clockEnd)
    (room : ∀ k, (∀ i ≤ k,
      verdict? answer expected operation (w.now + timeout) (w.now + i * poll) = none) →
      w.now + (k + 1) * poll < clockEnd) :
    Course answer expected operation timeout poll w
      ((waitForPower (probe answer) expected operation timeout poll).run w) := by
  obtain ⟨last, within, result, waiting, ends⟩ :=
    exists_first_verdict answer expected operation timeout positive w.now
  have enough : last < powerQueries timeout poll :=
    Nat.lt_of_le_of_lt within (lt_powerQueries timeout positive)
  have room (k : Nat) (before : k < last) : w.now + (k + 1) * poll < clockEnd :=
    room k (fun i upTo => waiting i (Nat.lt_of_le_of_lt upTo before))
  rw [waitForPower_eq fits, pollPower_run answer expected operation enough waiting room ends]
  refine ⟨⟨last, within, waiting, ends, rfl, rfl⟩, ?count, ?time,
    first_verdict_eq_ok_iff answer expected operation positive within waiting ends⟩
  case count =>
    simpa using within
  case time =>
    dsimp only
    cases last with
    | zero => omega
    | succ k =>
      -- the query before the last one was made before the deadline
      have early := (verdict?_eq_none_iff.1 (waiting k (Nat.lt_succ_self k))).2
      rw [Nat.add_mul, Nat.one_mul]
      omega

/-- Where a pause that is to be made is too long for the clock, the wait does not take its course. -/
theorem Course.room (positive : 0 < poll) (fits : w.now + timeout < clockEnd)
    (course : Course answer expected operation timeout poll w
      ((waitForPower (probe answer) expected operation timeout poll).run w)) (k : Nat)
    (waiting : ∀ i ≤ k,
      verdict? answer expected operation (w.now + timeout) (w.now + i * poll) = none) :
    w.now + (k + 1) * poll < clockEnd := by
  by_contra endless
  have endless : clockEnd ≤ w.now + k * poll + poll := by
    rw [Nat.add_mul, Nat.one_mul] at endless
    omega
  obtain ⟨last, within, -, ends, queries, -⟩ := course.course
  have later : k < last := by
    by_contra before
    rw [waiting last (Nat.not_lt.1 before)] at ends
    cases ends
  -- the pauses before that one end before the deadline, so they can be made
  have room (j : Nat) (before : j < k) : w.now + (j + 1) * poll < clockEnd := by
    have early := (verdict?_eq_none_iff.1 (waiting (j + 1) before)).2
    omega
  obtain ⟨tries, many⟩ : ∃ tries, powerQueries timeout poll = k + (tries + 2) := by
    have enough := lt_powerQueries timeout positive
    exact ⟨powerQueries timeout poll - k - 2, by omega⟩
  rw [waitForPower_eq fits, many, pollPower_skip answer expected operation
    (fun i before => waiting i (Nat.le_of_lt before)) room] at queries
  have made : w.queries ++ (List.range k).map (fun k => w.now + k * poll) ++ [w.now + k * poll] =
      w.queries ++ (List.range (k + 1)).map (fun k => w.now + k * poll) := by
    simp [List.range_succ]
  have hurried := pollPower_hurried answer expected operation tries
    (w := ⟨w.now + k * poll, w.queries ++ (List.range k).map (fun k => w.now + k * poll)⟩)
    (waiting k (Nat.le_refl k)) endless
  dsimp only at hurried
  rw [queries, made] at hurried
  obtain stopped | ⟨early, sooner, asked⟩ := hurried
  · have lengths := congrArg List.length stopped
    simp at lengths
    omega
  · have same := (List.prefix_append_right_inj _).1 (List.append_assoc .. ▸ asked)
    have there := List.prefix_iff_getElem?.1 same (k + 1) (by simp)
    have listed : (List.range (last + 1))[k + 1]? = some (k + 1) :=
      List.getElem?_range (Nat.succ_lt_succ later)
    simp [List.getElem?_map, listed, Nat.add_mul] at there
    omega

end Courses

/-- Waiting for a power state asks for the status at the start and after every pause, up to the first
query that ends the wait, exactly if the clock has room for the deadline and for every pause that is
made. It has if the timeout and one pause fit. Without a deadline nothing is asked for at all. -/
theorem waitForPower_course_iff (timeout : Nat) {poll : Nat} (positive : 0 < poll)
    (w : PowerWatch) :
    let verdict? (k : Nat) :=
      verdict? answer expected operation (w.now + timeout) (w.now + k * poll)
    let ran := (waitForPower (probe answer) expected operation timeout poll).run w
    (Course answer expected operation timeout poll w ran ↔
      w.now + timeout < clockEnd ∧
      ∀ k, (∀ i ≤ k, verdict? i = none) → w.now + (k + 1) * poll < clockEnd) ∧
    (w.now + timeout + poll ≤ clockEnd →
      Course answer expected operation timeout poll w ran) ∧
    (clockEnd ≤ w.now + timeout → ran = (.error .noDeadline, w)) := by
  intro verdict? ran
  refine ⟨⟨fun course => ?made, fun room => .of_room positive room.1 room.2⟩, fun room => ?short,
    waitForPower_eq_noDeadline⟩
  case made =>
    have fits : w.now + timeout < clockEnd := by
      by_contra late
      obtain ⟨last, -, -, -, queries, -⟩ := course.course
      simp only [ran] at queries
      rw [waitForPower_eq_noDeadline (Nat.not_lt.1 late)] at queries
      simp at queries
    exact ⟨fits, fun k waiting => course.room positive fits k waiting⟩
  case short =>
    refine .of_room positive (by omega) (fun k waiting => ?_)
    have early := (verdict?_eq_none_iff.1 (waiting k (Nat.le_refl k))).2
    rw [Nat.add_mul, Nat.one_mul]
    omega

end Waiting

/-- Of a minute with queries 25 seconds apart, the last query is made after the end, and finds a
machine that has stopped since the query before. A machine that has stopped already is not asked when
the clock ends before the wait. -/
theorem waitForPower_course_iff_late :
    let answer (time : Nat) : Except FeatureError String :=
      .ok (if time < 70 then "VM running" else "VM stopped")
    let ran := (waitForPower (probe answer) .stopped "stop" 60 25).run {}
    let endless := (waitForPower (probe answer) .stopped "stop" clockEnd 25).run { now := 70 }
    0 < 25 ∧ (ran.1 = .ok () ∧ ran.2.queries = [0, 25, 50, 75] ∧ ran.2.now = 75) ∧
      endless = (.error .noDeadline, { now := 70 }) ∧
      ¬ Course answer .stopped "stop" clockEnd 25 { now := 70 } endless := by
  intro answer ran endless
  have positive : 0 < 25 := by decide
  refine ⟨positive, ?late, ?endless⟩
  case late =>
    obtain ⟨-, short, -⟩ := waitForPower_course_iff answer .stopped "stop" 60 positive {}
    obtain ⟨⟨last, within, waiting, ends, queries, now⟩, -, -, success⟩ := short (by decide)
    have found : ran.1 = .ok () := success.2 ⟨3, by decide, rfl, fun i _ => ⟨_, rfl⟩⟩
    have within : last ≤ 3 := within
    have stopped := verdict?_eq_ok_iff.1 (found ▸ ends)
    obtain rfl | rfl | rfl | rfl : last = 0 ∨ last = 1 ∨ last = 2 ∨ last = 3 := by omega
    iterate 3 exact absurd stopped (by decide)
    exact ⟨found, queries, now⟩
  case endless =>
    obtain ⟨exact_course, -, unasked⟩ :=
      waitForPower_course_iff answer .stopped "stop" clockEnd positive { now := 70 }
    refine ⟨unasked (Nat.le_add_left _ _), fun course => ?_⟩
    exact absurd (exact_course.1 course).1 (Nat.not_lt.2 (Nat.le_add_left _ _))

end PowerWatch

end Testbed
