import Testbed.BareMetal.ReadyChecker

/-!
# The course of waiting for a machine

A machine that was reset is ready or not at any time, and may be ready for a while only. The marker
file shows it, and so does a connection, which is answered at once. Both ready checkers probe at the
start and after every second up to the end of the time that they are given, the end included, and
stop at the first probe that finds the machine ready. So it does not matter which one is used, unless
the time is too long for the clock: then one of them does not probe at all, and the other one does so
for thirty years.
-/
namespace Testbed.BareMetal

/-- A second, in nanoseconds. -/
def second : Nat := 1000000000

/-- A virtual clock, in nanoseconds, and the times at which a machine was probed. -/
structure ReadyWatch where
  ticks : Nat := 0
  probes : List Nat := []
  deriving DecidableEq

namespace ReadyWatch

/-- The reading of the clock in whole milliseconds. -/
def ms (w : ReadyWatch) : Nat := w.ticks / 1000000

def probe (w : ReadyWatch) : ReadyWatch := { w with probes := w.probes ++ [w.ticks] }

def pause (w : ReadyWatch) (ms : Nat) : ReadyWatch := { w with ticks := w.ticks + ms * 1000000 }

@[simp]
theorem ms_probe (w : ReadyWatch) : w.probe.ms = w.ms := rfl

theorem ms_pause (w : ReadyWatch) (ms : Nat) : (w.pause ms).ms = w.ms + ms :=
  Nat.add_mul_div_right _ _ (by decide)

theorem pause_zero (w : ReadyWatch) : w.pause 0 = w := by simp [pause]

/-- After probing every second, from the start on up to the one of a number. -/
def probed (w : ReadyWatch) (last : Nat) : ReadyWatch where
  ticks := w.ticks + last * second
  probes := w.probes ++ (List.range (last + 1)).map (fun k => w.ticks + k * second)

theorem probed_zero (w : ReadyWatch) : w.probed 0 = w.probe := by simp [probed, probe]

theorem probed_succ (w : ReadyWatch) (last : Nat) :
    (w.probe.pause 1000).probed last = w.probed (last + 1) := by
  have later (k : Nat) : w.ticks + second + k * second = w.ticks + (k + 1) * second := by
    rw [Nat.add_mul, Nat.one_mul]
    omega
  have first : (w.probe.pause 1000).ticks = w.ticks + second := rfl
  simp only [probed, first, later, List.range_succ_eq_map (n := last + 1), List.map_cons,
    List.map_map, Nat.zero_mul, Nat.add_zero]
  exact congrArg _ (List.append_assoc ..)

end ReadyWatch

/-- When a machine is ready, and what else can be seen of it. -/
structure Readiness where
  /-- Whether it is ready at a time. -/
  ready : Nat → Bool
  /-- The file that is there exactly while it is ready. -/
  file : String
  /-- The connection that opens exactly while it is ready. -/
  info : ConnectionInfo
  /-- Why it cannot be reached when it is not. -/
  refusal : Nat → SessionError
  wall : Timestamp := .epoch

namespace Readiness

variable {σ : Type} (r : Readiness)

/-- Surroundings with such a machine and nothing else in them. Looking for a file and trying to open
a session are probes, and take no time. -/
def answer : (c : Call) → σ → ReadyWatch → c.Reply × σ × ReadyWatch
  | .clock, s, w => (⟨r.wall, w.ticks⟩, s, w)
  | .pause ms, s, w => ((), s, w.pause ms)
  | .findFile path, s, w => (.ok (path = r.file && r.ready w.ticks), s, w.probe)
  | .connect info _, s, w =>
    (if info = r.info ∧ r.ready w.ticks then .opened ⟨info.endpoint⟩
      else .refused (r.refusal w.ticks),
      s, w.probe)
  | .execute _ command, s, w => (.error (.execute command "not connected"), s, w)
  | .readFile _, s, w | .removeFile _, s, w => (.error .notFound, s, w)

/-- The first whole second from a start on, up to a limit, at which the machine is ready. -/
def firstReady (start timeout : Nat) : Option Nat :=
  (List.range (timeout + 1)).find? (fun k => r.ready (start + k * second))

theorem firstReady_of_ready {start : Nat} (timeout : Nat) (now : r.ready start = true) :
    r.firstReady start timeout = some 0 := by
  simp [firstReady, List.range_succ_eq_map, now]

theorem firstReady_zero {start : Nat} (later : r.ready start = false) :
    r.firstReady start 0 = none := by
  simp [firstReady, later]

theorem firstReady_succ {start : Nat} (timeout : Nat) (later : r.ready start = false) :
    r.firstReady start (timeout + 1) =
      (r.firstReady (start + second) timeout).map (· + 1) := by
  have shift (k : Nat) : start + second + k * second = start + (k + 1) * second := by
    rw [Nat.add_mul, Nat.one_mul]
    omega
  simp only [firstReady, List.range_succ_eq_map (n := timeout + 1), List.find?_cons, List.find?_map,
    Nat.zero_mul, Nat.add_zero, later, shift]
  rfl

/-- What waiting for the machine comes to. -/
def course (late : BareMetalError) (timeout : Nat) (w : ReadyWatch) :
    Except BareMetalError Unit × ReadyWatch :=
  (if (r.firstReady w.ticks timeout).isSome then .ok () else .error late,
    w.probed ((r.firstReady w.ticks timeout).getD timeout))

/-- A loop that probes once in each round, ends when the machine is ready or the deadline is there,
and begins the next round a second later otherwise. -/
def Polls (late : BareMetalError) (deadline : Nat)
    (loop : Nat → Caller σ (Except BareMetalError Unit)) : Prop :=
  ∀ (left : Nat) (s : σ) (w : ReadyWatch), deadline = w.ms + left * 1000 →
    (loop (left + 1)).run r.answer s w =
      if r.ready w.ticks then (.ok (), s, w.probe)
      else match left with
        | 0 => (.error late, s, w.probe)
        | left + 1 => (loop (left + 1)).run r.answer s (w.probe.pause 1000)

variable {r} {late : BareMetalError} {deadline : Nat}
  {loop : Nat → Caller σ (Except BareMetalError Unit)}

/-- Such a loop takes its course, in as many rounds as there are seconds left, and one more. -/
theorem Polls.run (polls : r.Polls late deadline loop) (left : Nat) (s : σ) {w : ReadyWatch}
    (due : deadline = w.ms + left * 1000) :
    (loop (left + 1)).run r.answer s w =
      ((r.course late left w).1, s, (r.course late left w).2) := by
  induction left generalizing w with
  | zero =>
    rw [polls 0 s w due]
    cases now : r.ready w.ticks with
    | true => simp [course, r.firstReady_of_ready 0 now, ReadyWatch.probed_zero]
    | false => simp [course, r.firstReady_zero now, ReadyWatch.probed_zero]
  | succ left ih =>
    rw [polls (left + 1) s w due]
    cases now : r.ready w.ticks with
    | true => simp [course, r.firstReady_of_ready _ now, ReadyWatch.probed_zero]
    | false =>
      have ticks : (w.probe.pause 1000).ticks = w.ticks + second := rfl
      rw [if_neg Bool.false_ne_true]
      dsimp only
      rw [ih (by rw [ReadyWatch.ms_pause, ReadyWatch.ms_probe]; omega)]
      simp only [course, ticks, r.firstReady_succ left now, Option.isSome_map,
        ReadyWatch.probed_succ]
      cases r.firstReady (w.ticks + second) left <;> rfl

end Readiness

namespace ReadyChecker

variable {σ : Type} (r : Readiness)

theorem now_run (s : σ) (w : ReadyWatch) :
    (now : Caller σ Nat).run r.answer s w = (w.ms, s, w) := rfl

theorem awaitFile_polls (late : BareMetalError) (deadline : Nat) :
    r.Polls late deadline (awaitFile (σ := σ) r.file late deadline) := by
  intro left s w due
  have found : r.answer (.findFile r.file) s w = (.ok (r.ready w.ticks), s, w.probe) := by
    simp [Readiness.answer]
  rw [awaitFile, Program.run_bind, Program.run_request, found]
  cases r.ready w.ticks with
  | true => rfl
  | false =>
    change Program.run r.answer (if deadline ≤ w.ms then pure (.error late) else do
      Program.request (Call.pause pollInterval)
      awaitFile r.file late deadline left) s w.probe = _
    cases left with
    | zero =>
      rw [if_pos (by omega)]
      rfl
    | succ left =>
      rw [if_neg (by omega)]
      rfl

theorem awaitSession_polls (late : BareMetalError) (deadline : Nat) :
    r.Polls late deadline (awaitSession (σ := σ) r.info late deadline) := by
  intro left s w due
  rw [awaitSession, Program.run_bind, now_run, Program.run_bind, Program.run_request]
  cases now : r.ready w.ticks with
  | true =>
    have opened : r.answer (.connect r.info (some (deadline - w.ms))) s w =
        (.opened ⟨r.info.endpoint⟩, s, w.probe) := by
      simp [Readiness.answer, now]
    rw [opened]
    rfl
  | false =>
    have refused : r.answer (.connect r.info (some (deadline - w.ms))) s w =
        (.refused (r.refusal w.ticks), s, w.probe) := by
      simp [Readiness.answer, now]
    rw [refused]
    change Program.run r.answer (if deadline - w.ms < pollInterval then do
        Program.request (Call.pause (deadline - w.ms))
        return .error late
      else do
        Program.request (Call.pause pollInterval)
        awaitSession r.info late deadline left) s w.probe = _
    cases left with
    | zero =>
      have none_left : deadline - w.ms = 0 := by omega
      rw [none_left, if_pos (by decide)]
      change (Except.error late, s, w.probe.pause 0) = (Except.error late, s, w.probe)
      rw [ReadyWatch.pause_zero]
    | succ left =>
      have more : ¬ deadline - w.ms < pollInterval := by
        rw [pollInterval]
        omega
      rw [if_neg more]
      rfl

end ReadyChecker

section Checkers

variable {σ : Type} {r : Readiness} {machine : Machine} {timeout : Nat} {w : ReadyWatch} (s : σ)

theorem fileSingle_run (fits : w.ms + timeout * 1000 < clockEnd) :
    ((ReadyChecker.fileSingle r.file timeout).isReady machine).run r.answer s w =
      let course := r.course (.notReady machine.name timeout) timeout w
      (course.1, s, course.2) := by
  rw [ReadyChecker.isReady, Program.run_bind, ReadyChecker.now_run]
  dsimp only
  rw [deadline?_of_fits fits]
  exact (ReadyChecker.awaitFile_polls r _ _).run timeout s rfl

theorem fileSingle_unprobed (late : clockEnd ≤ w.ms + timeout * 1000) :
    ((ReadyChecker.fileSingle r.file timeout).isReady machine).run r.answer s w =
      (.error .noDeadline, s, w) := by
  rw [ReadyChecker.isReady, Program.run_bind, ReadyChecker.now_run]
  dsimp only
  rw [deadline?_of_late late]
  rfl

/-- A session is waited for as long as the timer lasts. -/
theorem ssh_run (reached : machine.connection = some r.info) {seconds : Nat}
    (set : timer? w.ms (timeout * 1000) = some (seconds * 1000)) :
    ((ReadyChecker.ssh timeout).isReady machine).run r.answer s w =
      let course := r.course (.notReady machine.name timeout) seconds w
      (course.1, s, course.2) := by
  have rounds : seconds * 1000 / ReadyChecker.pollInterval = seconds :=
    Nat.mul_div_cancel _ (by decide)
  simp only [ReadyChecker.isReady, reached]
  rw [Program.run_bind, ReadyChecker.now_run]
  dsimp only
  rw [set]
  dsimp only
  rw [rounds]
  exact (ReadyChecker.awaitSession_polls r _ _).run seconds s rfl

theorem ssh_unprobed (reached : machine.connection = some r.info)
    (late : timer? w.ms (timeout * 1000) = none) :
    ((ReadyChecker.ssh timeout).isReady machine).run r.answer s w = (.error .noDeadline, s, w) := by
  simp only [ReadyChecker.isReady, reached]
  rw [Program.run_bind, ReadyChecker.now_run]
  dsimp only
  rw [late]
  rfl

end Checkers

/-- Both ready checkers take the same course with a machine exactly if the clock has room for the
end of the time. They probe it at the start and after every whole second up to the first one at which
it is ready, or up to the end of the time if there is none; they succeed at that moment, or fail at
the end of the time. Where the clock has no room, the one that looks for a file fails at once, and
the one that tries for a session goes on for thirty years. -/
theorem isReady_course_iff {σ : Type} (r : Readiness) (machine : Machine)
    (reached : machine.connection = some r.info) (timeout : Nat) (s : σ) (w : ReadyWatch) :
    let course (seconds : Nat) : Except BareMetalError Unit × σ × ReadyWatch :=
      let found := (List.range (seconds + 1)).find? (fun k => r.ready (w.ticks + k * second))
      let last := found.getD seconds
      (if found.isSome then .ok () else .error (.notReady machine.name timeout), s, {
        ticks := w.ticks + last * second
        probes := w.probes ++ (List.range (last + 1)).map (fun k => w.ticks + k * second) })
    let ran (checker : ReadyChecker) := (checker.isReady machine).run r.answer s w
    (ran (.fileSingle r.file timeout) = course timeout ∧ ran (.ssh timeout) = course timeout ↔
      w.ms + timeout * 1000 < clockEnd) ∧
    (clockEnd ≤ w.ms + timeout * 1000 →
      ran (.fileSingle r.file timeout) = (.error .noDeadline, s, w) ∧
      (w.ms + farFuture < clockEnd → ran (.ssh timeout) = course (farFuture / 1000)) ∧
      (clockEnd ≤ w.ms + farFuture → ran (.ssh timeout) = (.error .noDeadline, s, w))) := by
  intro course ran
  have session (seconds : Nat) (set : timer? w.ms (timeout * 1000) = some (seconds * 1000)) :
      ran (.ssh timeout) = course seconds := ssh_run s reached set
  refine ⟨⟨fun taken => ?fits, fun fits => ⟨fileSingle_run s fits, ?session⟩⟩, fun late =>
    ⟨fileSingle_unprobed s late, fun far => ?far, fun none_far => ?none_far⟩⟩
  case fits =>
    refine Nat.lt_of_not_le (fun late => ?_)
    have unprobed : ran (.fileSingle r.file timeout) = (.error .noDeadline, s, w) :=
      fileSingle_unprobed s late
    have same := congrArg (fun ran => ran.2.2.probes.length) (unprobed.symm.trans taken.1)
    simp [course] at same
  case session => exact session timeout (timer?_of_fits fits)
  case far =>
    have whole : farFuture / 1000 * 1000 = farFuture := by decide
    refine session (farFuture / 1000) ?_
    rw [whole]
    exact timer?_of_far late far
  case none_far => exact ssh_unprobed s reached (timer?_of_late late none_far)

/-- A machine that is ready between the first two probes, and then at the time of the third one
only: it is found in two seconds, and not in one. If it is ready at the start, a session finds it
however long the time is, and the file is not looked for when the clock ends before the time. -/
theorem isReady_course_iff_blinking :
    let r : Readiness := {
      ready := fun time => (100 < time && time < second) || time = 2 * second + 50
      file := "booted"
      info := .new "10.0.0.1" "root"
      refusal := fun _ => .connect "10.0.0.1:22" "connection refused" }
    let machine : Machine := { name := "node_0", connection := some r.info }
    let ran (start : Nat) (checker : ReadyChecker) :=
      (checker.isReady machine).run r.answer () { ticks := start }
    machine.connection = some r.info ∧
    ran 50 (.fileSingle "booted" 2) = ran 50 (.ssh 2) ∧
    ran 50 (.ssh 2) =
      (.ok (), (), { ticks := 2000000050, probes := [50, 1000000050, 2000000050] }) ∧
    ran 50 (.fileSingle "booted" 1) = (.error (.notReady "node_0" 1), (),
      { ticks := 1000000050, probes := [50, 1000000050] }) ∧
    ran 500 (.fileSingle "booted" 0x8000000000000000) = (.error .noDeadline, (), { ticks := 500 }) ∧
    ran 500 (.ssh 0x8000000000000000) = (.ok (), (), { ticks := 500, probes := [500] }) := by
  intro r machine ran
  obtain ⟨agree, found⟩ := (isReady_course_iff r machine rfl 2 () { ticks := 50 }).1.2 (by decide)
  obtain ⟨missed, -⟩ := (isReady_course_iff r machine rfl 1 () { ticks := 50 }).1.2 (by decide)
  obtain ⟨unprobed, probed, -⟩ :=
    (isReady_course_iff r machine rfl 0x8000000000000000 () { ticks := 500 }).2 (by decide)
  have third : (List.range 3).find? (fun k => r.ready (50 + k * second)) = some 2 := by
    decide +kernel
  have never : (List.range 2).find? (fun k => r.ready (50 + k * second)) = none := by
    decide +kernel
  have first (seconds : Nat) :
      (List.range (seconds + 1)).find? (fun k => r.ready (500 + k * second)) = some 0 :=
    r.firstReady_of_ready seconds (by decide)
  have probed := probed (by decide)
  dsimp only at found missed probed
  rw [third] at found
  rw [never] at missed
  rw [first] at probed
  exact ⟨rfl, agree.trans found.symm, found, missed, unprobed, probed⟩

end Testbed.BareMetal
