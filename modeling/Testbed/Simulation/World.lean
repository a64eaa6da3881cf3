import Testbed.Lifecycle.Request
import Testbed.Simulation.Clock
import Testbed.Simulation.Connector
import Testbed.Simulation.Platform

/-!
# A simulated world

Answers everything that programs ask for: a virtual clock, files that can change over time, a
connector in memory, and a platform. Programs run one at a time, so the lock of an environment is
free whenever it is asked for.
-/
namespace Testbed.Simulation

/-- A text that is written to a file at some time. -/
structure FileEvent where
  atMs : Nat
  file : String
  content : String := ""

structure World where
  clock : Clock := {}
  files : Files := ∅
  /-- What is still going to be written, in the order of time. -/
  fileEvents : List FileEvent := []
  connector : Connector := {}
  hosting : Hosting := .inMemory {}
  /-- The messages that were passed on, in order. -/
  sent : List Message := []
  /-- The reading of the wall clock. -/
  wall : Timestamp
  /-- Whether the platform has broken off the run. -/
  brokenOff : Bool := false

namespace World

/-- Write a text to a file, if that is possible. -/
def writeFile (files : Files) (event : FileEvent) : Files :=
  match files.write event.file event.content with
  | .ok files => files
  | .error _ => files

/-- Write what has been due before this moment. -/
def settleFiles (w : World) : World :=
  let due := w.fileEvents.takeWhile (fun event => event.atMs < w.clock.now)
  { w with
    files := due.foldl writeFile w.files
    fileEvents := w.fileEvents.drop due.length }

/-- The world with texts to be written later, in any order. -/
def withFileEvents (w : World) (events : List FileEvent) : World :=
  { w with fileEvents := events.mergeSort (fun a b => a.atMs ≤ b.atMs) }

/-- Wait to the end. -/
def wait (w : World) : Option Nat → World
  | none => w
  | some ms => { w with clock := w.clock.wait ms }.settleFiles

/-- Wait until the end or until the run is cancelled, and tell whether the end was reached. -/
def waitUnlessCancelled (w : World) : Option Nat → Bool × World
  | none => (true, w)
  | some ms =>
    let waited := w.clock.waitUnlessCancelled ms
    (waited.1, { w with clock := waited.2 }.settleFiles)

/-- The clocks. -/
def moment (w : World) : Moment := { wall := w.wall, ticks := w.clock.now * 1000000 }

/-- A call on its way: how long it takes, if it waits at all, and how it ends. -/
structure Started (c : Call) where
  world : World
  span : Option Nat
  finish : World → c.Reply × World

/-- Try to open a session. -/
def startConnect (w : World) (info : ConnectionInfo) (limit : Option Nat) :
    Started (.connect info limit) :=
  let hindrance := w.connector.hindrance
  let late := limit.any (· < hindrance.delayMs)
  { world := { w with connector := w.connector.next }
    span := Simulation.span (if late then limit.getD 0 else hindrance.delayMs)
    finish := fun w =>
      if late then (.overdue, w)
      else match w.connector.finish info hindrance with
        | (.ok session, connector) => (.opened session, { w with connector })
        | (.error error, connector) => (.refused error, { w with connector }) }

/-- Begin a call. Reading a file gives way to what is due. -/
def start (w : World) : (c : Call) → Started c
  | .connect info limit => w.startConnect info limit
  | .execute _ command =>
    ⟨w, none, fun w =>
      let answered := w.connector.execute command
      (.ok answered.1, { w with connector := answered.2 })⟩
  | .pause ms => ⟨w, Simulation.span ms, fun w => ((), w)⟩
  | .clock => ⟨w, none, fun w => (w.moment, w)⟩
  | .readFile path => ⟨w, some 0, fun w => (w.files.read path, w)⟩
  | .findFile path => ⟨w, none, fun w => (w.files.occupied path, w)⟩
  | .removeFile path =>
    ⟨w, none, fun w =>
      match w.files.remove path with
      | .ok files => (.ok (), { w with files })
      | .error error => (.error error, w)⟩

/-- Answer a call. -/
def call (c : Call) (w : World) : c.Reply × World :=
  let started := w.start c
  started.finish (started.world.wait started.span)

/-- Answer a call unless the run is cancelled first. -/
def callUnlessCancelled (c : Call) (w : World) : Option c.Reply × World :=
  let started := w.start c
  match started.world.waitUnlessCancelled started.span with
  | (true, w) =>
    let answered := started.finish w
    (some answered.1, answered.2)
  | (false, w) => (none, w)

/-- Ask the platform whether it can host an environment. -/
def prepare (e : Environment) (w : World) : Except PlatformError Bool × World :=
  match w.hosting with
  | .inMemory p =>
    let (answer, p) := p.prepare e.id
    (answer, { w with hosting := .inMemory p })
  | .bareMetal config => (.ok (config.canHost e.nodes.length), w)

/-- Deploy on the platform in memory. -/
def deployInMemory (e : Environment) (p : InMemory) (w : World) : Deployed × World :=
  let rest := { p with deploys := p.deploys.tail }
  match p.deploys.head?.join with
  | some error => (⟨e.provision, some (.error error)⟩, { w with hosting := .inMemory rest })
  | none =>
    match w.waitUnlessCancelled (Simulation.span p.deployDelayMs) with
    | (false, w) => (⟨e.provision, none⟩, { w with hosting := .inMemory rest })
    | (true, w) =>
      let (provision, outcome, p) := rest.deploy e.id e.provision
      (⟨provision, some outcome⟩, { w with hosting := .inMemory p })

/-- Whether an attempt to deploy breaks off everything. -/
def breaksOff : Option (Except BareMetal.BareMetalError Unit) → Bool
  | some (.error .noDeadline) => true
  | _ => false

/-- Deploy an environment. -/
def deploy (e : Environment) (w : World) : Deployed × World :=
  match w.hosting with
  | .inMemory p => w.deployInMemory e p
  | .bareMetal config =>
    let (outcome, provision, w) := config.deploy.runUntil callUnlessCancelled e.provision w
    (⟨provision, outcome.map (·.mapError BareMetal.BareMetalError.toPlatform)⟩,
      { w with brokenOff := breaksOff outcome })

/-- Delete an environment. -/
def delete (e : Environment) (w : World) : Except PlatformError Unit × World :=
  match w.hosting with
  | .inMemory p =>
    let (outcome, p) := p.delete e.id
    (outcome, { w with hosting := .inMemory p })
  | .bareMetal _ => (.ok (), w)

/-- Answer a request. -/
def reply : (r : Request) → World → r.Reply × World
  | .lock _, w => ((), w)
  | .prepare e, w =>
    let (answer, w) := w.prepare e
    (some answer, w)
  | .deploy e, w => w.deploy e
  | .delete e, w => w.delete e
  | .interruptible c, w => w.callUnlessCancelled c
  | .call c, w => w.call c
  | .notify message, w => ((), { w with sent := w.sent ++ [message] })

/-- The world as surroundings of work. -/
def surroundings : Surroundings World := ⟨reply, fun w => w.clock.cancelled⟩

/-- Run a program that calls the outside world and cannot be interrupted. -/
def runCaller {σ α : Type} (program : Caller σ α) (s : σ) (w : World) : α × σ × World :=
  Program.run (fun c s w => ((w.call c).1, s, (w.call c).2)) program s w

end World

end Testbed.Simulation
