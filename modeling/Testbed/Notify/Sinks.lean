import Testbed.Event
import Testbed.Files
import Testbed.Json.Writer
import Testbed.Message.Basic

/-!
# Notification sinks

Where messages go: a log line with a summary, a file that gets one line of JSON for each message, or
memory. A set of sinks passes each message on to every one of them, in order.
-/
namespace Testbed

/-- The log event that summarises a message. -/
def Message.summary : Message → Event
  | .testResult m => .testResult m.name m.status m.elapsed m.message
  | .subTestResult m => .subTestResult m.parentTest m.name m.status m.message
  | .performance m => .performance m.tool m.testCaseName m.dataPath
  | m => .otherMessage m.typeName

/-- The line of a message in a file. -/
def Message.line (m : Message) : String := (encode m).compact ++ "\n"

inductive Sink where
  | log
  | file (path : String)
  | memory
  deriving DecidableEq

/-- What the sinks have received: the files with the lines that were written, the messages in memory
and the log events, in order. -/
structure Delivered where
  files : Files := ∅
  memory : List Message := []
  events : List Event := []

namespace Sink

/-- Get a sink ready; a file is created unless it is there. A file that cannot be created is named. -/
def prepare (files : Files) : Sink → Except (String × FileError) Files
  | log | memory => .ok files
  | file path => (files.touch path).mapError (fun error => (path, error))

/-- Get sinks ready, in order. -/
def prepareAll (files : Files) (sinks : List Sink) : Except (String × FileError) Files :=
  sinks.foldlM prepare files

/-- Pass a message on to a sink. -/
def notify (sink : Sink) (message : Message) (d : Delivered) : Delivered :=
  match sink with
  | log => { d with events := d.events ++ [message.summary] }
  | file path => { d with files := d.files.append path message.line }
  | memory => { d with memory := d.memory ++ [message] }

/-- Pass a message on to every sink of a set. -/
def notifyAll (sinks : List Sink) (message : Message) (d : Delivered) : Delivered :=
  sinks.foldl (fun d sink => sink.notify message d) d

/-- Pass messages on to a set of sinks, one after the other. -/
def deliver (sinks : List Sink) (messages : List Message) (d : Delivered) : Delivered :=
  messages.foldl (fun d message => notifyAll sinks message d) d

end Sink

end Testbed
