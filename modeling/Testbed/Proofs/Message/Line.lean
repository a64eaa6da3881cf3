import Testbed.Notify.Sinks
import Testbed.Proofs.Json.Printable
import Testbed.Proofs.Message.RoundTrip

/-!
# The line of a message

A message is one line of JSON whatever its texts hold, and it is read back from its line when its
moments are of the calendar and its doubles legible.
-/
namespace Testbed

open Json (Plain Legible)
open Wire

/-! ## Messages are plain -/

section Fields

variable {depth : Nat}

theorem plain_text (s : String) : Plain depth (encode s) := .string s

theorem plain_timestamp (t : Timestamp) : Plain depth (encode t) := .string t.text

theorem plain_facts (facts : Facts) : Plain (depth + 1) (encode facts) :=
  plain_dict plain_text facts

theorem plain_option {α : Type} [Wire α] (each : ∀ a : α, Plain depth (encode a)) (o : Option α) :
    Plain depth (encode o) := by
  cases o with
  | none => exact .null
  | some a => exact each a

theorem plain_float {x : Binary64} (legible : Legible x) : Plain depth (encode x) := by
  simp only [encode]
  split
  · exact .float legible
  · exact .null

end Fields

/-- A double that is not finite is written as null, which is no number. -/
theorem Json.Legible.isFinite {x : Binary64} (legible : Legible x) : x.isFinite = true := by
  obtain ⟨⟨c, text, written, number⟩, -⟩ := legible.literal
  by_contra infinite
  rw [writeFloat, if_pos (by simpa using infinite)] at written
  obtain ⟨rfl, -⟩ := List.cons.inj written
  exact absurd number (by decide)

section Records

variable {depth : Nat}

theorem DiskPerformance.plain_members {d : DiskPerformance} (legible : ∀ x ∈ d.floats, Legible x) :
    ∀ member ∈ d.members, Plain depth member.2 := by
  have setup : Plain depth (encode d.diskSetupType) := .string d.diskSetupType.name
  have kind : Plain depth (encode d.diskType) := .string d.diskType.name
  simp only [floats, List.forall_mem_cons] at legible
  simp [members, plain_uint32, plain_uint64, plain_float, setup, kind, legible]

theorem CpuPerformance.plain_members {c : CpuPerformance} (legible : ∀ x ∈ c.floats, Legible x) :
    ∀ member ∈ c.members, Plain depth member.2 := by
  simp only [floats, List.forall_mem_cons] at legible
  simp [members, plain_text, plain_uint32, plain_uint64, plain_float, legible]

theorem NetworkTcpPerformance.plain_members {n : NetworkTcpPerformance}
    (legible : ∀ x ∈ n.floats, Legible x) : ∀ member ∈ n.members, Plain depth member.2 := by
  simp only [floats, List.forall_mem_cons] at legible
  simp [members, plain_uint32, plain_uint64, plain_float, legible]

theorem NetworkUdpPerformance.plain_members {n : NetworkUdpPerformance}
    (legible : ∀ x ∈ n.floats, Legible x) : ∀ member ∈ n.members, Plain depth member.2 := by
  simp only [floats, List.forall_mem_cons] at legible
  simp [members, plain_uint32, plain_uint64, plain_float, legible]

theorem NetworkLatencyPerformance.plain_members {n : NetworkLatencyPerformance}
    (legible : ∀ x ∈ n.floats, Legible x) : ∀ member ∈ n.members, Plain depth member.2 := by
  simp only [floats, List.forall_mem_cons] at legible
  simp [members, plain_uint64, plain_float, legible]

theorem PerfDetail.plain_members {d : PerfDetail} (legible : ∀ x ∈ d.floats, Legible x) :
    ∀ member ∈ d.members, Plain depth member.2 := by
  refine List.forall_mem_cons.2 ⟨.string d.kind, ?_⟩
  cases d with
  | disk v => exact v.plain_members legible
  | cpu v => exact v.plain_members legible
  | networkTcp v => exact v.plain_members legible
  | networkUdp v => exact v.plain_members legible
  | networkLatency v => exact v.plain_members legible

theorem TestRunMessage.plain_members {m : TestRunMessage} (elapsed : Legible m.elapsed) :
    ∀ member ∈ m.members, Plain (depth + 1) member.2 := by
  have status : Plain (depth + 1) (encode m.status) := .string m.status.name
  have tags : Plain (depth + 1) (encode m.tags) := plain_option (plain_list plain_text) m.tags
  simp [members, plain_text, plain_timestamp, plain_float elapsed, status, tags]

theorem TestResultMessage.plain_members {m : TestResultMessage} (elapsed : Legible m.elapsed) :
    ∀ member ∈ m.members, Plain (depth + 1) member.2 := by
  have status : Plain (depth + 1) (encode m.status) := .string m.status.name
  have stacktrace : Plain (depth + 1) (encode m.stacktrace) := plain_option plain_text m.stacktrace
  simp [members, plain_text, plain_timestamp, plain_facts, plain_float elapsed, status, stacktrace]

theorem SubTestMessage.plain_members {m : SubTestMessage} (elapsed : Legible m.elapsed) :
    ∀ member ∈ m.members, Plain (depth + 1) member.2 := by
  have status : Plain (depth + 1) (encode m.status) := .string m.status.name
  have stacktrace : Plain (depth + 1) (encode m.stacktrace) := plain_option plain_text m.stacktrace
  simp [members, plain_text, plain_timestamp, plain_facts, plain_float elapsed, status, stacktrace]

theorem ProvisionBootTimeMessage.plain_members {p : ProvisionBootTimeMessage}
    (legible : ∀ x ∈ p.floats, Legible x) : ∀ member ∈ p.members, Plain (depth + 1) member.2 := by
  simp only [floats, List.forall_mem_cons] at legible
  simp [members, plain_timestamp, plain_facts, plain_uint32, plain_float, legible]

theorem KernelBuildMessage.plain_members {k : KernelBuildMessage} (elapsed : Legible k.elapsed) :
    ∀ member ∈ k.members, Plain (depth + 1) member.2 := by
  have success : Plain (depth + 1) (encode k.isSuccess) := .bool k.isSuccess
  simp [members, plain_text, plain_timestamp, plain_float elapsed, success]

theorem PerfMessage.plain_members {m : PerfMessage} (legible : ∀ x ∈ m.floats, Legible x) :
    ∀ member ∈ m.members, Plain (depth + 1) member.2 := by
  obtain ⟨elapsed, values⟩ := List.forall_mem_cons.1 legible
  refine List.forall_mem_append.2 ⟨?header, PerfDetail.plain_members values⟩
  simp [PerfMessage.header, plain_text, plain_timestamp, plain_float elapsed]

end Records

namespace Message

/-- A message is an object whose members hold at most one container each. -/
theorem plain_encode {m : Message} (legible : ∀ x ∈ m.floats, Legible x) :
    Plain 2 (encode m) := by
  refine .object (List.forall_mem_cons.2 ⟨.string m.typeName, ?_⟩)
  cases m with
  | testRun m => exact TestRunMessage.plain_members (legible _ (.head _))
  | testResult m => exact TestResultMessage.plain_members (legible _ (.head _))
  | subTestResult m => exact SubTestMessage.plain_members (legible _ (.head _))
  | performance m => exact PerfMessage.plain_members legible
  | provisionBootTime m => exact ProvisionBootTimeMessage.plain_members legible
  | kernelBuild m => exact KernelBuildMessage.plain_members (legible _ (.head _))

/-! ## Lines -/

/-- The text of a message before the end of its line. -/
def record (m : Message) : String := (encode m).compact

theorem line_eq (m : Message) : m.line = m.record ++ "\n" := rfl

/-- No control character is left in the text of a message, so its line ends nowhere else. -/
theorem printable_record (m : Message) : Json.Printable m.record.toList := by
  rw [record, Json.compact, String.toList_ofList]
  exact Json.printable_write (encode m)

/-- A message is decoded from its text. -/
theorem decode_record {m : Message} (times : ∀ t ∈ m.times, t.Valid)
    (legible : ∀ x ∈ m.floats, Legible x) : (Json.parse m.record).bind decode = some m := by
  rw [record, Json.parse_compact (plain_encode legible) (by decide)]
  exact decode_encode times (fun x member => (legible x member).isFinite)

end Message

end Testbed
