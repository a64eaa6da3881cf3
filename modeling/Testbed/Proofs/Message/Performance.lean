import Testbed.Message.Performance
import Testbed.Proofs.Json.Lossless
import Testbed.Proofs.Json.Proper

/-!
# Measured values on the wire

The values of every kind of test are read back from their record if their doubles are finite, and
the doubles are finite that are read from a proper tree.
-/
namespace Testbed

open Wire Record

theorem Binary64.decode_encode {x : Binary64} (finite : x.isFinite = true) :
    decode (encode x) = some x := by
  simp [encode, decode, finite]

instance : Readable Binary64 where
  readable_encode x := by
    simp only [encode]
    split <;> rfl

instance : Lossless DiskSetupType := ⟨fun a => by cases a <;> rfl⟩
instance : Readable DiskSetupType := ⟨fun _ => rfl⟩

instance : Lossless PerformanceDiskType := ⟨fun a => by cases a <;> rfl⟩
instance : Readable PerformanceDiskType := ⟨fun _ => rfl⟩

/-- Whether all of some doubles are finite. -/
def AllFinite (floats : List Binary64) : Prop := ∀ x ∈ floats, x.isFinite = true

theorem allFinite_cons {x : Binary64} {floats : List Binary64} :
    AllFinite (x :: floats) ↔ x.isFinite = true ∧ AllFinite floats := List.forall_mem_cons

/-- A double that may be left out is finite in any case. -/
theorem defaulted_finite {r : Record} (fields : ∀ field ∈ r.fields, field.2.Proper)
    (name : String) : Gives (fun x => x.isFinite = true) (r.defaulted name Binary64.zero) :=
  defaulted_gives Binary64.decode_gives fields (by decide)

namespace DiskPerformance

def floats (d : DiskPerformance) : List Binary64 := [
  d.readIops, d.readLatUsec, d.randreadIops, d.randreadLatUsec, d.writeIops, d.writeLatUsec,
  d.randwriteIops, d.randwriteLatUsec]

theorem ofJson?_members {d : DiskPerformance} (finite : AllFinite d.floats) :
    ofJson? (.object d.members) = some d := by
  have isRecord : Record.ofJson? names (.object d.members) = some ⟨false, d.members⟩ :=
    ofJson?_of_names rfl (by decide)
  simp only [floats, allFinite_cons] at finite
  simp only [ofJson?, isRecord]
  simp [-Option.bind_eq_bind, some_bind, members, defaulted_eq, find?_cons,
    Binary64.decode_encode, finite]

theorem ofJson?_finite {j : Json} (proper : j.Proper) :
    Gives (fun d => AllFinite d.floats) (ofJson? j) := by
  refine .bind (Record.ofJson?_gives names proper) fun r fields => ?_
  have finite := defaulted_finite fields
  refine .after fun diskSetupType => .after fun blockSize => .after fun diskType => ?_
  refine .after fun coreCount => .after fun diskCount => .after fun qdepth => ?_
  refine .after fun iodepth => .after fun numjob => ?_
  refine .bind (finite _) fun _ readIops => .bind (finite _) fun _ readLatUsec => ?_
  refine .bind (finite _) fun _ randreadIops => .bind (finite _) fun _ randreadLatUsec => ?_
  refine .bind (finite _) fun _ writeIops => .bind (finite _) fun _ writeLatUsec => ?_
  refine .bind (finite _) fun _ randwriteIops => .bind (finite _) fun _ randwriteLatUsec => ?_
  exact .some (by simp [floats, AllFinite, *])

theorem readable_members (d : DiskPerformance) :
    ∀ member ∈ d.members, member.2.readable = true := by
  simp [members]

end DiskPerformance

namespace CpuPerformance

def floats (c : CpuPerformance) : List Binary64 := [
  c.cpuSpeed, c.totalTime, c.minLatencyMs, c.maxLatencyMs, c.avgLatencyMs,
  c.percentile95LatencyMs]

theorem ofJson?_members {c : CpuPerformance} (finite : AllFinite c.floats) :
    ofJson? (.object c.members) = some c := by
  have isRecord : Record.ofJson? names (.object c.members) = some ⟨false, c.members⟩ :=
    ofJson?_of_names rfl (by decide)
  simp only [floats, allFinite_cons] at finite
  simp only [ofJson?, isRecord]
  simp [-Option.bind_eq_bind, some_bind, members, defaulted_eq, find?_cons,
    Binary64.decode_encode, finite]

theorem ofJson?_finite {j : Json} (proper : j.Proper) :
    Gives (fun c => AllFinite c.floats) (ofJson? j) := by
  refine .bind (Record.ofJson?_gives names proper) fun r fields => ?_
  have finite := defaulted_finite fields
  refine .after fun benchmark => .bind (finite _) fun _ cpuSpeed => ?_
  refine .after fun threads => .after fun events => ?_
  refine .bind (finite _) fun _ totalTime => .bind (finite _) fun _ minLatencyMs => ?_
  refine .bind (finite _) fun _ maxLatencyMs => .bind (finite _) fun _ avgLatencyMs => ?_
  refine .bind (finite _) fun _ percentile95LatencyMs => ?_
  exact .some (by simp [floats, AllFinite, *])

theorem readable_members (c : CpuPerformance) :
    ∀ member ∈ c.members, member.2.readable = true := by
  simp [members]

end CpuPerformance

namespace NetworkTcpPerformance

def floats (n : NetworkTcpPerformance) : List Binary64 := [
  n.throughputInGbps, n.latencyUs, n.bufferSize, n.txPackets, n.rxPackets, n.pktsInterrupts,
  n.senderCyclesPerByte, n.receiverCyclesRerByte, n.bufferSizeBytes, n.txThroughputInGbps,
  n.rxThroughputInGbps, n.retransmittedSegments, n.congestionWindowsizeKb]

theorem ofJson?_members {n : NetworkTcpPerformance} (finite : AllFinite n.floats) :
    ofJson? (.object n.members) = some n := by
  have isRecord : Record.ofJson? names (.object n.members) = some ⟨false, n.members⟩ :=
    ofJson?_of_names rfl (by decide)
  simp only [floats, allFinite_cons] at finite
  simp only [ofJson?, isRecord]
  simp [-Option.bind_eq_bind, some_bind, members, defaulted_eq, find?_cons,
    Binary64.decode_encode, finite]

theorem ofJson?_finite {j : Json} (proper : j.Proper) :
    Gives (fun n => AllFinite n.floats) (ofJson? j) := by
  refine .bind (Record.ofJson?_gives names proper) fun r fields => ?_
  have finite := defaulted_finite fields
  refine .after fun connectionsNum => .bind (finite _) fun _ throughputInGbps => ?_
  refine .bind (finite _) fun _ latencyUs => .bind (finite _) fun _ bufferSize => ?_
  refine .bind (finite _) fun _ txPackets => .bind (finite _) fun _ rxPackets => ?_
  refine .bind (finite _) fun _ pktsInterrupts => ?_
  refine .after fun numberOfReceivers => .after fun numberOfSenders => ?_
  refine .bind (finite _) fun _ senderCyclesPerByte => ?_
  refine .after fun connectionsCreatedTime => .after fun retransSegments => ?_
  refine .bind (finite _) fun _ receiverCyclesRerByte => ?_
  refine .bind (finite _) fun _ bufferSizeBytes => ?_
  refine .bind (finite _) fun _ txThroughputInGbps => ?_
  refine .bind (finite _) fun _ rxThroughputInGbps => ?_
  refine .bind (finite _) fun _ retransmittedSegments => ?_
  refine .bind (finite _) fun _ congestionWindowsizeKb => ?_
  exact .some (by simp [floats, AllFinite, *])

theorem readable_members (n : NetworkTcpPerformance) :
    ∀ member ∈ n.members, member.2.readable = true := by
  simp [members]

end NetworkTcpPerformance

namespace NetworkUdpPerformance

def floats (n : NetworkUdpPerformance) : List Binary64 := [
  n.receiverCyclesRerByte, n.sendBufferSize, n.txThroughputInGbps, n.rxThroughputInGbps,
  n.dataLoss, n.packetSizeKbytes]

theorem ofJson?_members {n : NetworkUdpPerformance} (finite : AllFinite n.floats) :
    ofJson? (.object n.members) = some n := by
  have isRecord : Record.ofJson? names (.object n.members) = some ⟨false, n.members⟩ :=
    ofJson?_of_names rfl (by decide)
  simp only [floats, allFinite_cons] at finite
  simp only [ofJson?, isRecord]
  simp [-Option.bind_eq_bind, some_bind, members, defaulted_eq, find?_cons,
    Binary64.decode_encode, finite]

theorem ofJson?_finite {j : Json} (proper : j.Proper) :
    Gives (fun n => AllFinite n.floats) (ofJson? j) := by
  refine .bind (Record.ofJson?_gives names proper) fun r fields => ?_
  have finite := defaulted_finite fields
  refine .after fun connectionsNum => .after fun numberOfReceivers => ?_
  refine .after fun numberOfSenders => .after fun connectionsCreatedTime => ?_
  refine .bind (finite _) fun _ receiverCyclesRerByte => ?_
  refine .bind (finite _) fun _ sendBufferSize => ?_
  refine .bind (finite _) fun _ txThroughputInGbps => ?_
  refine .bind (finite _) fun _ rxThroughputInGbps => ?_
  refine .bind (finite _) fun _ dataLoss => .bind (finite _) fun _ packetSizeKbytes => ?_
  exact .some (by simp [floats, AllFinite, *])

theorem readable_members (n : NetworkUdpPerformance) :
    ∀ member ∈ n.members, member.2.readable = true := by
  simp [members]

end NetworkUdpPerformance

namespace NetworkLatencyPerformance

def floats (n : NetworkLatencyPerformance) : List Binary64 := [
  n.maxLatencyUs, n.averageLatencyUs, n.minLatencyUs, n.latency95PercentileUs,
  n.latency99PercentileUs]

theorem ofJson?_members {n : NetworkLatencyPerformance} (finite : AllFinite n.floats) :
    ofJson? (.object n.members) = some n := by
  have isRecord : Record.ofJson? names (.object n.members) = some ⟨false, n.members⟩ :=
    ofJson?_of_names rfl (by decide)
  simp only [floats, allFinite_cons] at finite
  simp only [ofJson?, isRecord]
  simp [-Option.bind_eq_bind, some_bind, members, defaulted_eq, find?_cons,
    Binary64.decode_encode, finite]

theorem ofJson?_finite {j : Json} (proper : j.Proper) :
    Gives (fun n => AllFinite n.floats) (ofJson? j) := by
  refine .bind (Record.ofJson?_gives names proper) fun r fields => ?_
  have finite := defaulted_finite fields
  refine .bind (finite _) fun _ maxLatencyUs => .bind (finite _) fun _ averageLatencyUs => ?_
  refine .bind (finite _) fun _ minLatencyUs => ?_
  refine .bind (finite _) fun _ latency95PercentileUs => ?_
  refine .bind (finite _) fun _ latency99PercentileUs => ?_
  refine .after fun intervalUs => .after fun frequency => ?_
  exact .some (by simp [floats, AllFinite, *])

theorem readable_members (n : NetworkLatencyPerformance) :
    ∀ member ∈ n.members, member.2.readable = true := by
  simp [members]

end NetworkLatencyPerformance

namespace PerfDetail

def floats : PerfDetail → List Binary64
  | disk v => v.floats
  | cpu v => v.floats
  | networkTcp v => v.floats
  | networkUdp v => v.floats
  | networkLatency v => v.floats

/-- The names of the values on the wire, in order. -/
def names : PerfDetail → List String
  | disk _ => DiskPerformance.names
  | cpu _ => CpuPerformance.names
  | networkTcp _ => NetworkTcpPerformance.names
  | networkUdp _ => NetworkUdpPerformance.names
  | networkLatency _ => NetworkLatencyPerformance.names

theorem names_values (d : PerfDetail) : d.values.map (·.1) = d.names := by
  cases d <;> rfl

theorem readable_values (d : PerfDetail) : ∀ member ∈ d.values, member.2.readable = true := by
  cases d with
  | disk v => exact v.readable_members
  | cpu v => exact v.readable_members
  | networkTcp v => exact v.readable_members
  | networkUdp v => exact v.readable_members
  | networkLatency v => exact v.readable_members

/-- The values of a kind are read back from their record. -/
theorem ofKind?_values {d : PerfDetail} (finite : AllFinite d.floats) :
    ofKind? d.kind (.object d.values) = some d := by
  cases d with
  | disk v => simp [ofKind?, kind, values, DiskPerformance.ofJson?_members finite]
  | cpu v => simp [ofKind?, kind, values, CpuPerformance.ofJson?_members finite]
  | networkTcp v => simp [ofKind?, kind, values, NetworkTcpPerformance.ofJson?_members finite]
  | networkUdp v => simp [ofKind?, kind, values, NetworkUdpPerformance.ofJson?_members finite]
  | networkLatency v =>
    simp [ofKind?, kind, values, NetworkLatencyPerformance.ofJson?_members finite]

theorem ofKind?_finite (kind : String) {content : Json} (proper : content.Proper) :
    Gives (fun d => AllFinite d.floats) (ofKind? kind content) := by
  unfold ofKind?
  split
  · exact .map (DiskPerformance.ofJson?_finite proper) (fun _ finite => finite)
  · exact .map (CpuPerformance.ofJson?_finite proper) (fun _ finite => finite)
  · exact .map (NetworkTcpPerformance.ofJson?_finite proper) (fun _ finite => finite)
  · exact .map (NetworkUdpPerformance.ofJson?_finite proper) (fun _ finite => finite)
  · exact .map (NetworkLatencyPerformance.ofJson?_finite proper) (fun _ finite => finite)
  · exact .none

/-- The kind has a name of its own among the values. -/
theorem perfKind_notMem (d : PerfDetail) : "perf_kind" ∉ d.values.map (·.1) := by
  rw [names_values]
  cases d <;> exact of_decide_eq_true rfl

theorem readable_members (d : PerfDetail) : ∀ member ∈ d.members, member.2.readable = true :=
  List.forall_mem_cons.2 ⟨rfl, d.readable_values⟩

/-- Values are read back from the object that they share with their kind. -/
theorem ofShared?_members {d : PerfDetail} (finite : AllFinite d.floats) :
    ofShared? d.members = some d := by
  have whole : (Json.object d.members).readable = true :=
    Json.readableMembers_iff.2 d.readable_members
  have found := Json.tagged?_cons whole d.perfKind_notMem
  rw [ofShared?, members, found]
  exact ofKind?_values finite

theorem ofShared?_finite {members : List (String × Json)}
    (all : ∀ member ∈ members, member.2.Proper) :
    Gives (fun d => AllFinite d.floats) (ofShared? members) := by
  refine .bind (Json.tagged?_gives "perf_kind" (.object all)) fun (kind, content) proper => ?_
  dsimp only
  split
  · exact ofKind?_finite _ proper
  · split
    · exact .after fun kind => ofKind?_finite kind proper
    · exact .none
  · exact .none

end PerfDetail

end Testbed
