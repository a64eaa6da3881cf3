import Mathlib.Data.List.Pairwise
import Testbed.Proofs.Message.Fields

/-!
# The fields of messages

The measured values of every kind, measurements with their header, and sub-results are read field by
field. A measurement is told its fields by its kind.
-/
namespace Testbed

open Wire Record

/-! ## Measured values -/

namespace DiskPerformance

def fields : List Field :=
  let d : DiskPerformance := {}
  [.defaulted "disk_setup_type" d.diskSetupType, .defaulted "block_size" d.blockSize,
    .defaulted "disk_type" d.diskType, .defaulted "core_count" d.coreCount,
    .defaulted "disk_count" d.diskCount, .defaulted "qdepth" d.qdepth,
    .defaulted "iodepth" d.iodepth, .defaulted "numjob" d.numjob,
    .defaulted "read_iops" d.readIops, .defaulted "read_lat_usec" d.readLatUsec,
    .defaulted "randread_iops" d.randreadIops, .defaulted "randread_lat_usec" d.randreadLatUsec,
    .defaulted "write_iops" d.writeIops, .defaulted "write_lat_usec" d.writeLatUsec,
    .defaulted "randwrite_iops" d.randwriteIops,
    .defaulted "randwrite_lat_usec" d.randwriteLatUsec]

theorem ofJson?_reads {others : List (String × Json)} (distinct : (others.map (·.1)).Nodup) :
    (ofJson? (.object others)).map members = Field.readAll fields others := by
  have isRecord := Record.ofJson?_of_nodup names distinct
  simp only [ofJson?, isRecord, some_bind]
  refine reads_all ?_
  iterate 16 refine reads_defaulted fun _ => ?_
  exact reads_done rfl

end DiskPerformance

namespace CpuPerformance

def fields : List Field :=
  let d : CpuPerformance := {}
  [.defaulted "benchmark" d.benchmark, .defaulted "cpu_speed" d.cpuSpeed,
    .defaulted "threads" d.threads, .defaulted "events" d.events,
    .defaulted "total_time" d.totalTime, .defaulted "min_latency_ms" d.minLatencyMs,
    .defaulted "max_latency_ms" d.maxLatencyMs, .defaulted "avg_latency_ms" d.avgLatencyMs,
    .defaulted "percentile_95_latency_ms" d.percentile95LatencyMs]

theorem ofJson?_reads {others : List (String × Json)} (distinct : (others.map (·.1)).Nodup) :
    (ofJson? (.object others)).map members = Field.readAll fields others := by
  have isRecord := Record.ofJson?_of_nodup names distinct
  simp only [ofJson?, isRecord, some_bind]
  refine reads_all ?_
  iterate 9 refine reads_defaulted fun _ => ?_
  exact reads_done rfl

end CpuPerformance

namespace NetworkTcpPerformance

def fields : List Field :=
  let d : NetworkTcpPerformance := {}
  [.defaulted "connections_num" d.connectionsNum,
    .defaulted "throughput_in_gbps" d.throughputInGbps, .defaulted "latency_us" d.latencyUs,
    .defaulted "buffer_size" d.bufferSize, .defaulted "tx_packets" d.txPackets,
    .defaulted "rx_packets" d.rxPackets, .defaulted "pkts_interrupts" d.pktsInterrupts,
    .defaulted "number_of_receivers" d.numberOfReceivers,
    .defaulted "number_of_senders" d.numberOfSenders,
    .defaulted "sender_cycles_per_byte" d.senderCyclesPerByte,
    .defaulted "connections_created_time" d.connectionsCreatedTime,
    .defaulted "retrans_segments" d.retransSegments,
    .defaulted "receiver_cycles_rer_byte" d.receiverCyclesRerByte,
    .defaulted "buffer_size_bytes" d.bufferSizeBytes,
    .defaulted "tx_throughput_in_gbps" d.txThroughputInGbps,
    .defaulted "rx_throughput_in_gbps" d.rxThroughputInGbps,
    .defaulted "retransmitted_segments" d.retransmittedSegments,
    .defaulted "congestion_windowsize_kb" d.congestionWindowsizeKb]

theorem ofJson?_reads {others : List (String × Json)} (distinct : (others.map (·.1)).Nodup) :
    (ofJson? (.object others)).map members = Field.readAll fields others := by
  have isRecord := Record.ofJson?_of_nodup names distinct
  simp only [ofJson?, isRecord, some_bind]
  refine reads_all ?_
  iterate 18 refine reads_defaulted fun _ => ?_
  exact reads_done rfl

end NetworkTcpPerformance

namespace NetworkUdpPerformance

def fields : List Field :=
  let d : NetworkUdpPerformance := {}
  [.defaulted "connections_num" d.connectionsNum,
    .defaulted "number_of_receivers" d.numberOfReceivers,
    .defaulted "number_of_senders" d.numberOfSenders,
    .defaulted "connections_created_time" d.connectionsCreatedTime,
    .defaulted "receiver_cycles_rer_byte" d.receiverCyclesRerByte,
    .defaulted "send_buffer_size" d.sendBufferSize,
    .defaulted "tx_throughput_in_gbps" d.txThroughputInGbps,
    .defaulted "rx_throughput_in_gbps" d.rxThroughputInGbps, .defaulted "data_loss" d.dataLoss,
    .defaulted "packet_size_kbytes" d.packetSizeKbytes]

theorem ofJson?_reads {others : List (String × Json)} (distinct : (others.map (·.1)).Nodup) :
    (ofJson? (.object others)).map members = Field.readAll fields others := by
  have isRecord := Record.ofJson?_of_nodup names distinct
  simp only [ofJson?, isRecord, some_bind]
  refine reads_all ?_
  iterate 10 refine reads_defaulted fun _ => ?_
  exact reads_done rfl

end NetworkUdpPerformance

namespace NetworkLatencyPerformance

def fields : List Field :=
  let d : NetworkLatencyPerformance := {}
  [.defaulted "max_latency_us" d.maxLatencyUs, .defaulted "average_latency_us" d.averageLatencyUs,
    .defaulted "min_latency_us" d.minLatencyUs,
    .defaulted "latency95_percentile_us" d.latency95PercentileUs,
    .defaulted "latency99_percentile_us" d.latency99PercentileUs,
    .defaulted "interval_us" d.intervalUs, .defaulted "frequency" d.frequency]

theorem ofJson?_reads {others : List (String × Json)} (distinct : (others.map (·.1)).Nodup) :
    (ofJson? (.object others)).map members = Field.readAll fields others := by
  have isRecord := Record.ofJson?_of_nodup names distinct
  simp only [ofJson?, isRecord, some_bind]
  refine reads_all ?_
  iterate 7 refine reads_defaulted fun _ => ?_
  exact reads_done rfl

end NetworkLatencyPerformance

instance : ProperForm DiskSetupType := ⟨fun _ => .string _⟩

instance : ProperForm PerformanceDiskType := ⟨fun _ => .string _⟩

namespace PerfDetail

theorem proper_members (d : PerfDetail) : ∀ member ∈ d.members, member.2.Proper := by
  refine List.forall_mem_cons.2 ⟨.string _, ?_⟩
  cases d with
  | disk v => simp [values, DiskPerformance.members]
  | cpu v => simp [values, CpuPerformance.members]
  | networkTcp v => simp [values, NetworkTcpPerformance.members]
  | networkUdp v => simp [values, NetworkUdpPerformance.members]
  | networkLatency v => simp [values, NetworkLatencyPerformance.members]

/-- The fields of the values of a kind. -/
def fields : PerfDetail → List Field
  | disk _ => DiskPerformance.fields
  | cpu _ => CpuPerformance.fields
  | networkTcp _ => NetworkTcpPerformance.fields
  | networkUdp _ => NetworkUdpPerformance.fields
  | networkLatency _ => NetworkLatencyPerformance.fields

/-- The fields of the values together with their kind. -/
def sharedFields (d : PerfDetail) : List Field := .required String "perf_kind" :: d.fields

theorem names_fields (d : PerfDetail) : d.fields.map (·.name) = d.names := by
  cases d <;> rfl

theorem fields_of_kind {d e : PerfDetail} (same : d.kind = e.kind) : d.fields = e.fields := by
  cases d <;> cases e <;> first | rfl | (simp [kind] at same)

variable {d : PerfDetail} {others : List (String × Json)}

/-- The values of a kind are read from whatever stands under their names. -/
theorem ofKind?_reads (distinct : (others.map (·.1)).Nodup) :
    (ofKind? d.kind (.object others)).map values = Field.readAll d.fields others := by
  cases d with
  | disk v => exact (Option.map_map ..).trans (DiskPerformance.ofJson?_reads distinct)
  | cpu v => exact (Option.map_map ..).trans (CpuPerformance.ofJson?_reads distinct)
  | networkTcp v => exact (Option.map_map ..).trans (NetworkTcpPerformance.ofJson?_reads distinct)
  | networkUdp v => exact (Option.map_map ..).trans (NetworkUdpPerformance.ofJson?_reads distinct)
  | networkLatency v =>
    exact (Option.map_map ..).trans (NetworkLatencyPerformance.ofJson?_reads distinct)

/-- What is read for a kind is of that kind. -/
theorem ofKind?_kind (name : String) (content : Json) :
    Gives (fun d => d.kind = name) (ofKind? name content) := by
  unfold ofKind?
  split
  iterate 5 exact .map (Q := fun _ => True) (fun _ _ => trivial) (fun _ _ => rfl)
  exact .none

/-- The object that values share with their kind is tagged by it. -/
theorem ofShared?_eq {name : String} (whole : ∀ member ∈ others, member.2.readable = true)
    (distinct : (others.map (·.1)).Nodup)
    (named : find? "perf_kind" others = some (.string name)) :
    ofShared? others =
      ofKind? name (.object (others.filter (fun member => member.1 ≠ "perf_kind"))) := by
  rw [ofShared?, tagged?_of_find? whole distinct named]
  rfl

/-- The values of a kind are read alike with and without the tag beside them. -/
theorem ofKind?_untagged_reads (distinct : (others.map (·.1)).Nodup) :
    (ofKind? d.kind (.object (others.filter (fun member => member.1 ≠ "perf_kind")))).map values =
      Field.readAll d.fields others := by
  have untagged : ∀ f ∈ d.fields, find? f.name (others.filter (fun member =>
      member.1 ≠ "perf_kind")) = find? f.name others := by
    intro f listed
    refine find?_filter (fun name => name ≠ "perf_kind") (decide_eq_true fun tag => ?_)
    refine d.perfKind_notMem ?_
    rw [d.names_values, ← d.names_fields, ← tag]
    exact List.mem_map_of_mem listed
  rw [← Field.readAll_congr untagged]
  exact ofKind?_reads (distinct_filter distinct (fun member => member.1 ≠ "perf_kind"))

/-- Values that share an object of their kind are read from whatever stands under their names. -/
theorem ofShared?_reads (whole : ∀ member ∈ others, member.2.readable = true)
    (distinct : (others.map (·.1)).Nodup)
    (kind : find? "perf_kind" others = some (.string d.kind)) :
    (ofShared? others).map members = Field.readAll d.sharedFields others := by
  have values := ofKind?_untagged_reads (d := d) distinct
  have tag : (Field.required String "perf_kind").value others = some (.string d.kind) := by
    rw [Field.value, Field.required, kind]
    rfl
  rw [ofShared?_eq whole distinct kind, sharedFields, Field.readAll, tag, ← values]
  cases given : ofKind? d.kind (.object (others.filter (fun member => member.1 ≠ "perf_kind"))) with
  | none => rfl
  | some d' =>
    have same := ofKind?_kind _ _ d' given
    rw [Option.map_some, members, same]
    rfl

end PerfDetail

/-! ## Messages -/

namespace PerfMessage

theorem proper_members (m : PerfMessage) : ∀ member ∈ m.members, member.2.Proper := by
  have header : ∀ member ∈ m.header, member.2.Proper := by simp [header]
  intro member listed
  rcases List.mem_append.1 listed with listed | listed
  · exact header member listed
  · exact m.detail.proper_members member listed

/-- The fields of the header. -/
def headerFields : List Field := [
  .required Timestamp "time", .required Binary64 "elapsed", .required String "tool",
  .required String "test_case_name", .required String "platform", .required String "location",
  .required String "host_version", .required String "guest_os_type",
  .required String "distro_version", .required String "vmsize", .required String "kernel_version",
  .required String "lis_version", .required String "ip_version", .required String "protocol_type",
  .required String "data_path", .required Timestamp "test_date", .required String "role",
  .required String "test_result_id"]

/-- The fields of a measurement with values of the kind of some given ones. -/
def fields (d : PerfDetail) : List Field := headerFields ++ d.sharedFields

theorem names_fields (d : PerfDetail) :
    (fields d).map (·.name) = headerNames ++ "perf_kind" :: d.names := by
  rw [fields, List.map_append, PerfDetail.sharedFields, List.map_cons, d.names_fields]
  rfl

/-- The fields of the measurements of all kinds. -/
def allFields : List Field :=
  headerFields ++ .required String "perf_kind" :: (DiskPerformance.fields ++
    CpuPerformance.fields ++ NetworkTcpPerformance.fields ++ NetworkUdpPerformance.fields ++
    NetworkLatencyPerformance.fields)

theorem mem_allFields {d : PerfDetail} {f : Field} (listed : f ∈ fields d) : f ∈ allFields := by
  simp only [fields, PerfDetail.sharedFields, allFields, List.mem_append, List.mem_cons] at listed ⊢
  rcases listed with listed | listed | listed
  · exact .inl listed
  · exact .inr (.inl listed)
  · cases d <;> simp_all [PerfDetail.fields]

/-- Two fields, of which the types are compared first: names are looked at where these differ. -/
def Apart (f g : Field) : Prop := f.type ≠ g.type → f.name ≠ g.name

instance : DecidableRel Apart := fun f g =>
  inferInstanceAs (Decidable (f.type ≠ g.type → f.name ≠ g.name))

instance : Std.Symm Apart := ⟨fun _ _ apart differ => (apart differ.symm).symm⟩

theorem allFields_apart : allFields.Pairwise Apart := by decide +kernel

/-- Fields of one name have one type, whatever the kinds. -/
theorem type_eq_of_name {d e : PerfDetail} {f g : Field} (listed : f ∈ fields d)
    (other : g ∈ fields e) (same : f.name = g.name) : f.type = g.type := by
  by_contra differ
  exact allFields_apart.forall_of_forall (fun _ _ differ => absurd rfl differ)
    (mem_allFields listed) (mem_allFields other) differ same

theorem distinct_fields (d : PerfDetail) : ((fields d).map (·.name)).Nodup := by
  rw [names_fields]
  cases d <;> exact of_decide_eq_true rfl

theorem names_members (m : PerfMessage) :
    m.members.map (·.1) = (fields m.detail).map (·.name) := by
  rw [names_fields, ← m.detail.names_values]
  exact List.map_append ..

/-- Without the header the values and their kind are found as with it. -/
theorem find?_sharedField {d : PerfDetail} {f : Field} {others : List (String × Json)}
    (listed : f ∈ d.sharedFields) :
    find? f.name (others.filter (fun member => member.1 ∉ headerNames)) = find? f.name others := by
  refine find?_filter (fun name => name ∉ headerNames) (decide_eq_true ?_)
  have names := distinct_fields d
  rw [fields, List.map_append, List.nodup_append] at names
  intro header
  exact names.2.2 f.name header f.name (List.mem_map_of_mem listed) rfl

theorem find?_perfKind {others : List (String × Json)} :
    find? "perf_kind" (others.filter (fun member => member.1 ∉ headerNames)) =
      find? "perf_kind" others :=
  find?_filter (fun name => name ∉ headerNames) (by decide)

/-- A measurement is read from whatever stands under its names, if the kind is that of `d`. -/
theorem ofJson?_reads {d : PerfDetail} {others : List (String × Json)}
    (whole : ∀ member ∈ others, member.2.readable = true) (distinct : (others.map (·.1)).Nodup)
    (kind : find? "perf_kind" others = some (.string d.kind)) :
    (ofJson? (.object others)).map members = Field.readAll (fields d) others := by
  let values := others.filter (fun member => member.1 ∉ headerNames)
  have shared : (PerfDetail.ofShared? values).map PerfDetail.members =
      Field.readAll d.sharedFields others := by
    rw [← Field.readAll_congr (fun _ => find?_sharedField)]
    refine PerfDetail.ofShared?_reads ?_ ?_ ?_
    · exact fun member listed => whole member (List.mem_filter.1 listed).1
    · exact distinct_filter distinct _
    · exact find?_perfKind.trans kind
  have isRecord : ofMembers? headerNames others = some ⟨false, others⟩ :=
    ofMembers?_of_count (fun name _ => List.nodup_iff_count_le_one.1 distinct name)
  simp only [ofJson?, isRecord, some_bind]
  rw [fields, Field.readAll_append, ← shared]
  cases PerfDetail.ofShared? values with
  | none => cases Field.readAll headerFields others <;> rfl
  | some detail =>
    rw [some_bind]
    have header : (Field.readAll headerFields others).bind (fun front =>
        (some detail.members).map (front ++ ·)) =
        (Field.readAll headerFields others).map (fun front => front ++ detail.members) := by
      cases Field.readAll headerFields others <;> rfl
    refine Eq.trans ?_ header.symm
    iterate 18 refine reads_required fun _ => ?_
    exact reads_done rfl

/-- A measurement that is read is of the kind that its object names. -/
theorem ofJson?_kind {name : String} {others : List (String × Json)}
    (whole : ∀ member ∈ others, member.2.readable = true) (distinct : (others.map (·.1)).Nodup)
    (named : find? "perf_kind" others = some (.string name)) :
    Gives (fun m => m.detail.kind = name) (ofJson? (.object others)) := by
  have kept := find?_perfKind.trans named
  refine .after fun r => .bind (Q := fun d => d.kind = name) ?_ fun detail kind => ?_
  · rw [PerfDetail.ofShared?_eq (fun member listed => whole member (List.mem_filter.1 listed).1)
      (distinct_filter distinct _) kept]
    exact PerfDetail.ofKind?_kind _ _
  · iterate 18 refine .after fun _ => ?_
    exact .some kind

end PerfMessage

namespace SubTestMessage

def fields : List Field := [
  .required Timestamp "time", .required Binary64 "elapsed", .required String "id_",
  .required String "name", .required TestStatus "status", .required String "message",
  .nullable String "stacktrace", .required Facts "information",
  .required String "hardware_platform", .required String "parent_test"]

theorem ofJson?_reads {others : List (String × Json)} (distinct : (others.map (·.1)).Nodup) :
    (ofJson? (.object others)).map members = Field.readAll fields others := by
  have isRecord := Record.ofJson?_of_nodup names distinct
  simp only [ofJson?, isRecord, some_bind]
  refine reads_all ?_
  iterate 6 refine reads_required fun _ => ?_
  refine reads_nullable rfl fun _ => ?_
  iterate 3 refine reads_required fun _ => ?_
  exact reads_done rfl

end SubTestMessage

instance : FieldRecord SubTestMessage where
  members := SubTestMessage.members
  fields _ := SubTestMessage.fields
  tags := []
  encode_eq _ := rfl
  names_members _ := rfl
  distinct _ := by decide
  readable_members := SubTestMessage.readable_members
  reads named _ _ := by
    refine SubTestMessage.ofJson?_reads ?_
    rw [named]
    decide

instance : FieldRecord PerfMessage where
  members := PerfMessage.members
  fields m := PerfMessage.fields m.detail
  tags := ["perf_kind"]
  encode_eq _ := rfl
  names_members := PerfMessage.names_members
  distinct m := PerfMessage.distinct_fields m.detail
  readable_members := PerfMessage.readable_members
  reads {m} others named whole tags := by
    refine PerfMessage.ofJson?_reads whole ?_ ?_
    · rw [named]
      exact PerfMessage.distinct_fields m.detail
    · rw [tags _ (List.mem_singleton_self _)]
      rfl

end Testbed
