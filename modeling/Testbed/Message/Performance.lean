import Testbed.Json.Record

/-!
# Measured values

What performance tests measure, by the kind of test. The values share one flat record with the
header of a performance message and are tagged there by `perf_kind`.
-/
namespace Testbed

/-- How the measured disks were set up. -/
inductive DiskSetupType where
  | unknown | raw | raid0
  deriving DecidableEq, Repr

def DiskSetupType.name : DiskSetupType → String
  | unknown => "unknown"
  | raw => "raw"
  | raid0 => "raid0"

instance : Wire DiskSetupType := .ofNames [.unknown, .raw, .raid0] DiskSetupType.name

/-- The kind of a measured disk, which is not the type of a node's system disk. -/
inductive PerformanceDiskType where
  | unknown | nvme | premiumSsd | ultraDisk
  deriving DecidableEq, Repr

def PerformanceDiskType.name : PerformanceDiskType → String
  | unknown => "unknown"
  | nvme => "nvme"
  | premiumSsd => "premiumssd"
  | ultraDisk => "ultradisk"

instance : Wire PerformanceDiskType :=
  .ofNames [.unknown, .nvme, .premiumSsd, .ultraDisk] PerformanceDiskType.name

structure DiskPerformance where
  diskSetupType : DiskSetupType := .raw
  blockSize : UInt64 := 0
  diskType : PerformanceDiskType := .nvme
  coreCount : UInt32 := 0
  diskCount : UInt32 := 0
  qdepth : UInt32 := 0
  iodepth : UInt32 := 0
  numjob : UInt32 := 0
  readIops : Binary64 := .zero
  readLatUsec : Binary64 := .zero
  randreadIops : Binary64 := .zero
  randreadLatUsec : Binary64 := .zero
  writeIops : Binary64 := .zero
  writeLatUsec : Binary64 := .zero
  randwriteIops : Binary64 := .zero
  randwriteLatUsec : Binary64 := .zero
  deriving DecidableEq

namespace DiskPerformance

/-- The names of the fields on the wire, in order. -/
def names : List String := [
  "disk_setup_type", "block_size", "disk_type", "core_count", "disk_count", "qdepth", "iodepth",
  "numjob", "read_iops", "read_lat_usec", "randread_iops", "randread_lat_usec", "write_iops",
  "write_lat_usec", "randwrite_iops", "randwrite_lat_usec"]

def members (d : DiskPerformance) : List (String × Json) := [
  ("disk_setup_type", encode d.diskSetupType), ("block_size", encode d.blockSize),
  ("disk_type", encode d.diskType), ("core_count", encode d.coreCount),
  ("disk_count", encode d.diskCount), ("qdepth", encode d.qdepth), ("iodepth", encode d.iodepth),
  ("numjob", encode d.numjob), ("read_iops", encode d.readIops),
  ("read_lat_usec", encode d.readLatUsec), ("randread_iops", encode d.randreadIops),
  ("randread_lat_usec", encode d.randreadLatUsec), ("write_iops", encode d.writeIops),
  ("write_lat_usec", encode d.writeLatUsec), ("randwrite_iops", encode d.randwriteIops),
  ("randwrite_lat_usec", encode d.randwriteLatUsec)]

/-- Fields that are missing have their defaults. -/
def ofJson? (j : Json) : Option DiskPerformance := do
  let r ← Record.ofJson? names j
  let d : DiskPerformance := {}
  return { diskSetupType := ← r.defaulted "disk_setup_type" d.diskSetupType
           blockSize := ← r.defaulted "block_size" d.blockSize
           diskType := ← r.defaulted "disk_type" d.diskType
           coreCount := ← r.defaulted "core_count" d.coreCount
           diskCount := ← r.defaulted "disk_count" d.diskCount
           qdepth := ← r.defaulted "qdepth" d.qdepth
           iodepth := ← r.defaulted "iodepth" d.iodepth
           numjob := ← r.defaulted "numjob" d.numjob
           readIops := ← r.defaulted "read_iops" d.readIops
           readLatUsec := ← r.defaulted "read_lat_usec" d.readLatUsec
           randreadIops := ← r.defaulted "randread_iops" d.randreadIops
           randreadLatUsec := ← r.defaulted "randread_lat_usec" d.randreadLatUsec
           writeIops := ← r.defaulted "write_iops" d.writeIops
           writeLatUsec := ← r.defaulted "write_lat_usec" d.writeLatUsec
           randwriteIops := ← r.defaulted "randwrite_iops" d.randwriteIops
           randwriteLatUsec := ← r.defaulted "randwrite_lat_usec" d.randwriteLatUsec }

end DiskPerformance

structure CpuPerformance where
  benchmark : String := ""
  cpuSpeed : Binary64 := .zero
  threads : UInt32 := 0
  events : UInt64 := 0
  totalTime : Binary64 := .zero
  minLatencyMs : Binary64 := .zero
  maxLatencyMs : Binary64 := .zero
  avgLatencyMs : Binary64 := .zero
  percentile95LatencyMs : Binary64 := .zero
  deriving DecidableEq

namespace CpuPerformance

/-- The names of the fields on the wire, in order. -/
def names : List String := [
  "benchmark", "cpu_speed", "threads", "events", "total_time", "min_latency_ms", "max_latency_ms",
  "avg_latency_ms", "percentile_95_latency_ms"]

def members (c : CpuPerformance) : List (String × Json) := [
  ("benchmark", encode c.benchmark), ("cpu_speed", encode c.cpuSpeed),
  ("threads", encode c.threads), ("events", encode c.events), ("total_time", encode c.totalTime),
  ("min_latency_ms", encode c.minLatencyMs), ("max_latency_ms", encode c.maxLatencyMs),
  ("avg_latency_ms", encode c.avgLatencyMs),
  ("percentile_95_latency_ms", encode c.percentile95LatencyMs)]

/-- Fields that are missing have their defaults. -/
def ofJson? (j : Json) : Option CpuPerformance := do
  let r ← Record.ofJson? names j
  let d : CpuPerformance := {}
  return { benchmark := ← r.defaulted "benchmark" d.benchmark
           cpuSpeed := ← r.defaulted "cpu_speed" d.cpuSpeed
           threads := ← r.defaulted "threads" d.threads
           events := ← r.defaulted "events" d.events
           totalTime := ← r.defaulted "total_time" d.totalTime
           minLatencyMs := ← r.defaulted "min_latency_ms" d.minLatencyMs
           maxLatencyMs := ← r.defaulted "max_latency_ms" d.maxLatencyMs
           avgLatencyMs := ← r.defaulted "avg_latency_ms" d.avgLatencyMs
           percentile95LatencyMs := ← r.defaulted "percentile_95_latency_ms" d.percentile95LatencyMs }

end CpuPerformance

structure NetworkTcpPerformance where
  connectionsNum : UInt32 := 0
  throughputInGbps : Binary64 := .zero
  latencyUs : Binary64 := .zero
  bufferSize : Binary64 := .zero
  txPackets : Binary64 := .zero
  rxPackets : Binary64 := .zero
  pktsInterrupts : Binary64 := .zero
  numberOfReceivers : UInt32 := 1
  numberOfSenders : UInt32 := 1
  senderCyclesPerByte : Binary64 := .zero
  connectionsCreatedTime : UInt64 := 0
  retransSegments : UInt64 := 0
  receiverCyclesRerByte : Binary64 := .zero
  bufferSizeBytes : Binary64 := .zero
  txThroughputInGbps : Binary64 := .zero
  rxThroughputInGbps : Binary64 := .zero
  retransmittedSegments : Binary64 := .zero
  congestionWindowsizeKb : Binary64 := .zero
  deriving DecidableEq

namespace NetworkTcpPerformance

/-- The names of the fields on the wire, in order. -/
def names : List String := [
  "connections_num", "throughput_in_gbps", "latency_us", "buffer_size", "tx_packets", "rx_packets",
  "pkts_interrupts", "number_of_receivers", "number_of_senders", "sender_cycles_per_byte",
  "connections_created_time", "retrans_segments", "receiver_cycles_rer_byte", "buffer_size_bytes",
  "tx_throughput_in_gbps", "rx_throughput_in_gbps", "retransmitted_segments",
  "congestion_windowsize_kb"]

def members (n : NetworkTcpPerformance) : List (String × Json) := [
  ("connections_num", encode n.connectionsNum), ("throughput_in_gbps", encode n.throughputInGbps),
  ("latency_us", encode n.latencyUs), ("buffer_size", encode n.bufferSize),
  ("tx_packets", encode n.txPackets), ("rx_packets", encode n.rxPackets),
  ("pkts_interrupts", encode n.pktsInterrupts),
  ("number_of_receivers", encode n.numberOfReceivers),
  ("number_of_senders", encode n.numberOfSenders),
  ("sender_cycles_per_byte", encode n.senderCyclesPerByte),
  ("connections_created_time", encode n.connectionsCreatedTime),
  ("retrans_segments", encode n.retransSegments),
  ("receiver_cycles_rer_byte", encode n.receiverCyclesRerByte),
  ("buffer_size_bytes", encode n.bufferSizeBytes),
  ("tx_throughput_in_gbps", encode n.txThroughputInGbps),
  ("rx_throughput_in_gbps", encode n.rxThroughputInGbps),
  ("retransmitted_segments", encode n.retransmittedSegments),
  ("congestion_windowsize_kb", encode n.congestionWindowsizeKb)]

/-- Fields that are missing have their defaults. -/
def ofJson? (j : Json) : Option NetworkTcpPerformance := do
  let r ← Record.ofJson? names j
  let d : NetworkTcpPerformance := {}
  return { connectionsNum := ← r.defaulted "connections_num" d.connectionsNum
           throughputInGbps := ← r.defaulted "throughput_in_gbps" d.throughputInGbps
           latencyUs := ← r.defaulted "latency_us" d.latencyUs
           bufferSize := ← r.defaulted "buffer_size" d.bufferSize
           txPackets := ← r.defaulted "tx_packets" d.txPackets
           rxPackets := ← r.defaulted "rx_packets" d.rxPackets
           pktsInterrupts := ← r.defaulted "pkts_interrupts" d.pktsInterrupts
           numberOfReceivers := ← r.defaulted "number_of_receivers" d.numberOfReceivers
           numberOfSenders := ← r.defaulted "number_of_senders" d.numberOfSenders
           senderCyclesPerByte := ← r.defaulted "sender_cycles_per_byte" d.senderCyclesPerByte
           connectionsCreatedTime := ← r.defaulted "connections_created_time" d.connectionsCreatedTime
           retransSegments := ← r.defaulted "retrans_segments" d.retransSegments
           receiverCyclesRerByte := ← r.defaulted "receiver_cycles_rer_byte" d.receiverCyclesRerByte
           bufferSizeBytes := ← r.defaulted "buffer_size_bytes" d.bufferSizeBytes
           txThroughputInGbps := ← r.defaulted "tx_throughput_in_gbps" d.txThroughputInGbps
           rxThroughputInGbps := ← r.defaulted "rx_throughput_in_gbps" d.rxThroughputInGbps
           retransmittedSegments := ← r.defaulted "retransmitted_segments" d.retransmittedSegments
           congestionWindowsizeKb := ← r.defaulted "congestion_windowsize_kb" d.congestionWindowsizeKb }

end NetworkTcpPerformance

structure NetworkUdpPerformance where
  connectionsNum : UInt32 := 0
  numberOfReceivers : UInt32 := 1
  numberOfSenders : UInt32 := 1
  connectionsCreatedTime : UInt64 := 0
  receiverCyclesRerByte : Binary64 := .zero
  sendBufferSize : Binary64 := .zero
  txThroughputInGbps : Binary64 := .zero
  rxThroughputInGbps : Binary64 := .zero
  dataLoss : Binary64 := .zero
  packetSizeKbytes : Binary64 := .zero
  deriving DecidableEq

namespace NetworkUdpPerformance

/-- The names of the fields on the wire, in order. -/
def names : List String := [
  "connections_num", "number_of_receivers", "number_of_senders", "connections_created_time",
  "receiver_cycles_rer_byte", "send_buffer_size", "tx_throughput_in_gbps", "rx_throughput_in_gbps",
  "data_loss", "packet_size_kbytes"]

def members (n : NetworkUdpPerformance) : List (String × Json) := [
  ("connections_num", encode n.connectionsNum),
  ("number_of_receivers", encode n.numberOfReceivers),
  ("number_of_senders", encode n.numberOfSenders),
  ("connections_created_time", encode n.connectionsCreatedTime),
  ("receiver_cycles_rer_byte", encode n.receiverCyclesRerByte),
  ("send_buffer_size", encode n.sendBufferSize),
  ("tx_throughput_in_gbps", encode n.txThroughputInGbps),
  ("rx_throughput_in_gbps", encode n.rxThroughputInGbps), ("data_loss", encode n.dataLoss),
  ("packet_size_kbytes", encode n.packetSizeKbytes)]

/-- Fields that are missing have their defaults. -/
def ofJson? (j : Json) : Option NetworkUdpPerformance := do
  let r ← Record.ofJson? names j
  let d : NetworkUdpPerformance := {}
  return { connectionsNum := ← r.defaulted "connections_num" d.connectionsNum
           numberOfReceivers := ← r.defaulted "number_of_receivers" d.numberOfReceivers
           numberOfSenders := ← r.defaulted "number_of_senders" d.numberOfSenders
           connectionsCreatedTime := ← r.defaulted "connections_created_time" d.connectionsCreatedTime
           receiverCyclesRerByte := ← r.defaulted "receiver_cycles_rer_byte" d.receiverCyclesRerByte
           sendBufferSize := ← r.defaulted "send_buffer_size" d.sendBufferSize
           txThroughputInGbps := ← r.defaulted "tx_throughput_in_gbps" d.txThroughputInGbps
           rxThroughputInGbps := ← r.defaulted "rx_throughput_in_gbps" d.rxThroughputInGbps
           dataLoss := ← r.defaulted "data_loss" d.dataLoss
           packetSizeKbytes := ← r.defaulted "packet_size_kbytes" d.packetSizeKbytes }

end NetworkUdpPerformance

structure NetworkLatencyPerformance where
  maxLatencyUs : Binary64 := .zero
  averageLatencyUs : Binary64 := .zero
  minLatencyUs : Binary64 := .zero
  latency95PercentileUs : Binary64 := .zero
  latency99PercentileUs : Binary64 := .zero
  intervalUs : UInt64 := 0
  frequency : UInt64 := 0
  deriving DecidableEq

namespace NetworkLatencyPerformance

/-- The names of the fields on the wire, in order. -/
def names : List String := [
  "max_latency_us", "average_latency_us", "min_latency_us", "latency95_percentile_us",
  "latency99_percentile_us", "interval_us", "frequency"]

def members (n : NetworkLatencyPerformance) : List (String × Json) := [
  ("max_latency_us", encode n.maxLatencyUs), ("average_latency_us", encode n.averageLatencyUs),
  ("min_latency_us", encode n.minLatencyUs),
  ("latency95_percentile_us", encode n.latency95PercentileUs),
  ("latency99_percentile_us", encode n.latency99PercentileUs),
  ("interval_us", encode n.intervalUs), ("frequency", encode n.frequency)]

/-- Fields that are missing have their defaults. -/
def ofJson? (j : Json) : Option NetworkLatencyPerformance := do
  let r ← Record.ofJson? names j
  let d : NetworkLatencyPerformance := {}
  return { maxLatencyUs := ← r.defaulted "max_latency_us" d.maxLatencyUs
           averageLatencyUs := ← r.defaulted "average_latency_us" d.averageLatencyUs
           minLatencyUs := ← r.defaulted "min_latency_us" d.minLatencyUs
           latency95PercentileUs := ← r.defaulted "latency95_percentile_us" d.latency95PercentileUs
           latency99PercentileUs := ← r.defaulted "latency99_percentile_us" d.latency99PercentileUs
           intervalUs := ← r.defaulted "interval_us" d.intervalUs
           frequency := ← r.defaulted "frequency" d.frequency }

end NetworkLatencyPerformance

/-- The measured values of one kind of test. -/
inductive PerfDetail where
  | disk (values : DiskPerformance)
  | cpu (values : CpuPerformance)
  | networkTcp (values : NetworkTcpPerformance)
  | networkUdp (values : NetworkUdpPerformance)
  | networkLatency (values : NetworkLatencyPerformance)
  deriving DecidableEq

namespace PerfDetail

/-- The kinds of tests, in order. -/
def kinds : List String := ["disk", "cpu", "network_tcp", "network_udp", "network_latency"]

def kind : PerfDetail → String
  | disk _ => "disk"
  | cpu _ => "cpu"
  | networkTcp _ => "network_tcp"
  | networkUdp _ => "network_udp"
  | networkLatency _ => "network_latency"

/-- The values as members of a record, without their kind. -/
def values : PerfDetail → List (String × Json)
  | disk v => v.members
  | cpu v => v.members
  | networkTcp v => v.members
  | networkUdp v => v.members
  | networkLatency v => v.members

/-- The values and their kind as members of a record. -/
def members (d : PerfDetail) : List (String × Json) := ("perf_kind", .string d.kind) :: d.values

/-- The values of a kind. -/
def ofKind? (kind : String) (content : Json) : Option PerfDetail :=
  match kind with
  | "disk" => (DiskPerformance.ofJson? content).map disk
  | "cpu" => (CpuPerformance.ofJson? content).map cpu
  | "network_tcp" => (NetworkTcpPerformance.ofJson? content).map networkTcp
  | "network_udp" => (NetworkUdpPerformance.ofJson? content).map networkUdp
  | "network_latency" => (NetworkLatencyPerformance.ofJson? content).map networkLatency
  | _ => none

/-- Values that share a record with other members; there the kind may also be given by its place
among the kinds. -/
def ofShared? (members : List (String × Json)) : Option PerfDetail := do
  let (kind, content) ← (Json.object members).tagged? "perf_kind"
  match kind with
  | .string kind => ofKind? kind content
  | .integer place => if 0 ≤ place then ofKind? (← kinds[place.toNat]?) content else none
  | _ => none

instance : Wire PerfDetail where
  encode d := .object d.members
  decode j := do
    let (kind, content) ← j.tagged? "perf_kind"
    match kind with
    | .string kind => ofKind? kind content
    | _ => none

end PerfDetail

end Testbed
