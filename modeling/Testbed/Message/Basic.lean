import Testbed.Message.Performance
import Testbed.Result.Status
import Testbed.Time.Text

/-!
# Messages

What is sent to notification sinks. The names of the fields are wire identifiers that reporting
tools consume, and every field is written, also an empty one. A message is tagged by `type`.
-/
namespace Testbed

/-- Free-form facts, by name. -/
abbrev Facts := Dict String String

inductive TestRunStatus where
  | initializing | running | success | failed
  deriving DecidableEq, Repr

def TestRunStatus.name : TestRunStatus → String
  | initializing => "INITIALIZING"
  | running => "RUNNING"
  | success => "SUCCESS"
  | failed => "FAILED"

instance : Wire TestRunStatus :=
  .ofNames [.initializing, .running, .success, .failed] TestRunStatus.name

/-- The state of a whole run. -/
structure TestRunMessage where
  time : Timestamp
  elapsed : Binary64
  status : TestRunStatus
  runbookName : String
  testProject : String
  testPass : String
  tags : Option (List String)
  runName : String
  message : String
  deriving DecidableEq

namespace TestRunMessage

/-- The names of the fields on the wire, in order. -/
def names : List String := [
  "time", "elapsed", "status", "runbook_name", "test_project", "test_pass", "tags", "run_name",
  "message"]

def members (m : TestRunMessage) : List (String × Json) := [
  ("time", encode m.time), ("elapsed", encode m.elapsed), ("status", encode m.status),
  ("runbook_name", encode m.runbookName), ("test_project", encode m.testProject),
  ("test_pass", encode m.testPass), ("tags", encode m.tags), ("run_name", encode m.runName),
  ("message", encode m.message)]

def ofJson? (j : Json) : Option TestRunMessage := do
  let r ← Record.ofJson? names j
  return { time := ← r.required "time"
           elapsed := ← r.required "elapsed"
           status := ← r.required "status"
           runbookName := ← r.required "runbook_name"
           testProject := ← r.required "test_project"
           testPass := ← r.required "test_pass"
           tags := ← r.nullable "tags"
           runName := ← r.required "run_name"
           message := ← r.required "message" }

/-- A message about a run at a moment, its other fields empty. -/
def new (now : Timestamp) (runName : String) (status : TestRunStatus) : TestRunMessage where
  time := now
  elapsed := .zero
  status := status
  runbookName := ""
  testProject := ""
  testPass := ""
  tags := none
  runName := runName
  message := ""

instance : Wire TestRunMessage where
  encode m := .object m.members
  decode := ofJson?

end TestRunMessage

/-- The state of one test result. -/
structure TestResultMessage where
  time : Timestamp
  elapsed : Binary64
  id : String
  name : String
  status : TestStatus
  message : String
  stacktrace : Option String
  information : Facts
  fullName : String
  suiteName : String
  suiteFullName : String
  logFile : String
  deriving DecidableEq

namespace TestResultMessage

/-- The names of the fields on the wire, in order. -/
def names : List String := [
  "time", "elapsed", "id_", "name", "status", "message", "stacktrace", "information", "full_name",
  "suite_name", "suite_full_name", "log_file"]

def members (m : TestResultMessage) : List (String × Json) := [
  ("time", encode m.time), ("elapsed", encode m.elapsed), ("id_", encode m.id),
  ("name", encode m.name), ("status", encode m.status), ("message", encode m.message),
  ("stacktrace", encode m.stacktrace), ("information", encode m.information),
  ("full_name", encode m.fullName), ("suite_name", encode m.suiteName),
  ("suite_full_name", encode m.suiteFullName), ("log_file", encode m.logFile)]

def ofJson? (j : Json) : Option TestResultMessage := do
  let r ← Record.ofJson? names j
  return { time := ← r.required "time"
           elapsed := ← r.required "elapsed"
           id := ← r.required "id_"
           name := ← r.required "name"
           status := ← r.required "status"
           message := ← r.required "message"
           stacktrace := ← r.nullable "stacktrace"
           information := ← r.required "information"
           fullName := ← r.required "full_name"
           suiteName := ← r.required "suite_name"
           suiteFullName := ← r.required "suite_full_name"
           logFile := ← r.required "log_file" }

instance : Wire TestResultMessage where
  encode m := .object m.members
  decode := ofJson?

end TestResultMessage

/-- A result that is reported from inside a larger case. -/
structure SubTestMessage where
  time : Timestamp
  elapsed : Binary64
  id : String
  name : String
  status : TestStatus
  message : String
  stacktrace : Option String
  information : Facts
  hardwarePlatform : String
  parentTest : String
  deriving DecidableEq

namespace SubTestMessage

/-- The names of the fields on the wire, in order. -/
def names : List String := [
  "time", "elapsed", "id_", "name", "status", "message", "stacktrace", "information",
  "hardware_platform", "parent_test"]

def members (m : SubTestMessage) : List (String × Json) := [
  ("time", encode m.time), ("elapsed", encode m.elapsed), ("id_", encode m.id),
  ("name", encode m.name), ("status", encode m.status), ("message", encode m.message),
  ("stacktrace", encode m.stacktrace), ("information", encode m.information),
  ("hardware_platform", encode m.hardwarePlatform), ("parent_test", encode m.parentTest)]

def ofJson? (j : Json) : Option SubTestMessage := do
  let r ← Record.ofJson? names j
  return { time := ← r.required "time"
           elapsed := ← r.required "elapsed"
           id := ← r.required "id_"
           name := ← r.required "name"
           status := ← r.required "status"
           message := ← r.required "message"
           stacktrace := ← r.nullable "stacktrace"
           information := ← r.required "information"
           hardwarePlatform := ← r.required "hardware_platform"
           parentTest := ← r.required "parent_test" }

/-- A message about a sub-result at a moment, its other fields empty. -/
def new (now : Timestamp) (id name : String) (status : TestStatus) : SubTestMessage where
  time := now
  elapsed := .zero
  id := id
  name := name
  status := status
  message := ""
  stacktrace := none
  information := ∅
  hardwarePlatform := ""
  parentTest := ""

instance : Wire SubTestMessage where
  encode m := .object m.members
  decode := ofJson?

end SubTestMessage

/-- How long the stages of a boot took. -/
structure ProvisionBootTimeMessage where
  time : Timestamp := .epoch
  elapsed : Binary64 := .zero
  bootTimes : UInt32 := 0
  provisionTime : Binary64 := .zero
  kernelBootTime : Binary64 := .zero
  initrdBootTime : Binary64 := .zero
  userspaceBootTime : Binary64 := .zero
  firmwareBootTime : Binary64 := .zero
  loaderBootTime : Binary64 := .zero
  information : Facts := ∅
  deriving DecidableEq

namespace ProvisionBootTimeMessage

/-- The names of the fields on the wire, in order. -/
def names : List String := [
  "time", "elapsed", "boot_times", "provision_time", "kernel_boot_time", "initrd_boot_time",
  "userspace_boot_time", "firmware_boot_time", "loader_boot_time", "information"]

def members (p : ProvisionBootTimeMessage) : List (String × Json) := [
  ("time", encode p.time), ("elapsed", encode p.elapsed), ("boot_times", encode p.bootTimes),
  ("provision_time", encode p.provisionTime), ("kernel_boot_time", encode p.kernelBootTime),
  ("initrd_boot_time", encode p.initrdBootTime),
  ("userspace_boot_time", encode p.userspaceBootTime),
  ("firmware_boot_time", encode p.firmwareBootTime), ("loader_boot_time", encode p.loaderBootTime),
  ("information", encode p.information)]

/-- Fields that are missing have their defaults. -/
def ofJson? (j : Json) : Option ProvisionBootTimeMessage := do
  let r ← Record.ofJson? names j
  let d : ProvisionBootTimeMessage := {}
  return { time := ← r.defaulted "time" d.time
           elapsed := ← r.defaulted "elapsed" d.elapsed
           bootTimes := ← r.defaulted "boot_times" d.bootTimes
           provisionTime := ← r.defaulted "provision_time" d.provisionTime
           kernelBootTime := ← r.defaulted "kernel_boot_time" d.kernelBootTime
           initrdBootTime := ← r.defaulted "initrd_boot_time" d.initrdBootTime
           userspaceBootTime := ← r.defaulted "userspace_boot_time" d.userspaceBootTime
           firmwareBootTime := ← r.defaulted "firmware_boot_time" d.firmwareBootTime
           loaderBootTime := ← r.defaulted "loader_boot_time" d.loaderBootTime
           information := ← r.defaulted "information" d.information }

instance : Wire ProvisionBootTimeMessage where
  encode m := .object m.members
  decode := ofJson?

end ProvisionBootTimeMessage

/-- How a kernel build ended. -/
structure KernelBuildMessage where
  time : Timestamp := .epoch
  elapsed : Binary64 := .zero
  oldKernelVersion : String := ""
  newKernelVersion : String := ""
  isSuccess : Bool := false
  errorMessage : String := ""
  deriving DecidableEq

namespace KernelBuildMessage

/-- The names of the fields on the wire, in order. -/
def names : List String := [
  "time", "elapsed", "old_kernel_version", "new_kernel_version", "is_success", "error_message"]

def members (k : KernelBuildMessage) : List (String × Json) := [
  ("time", encode k.time), ("elapsed", encode k.elapsed),
  ("old_kernel_version", encode k.oldKernelVersion),
  ("new_kernel_version", encode k.newKernelVersion), ("is_success", encode k.isSuccess),
  ("error_message", encode k.errorMessage)]

/-- Fields that are missing have their defaults. -/
def ofJson? (j : Json) : Option KernelBuildMessage := do
  let r ← Record.ofJson? names j
  let d : KernelBuildMessage := {}
  return { time := ← r.defaulted "time" d.time
           elapsed := ← r.defaulted "elapsed" d.elapsed
           oldKernelVersion := ← r.defaulted "old_kernel_version" d.oldKernelVersion
           newKernelVersion := ← r.defaulted "new_kernel_version" d.newKernelVersion
           isSuccess := ← r.defaulted "is_success" d.isSuccess
           errorMessage := ← r.defaulted "error_message" d.errorMessage }

instance : Wire KernelBuildMessage where
  encode m := .object m.members
  decode := ofJson?

end KernelBuildMessage

/-- A measurement: a header about the environment and the test, and the measured values. -/
structure PerfMessage where
  time : Timestamp
  elapsed : Binary64
  tool : String
  testCaseName : String
  platform : String
  location : String
  hostVersion : String
  guestOsType : String
  distroVersion : String
  vmsize : String
  kernelVersion : String
  lisVersion : String
  ipVersion : String
  protocolType : String
  dataPath : String
  testDate : Timestamp
  role : String
  testResultId : String
  detail : PerfDetail
  deriving DecidableEq

namespace PerfMessage

/-- The names of the header's fields on the wire, in order. -/
def headerNames : List String := [
  "time", "elapsed", "tool", "test_case_name", "platform", "location", "host_version",
  "guest_os_type", "distro_version", "vmsize", "kernel_version", "lis_version", "ip_version",
  "protocol_type", "data_path", "test_date", "role", "test_result_id"]

def header (m : PerfMessage) : List (String × Json) := [
  ("time", encode m.time), ("elapsed", encode m.elapsed), ("tool", encode m.tool),
  ("test_case_name", encode m.testCaseName), ("platform", encode m.platform),
  ("location", encode m.location), ("host_version", encode m.hostVersion),
  ("guest_os_type", encode m.guestOsType), ("distro_version", encode m.distroVersion),
  ("vmsize", encode m.vmsize), ("kernel_version", encode m.kernelVersion),
  ("lis_version", encode m.lisVersion), ("ip_version", encode m.ipVersion),
  ("protocol_type", encode m.protocolType), ("data_path", encode m.dataPath),
  ("test_date", encode m.testDate), ("role", encode m.role),
  ("test_result_id", encode m.testResultId)]

def members (m : PerfMessage) : List (String × Json) := m.header ++ m.detail.members

/-- The header and the values share one object; what is not of the header belongs to the values. -/
def ofJson? : Json → Option PerfMessage
  | .object members => do
    let r ← Record.ofMembers? headerNames members
    let detail ← PerfDetail.ofShared? (members.filter (fun member => member.1 ∉ headerNames))
    return { time := ← r.required "time"
             elapsed := ← r.required "elapsed"
             tool := ← r.required "tool"
             testCaseName := ← r.required "test_case_name"
             platform := ← r.required "platform"
             location := ← r.required "location"
             hostVersion := ← r.required "host_version"
             guestOsType := ← r.required "guest_os_type"
             distroVersion := ← r.required "distro_version"
             vmsize := ← r.required "vmsize"
             kernelVersion := ← r.required "kernel_version"
             lisVersion := ← r.required "lis_version"
             ipVersion := ← r.required "ip_version"
             protocolType := ← r.required "protocol_type"
             dataPath := ← r.required "data_path"
             testDate := ← r.required "test_date"
             role := ← r.required "role"
             testResultId := ← r.required "test_result_id"
             detail }
  | _ => none

/-- A message with the given values at a moment, the header at its defaults. -/
def new (now : Timestamp) (detail : PerfDetail) : PerfMessage where
  time := now
  elapsed := .zero
  tool := ""
  testCaseName := ""
  platform := ""
  location := ""
  hostVersion := ""
  guestOsType := "Linux"
  distroVersion := ""
  vmsize := ""
  kernelVersion := ""
  lisVersion := ""
  ipVersion := "IPv4"
  protocolType := "TCP"
  dataPath := ""
  testDate := now
  role := ""
  testResultId := ""
  detail := detail

instance : Wire PerfMessage where
  encode m := .object m.members
  decode := ofJson?

end PerfMessage

inductive Message where
  | testRun (message : TestRunMessage)
  | testResult (message : TestResultMessage)
  | subTestResult (message : SubTestMessage)
  | performance (message : PerfMessage)
  | provisionBootTime (message : ProvisionBootTimeMessage)
  | kernelBuild (message : KernelBuildMessage)
  deriving DecidableEq

namespace Message

def typeName : Message → String
  | testRun _ => "TestRun"
  | testResult _ => "TestResult"
  | subTestResult _ => "SubTestResult"
  | performance _ => "Performance"
  | provisionBootTime _ => "ProvisionBootTime"
  | kernelBuild _ => "KernelBuild"

/-- The fields of a message, without its type. -/
def members : Message → List (String × Json)
  | testRun m => m.members
  | testResult m => m.members
  | subTestResult m => m.members
  | performance m => m.members
  | provisionBootTime m => m.members
  | kernelBuild m => m.members

/-- The message of a type. -/
def ofType? (type : String) (content : Json) : Option Message :=
  match type with
  | "TestRun" => (TestRunMessage.ofJson? content).map testRun
  | "TestResult" => (TestResultMessage.ofJson? content).map testResult
  | "SubTestResult" => (SubTestMessage.ofJson? content).map subTestResult
  | "Performance" => (PerfMessage.ofJson? content).map performance
  | "ProvisionBootTime" => (ProvisionBootTimeMessage.ofJson? content).map provisionBootTime
  | "KernelBuild" => (KernelBuildMessage.ofJson? content).map kernelBuild
  | _ => none

instance : Wire Message where
  encode m := .object (("type", .string m.typeName) :: m.members)
  decode j := do
    let (type, content) ← j.tagged? "type"
    match type with
    | .string type => ofType? type content
    | _ => none

end Message

end Testbed
