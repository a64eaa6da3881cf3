import Testbed.Message.Basic
import Testbed.Proofs.Message.Performance

/-!
# Messages are read back from their wire forms

The type, the kind of a measurement, the header and the values all share one flat object without a
name that clashes, so every message is decoded from its own encoding if its moments are of the
calendar and its doubles finite. That is so for every message that is decoded from a JSON value.
-/
namespace Testbed

open Wire Record

theorem Timestamp.decode_encode {t : Timestamp} (valid : t.Valid) : decode (encode t) = some t := by
  change read (String.ofList (write t)).toList = some t
  rw [String.toList_ofList]
  exact Timestamp.read_write valid

instance : Readable Timestamp := ⟨fun _ => rfl⟩

instance : Lossless TestRunStatus := ⟨fun a => by cases a <;> rfl⟩
instance : Readable TestRunStatus := ⟨fun _ => rfl⟩

instance : Lossless TestStatus := ⟨fun a => by cases a <;> rfl⟩
instance : Readable TestStatus := ⟨fun _ => rfl⟩

section Fields

variable {r : Record} (fields : ∀ field ∈ r.fields, field.2.Proper)

include fields

theorem required_valid (name : String) : Gives Timestamp.Valid (r.required name) :=
  required_gives (fun j _ => Timestamp.decode_gives j) fields

theorem defaulted_valid (name : String) : Gives Timestamp.Valid (r.defaulted name .epoch) :=
  defaulted_gives (fun j _ => Timestamp.decode_gives j) fields (by constructor <;> decide)

theorem required_finite (name : String) :
    Gives (fun x : Binary64 => x.isFinite = true) (r.required name) :=
  required_gives Binary64.decode_gives fields

end Fields

namespace TestRunMessage

theorem ofJson?_members {m : TestRunMessage} (valid : m.time.Valid)
    (finite : m.elapsed.isFinite = true) : ofJson? (.object m.members) = some m := by
  have isRecord : Record.ofJson? names (.object m.members) = some ⟨false, m.members⟩ :=
    ofJson?_of_names rfl (by decide)
  simp only [ofJson?, isRecord]
  simp [-Option.bind_eq_bind, some_bind, members, required, nullable_eq, find?_cons,
    Timestamp.decode_encode valid, Binary64.decode_encode finite]

theorem ofJson?_gives {j : Json} (proper : j.Proper) :
    Gives (fun m => m.time.Valid ∧ m.elapsed.isFinite = true) (ofJson? j) := by
  refine .bind (Record.ofJson?_gives names proper) fun r fields => ?_
  refine .bind (required_valid fields _) fun _ time => ?_
  refine .bind (required_finite fields _) fun _ elapsed => ?_
  refine .after fun status => .after fun runbookName => .after fun testProject => ?_
  refine .after fun testPass => .after fun tags => .after fun runName => .after fun message => ?_
  exact .some ⟨time, elapsed⟩

theorem readable_members (m : TestRunMessage) :
    ∀ member ∈ m.members, member.2.readable = true := by
  simp [members]

end TestRunMessage

namespace TestResultMessage

theorem ofJson?_members {m : TestResultMessage} (valid : m.time.Valid)
    (finite : m.elapsed.isFinite = true) : ofJson? (.object m.members) = some m := by
  have isRecord : Record.ofJson? names (.object m.members) = some ⟨false, m.members⟩ :=
    ofJson?_of_names rfl (by decide)
  simp only [ofJson?, isRecord]
  simp [-Option.bind_eq_bind, some_bind, members, required, nullable_eq, find?_cons,
    Timestamp.decode_encode valid, Binary64.decode_encode finite]

theorem ofJson?_gives {j : Json} (proper : j.Proper) :
    Gives (fun m => m.time.Valid ∧ m.elapsed.isFinite = true) (ofJson? j) := by
  refine .bind (Record.ofJson?_gives names proper) fun r fields => ?_
  refine .bind (required_valid fields _) fun _ time => ?_
  refine .bind (required_finite fields _) fun _ elapsed => ?_
  refine .after fun id => .after fun name => .after fun status => .after fun message => ?_
  refine .after fun stacktrace => .after fun information => .after fun fullName => ?_
  refine .after fun suiteName => .after fun suiteFullName => .after fun logFile => ?_
  exact .some ⟨time, elapsed⟩

theorem readable_members (m : TestResultMessage) :
    ∀ member ∈ m.members, member.2.readable = true := by
  simp [members]

end TestResultMessage

namespace SubTestMessage

theorem ofJson?_members {m : SubTestMessage} (valid : m.time.Valid)
    (finite : m.elapsed.isFinite = true) : ofJson? (.object m.members) = some m := by
  have isRecord : Record.ofJson? names (.object m.members) = some ⟨false, m.members⟩ :=
    ofJson?_of_names rfl (by decide)
  simp only [ofJson?, isRecord]
  simp [-Option.bind_eq_bind, some_bind, members, required, nullable_eq, find?_cons,
    Timestamp.decode_encode valid, Binary64.decode_encode finite]

theorem ofJson?_gives {j : Json} (proper : j.Proper) :
    Gives (fun m => m.time.Valid ∧ m.elapsed.isFinite = true) (ofJson? j) := by
  refine .bind (Record.ofJson?_gives names proper) fun r fields => ?_
  refine .bind (required_valid fields _) fun _ time => ?_
  refine .bind (required_finite fields _) fun _ elapsed => ?_
  refine .after fun id => .after fun name => .after fun status => .after fun message => ?_
  refine .after fun stacktrace => .after fun information => ?_
  refine .after fun hardwarePlatform => .after fun parentTest => ?_
  exact .some ⟨time, elapsed⟩

theorem readable_members (m : SubTestMessage) :
    ∀ member ∈ m.members, member.2.readable = true := by
  simp [members]

end SubTestMessage

namespace ProvisionBootTimeMessage

def floats (p : ProvisionBootTimeMessage) : List Binary64 := [
  p.elapsed, p.provisionTime, p.kernelBootTime, p.initrdBootTime, p.userspaceBootTime,
  p.firmwareBootTime, p.loaderBootTime]

theorem ofJson?_members {p : ProvisionBootTimeMessage} (valid : p.time.Valid)
    (finite : AllFinite p.floats) : ofJson? (.object p.members) = some p := by
  have isRecord : Record.ofJson? names (.object p.members) = some ⟨false, p.members⟩ :=
    ofJson?_of_names rfl (by decide)
  simp only [floats, allFinite_cons] at finite
  simp only [ofJson?, isRecord]
  simp [-Option.bind_eq_bind, some_bind, members, defaulted_eq, find?_cons,
    Timestamp.decode_encode valid, Binary64.decode_encode, finite]

theorem ofJson?_gives {j : Json} (proper : j.Proper) :
    Gives (fun p => p.time.Valid ∧ AllFinite p.floats) (ofJson? j) := by
  refine .bind (Record.ofJson?_gives names proper) fun r fields => ?_
  have finite := defaulted_finite fields
  refine .bind (defaulted_valid fields _) fun _ time => ?_
  refine .bind (finite _) fun _ elapsed => .after fun bootTimes => ?_
  refine .bind (finite _) fun _ provisionTime => .bind (finite _) fun _ kernelBootTime => ?_
  refine .bind (finite _) fun _ initrdBootTime => .bind (finite _) fun _ userspaceBootTime => ?_
  refine .bind (finite _) fun _ firmwareBootTime => .bind (finite _) fun _ loaderBootTime => ?_
  exact .after fun information => .some ⟨time, by simp [floats, AllFinite, *]⟩

theorem readable_members (p : ProvisionBootTimeMessage) :
    ∀ member ∈ p.members, member.2.readable = true := by
  simp [members]

end ProvisionBootTimeMessage

namespace KernelBuildMessage

theorem ofJson?_members {k : KernelBuildMessage} (valid : k.time.Valid)
    (finite : k.elapsed.isFinite = true) : ofJson? (.object k.members) = some k := by
  have isRecord : Record.ofJson? names (.object k.members) = some ⟨false, k.members⟩ :=
    ofJson?_of_names rfl (by decide)
  simp only [ofJson?, isRecord]
  simp [-Option.bind_eq_bind, some_bind, members, defaulted_eq, find?_cons,
    Timestamp.decode_encode valid, Binary64.decode_encode finite]

theorem ofJson?_gives {j : Json} (proper : j.Proper) :
    Gives (fun k => k.time.Valid ∧ k.elapsed.isFinite = true) (ofJson? j) := by
  refine .bind (Record.ofJson?_gives names proper) fun r fields => ?_
  refine .bind (defaulted_valid fields _) fun _ time => ?_
  refine .bind (defaulted_finite fields _) fun _ elapsed => ?_
  refine .after fun oldKernelVersion => .after fun newKernelVersion => ?_
  refine .after fun isSuccess => .after fun errorMessage => ?_
  exact .some ⟨time, elapsed⟩

theorem readable_members (k : KernelBuildMessage) :
    ∀ member ∈ k.members, member.2.readable = true := by
  simp [members]

end KernelBuildMessage

namespace PerfMessage

/-- No value of a measurement has the name of a field of the header. -/
theorem detail_apart (d : PerfDetail) : ∀ member ∈ d.members, member.1 ∉ headerNames := by
  have apart : ∀ name ∈ "perf_kind" :: d.names, name ∉ headerNames := by
    cases d <;> exact of_decide_eq_true rfl
  intro member listed
  refine apart member.1 ?_
  rw [← d.names_values]
  exact List.mem_map_of_mem (f := Prod.fst) listed

theorem names_header (m : PerfMessage) : m.header.map (·.1) = headerNames := rfl

/-- What does not belong to the header are the values. -/
theorem filter_members (m : PerfMessage) :
    m.members.filter (fun member => member.1 ∉ headerNames) = m.detail.members := by
  have header : m.header.filter (fun member => member.1 ∉ headerNames) = [] := by
    refine List.filter_eq_nil_iff.2 (fun member listed => ?_)
    have field : member.1 ∈ headerNames := m.names_header ▸ List.mem_map_of_mem listed
    simpa using field
  have detail : m.detail.members.filter (fun member => member.1 ∉ headerNames) =
      m.detail.members :=
    List.filter_eq_self.2 (fun member listed => by simpa using detail_apart _ member listed)
  rw [members, List.filter_append, header, detail]
  rfl

def floats (m : PerfMessage) : List Binary64 := m.elapsed :: m.detail.floats

theorem ofJson?_members {m : PerfMessage} (time : m.time.Valid) (testDate : m.testDate.Valid)
    (finite : AllFinite m.floats) : ofJson? (.object m.members) = some m := by
  obtain ⟨elapsed, values⟩ := allFinite_cons.1 finite
  have isRecord : ofMembers? headerNames m.members = some ⟨false, m.members⟩ :=
    ofMembers?_append m.names_header (by decide) (detail_apart m.detail)
  have shared := PerfDetail.ofShared?_members values
  rw [← m.filter_members] at shared
  simp only [ofJson?, isRecord, shared]
  simp [-Option.bind_eq_bind, some_bind, members, header, required, find?_cons,
    Timestamp.decode_encode, time, testDate, Binary64.decode_encode, elapsed]

theorem ofJson?_gives {j : Json} (proper : j.Proper) :
    Gives (fun m => m.time.Valid ∧ m.testDate.Valid ∧ AllFinite m.floats) (ofJson? j) := by
  cases proper with
  | @object members all =>
    refine .bind (Record.ofMembers?_gives headerNames all) fun r fields => ?_
    have others : ∀ member ∈ members.filter (fun member => member.1 ∉ headerNames),
        member.2.Proper := fun member listed => all member (List.mem_filter.1 listed).1
    refine .bind (PerfDetail.ofShared?_finite others) fun detail values => ?_
    refine .bind (required_valid fields _) fun _ time => ?_
    refine .bind (required_finite fields _) fun _ elapsed => ?_
    refine .after fun tool => .after fun testCaseName => .after fun platform => ?_
    refine .after fun location => .after fun hostVersion => .after fun guestOsType => ?_
    refine .after fun distroVersion => .after fun vmsize => .after fun kernelVersion => ?_
    refine .after fun lisVersion => .after fun ipVersion => .after fun protocolType => ?_
    refine .after fun dataPath => .bind (required_valid fields _) fun _ testDate => ?_
    refine .after fun role => .after fun testResultId => .some ⟨time, testDate, ?_⟩
    exact allFinite_cons.2 ⟨elapsed, values⟩
  | null | bool _ | integer _ _ | float _ | string _ | array _ => exact .none

theorem readable_members (m : PerfMessage) : ∀ member ∈ m.members, member.2.readable = true := by
  have header : ∀ member ∈ m.header, member.2.readable = true := by simp [header]
  intro member listed
  rcases List.mem_append.1 listed with listed | listed
  · exact header member listed
  · exact m.detail.readable_members member listed

end PerfMessage

namespace Message

/-- The moments of a message. -/
def times : Message → List Timestamp
  | testRun m => [m.time]
  | testResult m => [m.time]
  | subTestResult m => [m.time]
  | performance m => [m.time, m.testDate]
  | provisionBootTime m => [m.time]
  | kernelBuild m => [m.time]

/-- The doubles of a message. -/
def floats : Message → List Binary64
  | testRun m => [m.elapsed]
  | testResult m => [m.elapsed]
  | subTestResult m => [m.elapsed]
  | performance m => m.floats
  | provisionBootTime m => m.floats
  | kernelBuild m => [m.elapsed]

theorem readable_members (m : Message) : ∀ member ∈ m.members, member.2.readable = true := by
  cases m with
  | testRun m => exact m.readable_members
  | testResult m => exact m.readable_members
  | subTestResult m => exact m.readable_members
  | performance m => exact m.readable_members
  | provisionBootTime m => exact m.readable_members
  | kernelBuild m => exact m.readable_members

/-- The type of a message has a name of its own among its fields. -/
theorem type_notMem (m : Message) : "type" ∉ m.members.map (·.1) := by
  cases m with
  | performance m =>
    have names : (PerfMessage.members m).map (·.1) =
        PerfMessage.headerNames ++ "perf_kind" :: m.detail.names := by
      rw [← m.detail.names_values]
      exact List.map_append ..
    change "type" ∉ (PerfMessage.members m).map (·.1)
    rw [names]
    cases m.detail <;> exact of_decide_eq_true rfl
  | _ => exact of_decide_eq_true rfl

/-- The message of a type is read back from its fields. -/
theorem ofType?_members {m : Message} (times : ∀ t ∈ m.times, t.Valid)
    (finite : AllFinite m.floats) : ofType? m.typeName (.object m.members) = some m := by
  cases m with
  | testRun m =>
    have read := TestRunMessage.ofJson?_members (times _ (.head _)) (finite _ (.head _))
    simp [ofType?, typeName, members, read]
  | testResult m =>
    have read := TestResultMessage.ofJson?_members (times _ (.head _)) (finite _ (.head _))
    simp [ofType?, typeName, members, read]
  | subTestResult m =>
    have read := SubTestMessage.ofJson?_members (times _ (.head _)) (finite _ (.head _))
    simp [ofType?, typeName, members, read]
  | performance m =>
    have testDate := times m.testDate (.tail _ (.head _))
    have read := PerfMessage.ofJson?_members (times _ (.head _)) testDate finite
    simp [ofType?, typeName, members, read]
  | provisionBootTime m =>
    have read := ProvisionBootTimeMessage.ofJson?_members (times _ (.head _)) finite
    simp [ofType?, typeName, members, read]
  | kernelBuild m =>
    have read := KernelBuildMessage.ofJson?_members (times _ (.head _)) (finite _ (.head _))
    simp [ofType?, typeName, members, read]

theorem decode_encode {m : Message} (times : ∀ t ∈ m.times, t.Valid)
    (finite : AllFinite m.floats) : decode (encode m) = some m := by
  have whole : (encode m).readable = true :=
    Json.readableMembers_iff.2 (List.forall_mem_cons.2 ⟨rfl, m.readable_members⟩)
  have found := Json.tagged?_cons whole m.type_notMem
  change ((Json.object _).tagged? "type").bind _ = some m
  rw [found]
  exact ofType?_members times finite

theorem ofType?_gives (type : String) {content : Json} (proper : content.Proper) :
    Gives (fun m => (∀ t ∈ m.times, t.Valid) ∧ AllFinite m.floats) (ofType? type content) := by
  unfold ofType?
  split
  · refine .map (TestRunMessage.ofJson?_gives proper) (fun m known => ?_)
    simpa [times, floats, AllFinite] using known
  · refine .map (TestResultMessage.ofJson?_gives proper) (fun m known => ?_)
    simpa [times, floats, AllFinite] using known
  · refine .map (SubTestMessage.ofJson?_gives proper) (fun m known => ?_)
    simpa [times, floats, AllFinite] using known
  · refine .map (PerfMessage.ofJson?_gives proper) (fun m known => ?_)
    simpa [times, floats, and_assoc] using known
  · refine .map (ProvisionBootTimeMessage.ofJson?_gives proper) (fun m known => ?_)
    simpa [times, floats] using known
  · refine .map (KernelBuildMessage.ofJson?_gives proper) (fun m known => ?_)
    simpa [times, floats, AllFinite] using known
  · exact .none

/-- A message that is decoded from a JSON value can be encoded. -/
theorem decode_gives {j : Json} (proper : j.Proper) :
    Gives (fun m : Message => (∀ t ∈ m.times, t.Valid) ∧ AllFinite m.floats) (decode j) := by
  refine .bind (Json.tagged?_gives "type" proper) fun (type, content) proper => ?_
  dsimp only at proper ⊢
  split
  · exact ofType?_gives _ proper
  · exact .none

/-- The wire form of a message names its type in one member and loses nothing: with moments of the
calendar and finite doubles a message is decoded from its own encoding, and whatever is decoded from
a JSON value is a message that its encoding gives again. -/
theorem wire_roundTrip :
    (∀ m : Message,
      (∃ members, encode m = .object members ∧
        Json.valuesOf "type" members = [.string m.typeName]) ∧
      ((∀ t ∈ m.times, t.Valid) → AllFinite m.floats → decode (encode m) = some m)) ∧
    ∀ (j : Json) (m : Message), j.Proper → decode j = some m → decode (encode m) = some m := by
  refine ⟨fun m => ⟨⟨_, rfl, ?tagged⟩, decode_encode⟩, ?again⟩
  case tagged =>
    have others : m.members.filter (fun member => member.1 = "type") = [] := by
      refine List.filter_eq_nil_iff.2 (fun member listed tag => m.type_notMem ?_)
      exact of_decide_eq_true tag ▸ List.mem_map_of_mem listed
    simp [Json.valuesOf, others]
  case again =>
    intro j m proper decoded
    obtain ⟨times, finite⟩ := decode_gives proper m decoded
    exact decode_encode times finite

/-- A measurement is read back from its encoding, and so is a message that a JSON value gives only
its type and one of its fields. -/
theorem wire_roundTrip_cpu :
    let measured := performance
      (.new .epoch (.cpu { threads := 4, totalTime := ⟨0x4024000000000000⟩ }))
    let built := kernelBuild { isSuccess := true }
    let j := Json.object [("is_success", .bool true), ("type", .string "KernelBuild")]
    decode (encode measured) = some measured ∧ decode j = some built ∧
      decode (encode built) = some built := by
  intro measured built j
  have epoch : Timestamp.epoch.Valid := by constructor <;> decide
  have times : ∀ t ∈ measured.times, t.Valid := by simp [measured, times, PerfMessage.new, epoch]
  have finite : AllFinite measured.floats := by unfold AllFinite; decide
  have proper : j.Proper := by
    refine .object (List.forall_mem_cons.2 ⟨.bool true, ?_⟩)
    exact List.forall_mem_singleton.2 (.string "KernelBuild")
  have decoded : decode j = some built := rfl
  exact ⟨(wire_roundTrip.1 measured).2 times finite, decoded,
    wire_roundTrip.2 j built proper decoded⟩

end Message

end Testbed
