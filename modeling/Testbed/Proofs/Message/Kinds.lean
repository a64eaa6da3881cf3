import Testbed.Proofs.Message.Setting

/-!
# The types of messages

The fields of a message can be set by itself or together with its type. Either way it is read field
by field, is read back from its wire form when its moments are of the calendar and its doubles
finite, and is such a message again whenever it has been read from a proper tree.
-/
namespace Testbed

open Wire Record

instance : Typed Bool := ⟨.flag, rfl⟩
instance : Typed (Option (List String)) := ⟨.labels, rfl⟩
instance : Typed TestRunStatus := ⟨.runStatus, rfl⟩

instance : ProperForm TestStatus := ⟨fun _ => .string _⟩
instance : ProperForm TestRunStatus := ⟨fun _ => .string _⟩

/-- Messages that all have the same fields. -/
@[reducible]
def FieldRecord.untagged {α : Type} [Wire α] (members : α → List (String × Json))
    (fields : List Field) (encode_eq : ∀ a, encode a = .object (members a))
    (names_members : ∀ a, (members a).map (·.1) = fields.map (·.name))
    (distinct : (fields.map (·.name)).Nodup)
    (readable_members : ∀ a, ∀ member ∈ members a, member.2.readable = true)
    (reads : ∀ {others : List (String × Json)}, (others.map (·.1)).Nodup →
      (decode (.object others)).map members = Field.readAll fields others) : FieldRecord α where
  members
  fields _ := fields
  tags := []
  encode_eq
  names_members
  distinct _ := distinct
  readable_members
  reads named _ _ := reads (named ▸ distinct)

/-! ## Records -/

namespace TestRunMessage

def fields : List Field := [
  .required Timestamp "time", .required Binary64 "elapsed", .required TestRunStatus "status",
  .required String "runbook_name", .required String "test_project", .required String "test_pass",
  .nullable (List String) "tags", .required String "run_name", .required String "message"]

theorem ofJson?_reads {others : List (String × Json)} (distinct : (others.map (·.1)).Nodup) :
    (ofJson? (.object others)).map members = Field.readAll fields others := by
  have isRecord := Record.ofJson?_of_nodup names distinct
  simp only [ofJson?, isRecord, some_bind]
  refine reads_all ?_
  iterate 6 refine reads_required fun _ => ?_
  refine reads_nullable rfl fun _ => ?_
  iterate 2 refine reads_required fun _ => ?_
  exact reads_done rfl

end TestRunMessage

instance : FieldRecord TestRunMessage :=
  .untagged TestRunMessage.members TestRunMessage.fields (fun _ => rfl) (fun _ => rfl)
    (by decide) TestRunMessage.readable_members TestRunMessage.ofJson?_reads

namespace TestResultMessage

def fields : List Field := [
  .required Timestamp "time", .required Binary64 "elapsed", .required String "id_",
  .required String "name", .required TestStatus "status", .required String "message",
  .nullable String "stacktrace", .required Facts "information", .required String "full_name",
  .required String "suite_name", .required String "suite_full_name", .required String "log_file"]

theorem ofJson?_reads {others : List (String × Json)} (distinct : (others.map (·.1)).Nodup) :
    (ofJson? (.object others)).map members = Field.readAll fields others := by
  have isRecord := Record.ofJson?_of_nodup names distinct
  simp only [ofJson?, isRecord, some_bind]
  refine reads_all ?_
  iterate 6 refine reads_required fun _ => ?_
  refine reads_nullable rfl fun _ => ?_
  iterate 5 refine reads_required fun _ => ?_
  exact reads_done rfl

end TestResultMessage

instance : FieldRecord TestResultMessage :=
  .untagged TestResultMessage.members TestResultMessage.fields (fun _ => rfl) (fun _ => rfl)
    (by decide) TestResultMessage.readable_members TestResultMessage.ofJson?_reads

namespace ProvisionBootTimeMessage

def fields : List Field :=
  let d : ProvisionBootTimeMessage := {}
  [.defaulted "time" d.time, .defaulted "elapsed" d.elapsed, .defaulted "boot_times" d.bootTimes,
    .defaulted "provision_time" d.provisionTime, .defaulted "kernel_boot_time" d.kernelBootTime,
    .defaulted "initrd_boot_time" d.initrdBootTime,
    .defaulted "userspace_boot_time" d.userspaceBootTime,
    .defaulted "firmware_boot_time" d.firmwareBootTime,
    .defaulted "loader_boot_time" d.loaderBootTime, .defaulted "information" d.information]

theorem ofJson?_reads {others : List (String × Json)} (distinct : (others.map (·.1)).Nodup) :
    (ofJson? (.object others)).map members = Field.readAll fields others := by
  have isRecord := Record.ofJson?_of_nodup names distinct
  simp only [ofJson?, isRecord, some_bind]
  refine reads_all ?_
  iterate 10 refine reads_defaulted fun _ => ?_
  exact reads_done rfl

end ProvisionBootTimeMessage

instance : FieldRecord ProvisionBootTimeMessage :=
  .untagged ProvisionBootTimeMessage.members ProvisionBootTimeMessage.fields (fun _ => rfl)
    (fun _ => rfl) (by decide) ProvisionBootTimeMessage.readable_members ProvisionBootTimeMessage.ofJson?_reads

namespace KernelBuildMessage

def fields : List Field :=
  let d : KernelBuildMessage := {}
  [.defaulted "time" d.time, .defaulted "elapsed" d.elapsed,
    .defaulted "old_kernel_version" d.oldKernelVersion,
    .defaulted "new_kernel_version" d.newKernelVersion, .defaulted "is_success" d.isSuccess,
    .defaulted "error_message" d.errorMessage]

theorem ofJson?_reads {others : List (String × Json)} (distinct : (others.map (·.1)).Nodup) :
    (ofJson? (.object others)).map members = Field.readAll fields others := by
  have isRecord := Record.ofJson?_of_nodup names distinct
  simp only [ofJson?, isRecord, some_bind]
  refine reads_all ?_
  iterate 6 refine reads_defaulted fun _ => ?_
  exact reads_done rfl

end KernelBuildMessage

instance : FieldRecord KernelBuildMessage :=
  .untagged KernelBuildMessage.members KernelBuildMessage.fields (fun _ => rfl) (fun _ => rfl)
    (by decide) KernelBuildMessage.readable_members KernelBuildMessage.ofJson?_reads

/-! ## Messages with their type -/

namespace Message

variable {m : Message} {others : List (String × Json)}

/-- The fields of a message, without its type. -/
def fields : Message → List Field
  | testRun _ => TestRunMessage.fields
  | testResult _ => TestResultMessage.fields
  | subTestResult _ => SubTestMessage.fields
  | performance m => PerfMessage.fields m.detail
  | provisionBootTime _ => ProvisionBootTimeMessage.fields
  | kernelBuild _ => KernelBuildMessage.fields

theorem names_members (m : Message) : m.members.map (·.1) = m.fields.map (·.name) := by
  cases m with
  | performance m => exact m.names_members
  | _ => rfl

theorem distinct_fields (m : Message) : (m.fields.map (·.name)).Nodup := by
  cases m with
  | performance m => exact PerfMessage.distinct_fields m.detail
  | _ => exact of_decide_eq_true rfl

/-- What is read for a type is of that type. -/
theorem ofType?_typeName (type : String) (content : Json) :
    Gives (fun m => m.typeName = type) (ofType? type content) := by
  unfold ofType?
  split
  iterate 6 exact .map (Q := fun _ => True) (fun _ _ => trivial) (fun _ _ => rfl)
  exact .none

/-- The fields of a type are read from whatever stands under their names, the kind of a measurement
being as it is. -/
theorem ofType?_reads (named : others.map (·.1) = m.fields.map (·.name))
    (whole : ∀ member ∈ others, member.2.readable = true)
    (kind : find? "perf_kind" others = find? "perf_kind" m.members) :
    (ofType? m.typeName (.object others)).map members = Field.readAll m.fields others := by
  have distinct : (others.map (·.1)).Nodup := named ▸ m.distinct_fields
  cases m with
  | testRun m => exact (Option.map_map ..).trans (TestRunMessage.ofJson?_reads distinct)
  | testResult m => exact (Option.map_map ..).trans (TestResultMessage.ofJson?_reads distinct)
  | subTestResult m => exact (Option.map_map ..).trans (SubTestMessage.ofJson?_reads distinct)
  | performance m =>
    exact (Option.map_map ..).trans (PerfMessage.ofJson?_reads whole distinct kind)
  | provisionBootTime m =>
    exact (Option.map_map ..).trans (ProvisionBootTimeMessage.ofJson?_reads distinct)
  | kernelBuild m => exact (Option.map_map ..).trans (KernelBuildMessage.ofJson?_reads distinct)

/-- A message is read with its type taken off. -/
theorem decode_typed (whole : ∀ member ∈ others, member.2.readable = true)
    (apart : "type" ∉ others.map (·.1)) :
    (decode (.object (("type", .string m.typeName) :: others)) : Option Message) =
      ofType? m.typeName (.object others) := by
  have readable : (Json.object (("type", .string m.typeName) :: others)).readable = true :=
    Json.readableMembers_iff.2 (List.forall_mem_cons.2 ⟨rfl, whole⟩)
  change ((Json.object _).tagged? "type").bind _ = _
  rw [Json.tagged?_cons readable apart]
  rfl

theorem type_apart (m : Message) : "type" ∉ m.fields.map (·.name) :=
  m.names_members ▸ m.type_notMem

end Message

instance : FieldRecord Message where
  members m := ("type", .string m.typeName) :: m.members
  fields m := .required String "type" :: m.fields
  tags := ["type", "perf_kind"]
  encode_eq _ := rfl
  names_members m := congrArg ("type" :: ·) m.names_members
  distinct m := List.nodup_cons.2 ⟨m.type_apart, m.distinct_fields⟩
  readable_members m := List.forall_mem_cons.2 ⟨rfl, m.readable_members⟩
  reads {m} others named whole tags := by
    obtain ⟨⟨key, j⟩, rest, rfl⟩ := List.exists_cons_of_ne_nil
      (l := others) (by rintro rfl; cases named)
    obtain ⟨here, inner⟩ := List.cons.inj named
    obtain rfl : key = "type" := here
    have type := tags "type" (.head _)
    rw [find?_cons, find?_cons, if_pos rfl, if_pos rfl] at type
    obtain rfl : j = .string m.typeName := Option.some.inj type
    have kind := tags "perf_kind" (.tail _ (.head _))
    rw [find?_cons, find?_cons, if_neg (by decide), if_neg (by decide)] at kind
    have whole := (List.forall_mem_cons.1 whole).2
    have apart : "type" ∉ rest.map (·.1) := inner ▸ m.type_apart
    have untyped : ∀ f ∈ m.fields, find? f.name (("type", .string m.typeName) :: rest) =
        find? f.name rest := by
      intro f listed
      rw [find?_cons, if_neg]
      exact fun same => m.type_apart (same ▸ List.mem_map_of_mem listed)
    have typed : (Field.required String "type").value (("type", .string m.typeName) :: rest) =
        some (.string m.typeName) := rfl
    rw [Message.decode_typed whole apart, Field.readAll, typed, Field.readAll_congr untyped,
      ← Message.ofType?_reads inner whole kind]
    cases read : Message.ofType? m.typeName (.object rest) with
    | none => rfl
    | some m' =>
      rw [Option.map_some, Message.ofType?_typeName _ _ m' read]
      rfl

/-! ## All of them -/

/-- What the fields of can be set: a message of one of six types by itself, or any of them together
with its type. -/
inductive MessageType where
  | testRun | testResult | subTestResult | performance | provisionBootTime | kernelBuild | typed
  deriving DecidableEq

namespace MessageType

/-- The messages of a type. -/
def Content : MessageType → Type
  | testRun => TestRunMessage
  | testResult => TestResultMessage
  | subTestResult => SubTestMessage
  | performance => PerfMessage
  | provisionBootTime => ProvisionBootTimeMessage
  | kernelBuild => KernelBuildMessage
  | typed => Message

instance (t : MessageType) : Wire t.Content :=
  match t with
  | testRun => inferInstanceAs (Wire TestRunMessage)
  | testResult => inferInstanceAs (Wire TestResultMessage)
  | subTestResult => inferInstanceAs (Wire SubTestMessage)
  | performance => inferInstanceAs (Wire PerfMessage)
  | provisionBootTime => inferInstanceAs (Wire ProvisionBootTimeMessage)
  | kernelBuild => inferInstanceAs (Wire KernelBuildMessage)
  | typed => inferInstanceAs (Wire Message)

instance (t : MessageType) : FieldRecord t.Content :=
  match t with
  | testRun => inferInstanceAs (FieldRecord TestRunMessage)
  | testResult => inferInstanceAs (FieldRecord TestResultMessage)
  | subTestResult => inferInstanceAs (FieldRecord SubTestMessage)
  | performance => inferInstanceAs (FieldRecord PerfMessage)
  | provisionBootTime => inferInstanceAs (FieldRecord ProvisionBootTimeMessage)
  | kernelBuild => inferInstanceAs (FieldRecord KernelBuildMessage)
  | typed => inferInstanceAs (FieldRecord Message)

/-- A message together with its type. -/
def message : (t : MessageType) → t.Content → Message
  | testRun => .testRun
  | testResult => .testResult
  | subTestResult => .subTestResult
  | performance => .performance
  | provisionBootTime => .provisionBootTime
  | kernelBuild => .kernelBuild
  | typed => id

end MessageType

/-- A message with moments of the calendar and finite doubles. -/
structure Message.Sound (m : Message) : Prop where
  times : ∀ t ∈ m.times, t.Valid
  finite : AllFinite m.floats

theorem Message.proper_members (m : Message) : ∀ member ∈ m.members, member.2.Proper := by
  cases m with
  | testRun m => simp [members, TestRunMessage.members]
  | testResult m => simp [members, TestResultMessage.members]
  | subTestResult m => simp [members, SubTestMessage.members]
  | performance m => exact m.proper_members
  | provisionBootTime m => simp [members, ProvisionBootTimeMessage.members]
  | kernelBuild m => simp [members, KernelBuildMessage.members]

namespace MessageType

open FieldRecord

variable {t : MessageType} {m : t.Content}

theorem message_injective (t : MessageType) : Function.Injective t.message := by
  intro m m' same
  cases t with
  | typed => exact same
  | _ =>
    injection same

/-- The name of a type, if messages are of one. -/
def typeName? : MessageType → Option String
  | testRun => some "TestRun"
  | testResult => some "TestResult"
  | subTestResult => some "SubTestResult"
  | performance => some "Performance"
  | provisionBootTime => some "ProvisionBootTime"
  | kernelBuild => some "KernelBuild"
  | typed => none

/-- A message by itself is read as the one of its type is. -/
theorem map_decode (t : MessageType) (j : Json) : (decode j : Option t.Content).map t.message =
    t.typeName?.elim (decode j) (fun type => Message.ofType? type j) := by
  cases t with
  | typed => exact Option.map_id_apply
  | _ => rfl

/-- A message by itself is written as its fields without the type. -/
theorem encode_of_typeName {type : String} (named : t.typeName? = some type) (m : t.Content) :
    encode m = .object (t.message m).members ∧ (t.message m).typeName = type := by
  cases t <;> cases named <;> exact ⟨rfl, rfl⟩

/-- A sound message is read back from its wire form. -/
theorem stable (sound : (t.message m).Sound) : decode (encode m) = some m := by
  have read : (decode (encode m) : Option t.Content).map t.message = some (t.message m) := by
    rw [map_decode]
    cases named : t.typeName? with
    | none =>
      cases t <;> cases named
      exact Message.decode_encode sound.times sound.finite
    | some type =>
      obtain ⟨written, rfl⟩ := encode_of_typeName named m
      rw [Option.elim_some, written]
      exact Message.ofType?_members sound.times sound.finite
  obtain ⟨m', decoded, same⟩ := Option.map_eq_some_iff.1 read
  rw [decoded, t.message_injective same]

/-- What is read from a proper tree is sound. -/
theorem decode_gives (t : MessageType) {j : Json} (proper : j.Proper) :
    Gives (fun m : t.Content => (t.message m).Sound) (decode j) := by
  intro m decoded
  have read := t.map_decode j
  rw [decoded, Option.map_some] at read
  cases named : t.typeName? with
  | none =>
    rw [named] at read
    obtain ⟨times, finite⟩ := Message.decode_gives proper _ read.symm
    exact ⟨times, finite⟩
  | some type =>
    rw [named] at read
    obtain ⟨times, finite⟩ := Message.ofType?_gives type proper _ read.symm
    exact ⟨times, finite⟩

theorem proper_members (t : MessageType) (m : t.Content) :
    ∀ member ∈ members m, member.2.Proper := by
  cases t with
  | typed => exact List.forall_mem_cons.2 ⟨.string _, Message.proper_members m⟩
  | _ => exact Message.proper_members (message _ m)

end MessageType

end Testbed
