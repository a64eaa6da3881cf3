import Testbed.Proofs.Message.Reports

/-!
# What facts leave of measured values

Facts are not put into numbers, so what was measured stays as long as the kind does. A fact about
the kind gives a measurement the fields of another kind, though, and what those do not hold is lost.
-/
namespace Testbed

open Wire Record FieldRecord

section Members

variable {name : String} {members others : List (String × Json)} {j : Json}

theorem find?_append :
    find? name (members ++ others) = (find? name members).or (find? name others) := by
  induction members with
  | nil => rfl
  | cons member members ih =>
    obtain ⟨key, j⟩ := member
    rw [List.cons_append, find?_cons, find?_cons, ih]
    split <;> rfl

/-- Members of the same distinct names are the same if the same is found under each name. -/
theorem eq_of_find? (names : members.map (·.1) = others.map (·.1))
    (distinct : (members.map (·.1)).Nodup)
    (same : ∀ name ∈ members.map (·.1), find? name members = find? name others) :
    members = others := by
  induction members generalizing others with
  | nil => exact (List.map_eq_nil_iff.1 names.symm).symm
  | cons member members ih =>
    obtain ⟨key, j⟩ := member
    cases others with
    | nil => cases names
    | cons other others =>
      obtain ⟨key', j'⟩ := other
      simp only [List.map_cons, List.cons.injEq] at names
      obtain ⟨rfl, names⟩ := names
      obtain ⟨fresh, distinct⟩ := List.nodup_cons.1 distinct
      have here := same key List.mem_cons_self
      rw [find?_cons, find?_cons, if_pos rfl, if_pos rfl] at here
      have rest : ∀ name ∈ members.map (·.1), find? name members = find? name others := by
        intro name listed
        have apart : key ≠ name := fun e => fresh (e ▸ listed)
        have found := same name (List.mem_cons_of_mem _ listed)
        rwa [find?_cons, find?_cons, if_neg apart, if_neg apart] at found
      rw [Option.some.inj here, ih names distinct rest]

end Members

@[simp]
theorem Binary64.encode_eq_null_iff {x : Binary64} : encode x = .null ↔ x.isFinite = false := by
  simp only [encode]
  split <;> simp [*]

instance : NeverNull DiskSetupType := ⟨fun _ => nofun⟩

instance : NeverNull PerformanceDiskType := ⟨fun _ => nofun⟩

namespace PerfDetail

variable {d e : PerfDetail} {f : Field}

/-- The numbers of some values: what is written as a string is at its default. -/
def measures : PerfDetail → PerfDetail
  | disk v => disk { v with diskSetupType := .raw, diskType := .nvme }
  | cpu v => cpu { v with benchmark := "" }
  | networkTcp v => networkTcp v
  | networkUdp v => networkUdp v
  | networkLatency v => networkLatency v

theorem kind_measures (d : PerfDetail) : d.measures.kind = d.kind := by cases d <;> rfl

theorem floats_measures (d : PerfDetail) : d.measures.floats = d.floats := by cases d <;> rfl

/-- Values are finite exactly if none is written as null. -/
theorem allFinite_iff : AllFinite d.floats ↔ ∀ member ∈ d.values, member.2 ≠ .null := by
  cases d <;> simp [floats, values, AllFinite, DiskPerformance.floats, DiskPerformance.members,
    CpuPerformance.floats, CpuPerformance.members, NetworkTcpPerformance.floats,
    NetworkTcpPerformance.members, NetworkUdpPerformance.floats, NetworkUdpPerformance.members,
    NetworkLatencyPerformance.floats, NetworkLatencyPerformance.members]

/-- The numbers stand among the measures as they are, and the rest at its defaults. -/
theorem find?_measures (d : PerfDetail) : ∀ f ∈ d.fields, find? f.name d.measures.values =
    if f.type.isNumber then find? f.name d.values else f.missing := by
  cases d <;> simp only [fields, DiskPerformance.fields, CpuPerformance.fields,
    NetworkTcpPerformance.fields, NetworkUdpPerformance.fields, NetworkLatencyPerformance.fields,
    List.forall_mem_cons] <;> and_intros <;>
    first | rfl | exact fun _ absent => absurd absent List.not_mem_nil

theorem distinct_fields (d : PerfDetail) : (d.fields.map (·.name)).Nodup := by
  rw [names_fields]
  cases d <;> exact of_decide_eq_true rfl

theorem names_measures (d : PerfDetail) :
    d.measures.values.map (·.1) = d.fields.map (·.name) := by
  rw [names_values, ← names_fields, fields_of_kind d.kind_measures]

/-- Finite values of one kind have the same measures if they hold the same numbers. -/
theorem measures_eq (finite : AllFinite d.floats) (finite' : AllFinite e.floats)
    (kind : d.kind = e.kind) (same : ∀ f ∈ d.fields, f.type.isNumber = true →
      find? f.name d.values = find? f.name e.values) : d.measures = e.measures := by
  have kinds : d.measures.kind = e.measures.kind := by rw [kind_measures, kind_measures, kind]
  have written : d.measures.values = e.measures.values := by
    refine eq_of_find? ?names ?distinct ?same
    case names => rw [names_measures, names_measures, fields_of_kind kind]
    case distinct => exact d.names_measures ▸ d.distinct_fields
    case same =>
      intro name listed
      rw [names_measures] at listed
      obtain ⟨f, own, rfl⟩ := List.mem_map.1 listed
      rw [d.find?_measures f own, e.find?_measures f (fields_of_kind kind ▸ own)]
      split
      · exact same f own ‹_›
      · rfl
  have read := ofKind?_values (d := d.measures) (d.floats_measures ▸ finite)
  rw [kinds, written, ofKind?_values (e.floats_measures ▸ finite')] at read
  exact (Option.some.inj read).symm

end PerfDetail

namespace PerfMessage

variable {wall : Timestamp} {detail : PerfDetail} {facts : Facts} {m : PerfMessage} {f : Field}

/-- What a measurement holds under the name of a measured value. -/
theorem held_value (listed : f ∈ m.detail.fields) :
    held m f.name = find? f.name m.detail.values := by
  have distinct := distinct_fields m.detail
  rw [names_fields, List.nodup_append, List.nodup_cons] at distinct
  obtain ⟨-, ⟨tag, -⟩, apart⟩ := distinct
  have own : f.name ∈ m.detail.names := m.detail.names_fields ▸ List.mem_map_of_mem listed
  have header : find? f.name m.header = none := by
    refine Option.not_isSome_iff_eq_none.1 (fun found => ?_)
    exact apart f.name (find?_isSome_iff.1 found) f.name (List.mem_cons_of_mem _ own) rfl
  change find? f.name (m.header ++ ("perf_kind", .string m.detail.kind) :: m.detail.values) = _
  rw [find?_append, header, Option.none_or, find?_cons, if_neg]
  rintro here
  exact tag (here ▸ own)

theorem mem_fields_of_value (listed : f ∈ detail.fields) : f ∈ fields detail :=
  List.mem_append_right _ (List.mem_cons_of_mem _ listed)

/-- No field of a measurement can be read from null. -/
theorem reads_null (listed : f ∈ fields detail) : f.type.reads .null = none := by
  rcases types detail f listed with type | ⟨type, -⟩ | ⟨type, -⟩ | ⟨type, -⟩ | number
  · rw [type]
    rfl
  · rw [type]
    rfl
  · rw [type]
    rfl
  · rw [type]
    rfl
  · cases type : f.type <;> rw [type] at number <;> first | rfl | cases number

/-- Values that are read with facts put into them, and keep their kind, were finite before. -/
theorem finite_of_withFacts (kind : detail.kind = detail.kindBy facts)
    (read : ofJson? (.object (withFacts wall detail facts)) = some m) :
    AllFinite detail.floats := by
  refine PerfDetail.allFinite_iff.2 ?_
  rintro ⟨name, j⟩ listed rfl
  have named : name ∈ detail.fields.map (·.name) := by
    rw [detail.names_fields, ← detail.names_values]
    exact List.mem_map_of_mem listed
  obtain ⟨f, own, rfl⟩ := List.mem_map.1 named
  have holds : held (new wall detail) f.name = some .null := by
    rw [held_value (m := new wall detail) own]
    exact find?_of_mem (detail.names_values ▸ detail.names_fields ▸ detail.distinct_fields) listed
  have whole := readAll_withFacts kind read
  have taken := Field.readAll_isSome.1 (Option.isSome_of_eq_some whole) f (mem_fields_of_value own)
  rw [value_withFacts, given_eq_none_of_ne (by simp [holds]), Option.elim_none,
    value_of_held holds, reads_null (mem_fields_of_value own)] at taken
  cases taken

/-- A number that is read with facts put beside it is as it was. -/
theorem number_of_withFacts (valid : wall.Valid) (finite : AllFinite detail.floats)
    (kind : m.detail.kind = detail.kind)
    (read : (ofJson? (.object (withFacts wall detail facts))) = some m)
    (listed : f ∈ detail.fields) (number : f.type.isNumber = true) :
    find? f.name m.detail.values = find? f.name detail.values := by
  have listed' : f ∈ m.detail.fields := PerfDetail.fields_of_kind kind ▸ listed
  have noString (s : String) : held (new wall detail) f.name ≠ some (.string s) := by
    intro holds
    have read := reads_held valid finite (mem_fields_of_value listed) holds
    rw [FieldType.reads_string_of_isNumber number] at read
    cases read
  have whole := readAll_withFacts (kind ▸ kind_of_withFacts read) read
  calc find? f.name m.detail.values
    _ = held m f.name := (held_value listed').symm
    _ = f.value (withFacts wall detail facts) :=
      Field.find?_of_readAll (distinct_fields detail) whole (mem_fields_of_value listed)
    _ = f.value (FieldRecord.members (new wall detail)) := by
      rw [value_withFacts, given_eq_none_of_ne noString]
      rfl
    _ = held (new wall detail) f.name :=
      value_members (stable_new valid finite) (mem_fields_of_value listed)
    _ = find? f.name detail.values := held_value (m := new wall detail) listed

/-- Facts put into a new measurement leave its numbers exactly if they name no other kind. -/
theorem measures_new_facts_iff (valid : wall.Valid)
    (set : applyFields (new wall detail) (stringFields facts) .stringsOnly = .ok m) :
    m.detail.kind = detail.kindBy facts ∧
      (m.detail.measures = detail.measures ↔ detail.kindBy facts = detail.kind) := by
  rcases applyFields_ok set with ⟨rfl, nothing⟩ | read
  · cases fact : facts.get? "perf_kind" with
    | none =>
      have kept : detail.kindBy facts = detail.kind := by
        rw [PerfDetail.kindBy, fact]
        rfl
      exact ⟨kept.symm, fun _ => kept, fun _ => rfl⟩
    | some text =>
      have named : given (new wall detail) (stringFields facts) .stringsOnly "perf_kind" =
          some (.string text) :=
        given_stringFields.2 ⟨by decide, ⟨detail.kind, rfl⟩, text, fact, rfl⟩
      rw [nothing] at named
      cases named
  · have kind := kind_of_withFacts read
    refine ⟨kind, ?other, ?same⟩
    case other =>
      intro same
      rw [← kind, ← PerfDetail.kind_measures, same, PerfDetail.kind_measures]
    case same =>
      intro same
      obtain ⟨-, -, finite⟩ := ofJson?_gives (.object proper_withFacts) m read
      have before := finite_of_withFacts same.symm read
      refine PerfDetail.measures_eq (allFinite_cons.1 finite).2 before (kind.trans same) ?_
      intro f listed number
      exact number_of_withFacts valid before (kind.trans same) read
        (PerfDetail.fields_of_kind (kind.trans same) ▸ listed) number

end PerfMessage

/-- Without overrides, facts of the environment and of the node leave the numbers of a measurement
exactly if they name no other kind: what is measured is then of the kind that they name. -/
theorem createPerfMessage_measures_iff {wall : Timestamp} {now : Nat} {detail : PerfDetail}
    {node : Node} {result : TestResult} {environment : Facts} {caseName : String} {m : PerfMessage}
    (assigned : result.environment = some environment) (valid : wall.Valid)
    (created : createPerfMessage wall now detail node result caseName ∅ = .ok m) :
    let kind := detail.kindBy (environment.extend node.information)
    m.detail.kind = kind ∧ (m.detail.measures = detail.measures ↔ kind = detail.kind) := by
  rw [createPerfMessage_eq assigned] at created
  obtain ⟨first, set, identified⟩ := bind_ok.1 created
  rw [applyFields_empty] at identified
  obtain rfl := Except.ok.inj identified
  have kept := PerfMessage.measures_new_facts_iff valid set
  exact kept

/-- A fact about disks turns a measurement of connections into one of disks. -/
theorem createPerfMessage_measures_iff_disk :
    let environment : Facts := Dict.empty.insert "perf_kind" "disk"
    let result : TestResult := { id := "r0", name := "case", environment := some environment }
    let detail := PerfDetail.networkTcp { connectionsNum := 8 }
    ∃ m, createPerfMessage .epoch 0 detail (.new 0 {}) result "perf_case" ∅ = .ok m ∧
      m.detail.kind = "disk" ∧ m.detail.measures ≠ detail.measures := by
  intro environment result detail
  have epoch : Timestamp.epoch.Valid := by constructor <;> decide
  have finite : AllFinite detail.floats := by unfold AllFinite; decide
  have assigned : result.environment = some environment := rfl
  have spelt : ∃ m, createPerfMessage .epoch 0 detail (.new 0 {}) result "perf_case" ∅ = .ok m := by
    refine (exists_createPerfMessage_iff assigned).2
      ((PerfMessage.exists_new_facts_iff epoch finite).2 ?_)
    constructor
    case kind => decide
    case time | testDate => exact fun _ noFact => nomatch noFact
    case diskSetup | diskType => exact fun isDisk => absurd isDisk (by decide)
  obtain ⟨m, created⟩ := spelt
  obtain ⟨kind, kept⟩ := createPerfMessage_measures_iff assigned epoch created
  exact ⟨m, created, kind, fun same => absurd (kept.1 same) (by decide)⟩

end Testbed
