import Testbed.Proofs.Message.Facts
import Testbed.Proofs.Outcomes

/-!
# Reports and free-form facts

Building a measurement puts the facts into a new one, then what the arguments, the node and the
result say themselves, and last the overrides; building a sub-result goes the same way. Without
overrides only the facts can keep a report from being built.
-/
namespace Testbed

section Reports

variable {wall : Timestamp} {now : Nat} {detail : PerfDetail} {node : Node} {result : TestResult}
  {environment : Facts} {caseName : String}

/-- A measurement with what the arguments, the node and the result say themselves. -/
def PerfMessage.identify (m : PerfMessage) (now : Nat) (node : Node) (result : TestResult)
    (caseName : String) : PerfMessage :=
  { m with
    testCaseName := caseName
    dataPath := (node.capability.dataPath.map NetworkDataPath.name).getD ""
    testResultId := result.id
    elapsed := result.elapsedSeconds now }

theorem createPerfMessage_eq {overrides : Dict String Json}
    (assigned : result.environment = some environment) :
    createPerfMessage wall now detail node result caseName overrides =
      applyFields (PerfMessage.new wall detail)
          (stringFields (environment.extend node.information)) .stringsOnly >>= fun m =>
        applyFields (m.identify now node result caseName) overrides .any := by
  rw [createPerfMessage, assigned]
  rfl

theorem exists_createPerfMessage_iff (assigned : result.environment = some environment) :
    (∃ m, createPerfMessage wall now detail node result caseName ∅ = .ok m) ↔
      ∃ m, applyFields (PerfMessage.new wall detail)
        (stringFields (environment.extend node.information)) .stringsOnly = .ok m := by
  simp [createPerfMessage_eq assigned, applyFields_empty, bind_ok]

/-- A sub-result with what the result and the arguments say themselves. -/
def SubTestMessage.identify (m : SubTestMessage) (now : Nat) (result : TestResult)
    (caseName : String) (status : TestStatus) (text : String) : SubTestMessage :=
  { m with
    id := result.id
    name := caseName
    status
    message := text
    elapsed := result.elapsedSeconds now }

theorem createSubTestMessage_eq {status : TestStatus} {text : String}
    {overrides : Dict String Json} (named : result.name.isEmpty = false) :
    createSubTestMessage wall now result caseName status text overrides =
      applyFields (SubTestMessage.new wall result.id caseName status)
          (stringFields (result.environment.getD ∅)) .stringsOnly >>= fun m =>
        applyFields (m.identify now result caseName status text) overrides .any >>= fun m =>
          .ok { m with parentTest := result.name } := by
  rw [createSubTestMessage, named]
  cases result.environment with
  | none =>
    rw [show stringFields (Option.getD none ∅) = ∅ from rfl, applyFields_empty]
    rfl
  | some environment => rfl

/-- What is answered is what was built. -/
theorem fst_sendSubTestMessage {status : TestStatus} {text : String}
    {overrides : Dict String Json} :
    (sendSubTestMessage wall now result caseName status text overrides).1 =
      createSubTestMessage wall now result caseName status text overrides := by
  unfold sendSubTestMessage
  split <;> simp [*]

theorem exists_sendSubTestMessage_iff {status : TestStatus} {text : String}
    (named : result.name.isEmpty = false) (assigned : result.environment = some environment) :
    (∃ m, (sendSubTestMessage wall now result caseName status text ∅).1 = .ok m) ↔
      ∃ m, applyFields (SubTestMessage.new wall result.id caseName status)
        (stringFields environment) .stringsOnly = .ok m := by
  rw [fst_sendSubTestMessage]
  simp [createSubTestMessage_eq named, assigned, applyFields_empty, bind_ok]

/-- Free-form facts let a report through exactly if they spell what a message writes as a string
and not as a text: for a measurement a kind, moments and how disks are set up, and for a sub-result
a moment and a status. A fact about any other name does no harm. -/
theorem reports_ok_iff (node : Node) (status : TestStatus) (text : String)
    (named : result.name.isEmpty = false) (assigned : result.environment = some environment)
    (valid : wall.Valid) (finite : AllFinite detail.floats) :
    ((∃ m, createPerfMessage wall now detail node result caseName ∅ = .ok m) ↔
      PerfMessage.SpeltBy (environment.extend node.information) detail) ∧
    ((∃ m, (sendSubTestMessage wall now result caseName status text ∅).1 = .ok m) ↔
      Spells Timestamp environment "time" ∧ Spells TestStatus environment "status") := by
  constructor
  · rw [exists_createPerfMessage_iff assigned]
    exact PerfMessage.exists_new_facts_iff valid finite
  · rw [exists_sendSubTestMessage_iff named assigned]
    exact SubTestMessage.exists_new_facts_iff valid

end Reports

/-- A fact about a time of day blocks both reports. -/
theorem reports_ok_iff_noon :
    let environment : Facts := Dict.empty.insert "time" "noon"
    let result : TestResult := { id := "r0", name := "case", environment := some environment }
    let node := Node.new 0 {}
    (¬ ∃ m, createPerfMessage .epoch 0 (.cpu {}) node result "perf_case" ∅ = .ok m) ∧
      ¬ ∃ m, (sendSubTestMessage .epoch 0 result "step" .passed "done" ∅).1 = .ok m := by
  intro environment result node
  have epoch : Timestamp.epoch.Valid := by constructor <;> decide
  have finite : AllFinite (PerfDetail.cpu {}).floats := by unfold AllFinite; decide
  have named : result.name.isEmpty = false := rfl
  have assigned : result.environment = some environment := rfl
  have noMoment : (decode (.string "noon") : Option Timestamp).isSome ≠ true := by decide
  constructor
  · intro built
    have spelt := (reports_ok_iff node .passed "done" named assigned epoch finite).1.1 built
    exact noMoment (spelt.time "noon" rfl)
  · intro built
    obtain ⟨time, -⟩ := (reports_ok_iff node .passed "done" named assigned epoch finite).2.1 built
    exact noMoment (time "noon" rfl)

end Testbed
