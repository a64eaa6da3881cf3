import Testbed.Files
import Testbed.Json.Reader
import Testbed.Lifecycle.Config
import Testbed.Space.Wire
import Testbed.Text.Blank

/-!
# Runbooks

Declared environments, the cases with what they require, and lifecycle settings. The platform
section is kept as it is; the platform that runs the runbook reads it. A runbook is planned by
resolving every case against the declared environments.
-/
namespace Testbed

/-- A test case and the environment it needs. -/
structure CaseRequirement where
  name : String
  requirement : EnvironmentSpace := {}
  deriving DecidableEq

structure Runbook where
  name : String := ""
  environments : List EnvironmentSpace := []
  cases : List CaseRequirement := []
  lifecycle : LifecycleConfig := {}
  platform : Option Json := none

instance : Wire CaseRequirement where
  encode c := .object [("name", encode c.name), ("requirement", encode c.requirement)]
  decode j := do
    let r ← Record.ofJson? ["name", "requirement"] j
    return { name := ← r.required "name", requirement := ← r.defaulted "requirement" {} }

instance : Wire Runbook where
  encode b := .object (Json.present [
    always "name" b.name, always "environments" b.environments, always "cases" b.cases,
    always "lifecycle" b.lifecycle, whenPresent "platform" b.platform])
  decode j := do
    let r ← Record.ofJson? ["name", "environments", "cases", "lifecycle", "platform"] j
    return { name := ← r.defaulted "name" ""
             environments := ← r.defaulted "environments" []
             cases := ← r.defaulted "cases" []
             lifecycle := ← r.defaulted "lifecycle" {}
             platform := ← r.defaulted "platform" none }

namespace Runbook

/-- What can be wrong with a runbook's structure. -/
inductive Problem where
  | noEnvironments
  | duplicateEnvironment (name : String)
  | unnamedCase
  | duplicateCase (name : String)
  | zeroTimeout
  deriving DecidableEq

/-- The wording of a problem. -/
def Problem.text : Problem → String
  | noEnvironments => "no environments declared"
  | duplicateEnvironment name => s!"duplicate environment name {name}"
  | unnamedCase => "case with empty name"
  | duplicateCase name => s!"duplicate case {name}"
  | zeroTimeout => "lifecycle.connect.timeout_ms must be positive"

/-- The problems of a list of names of environments, given the names before it. -/
def environmentProblems (seen : List String) : List String → List Problem
  | [] => []
  | name :: rest =>
    if name ∈ seen then .duplicateEnvironment name :: environmentProblems seen rest
    else environmentProblems (name :: seen) rest

/-- The problems of a list of names of cases, given the names before it that are not blank. -/
def caseProblems (seen : List String) : List String → List Problem
  | [] => []
  | name :: rest =>
    if Text.isBlank name then .unnamedCase :: caseProblems seen rest
    else if name ∈ seen then .duplicateCase name :: caseProblems seen rest
    else caseProblems (name :: seen) rest

/-- The names under which the environments are candidates. -/
def candidateNames (b : Runbook) : List String :=
  b.environments.zipIdx.map (fun entry => candidateName entry.1 entry.2)

/-- All structural problems, those that need no resolution. -/
def problems (b : Runbook) : List Problem :=
  (if b.environments.isEmpty then [.noEnvironments] else []) ++
    environmentProblems [] b.candidateNames ++
    caseProblems [] (b.cases.map CaseRequirement.name) ++
    (if b.lifecycle.connect.timeoutMs = 0 then [.zeroTimeout] else [])

/-- Why a runbook cannot be used. -/
inductive Error where
  | io (path : String) (cause : FileError)
  | parse
  | invalid (problems : List Problem)
  deriving DecidableEq

/-- Marks where the JSON reader's own account of a failure begins. -/
def parseMark : String := "invalid runbook JSON: "

/-- The wording of an error. -/
def Error.message : Error → String
  | io path cause => s!"cannot read runbook {path}: {cause.message}"
  | parse => parseMark
  | invalid problems => "invalid runbook: " ++ "; ".intercalate (problems.map Problem.text)

/-- What an error was caused by, in words. -/
def Error.cause? : Error → Option String
  | io _ cause => some cause.message
  | parse => some ""
  | invalid _ => none

def validate (b : Runbook) : Except Error Unit :=
  match b.problems with
  | [] => .ok ()
  | problems => .error (.invalid problems)

/-- The runbook that a text spells. -/
def ofText (text : String) : Except Error Runbook :=
  match (Json.parse text).bind decode with
  | some runbook => .ok runbook
  | none => .error .parse

/-- The runbook in a file, given what reading the file gave. -/
def ofFile (path : String) (content : Except FileError String) : Except Error Runbook :=
  match content with
  | .ok text => ofText text
  | .error cause => .error (.io path cause)

end Runbook

/-- How a case would be resolved. -/
inductive CasePlan where
  | found (case : String) (environment : MatchedEnvironment)
  | unavailable (case : String) (reasons : List Reason)
  deriving DecidableEq

namespace CasePlan

def case : CasePlan → String
  | found case _ => case
  | unavailable case _ => case

def isMatched : CasePlan → Bool
  | found .. => true
  | unavailable .. => false

def toJson : CasePlan → Json
  | found case environment => .object [
    ("result", .string "matched"), ("case", .string case), ("environment", encode environment)]
  | unavailable case reasons => .object [
    ("result", .string "unavailable"), ("case", .string case),
    ("reasons", encode (reasons.map Reason.text))]

end CasePlan

/-- Resolve one case. -/
def planCase (environments : List EnvironmentSpace) (c : CaseRequirement) : CasePlan :=
  match resolve c.requirement environments with
  | .ok environment => .found c.name environment
  | .error reasons => .unavailable c.name reasons

/-- Resolve every case, in order, against the declared environments. -/
def Runbook.plan (b : Runbook) : List CasePlan := b.cases.map (planCase b.environments)

end Testbed
