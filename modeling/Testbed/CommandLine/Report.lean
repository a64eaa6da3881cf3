import Testbed.BareMetal.Config
import Testbed.CommandLine.Arguments
import Testbed.Json.Writer
import Testbed.Runbook

/-!
# Reports of the command line

What the commands print. A command reads one runbook, and its outcome is an exit code with the texts
for both output streams; a failure is reported with the chain of its causes.
-/
namespace Testbed.CommandLine

/-- How a command ended. -/
structure Outcome where
  exit : Nat
  stdout : String := ""
  stderr : String := ""
  deriving DecidableEq

/-- Begin a cause, and each further line of it, with the given texts. -/
def indentCause (first further : String) (cause : String) : String :=
  first ++ ("\n" ++ further).intercalate (cause.splitOn "\n")

/-- The causes below a failure, numbered when there are several. -/
def causeLines : List String → String
  | [] => ""
  | [cause] => "\n\nCaused by:\n" ++ indentCause "    " "    " cause
  | causes => "\n\nCaused by:\n" ++ "\n".intercalate (causes.zipIdx.map (fun (cause, index) =>
      let number := toString index
      indentCause ("".pushn ' ' (5 - number.length) ++ number ++ ": ") "       " cause))

/-- A failed command: what it was about and the chain of causes, the outermost first. -/
def failed (about : String) (causes : List String) (stdout : String) : Outcome :=
  { exit := 1, stdout, stderr := "Error: " ++ about ++ causeLines causes ++ "\n" }

/-- Marks where the JSON reader's own account of a platform section begins. -/
def platformMark : String := "invalid platform settings for baremetal: "

/-- The runbook of a command, valid as a structure. -/
def loadValid (path : String) (content : Except FileError String) : Except Outcome Runbook :=
  match Runbook.ofFile path content with
  | .error error =>
    .error (failed ("Failed to load runbook " ++ path) (error.message :: error.cause?.toList) "")
  | .ok runbook =>
    match runbook.validate with
    | .error error => .error (failed ("Runbook " ++ path ++ " is invalid") [error.message] "")
    | .ok _ => .ok runbook

/-- The line that `validate` prints. -/
def summary (runbook : Runbook) (clusters : Nat) : String :=
  s!"Runbook '{runbook.name}' is valid: {runbook.environments.length} environment(s), " ++
    s!"{runbook.cases.length} case(s), {clusters} cluster(s)"

def runValidate (path : String) (content : Except FileError String) : Outcome :=
  match loadValid path content with
  | .error outcome => outcome
  | .ok runbook =>
    match runbook.platform with
    | none => { exit := 0, stdout := summary runbook 0 ++ "\n" }
    | some section_ =>
      match BareMetal.PlatformConfig.ofSection? (some section_) with
      | some config => { exit := 0, stdout := summary runbook config.cluster.length ++ "\n" }
      | none => failed "Invalid platform section" [platformMark, ""] ""

/-- What a resolved node provides, in a line. -/
def nodeText (node : NodeSpace) : String :=
  let cores := (node.coreCount.bind CountSpace.current).map (fun n => s!"cores={n.toNat}")
  let memory := (node.memoryMb.bind RangeValue.current).map (fun n => s!"memory_mb={n.toNat}")
  let path := node.dataPath.map (fun p => s!"data_path={p.name}")
  let features := if node.features.isEmpty then none
    else some ("features=" ++ ",".intercalate node.features.keys)
  let parts := [cores, memory, path, features].filterMap id
  if parts.isEmpty then "any" else " ".intercalate parts

/-- The lines of a case that has an environment. -/
def matchedLines (case : String) (environment : MatchedEnvironment) : List String :=
  s!"\n  + {case} -> {environment.name}" ::
    (environment.space.nodes.zip environment.nodeAssignment).zipIdx.map
      (fun ((node, place), index) =>
        s!"      node[{index}] <- candidate node[{place}]: {nodeText node}")

/-- The lines of a case. -/
def caseLines : CasePlan → List String
  | .found case environment => matchedLines case environment
  | .unavailable case reasons =>
    s!"\n  - {case}: no environment" :: reasons.map (fun reason => "      " ++ reason.text)

/-- A plan as text: how many cases are matched, and each case with its nodes or reasons. -/
def planText (plan : List CasePlan) : String :=
  let found := (plan.filter CasePlan.isMatched).length
  let lines := ["Plan", "====", s!"matched: {found}", s!"unavailable: {plan.length - found}"] ++
    plan.flatMap caseLines
  String.join (lines.map (· ++ "\n"))

def planOutput (plan : List CasePlan) : Format → String
  | .text => planText plan
  | .json => (Json.array (plan.map CasePlan.toJson)).indented

def runPlan (path : String) (format : Format) (strict : Bool)
    (content : Except FileError String) : Outcome :=
  match loadValid path content with
  | .error outcome => outcome
  | .ok runbook =>
    let plan := runbook.plan
    let stdout := planOutput plan format ++ "\n"
    let unavailable := (plan.filter (fun p => !p.isMatched)).length
    if strict ∧ 0 < unavailable then
      failed s!"{unavailable} case(s) have no environment" [] stdout
    else { exit := 0, stdout }

/-- The program and its version. -/
def versionText : String := "sutkit 0.4.0\n"

/-- Help for the program or one of its commands. -/
def helpText : Topic → String
  | .program => "Match test requirements to environments and plan runs

Usage: sutkit [OPTIONS] <COMMAND>

Commands:
  validate  Check that a runbook is well formed
  plan      Show which environment each case would run on
  help      Print this message or the help of the given subcommand(s)

Options:
  -v, --verbose  Enable verbose output
      --json     Emit JSON-formatted log lines
  -h, --help     Print help
  -V, --version  Print version
"
  | .validate => "Check that a runbook is well formed

Usage: sutkit validate [OPTIONS] <RUNBOOK>

Arguments:
  <RUNBOOK>  Path to the runbook (JSON)

Options:
  -v, --verbose  Enable verbose output
      --json     Emit JSON-formatted log lines
  -h, --help     Print help
"
  | .plan => "Show which environment each case would run on

Usage: sutkit plan [OPTIONS] <RUNBOOK>

Arguments:
  <RUNBOOK>  Path to the runbook (JSON)

Options:
  -f, --format <FORMAT>  Output format [default: text] [possible values: text, json]
  -v, --verbose          Enable verbose output
      --json             Emit JSON-formatted log lines
      --strict           Exit non-zero when any case has no environment
  -h, --help             Print help
"
  | .help => "Print this message or the help of the given subcommand(s)

Usage: sutkit help [COMMAND]...

Arguments:
  [COMMAND]...  Print help for the subcommand(s)
"

/-- The file that a command reads. -/
def Command.runbook? : Command → Option String
  | .validate path => some path
  | .plan path _ _ => some path
  | _ => none

/-- The outcome of a command, given what reading a file gives. -/
def Command.run (read : String → Except FileError String) : Command → Outcome
  | .validate path => runValidate path (read path)
  | .plan path format strict => runPlan path format strict (read path)
  | .help topic => { exit := 0, stdout := helpText topic }
  | .version => { exit := 0, stdout := versionText }

/-- The outcome of a command line; arguments that are not understood exit with 2. -/
def run (read : String → Except FileError String) (arguments : List String) : Outcome :=
  match Command.ofArguments? arguments with
  | some command => command.run read
  | none => { exit := 2, stderr := "error: invalid arguments\n" }

end Testbed.CommandLine
