/-!
# Command-line arguments

`validate` takes a runbook, `plan` a runbook, an output format and `--strict`. The switches for
logging may stand before or after the command. Short options may be joined, a value may be attached
to its option, and `--` ends the options. Asking for help or for the version ends the reading of
arguments, and so does the first mistake.
-/
namespace Testbed.CommandLine

inductive Format where
  | text | json
  deriving DecidableEq, Repr

/-- Whose help is asked for. -/
inductive Topic where
  | program | validate | plan | help
  deriving DecidableEq, Repr

/-- What a command line asks for. -/
inductive Command where
  | validate (runbook : String)
  | plan (runbook : String) (format : Format) (strict : Bool)
  | help (topic : Topic)
  | version
  deriving DecidableEq, Repr

/-- The levels of a command line: before a command, or inside of one. -/
inductive Level where
  | program | validate | plan
  deriving DecidableEq, Repr

def Level.topic : Level → Topic
  | program => .program
  | validate => .validate
  | plan => .plan

/-- The options of all levels. -/
inductive Flag where
  | verbose | json | strict | format | help | version
  deriving DecidableEq, Repr

/-- Whether a level knows an option. -/
def Flag.knownAt : Flag → Level → Bool
  | verbose, _ | json, _ | help, _ => true
  | strict, level | format, level => level = .plan
  | version, level => level = .program

def Flag.ofLong? : String → Option Flag
  | "verbose" => some verbose
  | "json" => some json
  | "strict" => some strict
  | "format" => some format
  | "help" => some help
  | "version" => some version
  | _ => none

def Flag.ofShort? : Char → Option Flag
  | 'v' => some verbose
  | 'f' => some format
  | 'h' => some help
  | 'V' => some version
  | _ => none

def Format.ofName? : String → Option Format
  | "text" => some .text
  | "json" => some .json
  | _ => none

/-- What the arguments of a level have given so far. -/
structure Given where
  switches : List Flag := []
  format : Option Format := none
  runbook : Option String := none
  deriving DecidableEq

/-- How a part of the command line turned out: the state goes on, or the reading is over with a
command, or there is a mistake. -/
inductive Progress where
  | go (given : Given)
  | over (command : Command)
  | mistake
  deriving DecidableEq

/-- Turn a switch on; no switch may be given twice. -/
def Given.switch (given : Given) (flag : Flag) : Progress :=
  if flag ∈ given.switches then .mistake
  else .go { given with switches := flag :: given.switches }

/-- Set the format; it may be set once. -/
def Given.setFormat (given : Given) (name : String) : Progress :=
  match given.format, Format.ofName? name with
  | none, some format => .go { given with format := some format }
  | _, _ => .mistake

/-- Set the runbook; it may be set once and is not empty. -/
def Given.setRunbook (given : Given) (path : String) : Progress :=
  if given.runbook.isSome ∨ path = "" then .mistake
  else .go { given with runbook := some path }

/-- An option that takes no value. -/
def bare (level : Level) (given : Given) : Flag → Progress
  | .help => .over (.help level.topic)
  | .version => .over .version
  | .format => .mistake
  | flag => given.switch flag

/-- Whether an argument stands for itself rather than for options. -/
def isPlain (argument : String) : Bool := argument = "-" || !argument.startsWith "-"

/-- What a group of short options does, and whether the last of them still needs its value. -/
def shorts (level : Level) (given : Given) : List Char → Progress × Bool
  | [] => (.go given, false)
  | c :: rest =>
    match Flag.ofShort? c with
    | none => (.mistake, false)
    | some flag =>
      if !flag.knownAt level then (.mistake, false)
      else if flag = .format then
        match rest with
        | [] => (.go given, true)
        | '=' :: value => (given.setFormat (String.ofList value), false)
        | value => (given.setFormat (String.ofList value), false)
      else match bare level given flag with
        | .go given => shorts level given rest
        | progress => (progress, false)

/-- A long option, from after its dashes, and whether it still needs its value. -/
def long (level : Level) (given : Given) (body : String) : Progress × Bool :=
  match body.splitOn "=" with
  | [] => (.mistake, false)
  | name :: value =>
    match Flag.ofLong? name, value with
    | none, _ => (.mistake, false)
    | some flag, [] =>
      if !flag.knownAt level then (.mistake, false)
      else if flag = .format then (.go given, true)
      else (bare level given flag, false)
    | some flag, value =>
      if flag.knownAt level ∧ flag = .format then
        (given.setFormat ("=".intercalate value), false)
      else (.mistake, false)

/-- The arguments of a command from where its options may still come. -/
def inside (level : Level) (given : Given) : List String → Progress
  | [] => .go given
  | "--" :: rest => positionals given rest
  | argument :: rest =>
    if isPlain argument then
      match given.setRunbook argument with
      | .go given => inside level given rest
      | progress => progress
    else
      let (progress, needsValue) :=
        if argument.startsWith "--" then long level given (argument.drop 2).toString
        else shorts level given (argument.toList.drop 1)
      match progress, needsValue, rest with
      | .go given, false, rest => inside level given rest
      | .go given, true, value :: rest =>
        if isPlain value then
          match given.setFormat value with
          | .go given => inside level given rest
          | progress => progress
        else .mistake
      | .go _, true, [] => .mistake
      | progress, _, _ => progress
where
  /-- Arguments after `--`, which all stand for themselves. -/
  positionals (given : Given) : List String → Progress
    | [] => .go given
    | argument :: rest =>
      match given.setRunbook argument with
      | .go given => positionals given rest
      | progress => progress

/-- The command of finished arguments; both commands need a runbook. -/
def finish (level : Level) : Progress → Option Command
  | .over command => some command
  | .mistake => none
  | .go given =>
    match level, given.runbook with
    | .validate, some path => some (.validate path)
    | .plan, some path =>
      some (.plan path (given.format.getD .text) (decide (Flag.strict ∈ given.switches)))
    | _, _ => none

/-- The topic that the arguments of the command `help` name. -/
def helpTopic : List String → Option Topic
  | [] => some .program
  | ["validate"] => some .validate
  | ["plan"] => some .plan
  | ["help"] => some .help
  | _ => none

/-- The arguments before a command and the command itself. -/
def atProgram (given : Given) : List String → Option Command
  | [] => none
  | argument :: rest =>
    if isPlain argument then
      match argument with
      | "validate" => finish .validate (inside .validate {} rest)
      | "plan" => finish .plan (inside .plan {} rest)
      | "help" => (helpTopic rest).map .help
      | _ => none
    else if argument = "--" then none
    else
      let (progress, _) :=
        if argument.startsWith "--" then long .program given (argument.drop 2).toString
        else shorts .program given (argument.toList.drop 1)
      match progress with
      | .go given => atProgram given rest
      | .over command => some command
      | .mistake => none

/-- What a list of arguments asks for; none when it is not a command line of this program. -/
def Command.ofArguments? (arguments : List String) : Option Command := atProgram {} arguments

end Testbed.CommandLine
