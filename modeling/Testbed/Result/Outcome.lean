import Testbed.Result.Status

/-!
# Skipped or failed

Some failures mean that a case could not run and not that it regressed. They are recognised by
fixed parts of their text.
-/
namespace Testbed

inductive Outcome where
  | skipped (reason : String)
  | failed (message : String)
  deriving DecidableEq

namespace Outcome

/-- Texts that mark a case as skipped, each with the reason that is reported instead. -/
def skipPatterns : List (String × String) := [
  ("no available size for resizing", "No available VM size for resizing."),
  ("cannot find current vm size in eligible list", "Current VM size not in eligible list.")]

/-- Whether a text has another one within it. -/
def occursIn (pattern : List Char) : List Char → Bool
  | [] => pattern.isEmpty
  | c :: rest => pattern.isPrefixOf (c :: rest) || occursIn pattern rest

/-- Classify the text of a failure. -/
def ofFailure (text : String) : Outcome :=
  match skipPatterns.find? (fun pattern => occursIn pattern.1.toList text.toList) with
  | some pattern => skipped pattern.2
  | none => failed text

def status : Outcome → TestStatus
  | skipped _ => .skipped
  | failed _ => .failed

def message : Outcome → String
  | skipped reason => reason
  | failed message => message

def toJson : Outcome → Json
  | skipped reason => .object [("outcome", .string "skipped"), ("reason", .string reason)]
  | failed message => .object [("outcome", .string "failed"), ("message", .string message)]

end Outcome

end Testbed
