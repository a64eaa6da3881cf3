import Testbed.Data.Dict

/-!
# Files

A working directory with text files and directories in it, and the ways in which looking a path up
in it fails. Paths are relative to the working directory; whatever lies outside of it is not there.
-/
namespace Testbed

/-- Why a file operation failed. -/
inductive FileError where
  | notFound | isDirectory | notDirectory | nameTooLong | nulInName
  deriving DecidableEq, Repr

/-- The wording of a file error. -/
def FileError.message : FileError → String
  | notFound => "No such file or directory (os error 2)"
  | isDirectory => "Is a directory (os error 21)"
  | notDirectory => "Not a directory (os error 20)"
  | nameTooLong => "File name too long (os error 36)"
  | nulInName => "file name contained an unexpected NUL byte"

/-- What a path leads to. -/
inductive FileEntry where
  | text (content : String)
  | directory
  deriving DecidableEq

/-- The entries below a working directory by their path from it. -/
abbrev Files := Dict String FileEntry

namespace Files

/-- Where a path leads: to the working directory or a directory in it, to a file, to a place where
nothing is, or nowhere. -/
inductive Target where
  | directory
  | file (path content : String)
  | vacant (path : String)
  | unreachable (error : FileError)
  deriving DecidableEq

/-- Follow the components of a path from a directory, given by its components with the innermost
first. A path that ends with a slash has an empty last component and must lead to a directory. -/
def follow (files : Files) (above : List String) : List String → Target
  | [] => .directory
  | component :: rest =>
    if component = "" ∨ component = "." then follow files above rest
    else if component = ".." then
      match above with
      | [] => .unreachable .notFound
      | _ :: outer => follow files outer rest
    else if 255 < component.utf8ByteSize then .unreachable .nameTooLong
    else
      let path := "/".intercalate (component :: above).reverse
      match files.get? path with
      | some .directory => follow files (component :: above) rest
      | some (.text content) =>
        if rest.isEmpty then .file path content else .unreachable .notDirectory
      | none => if rest.isEmpty then .vacant path else .unreachable .notFound

/-- Where a path leads. -/
def target (files : Files) (path : String) : Target :=
  if path = "" then .unreachable .notFound
  else if path.toList.contains '\x00' then .unreachable .nulInName
  else if path.startsWith "/" then
    if path.toList.all (· == '/') then .directory else .unreachable .notFound
  else follow files [] (path.splitOn "/")

/-- The content of a file. -/
def read (files : Files) (path : String) : Except FileError String :=
  match files.target path with
  | .file _ content => .ok content
  | .directory => .error .isDirectory
  | .vacant _ => .error .notFound
  | .unreachable error => .error error

/-- Whether anything is at a path. -/
def occupied (files : Files) (path : String) : Except FileError Bool :=
  match files.target path with
  | .file .. | .directory => .ok true
  | .vacant _ | .unreachable .notFound => .ok false
  | .unreachable error => .error error

/-- Put a text at a path, in place of the file that is there. -/
def write (files : Files) (path content : String) : Except FileError Files :=
  match files.target path with
  | .file path _ | .vacant path => .ok (files.insert path (.text content))
  | .directory => .error .isDirectory
  | .unreachable error => .error error

/-- Make sure that a path is a file, empty when it was not there. -/
def touch (files : Files) (path : String) : Except FileError Files :=
  match files.target path with
  | .file .. => .ok files
  | .vacant path => .ok (files.insert path (.text ""))
  | .directory => .error .isDirectory
  | .unreachable error => .error error

/-- Put text behind the content of a file. -/
def append (files : Files) (path text : String) : Files :=
  match files.target path with
  | .file path content => files.insert path (.text (content ++ text))
  | _ => files

/-- Take a file away. -/
def remove (files : Files) (path : String) : Except FileError Files :=
  match files.target path with
  | .file path _ => .ok (files.erase path)
  | .directory => .error .isDirectory
  | .vacant _ => .error .notFound
  | .unreachable error => .error error

end Files

end Testbed
