import LaunchDesk.Path
import LaunchDesk.Text.Utf8

/-!
# The files at hand

The files that a program finds from the directory where it is started, and the reading of a text by
a path.

## Implementation notes

A path is walked step by step, and the first step that cannot be made is the reason of a failure. A
place is given by the steps that lead to it: from the working directory, or from the root behind a
slash as the first step. The directories above the working directory have no name here, only the way
up to them.
-/

namespace LaunchDesk

open Text

/-- What stands under a name. -/
inductive Entry where
  | file (content : List UInt8)
  | folder
  deriving DecidableEq, Repr

/-- The files at hand; a directory on the way to an entry need not be listed. -/
structure Folder where
  /-- The entries and the steps that lead to them. -/
  entries : List (List String × Entry)
  deriving DecidableEq, Repr

/-- Why a file cannot be read as a text. -/
inductive FileError where
  | missing
  | isFolder
  | notFolder
  | nameTooLong
  | nulInName
  | notText
  deriving DecidableEq, Repr

/-- The text of a file error. -/
def FileError.message : FileError → String
  | missing => "No such file or directory (os error 2)"
  | isFolder => "Is a directory (os error 21)"
  | notFolder => "Not a directory (os error 20)"
  | nameTooLong => "File name too long (os error 36)"
  | nulInName => "file name contained an unexpected NUL byte"
  | notText => "stream did not contain valid UTF-8"

namespace Folder

/-- The root. -/
def root : List String := ["/"]

/-- Whether some steps lead to the working directory or to one above it. -/
def isUpward (steps : List String) : Bool :=
  steps.all fun step => step == ".."

/-- What stands at the end of some steps. -/
def entry? (folder : Folder) (steps : List String) : Option Entry :=
  if steps = root ∨ isUpward steps then some .folder
  else
    match folder.entries.find? fun e => e.1 == steps with
    | some (_, entry) => some entry
    | none =>
        if folder.entries.any fun e => steps.isPrefixOf e.1 then some .folder else none

/-- The place above another one; above the root there is nothing but itself. -/
def above (steps : List String) : List String :=
  if steps = root then root
  else if isUpward steps then ".." :: steps
  else steps.dropLast

/-- The greatest number of bytes in a name. -/
def nameLimit : Nat := 255

/-- The number of bytes from which on a path is refused. -/
def pathLimit : Nat := 4096

/-- Look up a place under the name that stands last on the way to it. -/
def lookUp (folder : Folder) (steps : List String) (name : String) :
    Except FileError (List String) :=
  if name.utf8ByteSize > nameLimit then .error .nameTooLong
  else if (folder.entry? (steps ++ [name])).isSome then .ok (steps ++ [name])
  else .error .missing

/-- Make a step from a directory. -/
def stepFrom (folder : Folder) (steps : List String) (name : String) :
    Except FileError (List String) :=
  if name = "" ∨ name = "." then .ok steps
  else if name = ".." then .ok (above steps)
  else folder.lookUp steps name

/-- Make a step. -/
def step (folder : Folder) (steps : List String) (name : String) :
    Except FileError (List String) :=
  match folder.entry? steps with
  | some .folder => folder.stepFrom steps name
  | some (.file _) => .error .notFolder
  | none => .error .missing

/-- Walk along some names. -/
def walk (folder : Folder) : List String → List String → Except FileError (List String)
  | steps, [] => .ok steps
  | steps, name :: names =>
      match folder.step steps name with
      | .ok next => folder.walk next names
      | .error e => .error e

/-- The content of the file at a place. -/
def contentAt (folder : Folder) (steps : List String) : Except FileError (List UInt8) :=
  match folder.entry? steps with
  | some (.file content) => .ok content
  | some .folder => .error .isFolder
  | none => .error .missing

/-- The place where the walk along a path begins. -/
def startOf (path : String) : List String :=
  if path.toList.head? = some '/' then root else []

/-- The content of the file that a path leads to. -/
def read (folder : Folder) (path : String) : Except FileError (List UInt8) :=
  if path.toList.contains '\x00' then .error .nulInName
  else if path.isEmpty then .error .missing
  else if path.utf8ByteSize ≥ pathLimit then .error .nameTooLong
  else
    match folder.walk (startOf path) (Path.segments path) with
    | .ok steps => folder.contentAt steps
    | .error e => .error e

/-- The text in the file that a path leads to. -/
def readText (folder : Folder) (path : String) : Except FileError String :=
  match folder.read path with
  | .ok content =>
      match ofUtf8? content with
      | some text => .ok text
      | none => .error .notText
  | .error e => .error e

end Folder

end LaunchDesk
