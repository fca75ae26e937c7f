import LaunchDesk.CommandLine.Grammar
import LaunchDesk.CommandLine.Word

/-!
# Reading a command line

The words are read from left to right, level by level. What a word is depends on the words before it
only through the state of its level.

## Implementation notes

An option without its value, or file names that could go on, are pending. They are checked when
something else begins or when the words end; a fault that is found before wins. A level below is
read to its end before what is pending above it is checked.
-/

namespace LaunchDesk.CommandLine

/-- What is not yet settled at a level. -/
inductive Pending where
  /-- Nothing. -/
  | nothing
  /-- An option, with its value if that has come. -/
  | option (o : Opt) (value : Option String)
  /-- File names. -/
  | files (names : List String)
  deriving DecidableEq, Repr

/-- What is given at a level. -/
structure Given where
  /-- The options and their values. -/
  options : List (Opt × String)
  /-- The file names. -/
  files : List String
  deriving DecidableEq, Repr

/-- The value of an option, if it is given. -/
def Given.value? (g : Given) (o : Opt) : Option String :=
  (g.options.find? fun p => p.1 == o).map (·.2)

/-- How far a level has been read. -/
structure State where
  /-- What is settled. -/
  given : Given
  /-- What is not. -/
  pending : Pending
  /-- Whether the mark has been passed behind which there are no options. -/
  marked : Bool
  /-- Whether an option or a file name has been seen. -/
  begun : Bool
  deriving DecidableEq, Repr

namespace State

/-- The state before the first word. -/
def start : State :=
  ⟨⟨[], []⟩, .nothing, false, false⟩

/-- Whether the next word is the value of an option. -/
def awaitsValue (s : State) : Bool :=
  match s.pending with
  | .option _ none => true
  | _ => false

/-- Take the value of an option, with nothing else pending. -/
def take (s : State) (o : Opt) (value : String) : Except Fault State :=
  if (s.given.value? o).isSome then .error .argumentConflict
  else if o.accepts value then
    .ok { s with
      given := { s.given with options := s.given.options ++ [(o, value)] }
      pending := .nothing }
  else .error .invalidValue

/-- Settle what is pending. -/
def settle (s : State) : Except Fault State :=
  match s.pending with
  | .nothing => .ok s
  | .option _ none => .error .invalidValue
  | .option o (some value) => s.take o value
  | .files names =>
      if names.contains "" then .error .invalidValue
      else .ok { s with
        given := { s.given with files := s.given.files ++ names }
        pending := .nothing }

/-- Begin an option, whose value may be attached to it. -/
def beginOption (s : State) (o : Opt) (attached : Option String) : Except Fault State := do
  let s ← settle { s with begun := true }
  match attached with
  | some value => s.take o value
  | none => return { s with pending := .option o none }

/-- Ask for help. -/
def askHelp (s : State) : Except Fault State := do
  let _ ← s.settle
  .error .help

/-- Read an option by its long name. -/
def readLong (level : Level) (s : State) (name : List Char) (attached : Option (List Char)) :
    Except Fault State :=
  match level.longOption? name with
  | some o => s.beginOption o (attached.map String.ofList)
  | none =>
      if name = "help".toList then
        if attached.isSome then .error .tooManyValues else s.askHelp
      else .error .unknownArgument

/-- The value attached to a letter; an equals sign between them is no part of it. -/
def attachedValue? : List Char → Option String
  | [] => none
  | '=' :: value => some (String.ofList value)
  | value => some (String.ofList value)

/-- Read an option by its letter. -/
def readShort (level : Level) (s : State) (letter : Char) (rest : List Char) :
    Except Fault State :=
  match level.shortOption? letter with
  | some o => s.beginOption o (attachedValue? rest)
  | none => if letter = 'h' then s.askHelp else .error .unknownArgument

/-- Read a file name. -/
def readFile (s : State) (name : String) : Except Fault State :=
  match s.pending with
  | .files names => .ok { s with pending := .files (names ++ [name]), begun := true }
  | _ => do
      let s ← s.settle
      return { s with pending := .files [name], begun := true }

/-- Read a word that belongs to no option. -/
def readPositional (level : Level) (s : State) (word : String) : Except Fault State :=
  if level.takesFiles then s.readFile word
  else if s.marked && (level.subcommand? word).isSome then .error .unknownArgument
  else .error .invalidSubcommand

/-- Read a word that is no subcommand. -/
def read (level : Level) (s : State) (word : String) : Except Fault State :=
  if s.marked then s.readPositional level word
  else
    match Word.of word with
    | .mark => .ok { s with marked := true }
    | .long name attached => s.readLong level name attached
    | .short letter rest => s.readShort level letter rest
    | .plain =>
        match s.pending with
        | .option o none => .ok { s with pending := .option o (some word) }
        | _ => s.readPositional level word

/-- The subcommand that a word is in a state, if it can be one there. -/
def subcommand? (level : Level) (s : State) (word : String) : Option Subcommand :=
  if s.marked || s.awaitsValue || (level.subcommandFirst && s.begun) then none
  else level.subcommand? word

end State

/-- Help on a level, or on what some names lead to from there. -/
def helpOn : Level → List String → Fault
  | _, [] => .help
  | level, name :: names =>
      match level.subcommand? name with
      | some (.level below) => helpOn below names
      | some .help => if names.isEmpty then .help else .invalidSubcommand
      | none => .invalidSubcommand

/-- Read the rest of a level and all levels below it; the result has what is given at each of
them. -/
def readLevel (level : Level) (s : State) : List String → Except Fault (List (Level × Given))
  | [] => do
      let s ← s.settle
      return [(level, s.given)]
  | word :: words =>
      match s.subcommand? level word with
      | some .help => .error (helpOn level words)
      | some (.level below) => do
          let inner ← readLevel below .start words
          let s ← s.settle
          return (level, s.given) :: inner
      | none => do
          let s ← s.read level word
          readLevel level s words

/-- Read the words of a command line. -/
def read (words : List String) : Except Fault (List (Level × Given)) :=
  readLevel .program .start words

end LaunchDesk.CommandLine
