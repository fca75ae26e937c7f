/-!
# Words of a command line

What the spelling of a word says, whatever stands around it.
-/

namespace LaunchDesk.CommandLine

/-- A word by its spelling. -/
inductive Word where
  /-- The mark behind which there are no options. -/
  | mark
  /-- An option by its long name, with what follows an equals sign. -/
  | long (name : List Char) (attached : Option (List Char))
  /-- An option by its letter, with what follows in the same word. -/
  | short (letter : Char) (rest : List Char)
  /-- Any other word; a single dash is one. -/
  | plain
  deriving DecidableEq, Repr

namespace Word

/-- The meaning of what follows two dashes. -/
def ofLong (s : List Char) : Word :=
  let name := s.takeWhile (· ≠ '=')
  .long name (s.dropWhile (· ≠ '=')).tail?

/-- The meaning of the spelling of a word. -/
def ofChars : List Char → Word
  | ['-', '-'] => .mark
  | '-' :: '-' :: rest => ofLong rest
  | '-' :: letter :: rest => .short letter rest
  | _ => .plain

/-- The meaning of the spelling of a word. -/
def of (w : String) : Word :=
  ofChars w.toList

end Word

end LaunchDesk.CommandLine
