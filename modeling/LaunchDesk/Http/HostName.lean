import LaunchDesk.Http.HostName.Direction
import LaunchDesk.Http.HostName.JoiningTable
import LaunchDesk.Http.HostName.SpellingTable
import LaunchDesk.Text.Composed
import LaunchDesk.Text.Punycode
import LaunchDesk.Text.Split

/-!
# Host names

The name of a host has one spelling for all the ways in which it can be written, and that spelling
is ASCII.

## Implementation notes

A part of a name with characters beyond ASCII is marked by a prefix and spelled in Punycode. A part
that is written with the prefix already has to be one that could be spelled like this.
-/

namespace LaunchDesk.Http.HostName

open Text

/-- The spelling of a character in a name, if a name can have it. -/
def respelled? (c : Char) : Option (List Char) :=
  if c.toNat < 0x80 then some [c.toLower]
  else if inRanges barredRanges c then none
  else if inRanges droppedRanges c then some []
  else
    (respelledRows.findSome? fun (row, spellings) => do
        let i ← row.toList.idxOf? c
        return [← spellings.toList[i]?]).or
      (respelledWords.findSome? fun word =>
        if word.toList.head? = some c then some word.toList.tail else none) |>.getD [c] |> some

/-- The composed spelling of a text in a name, if a name can have it. -/
def respelledText? (s : List Char) : Option (List Char) :=
  (s.mapM respelled?).map fun spellings => composed spellings.flatten

/-- The class of the signs that suppress a vowel, behind which a joiner has a meaning. -/
def suppressorClass : Nat := 9

/-- Whether a joiner or a divider between two texts has a meaning there. The first text leads away
from it. -/
def joinsThere (c : Char) (before behind : List Char) : Bool :=
  (before.head?.any fun d => signClass d == suppressorClass) ||
    (c == '\u200c' &&
      ((before.dropWhile fun d => directionOf d == .carried).head?.any
        (inRanges joinsBehindRanges)) &&
      ((behind.dropWhile fun d => directionOf d == .carried).head?.any
        (inRanges joinsBeforeRanges)))

/-- Whether all joiners and dividers of a text behind another one have a meaning where they are. -/
def joinersFit (before : List Char) : List Char → Bool
  | [] => true
  | c :: rest =>
      ((c != '\u200c' && c != '\u200d') || joinsThere c before rest) &&
        joinersFit (c :: before) rest

/-- Whether a part with characters beyond ASCII is well formed. -/
def isWellFormed (part : List Char) : Bool :=
  !(part.head?.any (inRanges markRanges)) && joinersFit [] part

/-- Whether a text is plain ASCII. -/
def isPlain (s : List Char) : Bool :=
  s.all fun c => c.toNat < 0x80

/-- The prefix of a part that is spelled in Punycode. -/
def mark : List Char :=
  ['x', 'n', '-', '-']

/-- A part of a name as it is read and as it is spelled. -/
structure Part where
  /-- As it is read. -/
  shown : List Char
  /-- As it is spelled. -/
  spelled : List Char

/-- A part of a name in its composed spelling. -/
def part? (s : List Char) : Option Part :=
  if mark.isPrefixOf s then do
    let shown ← Punycode.decode? (s.drop mark.length)
    if isPlain shown || respelledText? shown != some shown || !isWellFormed shown then none
    else some ⟨shown, s⟩
  else if isPlain s then some ⟨s, s⟩
  else if isWellFormed s then some ⟨s, mark ++ Punycode.encode s⟩
  else none

/-- The ASCII spelling of a name, if it has one. -/
def ascii? (name : String) : Option (List Char) := do
  let parts ← (splitAt '.' (← respelledText? name.toList)).mapM part?
  let shown := parts.map Part.shown
  if shown.any hasLeftward && !(shown.all isOneWay) then none
  else some (List.intercalate ['.'] (parts.map Part.spelled))

end LaunchDesk.Http.HostName
