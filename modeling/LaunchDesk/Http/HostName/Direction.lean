import LaunchDesk.Http.HostName.DirectionTable
import LaunchDesk.Text.Blank

/-!
# Names in two directions

Letters of some scripts are written from right to left. A name that has such letters could be shown
in an order that misleads, so all its parts have to be easy to tell apart.
-/

namespace LaunchDesk.Http.HostName

open Text

/-- The direction of a character. -/
inductive Direction where
  | rightward
  | leftward
  /-- A digit among leftward letters. -/
  | leftwardDigit
  /-- A digit that keeps its direction. -/
  | digit
  | neutral
  /-- A mark, which goes with its character. -/
  | carried
  deriving DecidableEq, Repr

/-- The direction of a character of a name. -/
def directionOf (c : Char) : Direction :=
  if c.isAlpha then .rightward
  else if c.isDigit then .digit
  else if c.toNat < 0x80 then .neutral
  else if inRanges leftwardRanges c then .leftward
  else if inRanges leftwardDigitRanges c then .leftwardDigit
  else if inRanges digitRanges c then .digit
  else if inRanges neutralRanges c then .neutral
  else if inRanges carriedRanges c then .carried
  else .rightward

/-- Whether a part of a name has anything leftward. -/
def hasLeftward (part : List Char) : Bool :=
  part.any fun c => directionOf c == .leftward || directionOf c == .leftwardDigit

/-- Whether a rightward part, given by the directions behind its first character, goes on and ends
rightward. -/
def staysRightward (behind : List Direction) : Bool :=
  behind.all (fun d => d != .leftward && d != .leftwardDigit) &&
    (behind.reverse.dropWhile (· == .carried)).head?.all fun d => d == .rightward || d == .digit

/-- Whether a leftward part goes on and ends leftward, with digits of one kind only. -/
def staysLeftward (behind : List Direction) : Bool :=
  behind.all (· != .rightward) && !(behind.contains .digit && behind.contains .leftwardDigit) &&
    (behind.reverse.dropWhile (· == .carried)).head?.all fun d => d != .neutral

/-- Whether a part may stand in a name that has something leftward. -/
def isOneWay (part : List Char) : Bool :=
  match part.map directionOf with
  | [] => true
  | .rightward :: behind => staysRightward behind
  | .leftward :: behind => staysLeftward behind
  | _ => false

end LaunchDesk.Http.HostName
