import LaunchDesk.Text.Utf8

/-!
# Sets of several bytes for a character

A byte string is read character by character. A step looks at the first byte and at those behind
it, and says what they show and how many of those behind belong to it.

## Implementation notes

Bytes that show no character are replaced together by one sign, but an ASCII byte behind a first
byte never gets lost this way: it is read again on its own.
-/

namespace LaunchDesk.Text.Charset

/-- What the bytes at the start of a byte string show. -/
structure Step where
  /-- The characters that they show. -/
  chars : List Char
  /-- The number of bytes behind the first one that they take. -/
  behind : Nat
  deriving DecidableEq, Repr

namespace Step

/-- A character. -/
def one (c : Char) (behind : Nat) : Step :=
  ⟨[c], behind⟩

/-- Bytes that show no character. -/
def stray (behind : Nat) : Step :=
  ⟨[replacement], behind⟩

/-- The character that bytes show, if they show one. -/
def ofChar? (c : Option Char) (behind : Nat) : Step :=
  one (c.getD replacement) behind

end Step

/-- The characters of a byte string that is read by steps. -/
def readSteps (step : UInt8 → List UInt8 → Step) : List UInt8 → List Char
  | [] => []
  | b :: rest => (step b rest).chars ++ readSteps step (rest.drop (step b rest).behind)
  termination_by bytes => bytes.length
  decreasing_by
    simp only [List.length_drop, List.length_cons]
    omega

/-- Whether a byte lies between two bounds. -/
def inSpan (first last : UInt8) (b : UInt8) : Bool :=
  first ≤ b && b ≤ last

/-- Whether a byte is ASCII. -/
def isAscii (b : UInt8) : Bool :=
  b < 0x80

/-- A first byte that needs a second one; `pair` says which characters the two show. -/
def pairStep (pair : UInt8 → Option (List Char)) : List UInt8 → Step
  | [] => .stray 0
  | b :: _ =>
      match pair b with
      | some cs => ⟨cs, 1⟩
      | none => .stray (if isAscii b then 0 else 1)

/-- The place of a second byte among those that may follow a first one, of which the upper run
starts `gap` behind the lower one. -/
def trailPlace (gap : Nat) (b : UInt8) : Nat :=
  if b < 0x7F then b.toNat - 0x40 else b.toNat - gap

end LaunchDesk.Text.Charset
