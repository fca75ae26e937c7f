/-!
# Punycode

Names with characters beyond ASCII, spelled in ASCII.

## Implementation notes

The characters beyond ASCII are inserted in the order of their code points; each insertion is a
number that says how far it is from the one before, written in digits whose weights adapt to the
numbers seen so far.
-/

namespace LaunchDesk.Text.Punycode

/-- A digit of base 36. -/
def digitChar (d : Nat) : Char :=
  if d < 26 then Char.ofNat (97 + d) else Char.ofNat (22 + d)

/-- Shrink a distance until it fits, and count the steps. -/
def shrink (delta k : Nat) : Nat :=
  if delta > 455 then shrink (delta / 35) (k + 36) else k + 36 * delta / (delta + 38)
  termination_by delta
  decreasing_by exact Nat.div_lt_self (by omega) (by omega)

/-- The bias after a distance has been written. -/
def adapt (delta points : Nat) (first : Bool) : Nat :=
  let delta := if first then delta / 700 else delta / 2
  shrink (delta + delta / points) 0

/-- The digit limit at a position. -/
def threshold (k bias : Nat) : Nat :=
  if k ≤ bias + 1 then 1 else if k ≥ bias + 26 then 26 else k - bias

theorem threshold_bounds (k bias : Nat) : 1 ≤ threshold k bias ∧ threshold k bias ≤ 26 := by
  unfold threshold
  repeat' split
  all_goals omega

/-- A distance in digits. -/
def digits (q k bias : Nat) : List Char :=
  let t := threshold k bias
  if q < t then [digitChar q]
  else digitChar (t + (q - t) % (36 - t)) :: digits ((q - t) / (36 - t)) (k + 36) bias
  termination_by q
  decreasing_by
    have := threshold_bounds k bias
    have : (q - threshold k bias) / (36 - threshold k bias) ≤ q - threshold k bias :=
      Nat.div_le_self _ _
    omega

/-- How far the writing of a name has come. -/
structure State where
  /-- The next code point that could be inserted. -/
  next : Nat
  /-- The distance since the last insertion. -/
  delta : Nat
  /-- The bias. -/
  bias : Nat
  /-- The number of characters written. -/
  written : Nat
  /-- The text. -/
  output : List Char

/-- Pass one character of a name while a code point is inserted. -/
def pass (basic point : Nat) (s : State) (c : Nat) : State :=
  if c < point then { s with delta := s.delta + 1 }
  else if c = point then
    { s with
      delta := 0
      bias := adapt s.delta (s.written + 1) (s.written == basic)
      written := s.written + 1
      output := s.output ++ digits s.delta 36 s.bias }
  else s

/-- Insert a code point wherever a name has it. -/
def insertPoint (name : List Nat) (basic : Nat) (s : State) (point : Nat) : State :=
  let s := { s with delta := s.delta + (point - s.next) * (s.written + 1) }
  let s := name.foldl (pass basic point) s
  { s with delta := s.delta + 1, next := point + 1 }

/-- The ASCII spelling of a name. -/
def encode (name : List Char) : List Char :=
  let points := name.map Char.toNat
  let basic := name.filter fun c => c.toNat < 128
  let start := if basic.isEmpty then [] else basic ++ ['-']
  let others := ((points.filter fun n => 128 ≤ n).mergeSort).eraseDups
  (others.foldl (insertPoint points basic.length) ⟨128, 0, 72, basic.length, start⟩).output

/-! ## Reading -/

/-- The value of a digit of base 36. -/
def digit? (c : Char) : Option Nat :=
  let n := c.toNat
  if 97 ≤ n ∧ n ≤ 122 then some (n - 97)
  else if 48 ≤ n ∧ n ≤ 57 then some (n - 22)
  else none

/-- How far the reading of a name has come. -/
structure Reader where
  /-- The code point that was inserted last. -/
  point : Nat
  /-- The place that the distance leads to so far. -/
  place : Nat
  /-- The place from which it was counted. -/
  start : Nat
  /-- The bias. -/
  bias : Nat
  /-- The weight of the next digit. -/
  weight : Nat
  /-- The position of the next digit, in steps of 36; 36 in front of a distance. -/
  position : Nat
  /-- The name so far. -/
  name : List Char

/-- The largest number that a distance or a weight may be. -/
def largest : Nat := 4294967295

/-- Insert the code point that a finished distance leads to. -/
def Reader.insert? (r : Reader) : Option Reader :=
  let count := r.name.length + 1
  let point := r.point + r.place / count
  let place := r.place % count
  if point.isValidChar then
    some
      { point := point
        place := place + 1
        start := place + 1
        bias := adapt (r.place - r.start) count (r.start == 0)
        weight := 1
        position := 36
        name := r.name.take place ++ Char.ofNat point :: r.name.drop place }
  else none

/-- Read a digit. -/
def Reader.step? (r : Reader) (c : Char) : Option Reader := do
  let d ← digit? c
  let t := threshold r.position r.bias
  let r := { r with place := r.place + d * r.weight }
  if largest < r.place then none
  else if d < t then r.insert?
  else if largest < r.weight * (36 - t) then none
  else some { r with weight := r.weight * (36 - t), position := r.position + 36 }

/-- The ASCII characters of a name and its digits, on both sides of the last hyphen. A hyphen at the
start is no mark. -/
def splitBasic (s : List Char) : List Char × List Char :=
  let digits := (s.reverse.takeWhile (· ≠ '-')).reverse
  let basic := s.take (s.length - digits.length - 1)
  if basic.isEmpty then ([], s) else (basic, digits)

/-- The name that has an ASCII spelling. -/
def decode? (s : List Char) : Option (List Char) := do
  let (basic, digits) := splitBasic s
  let r ← digits.foldlM Reader.step? ⟨128, 0, 0, 72, 1, 36, basic⟩
  if r.position = 36 then some r.name else none

end LaunchDesk.Text.Punycode
