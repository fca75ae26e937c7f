import LaunchDesk.Decimal.Digits

/-!
# Numerals

A number as it is written: sign, whole part, fraction and power of ten, each kept apart, so that
`1`, `1.0` and `1e0` stay three numerals of one value.

## Implementation notes

A binary number is not always what its numeral says. It is computed from the leading digits, as many
as fit into 64 bits, and one power of ten; each of the two is rounded to a binary number and so is
their product or quotient. For numerals of up to fifteen digits and small powers the result is the
number nearest to the numeral.
-/

namespace LaunchDesk.Decimal

/-- A written number. -/
structure Numeral where
  /-- Whether a minus sign stands in front. -/
  negative : Bool
  /-- The digits before the point. -/
  whole : List Digit
  /-- The digits after the point; none if there is no point. -/
  fraction : List Digit
  /-- The power of ten, if one is written. -/
  exponent : Option Int
  deriving DecidableEq, Repr

/-- The characters of a list of digits. -/
def digitChars (digits : List Digit) : List Char :=
  digits.map digitChar

/-- The text of a natural number. -/
def natText (n : Nat) : String :=
  String.ofList (digitChars (digitsOf n))

/-- An exponent with its sign, plus included. -/
def exponentChars (e : Int) : List Char :=
  'e' :: (if e < 0 then '-' else '+') :: digitChars (digitsOf e.natAbs)

/-- The characters of a numeral. -/
def Numeral.chars (n : Numeral) : List Char :=
  (if n.negative then ['-'] else []) ++ digitChars n.whole ++
    (if n.fraction.isEmpty then [] else '.' :: digitChars n.fraction) ++
    (n.exponent.elim [] exponentChars)

/-- The numeral of a natural number. -/
def Numeral.ofNat (n : Nat) : Numeral :=
  ⟨false, digitsOf n, [], none⟩

/-- The natural number that a numeral without sign, point and exponent shows. -/
def Numeral.nat? (n : Numeral) : Option Nat :=
  if n.negative || !n.fraction.isEmpty || n.exponent.isSome then none
  else some (value n.whole)

theorem Numeral.nat?_ofNat (n : Nat) : (Numeral.ofNat n).nat? = some n := by
  simp [Numeral.nat?, Numeral.ofNat, value_digitsOf]

/-- Append digits to a number as long as it stays below `2 ^ 64`; the digits that do not fit are
handed back. -/
def takeDigits (n : Nat) : List Digit → Nat × List Digit
  | [] => (n, [])
  | d :: rest =>
      if 10 * n + d.val < UInt64.size then takeDigits (10 * n + d.val) rest
      else (n, d :: rest)

/-- The largest power of ten that is a binary number. -/
def maxPower : Nat := 308

/-- A binary number times a power of ten; none if the product is too large. -/
def scale (x : Float) (e : Int) : Option Float :=
  if e.natAbs ≤ maxPower then
    if 0 ≤ e then
      let product := x * Float.ofScientific 1 false e.natAbs
      if product.isInf then none else some product
    else some (x / Float.ofScientific 1 false e.natAbs)
  else if x == 0 then some x
  else if 0 ≤ e then none
  else scale (x / Float.ofScientific 1 false maxPower) (e + maxPower)
  termination_by e.natAbs
  decreasing_by simp only [maxPower] at *; omega

/-- The binary number of a numeral; none if it is too large for one. -/
def Numeral.float? (n : Numeral) : Option Float :=
  let (head, skipped) := takeDigits 0 n.whole
  let (significand, unread) := takeDigits head n.fraction
  let e : Int := skipped.length - (n.fraction.length - unread.length : Nat) + n.exponent.getD 0
  (scale significand.toUInt64.toFloat e).map fun x => if n.negative then -x else x

end LaunchDesk.Decimal
