import LaunchDesk.Decimal.Numeral

/-!
# Shortest numerals

A binary number is written with the fewest digits that lie closer to it than to its neighbours.

## Implementation notes

A positive binary number is `m * 2 ^ q`. Every number between the midpoints to its two neighbours
rounds to it, the midpoints themselves if `m` is even. The grid of step `10 ^ k` has at most two
points next to the number that can lie in this interval, the one below and the one above. The
coarsest grid with such a point gives the fewest digits; the arithmetic is exact.
-/

namespace LaunchDesk.Decimal

/-- The choices that a format makes in writing a number. -/
structure NumberStyle where
  /-- Whether a value halfway between two shortest numerals takes the greater one, and not the even
  one. -/
  halfUp : Bool
  /-- Whether a number without a fraction gets `.0`. -/
  pointAlways : Bool
  /-- The decimal exponents, first and one past the last, that are written out in full; the others
  get a power of ten. Without a range all are written out. -/
  plain : Option (Int × Int)

/-- A positive binary number `mantissa * 2 ^ power`. -/
structure Binary where
  /-- The digits of the number in binary. -/
  mantissa : Nat
  /-- The weight of the last one. -/
  power : Int
  /-- Whether the neighbour below is half as far away as the one above. -/
  nearBelow : Bool

/-- The weight of the leading digit of a mantissa, which is not stored. -/
def hiddenBit : Nat := 0x10000000000000

/-- The weight of the sign. -/
def signBit : Nat := 0x8000000000000000

/-- Sign and size of a finite number. -/
def binaryOf (x : Float) : Bool × Binary :=
  let bits : Nat := x.toBits.toNat
  let e : Nat := bits / hiddenBit % 0x800
  let f : Nat := bits % hiddenBit
  (bits / signBit == 1,
    if e = 0 then ⟨f, -1074, false⟩
    else ⟨hiddenBit + f, (e : Int) - 1075, f == 0 && 1 < e⟩)

/-- The point of the grid of step `10 ^ k` that rounds to a number, as a multiple of the step. -/
def gridPoint? (b : Binary) (halfUp : Bool) (k : Int) : Option Nat :=
  let unit := b.power - 2
  let left := Nat.pow 2 unit.toNat * Nat.pow 10 (-k).toNat
  let right := Nat.pow 10 k.toNat * Nat.pow 2 (-unit).toNat
  let here := 4 * b.mantissa * left
  let low := (4 * b.mantissa - if b.nearBelow then 1 else 2) * left
  let high := (4 * b.mantissa + 2) * left
  let closed := b.mantissa % 2 == 0
  let below := here / right
  let fitsBelow := low < below * right || closed && low == below * right
  let fitsAbove := (below + 1) * right < high || closed && (below + 1) * right == high
  match fitsBelow, fitsAbove with
  | false, false => none
  | true, false => some below
  | false, true => some (below + 1)
  | true, true =>
      let toBelow := here - below * right
      let toAbove := (below + 1) * right - here
      if toBelow < toAbove then some below
      else if toAbove < toBelow then some (below + 1)
      else if halfUp || below % 2 == 1 then some (below + 1)
      else some below

/-- The first of some grids, from a coarse one down, that has a point; the steps run out below the
grid that tells all numbers apart. -/
def coarsest (b : Binary) (halfUp : Bool) : Nat → Int → Nat × Int
  | 0, k => ((gridPoint? b halfUp k).getD 0, k)
  | steps + 1, k =>
      match gridPoint? b halfUp k with
      | some c => (c, k)
      | none => coarsest b halfUp steps (k - 1)

/-- A power of ten above a number: `log₁₀ 2` is just below `0.30103`. -/
def powerAbove (b : Binary) : Int :=
  (((b.mantissa.log2 + 1 : Nat) : Int) + b.power) * 30103 / 100000 + 1

/-- The shortest digits of a number and the power of ten of the last one. -/
def shortest (b : Binary) (halfUp : Bool) : List Digit × Int :=
  if b.mantissa = 0 then ([.zero], 0)
  else
    let (c, k) := coarsest b halfUp 20 (powerAbove b)
    (digitsOf c, k)

/-- Zeros. -/
def zeros (n : Nat) : List Digit :=
  List.replicate n .zero

/-- Digits with a point before the last `places`, as whole part and fraction. -/
def splitPoint (digits : List Digit) (places : Nat) : List Digit × List Digit :=
  let padded := zeros (places + 1 - digits.length) ++ digits
  (padded.take (padded.length - places), padded.drop (padded.length - places))

/-- The numeral of a finite number in a style. -/
def Numeral.ofFloat (style : NumberStyle) (x : Float) : Numeral :=
  let (negative, b) := binaryOf x
  let (digits, k) := shortest b style.halfUp
  let e : Int := digits.length - 1 + k
  let plain := style.plain.all fun (first, last) => first ≤ e && e < last
  if plain then
    let (whole, fraction) :=
      if k < 0 then splitPoint digits (-k).toNat else (digits ++ zeros k.toNat, [])
    ⟨negative, whole,
      if fraction.isEmpty && style.pointAlways then [.zero] else fraction, none⟩
  else ⟨negative, digits.take 1, digits.drop 1, some e⟩

end LaunchDesk.Decimal
