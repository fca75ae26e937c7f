import LaunchDesk.Text.Utf8

/-!
# UTF-16

Byte strings as text in units of 16 bits.
-/

namespace LaunchDesk.Text.Charset.Utf16

/-- The 16-bit units of a byte string; a byte that is left over is no unit. -/
def units (lowFirst : Bool) : List UInt8 → List (Option Nat)
  | [] => []
  | [_] => [none]
  | a :: b :: rest =>
      some (if lowFirst then a.toNat + 256 * b.toNat else 256 * a.toNat + b.toNat) ::
        units lowFirst rest

/-- Whether a unit is the first half of a pair. -/
def isHigh (n : Nat) : Bool :=
  0xD800 ≤ n && n < 0xDC00

/-- Whether a unit is the second half of a pair. -/
def isLow (n : Nat) : Bool :=
  0xDC00 ≤ n && n < 0xE000

/-- The characters of units; a half without the other one is replaced. -/
def unitChars : List (Option Nat) → List Char
  | [] => []
  | none :: rest => replacement :: unitChars rest
  | [some n] => [if isHigh n || isLow n then replacement else Char.ofNat n]
  | some n :: none :: rest =>
      if isHigh n then replacement :: unitChars rest
      else (if isLow n then replacement else Char.ofNat n) :: replacement :: unitChars rest
  | some n :: some m :: rest =>
      if isHigh n then
        if isLow m then
          Char.ofNat (0x10000 + 1024 * (n - 0xD800) + (m - 0xDC00)) :: unitChars rest
        else replacement :: unitChars (some m :: rest)
      else (if isLow n then replacement else Char.ofNat n) :: unitChars (some m :: rest)

/-- The characters of a byte string. -/
def chars (lowFirst : Bool) (bytes : List UInt8) : List Char :=
  unitChars (units lowFirst bytes)

end LaunchDesk.Text.Charset.Utf16
