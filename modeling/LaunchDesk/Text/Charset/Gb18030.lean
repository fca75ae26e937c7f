import LaunchDesk.Text.Charset.Gb18030Chart
import LaunchDesk.Text.Charset.Sequence

/-!
# GB 18030

The Chinese set of one, two or four bytes for a character.

## Implementation notes

Characters of four bytes are numbered through. The numbers of the Basic Multilingual Plane come in
runs of neighbours, those of the supplementary planes are one long run.
-/

namespace LaunchDesk.Text.Charset.Gb18030

/-- The private character in a cell of the chart. -/
def privateChar? (cell : Nat) : Option Char :=
  (gb18030PrivateRuns.find? fun (first, count, _) => first ≤ cell && cell < first + count).map
    fun (first, _, point) => Char.ofNat (point + (cell - first))

/-- The character of two bytes. -/
def twoBytes? (lead trail : UInt8) : Option Char :=
  if inSpan 0x40 0x7E trail || inSpan 0x80 0xFE trail then
    let cell := (lead.toNat - 0x81) * 190 + trailPlace 0x41 trail
    (gb18030Chart.cell? cell).or (privateChar? cell)
  else none

/-- The character of four bytes with a number. -/
def numbered? (n : Nat) : Option Char :=
  if 189000 ≤ n then
    if n ≤ 1237575 then some (Char.ofNat (0x10000 + (n - 189000))) else none
  else if 39419 < n then none
  else if n = 7457 then some '\ue7c7'
  else
    (gb18030Runs.reverse.find? fun (first, _) => first ≤ n).map fun (first, point) =>
      Char.ofNat (point + (n - first))

/-- The number of a character of four bytes. -/
def number (a b c d : UInt8) : Nat :=
  (((a.toNat - 0x81) * 10 + (b.toNat - 0x30)) * 126 + (c.toNat - 0x81)) * 10 + (d.toNat - 0x30)

/-- Whether a byte is a digit. -/
def isDigit (b : UInt8) : Bool :=
  inSpan 0x30 0x39 b

/-- A first byte and a digit behind it. -/
def fourStep (a b : UInt8) : List UInt8 → Step
  | [] => .stray 1
  | c :: rest =>
      if inSpan 0x81 0xFE c then
        match rest with
        | [] => .stray 2
        | d :: _ => if isDigit d then .ofChar? (numbered? (number a b c d)) 3 else .stray 0
      else .stray 0

/-- The first character of a byte string. -/
def step (a : UInt8) (rest : List UInt8) : Step :=
  if isAscii a then .one (Char.ofNat a.toNat) 0
  else if a = 0x80 then .one '€' 0
  else if a = 0xFF then .stray 0
  else
    match rest with
    | b :: more =>
        if isDigit b then fourStep a b more else pairStep (fun b => (twoBytes? a b).map ([·])) rest
    | [] => .stray 0

end LaunchDesk.Text.Charset.Gb18030
