import LaunchDesk.Text.Charset.JisChart
import LaunchDesk.Text.Charset.JisSupplementChart
import LaunchDesk.Text.Charset.Sequence

/-!
# The Japanese sets

Three ways to write the characters of one chart as bytes: with bytes of the upper half, with shifted
rows, and in seven bits, where escape sequences switch between sets.
-/

namespace LaunchDesk.Text.Charset.Japanese

/-- The halfwidth katakana with a number. -/
def katakana (n : Nat) : Char :=
  Char.ofNat (0xFF61 + n)

/-- The character of two bytes of the upper half. -/
def upperPair? (chart : Chart) (lead trail : UInt8) : Option Char :=
  if inSpan 0xA1 0xFE lead && inSpan 0xA1 0xFE trail then
    chart.cell? ((lead.toNat - 0xA1) * 94 + (trail.toNat - 0xA1))
  else none

/-- The first character of a byte string with bytes of the upper half. -/
def upperStep (a : UInt8) (rest : List UInt8) : Step :=
  if isAscii a then .one (Char.ofNat a.toNat) 0
  else if a = 0x8E then
    pairStep (fun b => if inSpan 0xA1 0xDF b then some [katakana (b.toNat - 0xA1)] else none) rest
  else if a = 0x8F then
    match rest with
    | b :: c :: _ =>
        if inSpan 0xA1 0xFE b then
          match upperPair? jisSupplementChart b c with
          | some char => .one char 2
          | none => .stray (if isAscii c then 1 else 2)
        else .stray (if isAscii b then 0 else 1)
    | [b] => .stray (if isAscii b then 0 else 1)
    | [] => .stray 0
  else if inSpan 0xA1 0xFE a then pairStep (fun b => (upperPair? jisChart a b).map ([·])) rest
  else .stray 0

/-- The character of two bytes with shifted rows. A part of the cells is for private use. -/
def shiftedPair? (lead trail : UInt8) : Option Char :=
  if inSpan 0x40 0x7E trail || inSpan 0x80 0xFC trail then
    let row := lead.toNat - (if lead < 0xA0 then 0x81 else 0xC1)
    let cell := row * 188 + trailPlace 0x41 trail
    if 8836 ≤ cell && cell ≤ 10715 then some (Char.ofNat (0xE000 + (cell - 8836)))
    else jisChart.cell? cell
  else none

/-- The first character of a byte string with shifted rows. -/
def shiftedStep (a : UInt8) (rest : List UInt8) : Step :=
  if a ≤ 0x80 then .one (Char.ofNat a.toNat) 0
  else if inSpan 0xA1 0xDF a then .one (katakana (a.toNat - 0xA1)) 0
  else if inSpan 0x81 0x9F a || inSpan 0xE0 0xFC a then
    pairStep (fun b => (shiftedPair? a b).map ([·])) rest
  else .stray 0

/-- The set that bytes of seven bits are in. -/
inductive Mode where
  | ascii
  /-- ASCII with the yen sign and the overline. -/
  | roman
  /-- Halfwidth katakana. -/
  | katakana
  /-- Two bytes for each character of the chart. -/
  | chart
  deriving DecidableEq, Repr

namespace Mode

/-- The set that an escape sequence switches to, by the two bytes behind the escape. -/
def ofEscape? : List UInt8 → Option Mode
  | 0x28 :: 0x42 :: _ => some ascii
  | 0x28 :: 0x4A :: _ => some roman
  | 0x28 :: 0x49 :: _ => some katakana
  | 0x24 :: 0x40 :: _ => some chart
  | 0x24 :: 0x42 :: _ => some chart
  | _ => none

/-- The character of a byte in a set of one byte for each. -/
def char? (mode : Mode) (b : UInt8) : Option Char :=
  match mode with
  | ascii => if isAscii b && b ≠ 0xE && b ≠ 0xF then some (Char.ofNat b.toNat) else none
  | roman =>
      if b = 0x5C then some '¥'
      else if b = 0x7E then some '‾'
      else if isAscii b && b ≠ 0xE && b ≠ 0xF then some (Char.ofNat b.toNat)
      else none
  | katakana =>
      if inSpan 0x21 0x5F b then some (Japanese.katakana (b.toNat - 0x21)) else none
  | chart => none

end Mode

/-- Whether a byte of seven bits may be one half of a character. -/
def isHalf (b : UInt8) : Bool :=
  inSpan 0x21 0x7E b

/-- A byte that is the first half of a character of seven bits. -/
def halfStep (a : UInt8) : List UInt8 → Step
  | [] => .stray 0
  | b :: _ =>
      if b = 0x1B then .stray 0
      else if isHalf b then
        .ofChar? (jisChart.cell? ((a.toNat - 0x21) * 94 + (b.toNat - 0x21))) 1
      else .stray 1

/-- The first character of a byte string of seven bits that is no escape. -/
def sevenStep (mode : Mode) (a : UInt8) (rest : List UInt8) : Step :=
  if mode = .chart && isHalf a then halfStep a rest else .ofChar? (mode.char? a) 0

/-- The characters of a byte string of seven bits. A switch right behind another one is a fault. -/
def sevenChars (mode : Mode) (switched : Bool) : List UInt8 → List Char
  | [] => []
  | a :: rest =>
      if a = 0x1B then
        match Mode.ofEscape? rest with
        | some next =>
            (if switched then [replacement] else []) ++ sevenChars next true (rest.drop 2)
        | none => replacement :: sevenChars mode false rest
      else
        let step := sevenStep mode a rest
        step.chars ++ sevenChars mode false (rest.drop step.behind)
  termination_by bytes => bytes.length
  decreasing_by
    all_goals simp only [List.length_drop, List.length_cons]
    all_goals omega

end LaunchDesk.Text.Charset.Japanese
