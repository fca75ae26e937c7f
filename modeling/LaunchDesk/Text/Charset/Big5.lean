import LaunchDesk.Text.Charset.Big5Chart
import LaunchDesk.Text.Charset.Sequence

/-!
# Big5

The traditional Chinese set of one or two bytes for a character, with the supplement of Hong Kong.
-/

namespace LaunchDesk.Text.Charset.Big5

/-- The letters with two signs, which are two characters each. -/
def letters : List (Nat × List Char) :=
  [(1133, ['\u00ca', '\u0304']), (1135, ['\u00ca', '\u030c']), (1164, ['\u00ea', '\u0304']),
    (1166, ['\u00ea', '\u030c'])]

/-- The characters of two bytes. -/
def twoBytes? (lead trail : UInt8) : Option (List Char) :=
  if inSpan 0x40 0x7E trail || inSpan 0xA1 0xFE trail then
    let cell := (lead.toNat - 0x81) * 157 + trailPlace 0x62 trail
    (letters.lookup cell).or ((big5Chart.cell? cell).map ([·]))
  else none

/-- The first character of a byte string. -/
def step (a : UInt8) (rest : List UInt8) : Step :=
  if isAscii a then .one (Char.ofNat a.toNat) 0
  else if inSpan 0x81 0xFE a then pairStep (twoBytes? a) rest
  else .stray 0

end LaunchDesk.Text.Charset.Big5
