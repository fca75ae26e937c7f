import LaunchDesk.Text.Charset.KoreanChart
import LaunchDesk.Text.Charset.Sequence

/-!
# The Korean set

The set of one or two bytes for a character that has all Korean syllables.
-/

namespace LaunchDesk.Text.Charset.Korean

/-- The character of two bytes. -/
def twoBytes? (lead trail : UInt8) : Option Char :=
  if inSpan 0x41 0xFE trail then
    koreanChart.cell? ((lead.toNat - 0x81) * 190 + (trail.toNat - 0x41))
  else none

/-- The first character of a byte string. -/
def step (a : UInt8) (rest : List UInt8) : Step :=
  if isAscii a then .one (Char.ofNat a.toNat) 0
  else if inSpan 0x81 0xFE a then pairStep (fun b => (twoBytes? a b).map ([·])) rest
  else .stray 0

end LaunchDesk.Text.Charset.Korean
