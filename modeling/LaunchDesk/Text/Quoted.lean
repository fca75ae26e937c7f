import LaunchDesk.Text.Blank
import LaunchDesk.Text.Hex
import LaunchDesk.Text.HiddenTable

/-!
# Quoted text

A text between double quotes, written so that every character can be seen: a quote, a backslash
and a character without a shape of its own become escapes, all others stay as they are.
-/

namespace LaunchDesk.Text

/-- One character inside a quoted text. -/
def quotedChar (c : Char) : List Char :=
  if c = '\x00' then ['\\', '0']
  else if c = '\t' then ['\\', 't']
  else if c = '\r' then ['\\', 'r']
  else if c = '\n' then ['\\', 'n']
  else if c = '"' then ['\\', '"']
  else if c = '\\' then ['\\', '\\']
  else if c.toNat < 0x20 || c.toNat == 0x7F || inRanges hiddenRanges c then
    ['\\', 'u', '\x7b'] ++ hexDigits c.toNat ++ ['\x7d']
  else [c]

/-- A text in double quotes, with escapes for what could not be seen. -/
def quoted (s : String) : String :=
  String.ofList ('"' :: s.toList.flatMap quotedChar ++ ['"'])

end LaunchDesk.Text
