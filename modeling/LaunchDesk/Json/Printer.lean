import LaunchDesk.Json.Basic
import LaunchDesk.Text.Hex

/-!
# JSON text

Documents as compact text, without a blank between tokens.

## Implementation notes

In a string only the quote, the backslash and the characters below the blank are escaped, the usual
five of the latter with a letter of their own; everything else stands for itself.
-/

namespace LaunchDesk.Json

open Decimal Text

/-- A character inside a JSON string. -/
def escapedChar (c : Char) : List Char :=
  if c = '"' then ['\\', '"']
  else if c = '\\' then ['\\', '\\']
  else if c.toNat = 0x8 then ['\\', 'b']
  else if c.toNat = 0xC then ['\\', 'f']
  else if c = '\n' then ['\\', 'n']
  else if c = '\r' then ['\\', 'r']
  else if c = '\t' then ['\\', 't']
  else if c.toNat < 0x20 then
    ['\\', 'u', '0', '0', hexChar (c.toNat / 16), hexChar (c.toNat % 16)]
  else [c]

/-- A text as a JSON string. -/
def stringChars (s : String) : List Char :=
  '"' :: s.toList.flatMap escapedChar ++ ['"']

/-- The characters of a token. -/
def tokenChars : Token → List Char
  | .leftBrace => ['\x7b']
  | .rightBrace => ['\x7d']
  | .leftBracket => ['[']
  | .rightBracket => [']']
  | .comma => [',']
  | .colon => [':']
  | .null => ['n', 'u', 'l', 'l']
  | .bool true => ['t', 'r', 'u', 'e']
  | .bool false => ['f', 'a', 'l', 's', 'e']
  | .num n => n.chars
  | .str s => stringChars (s.getD "")

/-- The characters of a document. -/
def chars (doc : Json) : List Char :=
  doc.tokens.flatMap tokenChars

/-- The text of a document. -/
def render (doc : Json) : String :=
  String.ofList doc.chars

end LaunchDesk.Json
