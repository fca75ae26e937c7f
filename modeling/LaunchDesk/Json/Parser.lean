import LaunchDesk.Json.Lexer

/-!
# Reading JSON

A document is read by a machine that takes one token at a time and keeps a stack of the arrays and
objects that are open.

## Implementation notes

The machine makes one step per token, so reading ends whatever the text is and however deep it
nests. What is open is kept with its parts in reverse; a bracket that closes it turns them round.
-/

namespace LaunchDesk.Json

open Text

/-- An array or object that is open around the place that is read. -/
inductive Frame where
  /-- An array with its items so far, the last one first. -/
  | list (items : List Json)
  /-- An object with its members so far, the last one first, and the name of the next. -/
  | record (members : List (Option String × Json)) (name : Option String)
  deriving Repr

/-- What the next token has to be. -/
inductive Reader where
  /-- The start of a value. -/
  | value (outer : List Frame)
  /-- The start of the first item of an array, or the end of the array. -/
  | firstItem (outer : List Frame)
  /-- The name of the first member of an object, or the end of the object. -/
  | firstName (outer : List Frame)
  /-- The name of a member behind others. -/
  | nextName (outer : List Frame) (members : List (Option String × Json))
  /-- The colon behind a name. -/
  | colon (outer : List Frame) (members : List (Option String × Json)) (name : Option String)
  /-- Anything that may follow a complete value. -/
  | after (outer : List Frame) (v : Json)
  deriving Repr

/-- The start of a value. -/
def beginValue (outer : List Frame) : Token → Option Reader
  | .null => some (.after outer .null)
  | .bool b => some (.after outer (.bool b))
  | .num n => some (.after outer (.num n))
  | .str s => some (.after outer (.str s))
  | .leftBracket => some (.firstItem outer)
  | .leftBrace => some (.firstName outer)
  | _ => none

/-- The token behind a complete value. -/
def afterValue (v : Json) : List Frame → Token → Option Reader
  | .list items :: outer, .comma => some (.value (.list (v :: items) :: outer))
  | .list items :: outer, .rightBracket => some (.after outer (.arr (v :: items).reverse))
  | .record members name :: outer, .comma => some (.nextName outer ((name, v) :: members))
  | .record members name :: outer, .rightBrace =>
      some (.after outer (.obj ((name, v) :: members).reverse))
  | _, _ => none

/-- One step of the machine. -/
def Reader.next : Reader → Token → Option Reader
  | .value outer, t => beginValue outer t
  | .firstItem outer, .rightBracket => some (.after outer (.arr []))
  | .firstItem outer, t => beginValue (.list [] :: outer) t
  | .firstName outer, .rightBrace => some (.after outer (.obj []))
  | .firstName outer, .str name => some (.colon outer [] name)
  | .firstName _, _ => none
  | .nextName outer members, .str name => some (.colon outer members name)
  | .nextName _ _, _ => none
  | .colon outer members name, .colon => some (.value (.record members name :: outer))
  | .colon _ _ _, _ => none
  | .after outer v, t => afterValue v outer t

/-- The steps of the machine on a list of tokens. -/
def Reader.run (reader : Reader) (tokens : List Token) : Option Reader :=
  tokens.foldlM Reader.next reader

/-- The document that is complete when the text ends. -/
def Reader.result? : Reader → Option Json
  | .after [] v => some v
  | _ => none

/-- The document of a list of tokens. -/
def ofTokens? (tokens : List Token) : Option Json :=
  ((Reader.value []).run tokens).bind Reader.result?

/-- The document of a text that may hold stray bytes. -/
def ofPieces? (input : List Piece) : Option Json :=
  (lex? input).bind ofTokens?

/-- The document of a text. -/
def parse? (s : String) : Option Json :=
  ofPieces? (textPieces s)

/-- The document of a byte string. -/
def ofBytes? (bytes : List UInt8) : Option Json :=
  ofPieces? (pieces bytes)

end LaunchDesk.Json
