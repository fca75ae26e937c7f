import LaunchDesk.Decimal.Numeral

/-!
# JSON documents

A document keeps what its text says: the order of members, repeated names, and numbers as they are
written. Only the spelling of strings and exponents and the blanks between tokens are forgotten.

## Implementation notes

A string can be well-formed and still name no text, because half of a surrogate pair is missing or
because its bytes are no characters. Such a string is `none`: it may stand where nobody looks at it,
and every reader of a used string refuses it.
-/

namespace LaunchDesk

open Decimal

/-- A JSON document. -/
inductive Json where
  | null
  | bool (b : Bool)
  | num (n : Numeral)
  | str (s : Option String)
  | arr (items : List Json)
  | obj (members : List (Option String × Json))
  deriving Repr, Inhabited

namespace Json

/-- The document of a text. -/
def text (s : String) : Json :=
  .str (some s)

/-- The document of a text that may be missing. -/
def text? (s : Option String) : Json :=
  s.elim .null text

/-- The document of a record with the given members. -/
def record (members : List (String × Json)) : Json :=
  .obj (members.map fun (name, v) => (some name, v))

/-- The document of a natural number. -/
def nat (n : Nat) : Json :=
  .num (Numeral.ofNat n)

/-- The value of the first member of a name. -/
def member? (doc : Json) (name : String) : Option Json :=
  match doc with
  | .obj members => (members.find? fun m => m.1 == some name).map (·.2)
  | _ => none

/-- The text that a document is, if it is one. -/
def asText? : Json → Option String
  | .str s => s
  | _ => none

end Json

/-- A token of a JSON text. -/
inductive Token where
  | leftBrace
  | rightBrace
  | leftBracket
  | rightBracket
  | comma
  | colon
  | null
  | bool (b : Bool)
  | num (n : Numeral)
  | str (s : Option String)
  deriving DecidableEq, Repr

namespace Json

/-- The tokens of a document. -/
def tokens : Json → List Token
  | .null => [.null]
  | .bool b => [.bool b]
  | .num n => [.num n]
  | .str s => [.str s]
  | .arr items => .leftBracket :: itemTokens items
  | .obj members => .leftBrace :: memberTokens members
where
  /-- The tokens behind a left bracket. -/
  itemTokens : List Json → List Token
    | [] => [.rightBracket]
    | v :: rest => v.tokens ++ moreItemTokens rest
  /-- The tokens behind an item. -/
  moreItemTokens : List Json → List Token
    | [] => [.rightBracket]
    | v :: rest => .comma :: v.tokens ++ moreItemTokens rest
  /-- The tokens behind a left brace. -/
  memberTokens : List (Option String × Json) → List Token
    | [] => [.rightBrace]
    | (name, v) :: rest => .str name :: .colon :: v.tokens ++ moreMemberTokens rest
  /-- The tokens behind a member. -/
  moreMemberTokens : List (Option String × Json) → List Token
    | [] => [.rightBrace]
    | (name, v) :: rest => .comma :: .str name :: .colon :: v.tokens ++ moreMemberTokens rest

end Json

end LaunchDesk
