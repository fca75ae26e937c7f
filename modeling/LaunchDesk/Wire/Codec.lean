import LaunchDesk.Decimal.Shortest
import LaunchDesk.Json.Basic

/-!
# Codecs

How a value of a type is read from a JSON document and written to one.
-/

namespace LaunchDesk

open Decimal

/-- A reader and a writer of the values of a type. -/
structure Codec (α : Type) where
  /-- The value of a document, if the document has the form of one. -/
  read? : Json → Option α
  /-- The document of a value. -/
  write : α → Json

namespace Codec

/-- Numbers in JSON text have the fewest digits, always a fraction unless a power of ten is written,
and a power of ten outside of `10 ^ -5` to `10 ^ 16`. -/
def numberStyle : NumberStyle :=
  ⟨false, true, some (-5, 16)⟩

/-- Texts are strings. -/
def string : Codec String where
  read? := Json.asText?
  write := Json.text

/-- Truth values are literals. -/
def bool : Codec Bool where
  read?
    | .bool b => some b
    | _ => none
  write := .bool

/-- Counts are integers of 32 bits, written without sign, point and exponent. -/
def count : Codec UInt32 where
  read?
    | .num n => n.nat?.bind fun k => if k < UInt32.size then some (UInt32.ofNat k) else none
    | _ => none
  write n := Json.nat n.toNat

/-- Amounts are numbers of any form. There is no numeral for what is not finite, and `null` is
written for it. -/
def amount : Codec Float where
  read?
    | .num n => n.float?
    | _ => none
  write x := if x.isFinite then .num (Numeral.ofFloat numberStyle x) else .null

/-- A value that may be missing; `null` says that it is. -/
def optional {α : Type} (codec : Codec α) : Codec (Option α) where
  read?
    | .null => some none
    | doc => (codec.read? doc).map some
  write
    | none => .null
    | some a => codec.write a

/-- A list of values; one bad item spoils it. -/
def list {α : Type} (codec : Codec α) : Codec (List α) where
  read?
    | .arr items => items.mapM codec.read?
    | _ => none
  write as := .arr (as.map codec.write)

end Codec

end LaunchDesk
