/-!
# UTF-8

Byte strings as text: strictly, when every byte must belong to a character, and leniently, when what
belongs to none is kept apart.

## Implementation notes

A byte string is cut into pieces without look-ahead: a piece is a character or the longest start
of one that then breaks off. No piece ever swallows an ASCII byte that it does not stand for, so a
grammar whose signs are ASCII can be read piece by piece even in a text that is damaged elsewhere.
-/

namespace LaunchDesk.Text

/-- A piece of a byte string. -/
inductive Piece where
  /-- A well-formed character. -/
  | char (c : Char)
  /-- Bytes that start a character and break off, or that start none. -/
  | stray (bytes : List UInt8)
  deriving DecidableEq, Repr

/-- What the first byte of a character says: its own bits, and the range of each byte to come. -/
structure Lead where
  /-- The bits of the code point that the first byte holds. -/
  bits : Nat
  /-- The first and the last value of each following byte. -/
  tails : List (Nat × Nat)

/-- The meaning of a byte as the first one of a character, if it can be that. -/
def lead? (b : UInt8) : Option Lead :=
  let n := b.toNat
  if n < 0x80 then some ⟨n, []⟩
  else if n < 0xC2 then none
  else if n < 0xE0 then some ⟨n - 0xC0, [(0x80, 0xBF)]⟩
  else if n = 0xE0 then some ⟨0, [(0xA0, 0xBF), (0x80, 0xBF)]⟩
  else if n = 0xED then some ⟨0xD, [(0x80, 0x9F), (0x80, 0xBF)]⟩
  else if n < 0xF0 then some ⟨n - 0xE0, [(0x80, 0xBF), (0x80, 0xBF)]⟩
  else if n = 0xF0 then some ⟨0, [(0x90, 0xBF), (0x80, 0xBF), (0x80, 0xBF)]⟩
  else if n < 0xF4 then some ⟨n - 0xF0, [(0x80, 0xBF), (0x80, 0xBF), (0x80, 0xBF)]⟩
  else if n = 0xF4 then some ⟨4, [(0x80, 0x8F), (0x80, 0xBF), (0x80, 0xBF)]⟩
  else none

/-- Complete a character of which some bytes are taken already. -/
def takeTails (taken : List UInt8) (bits : Nat) :
    List (Nat × Nat) → List UInt8 → Piece × List UInt8
  | [], rest => (.char (Char.ofNat bits), rest)
  | _ :: _, [] => (.stray taken, [])
  | (first, last) :: tails, b :: rest =>
      if first ≤ b.toNat ∧ b.toNat ≤ last then
        takeTails (taken ++ [b]) (bits * 64 + (b.toNat - 0x80)) tails rest
      else (.stray taken, b :: rest)

theorem length_takeTails_le (taken : List UInt8) (bits : Nat) (tails : List (Nat × Nat))
    (bytes : List UInt8) :
    (takeTails taken bits tails bytes).2.length ≤ bytes.length := by
  induction tails generalizing taken bits bytes with
  | nil => simp [takeTails]
  | cons range tails ih =>
    cases bytes with
    | nil => simp [takeTails]
    | cons b rest =>
      simp only [takeTails]
      split
      · exact Nat.le_succ_of_le (ih _ _ _)
      · simp

/-- The first piece of a nonempty byte string, and the bytes behind it. -/
def nextPiece (b : UInt8) (rest : List UInt8) : Piece × List UInt8 :=
  match lead? b with
  | some lead => takeTails [b] lead.bits lead.tails rest
  | none => (.stray [b], rest)

theorem length_nextPiece_le (b : UInt8) (rest : List UInt8) :
    (nextPiece b rest).2.length ≤ rest.length := by
  unfold nextPiece
  split
  · exact length_takeTails_le _ _ _ _
  · simp

/-- The pieces of a byte string. -/
def pieces : List UInt8 → List Piece
  | [] => []
  | b :: rest => (nextPiece b rest).1 :: pieces (nextPiece b rest).2
  termination_by bytes => bytes.length
  decreasing_by exact Nat.lt_succ_of_le (length_nextPiece_le b rest)

/-- The pieces of a text. -/
def textPieces (s : String) : List Piece :=
  s.toList.map .char

/-- The bytes of a text. -/
def utf8 (s : String) : List UInt8 :=
  s.toUTF8.toList

/-- The text that a byte string encodes, if it encodes one. -/
def ofUtf8? (bytes : List UInt8) : Option String :=
  String.fromUTF8? ⟨bytes.toArray⟩

/-- The character that stands for bytes without meaning. -/
def replacement : Char := Char.ofNat 0xFFFD

/-- The text of a byte string, with one replacement character for each stray piece. -/
def ofUtf8Lossy (bytes : List UInt8) : String :=
  String.ofList ((pieces bytes).map fun
    | .char c => c
    | .stray _ => replacement)

end LaunchDesk.Text
