import LaunchDesk.Json.Basic
import LaunchDesk.Text.Hex
import LaunchDesk.Text.Utf8

/-!
# Tokens of a JSON text

A text is cut into tokens from left to right. It may hold stray bytes, which are no obstacle inside
a string that nobody reads.

## Implementation notes

A string is read in two steps. The first finds its end and leaves a list of glyphs, in which a
numeric escape is still a 16-bit unit; the second joins pairs of units and says whether the string
names a text at all. A string that nobody reads has to pass the first step only.
-/

namespace LaunchDesk.Json

open Decimal Text

/-- The four blanks that may stand between tokens. -/
def isSpace (c : Char) : Bool :=
  c == ' ' || c == '\t' || c == '\n' || c == '\r'

/-- A part of a string between its quotes. -/
inductive Glyph where
  /-- A character, plain or escaped by a letter. -/
  | char (c : Char)
  /-- A 16-bit unit given by its number. -/
  | unit (n : Nat)
  /-- Bytes that are no character. -/
  | stray
  deriving DecidableEq, Repr

/-- The value of four hexadecimal digits. -/
def unit? (a b c d : Char) : Option Nat := do
  let a ← hexDigit? a
  let b ← hexDigit? b
  let c ← hexDigit? c
  let d ← hexDigit? d
  return ((a * 16 + b) * 16 + c) * 16 + d

/-- The character that a one-letter escape names. -/
def letterEscape? (c : Char) : Option Char :=
  if c = '"' ∨ c = '\\' ∨ c = '/' then some c
  else if c = 'b' then some (Char.ofNat 0x8)
  else if c = 'f' then some (Char.ofNat 0xC)
  else if c = 'n' then some '\n'
  else if c = 'r' then some '\r'
  else if c = 't' then some '\t'
  else none

/-- The glyphs up to the closing quote, and what stands behind it. -/
def glyphs? : List Piece → Option (List Glyph × List Piece)
  | [] => none
  | .stray _ :: rest => (glyphs? rest).map fun (g, rest) => (.stray :: g, rest)
  | .char c :: rest =>
      if c = '"' then some ([], rest)
      else if c = '\\' then
        match rest with
        | .char 'u' :: .char a :: .char b :: .char c :: .char d :: rest =>
            match unit? a b c d with
            | some n => (glyphs? rest).map fun (g, rest) => (.unit n :: g, rest)
            | none => none
        | .char e :: rest =>
            match letterEscape? e with
            | some c => (glyphs? rest).map fun (g, rest) => (.char c :: g, rest)
            | none => none
        | _ => none
      else if c.toNat < 0x20 then none
      else (glyphs? rest).map fun (g, rest) => (.char c :: g, rest)

/-- A unit that starts a pair. -/
def isHighHalf (n : Nat) : Bool := 0xD800 ≤ n && n < 0xDC00

/-- A unit that ends a pair. -/
def isLowHalf (n : Nat) : Bool := 0xDC00 ≤ n && n < 0xE000

/-- The characters that glyphs name, if all of them name some. -/
def readGlyphs? : List Glyph → Option (List Char)
  | [] => some []
  | .stray :: _ => none
  | .char c :: rest => (readGlyphs? rest).map (c :: ·)
  | .unit n :: rest =>
      if isHighHalf n then
        match rest with
        | .unit m :: rest =>
            if isLowHalf m then
              (readGlyphs? rest).map
                (Char.ofNat (0x10000 + (n - 0xD800) * 0x400 + (m - 0xDC00)) :: ·)
            else none
        | _ => none
      else if isLowHalf n then none
      else (readGlyphs? rest).map (Char.ofNat n :: ·)

/-- The digits at the start of a text, and what stands behind them. -/
def spanDigits : List Piece → List Digit × List Piece
  | [] => ([], [])
  | .stray bytes :: rest => ([], .stray bytes :: rest)
  | .char c :: rest =>
      match digit? c with
      | some d => (d :: (spanDigits rest).1, (spanDigits rest).2)
      | none => ([], .char c :: rest)

/-- The fraction at the start of a text, if a point stands there. -/
def fraction? : List Piece → Option (List Digit × List Piece)
  | .char '.' :: rest =>
      match spanDigits rest with
      | ([], _) => none
      | found => some found
  | rest => some ([], rest)

/-- The digits of an exponent behind its sign. -/
def exponentDigits? (negative : Bool) (input : List Piece) : Option (Option Int × List Piece) :=
  match spanDigits input with
  | ([], _) => none
  | (digits, rest) => some (some (if negative then -(value digits : Int) else value digits), rest)

/-- The exponent behind the letter that announces it. -/
def signedExponent? : List Piece → Option (Option Int × List Piece)
  | .char '-' :: rest => exponentDigits? true rest
  | .char '+' :: rest => exponentDigits? false rest
  | rest => exponentDigits? false rest

/-- The exponent at the start of a text, if its letter stands there. -/
def exponent? : List Piece → Option (Option Int × List Piece)
  | .char 'e' :: rest => signedExponent? rest
  | .char 'E' :: rest => signedExponent? rest
  | rest => some (none, rest)

/-- The number at the start of a text, behind its sign. -/
def numeral? (negative : Bool) (input : List Piece) : Option (Numeral × List Piece) := do
  let (whole, rest) := spanDigits input
  if whole = [] ∨ (whole.head? = some .zero ∧ whole ≠ [.zero]) then none
  else
    let (fraction, rest) ← fraction? rest
    let (exponent, rest) ← exponent? rest
    return (⟨negative, whole, fraction, exponent⟩, rest)

/-- The sign that is a token by itself. -/
def punctuation? (c : Char) : Option Token :=
  if c = '\x7b' then some .leftBrace
  else if c = '\x7d' then some .rightBrace
  else if c = '[' then some .leftBracket
  else if c = ']' then some .rightBracket
  else if c = ',' then some .comma
  else if c = ':' then some .colon
  else none

/-- What stands behind a word at the start of a text. -/
def afterWord? : List Char → List Piece → Option (List Piece)
  | [], rest => some rest
  | _ :: _, [] => none
  | _ :: _, .stray _ :: _ => none
  | w :: word, .char c :: rest => if c = w then afterWord? word rest else none

/-- The word at the start of a text, given its first letter. -/
def word? (c : Char) (rest : List Piece) : Option (Token × List Piece) :=
  if c = 'n' then (afterWord? ['u', 'l', 'l'] rest).map (.null, ·)
  else if c = 't' then (afterWord? ['r', 'u', 'e'] rest).map (.bool true, ·)
  else if c = 'f' then (afterWord? ['a', 'l', 's', 'e'] rest).map (.bool false, ·)
  else none

/-- The string at the start of a text, behind its opening quote. -/
def string? (rest : List Piece) : Option (Token × List Piece) :=
  (glyphs? rest).map fun (g, rest) => (.str ((readGlyphs? g).map String.ofList), rest)

/-- The token that starts with a given character, and what stands behind it. -/
def token? (c : Char) (rest : List Piece) : Option (Token × List Piece) :=
  match punctuation? c with
  | some t => some (t, rest)
  | none =>
      if c = '"' then string? rest
      else
        match word? c rest with
        | some found => some found
        | none =>
            let found := if c = '-' then numeral? true rest else numeral? false (.char c :: rest)
            found.map fun (n, rest) => (.num n, rest)

theorem length_glyphs?_le {input : List Piece} {found : List Glyph × List Piece}
    (h : glyphs? input = some found) : found.2.length ≤ input.length := by
  fun_induction glyphs? input generalizing found <;> grind [Option.map_eq_some_iff]

theorem length_spanDigits_le (input : List Piece) :
    (spanDigits input).2.length ≤ input.length := by
  fun_induction spanDigits input <;> grind

theorem length_spanDigits_lt {input : List Piece} (h : (spanDigits input).1 ≠ []) :
    (spanDigits input).2.length < input.length := by
  cases input with
  | nil => simp [spanDigits] at h
  | cons p rest =>
    cases p with
    | stray bytes => simp [spanDigits] at h
    | char c =>
      have hle := length_spanDigits_le rest
      cases hd : digit? c with
      | none => simp [spanDigits, hd] at h
      | some d =>
        simp only [spanDigits, hd, List.length_cons]
        exact Nat.lt_succ_of_le hle

theorem length_fraction?_le {input : List Piece} {found : List Digit × List Piece}
    (h : fraction? input = some found) : found.2.length ≤ input.length := by
  unfold fraction? at h
  split at h
  · next rest =>
    have := length_spanDigits_le rest
    split at h <;> grind
  · grind

theorem length_exponentDigits?_le {negative : Bool} {input : List Piece}
    {found : Option Int × List Piece} (h : exponentDigits? negative input = some found) :
    found.2.length ≤ input.length := by
  have := length_spanDigits_le input
  unfold exponentDigits? at h
  split at h <;> grind

theorem length_exponent?_le {input : List Piece} {found : Option Int × List Piece}
    (h : exponent? input = some found) : found.2.length ≤ input.length := by
  unfold exponent? signedExponent? at h
  have := fun n i f => @length_exponentDigits?_le n i f
  repeat' split at h
  all_goals grind

theorem length_numeral?_lt {negative : Bool} {input : List Piece} {found : Numeral × List Piece}
    (h : numeral? negative input = some found) : found.2.length < input.length := by
  unfold numeral? at h
  simp only [] at h
  split at h
  · cases h
  · next hw =>
    have hlt := @length_spanDigits_lt input fun hn => hw (.inl hn)
    cases hf : fraction? (spanDigits input).2 with
    | none => simp [hf] at h
    | some f =>
      cases he : exponent? f.2 with
      | none => simp [hf, he] at h
      | some e =>
        have := length_fraction?_le hf
        have := length_exponent?_le he
        simp only [hf, he, Option.bind_eq_bind, Option.bind_some, Option.pure_def,
          Option.some.injEq] at h
        subst h
        simp only
        omega

theorem length_afterWord?_le {word : List Char} {input rest : List Piece}
    (h : afterWord? word input = some rest) : rest.length ≤ input.length := by
  fun_induction afterWord? word input <;> grind

theorem length_word?_le {c : Char} {input : List Piece} {found : Token × List Piece}
    (h : word? c input = some found) : found.2.length ≤ input.length := by
  unfold word? at h
  have := fun w r => @length_afterWord?_le w input r
  repeat' split at h
  all_goals grind [Option.map_eq_some_iff]

theorem length_string?_le {input : List Piece} {found : Token × List Piece}
    (h : string? input = some found) : found.2.length ≤ input.length := by
  simp only [string?, Option.map_eq_some_iff] at h
  obtain ⟨⟨g, rest⟩, hg, rfl⟩ := h
  exact length_glyphs?_le hg

theorem length_token?_le {c : Char} {rest : List Piece} {found : Token × List Piece}
    (h : token? c rest = some found) : found.2.length ≤ rest.length := by
  unfold token? at h
  split at h
  · grind
  · split at h
    · exact length_string?_le h
    · split at h
      · next hw => cases h; exact length_word?_le hw
      · simp only [Option.map_eq_some_iff] at h
        obtain ⟨⟨n, rest'⟩, hn, rfl⟩ := h
        split at hn
        · exact Nat.le_of_lt (length_numeral?_lt hn)
        · exact Nat.le_of_lt_succ (length_numeral?_lt hn)

/-- The tokens of a text. -/
def lex? : List Piece → Option (List Token)
  | [] => some []
  | .stray _ :: _ => none
  | .char c :: rest =>
      if isSpace c then lex? rest
      else
        match _h : token? c rest with
        | none => none
        | some (t, rest') => (lex? rest').map (t :: ·)
  termination_by input => input.length
  decreasing_by
    · simp
    · exact Nat.lt_succ_of_le (length_token?_le (by assumption))

end LaunchDesk.Json
