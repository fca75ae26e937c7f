import LaunchDesk.Json.Lexer
import LaunchDesk.Json.Printer
import Mathlib.Data.List.Chain
import Mathlib.Tactic.SplitIfs

/-!
# Written tokens are read again

Tokens that are written one after the other are cut apart again as they were, if every number among
them is followed by a sign that no number has, or by nothing. No character below the blank is ever
written.

## Implementation notes

A token is read with some text behind it. Only a number can run on into that text, so only numbers
have a condition on what follows.
-/

namespace LaunchDesk.Json

open Decimal Text

/-- A text as pieces, without stray bytes. -/
def asPieces (s : List Char) : List Piece :=
  s.map .char

@[simp] theorem asPieces_nil : asPieces [] = [] := rfl

@[simp] theorem asPieces_cons (c : Char) (s : List Char) :
    asPieces (c :: s) = .char c :: asPieces s := rfl

@[simp] theorem asPieces_append (s t : List Char) : asPieces (s ++ t) = asPieces s ++ asPieces t :=
  List.map_append

theorem textPieces_ofList (s : List Char) : textPieces (String.ofList s) = asPieces s := by
  simp [textPieces, asPieces]

section Strings

variable {rest : List Piece}

theorem glyphs?_quote : glyphs? (.char '"' :: rest) = some ([], rest) := by
  rw [glyphs?.eq_def]
  rfl

theorem glyphs?_plain {c : Char} (hquote : c ≠ '"') (hslash : c ≠ '\\') (h : ¬ c.toNat < 0x20) :
    glyphs? (.char c :: rest) = (glyphs? rest).map fun (g, rest) => (.char c :: g, rest) := by
  rw [glyphs?.eq_def]
  simp only [if_neg hquote, if_neg hslash, if_neg h]

theorem glyphs?_letter {e c : Char} (h : letterEscape? e = some c) :
    glyphs? (.char '\\' :: .char e :: rest) =
      (glyphs? rest).map fun (g, rest) => (.char c :: g, rest) := by
  have hu : e ≠ 'u' := by
    rintro rfl
    simp [letterEscape?] at h
  rw [glyphs?.eq_4 _ _ _ fun _ _ _ _ _ _ he => hu he]
  simp [h]

theorem glyphs?_unit {a b c d : Char} {n : Nat} (h : unit? a b c d = some n) :
    glyphs? (.char '\\' :: .char 'u' :: .char a :: .char b :: .char c :: .char d :: rest) =
      (glyphs? rest).map fun (g, rest) => (.unit n :: g, rest) := by
  rw [glyphs?.eq_3]
  simp [h]

theorem unit?_hex {n : Nat} (h : n < 0x20) :
    unit? '0' '0' (hexChar (n / 16)) (hexChar (n % 16)) = some n := by
  have hhigh : hexDigit? (hexChar (n / 16)) = some (n / 16) := hexDigit?_hexChar (by omega)
  have hlow : hexDigit? (hexChar (n % 16)) = some (n % 16) := hexDigit?_hexChar (by omega)
  have hzero : hexDigit? '0' = some 0 := by decide
  simp only [unit?, hzero, hhigh, hlow, Option.bind_eq_bind, Option.bind_some, Option.pure_def]
  congr 1
  omega

/-- A written character is read as itself or as the unit of its number. -/
def Names (g : Glyph) (c : Char) : Prop :=
  g = .char c ∨ g = .unit c.toNat ∧ c.toNat < 0x20

theorem glyphs?_escapedChar (c : Char) :
    ∃ g, Names g c ∧ ∀ rest, glyphs? (asPieces (escapedChar c) ++ rest) =
      (glyphs? rest).map fun (more, rest) => (g :: more, rest) := by
  unfold escapedChar
  split_ifs with hquote hslash h8 hC hn hr ht hlow
  · exact ⟨.char c, Or.inl rfl, fun rest => glyphs?_letter (by rw [hquote]; rfl)⟩
  · exact ⟨.char c, Or.inl rfl, fun rest => glyphs?_letter (by rw [hslash]; rfl)⟩
  · exact ⟨.char c, Or.inl rfl, fun rest => glyphs?_letter (by
      rw [← c.ofNat_toNat, h8]; rfl)⟩
  · exact ⟨.char c, Or.inl rfl, fun rest => glyphs?_letter (by
      rw [← c.ofNat_toNat, hC]; rfl)⟩
  · exact ⟨.char c, Or.inl rfl, fun rest => glyphs?_letter (by rw [hn]; rfl)⟩
  · exact ⟨.char c, Or.inl rfl, fun rest => glyphs?_letter (by rw [hr]; rfl)⟩
  · exact ⟨.char c, Or.inl rfl, fun rest => glyphs?_letter (by rw [ht]; rfl)⟩
  · exact ⟨.unit c.toNat, Or.inr ⟨rfl, hlow⟩, fun rest => glyphs?_unit (unit?_hex hlow)⟩
  · exact ⟨.char c, Or.inl rfl, fun rest => glyphs?_plain hquote hslash hlow⟩

theorem readGlyphs?_cons {g : Glyph} {c : Char} (h : Names g c) (more : List Glyph) :
    readGlyphs? (g :: more) = (readGlyphs? more).map (c :: ·) := by
  rcases h with rfl | ⟨rfl, hlow⟩
  · rfl
  · have hhigh : isHighHalf c.toNat = false := by simp [isHighHalf]; omega
    have hlow : isLowHalf c.toNat = false := by simp [isLowHalf]; omega
    rw [readGlyphs?.eq_def]
    simp [hhigh, hlow]

/-- The inside of a written string is read up to its closing quote, and names what was written. -/
theorem glyphs?_flatMap_escapedChar (s : List Char) (rest : List Piece) :
    ∃ g, readGlyphs? g = some s ∧
      glyphs? (asPieces (s.flatMap escapedChar) ++ .char '"' :: rest) = some (g, rest) := by
  induction s with
  | nil => exact ⟨[], rfl, glyphs?_quote⟩
  | cons c s ih =>
      obtain ⟨g, hnames, hg⟩ := glyphs?_escapedChar c
      obtain ⟨more, hread, hmore⟩ := ih
      refine ⟨g :: more, ?_, ?_⟩
      · rw [readGlyphs?_cons hnames, hread]
        rfl
      · rw [List.flatMap_cons, asPieces_append, List.append_assoc, hg, hmore]
        rfl

theorem string?_written (s : String) (rest : List Piece) :
    string? (asPieces (s.toList.flatMap escapedChar) ++ .char '"' :: rest) =
      some (.str (some s), rest) := by
  obtain ⟨g, hread, hg⟩ := glyphs?_flatMap_escapedChar s.toList rest
  simp [string?, hg, hread]

end Strings

section Numbers

/-- A text that no digits run on into. -/
def NoDigit (rest : List Piece) : Prop :=
  ∀ c more, rest = .char c :: more → digit? c = none

/-- A text that may follow a number in a document: nothing, or a sign behind a value. -/
def EndsNumber (rest : List Piece) : Prop :=
  rest = [] ∨ ∃ c more, rest = .char c :: more ∧ (c = ',' ∨ c = ']' ∨ c = '\x7d')

variable {rest : List Piece}

theorem noDigit_cons {c : Char} (h : digit? c = none) : NoDigit (.char c :: rest) := by
  intro d more hd
  obtain ⟨rfl, rfl⟩ : c = d ∧ rest = more := by simpa using hd
  exact h

theorem EndsNumber.noDigit (h : EndsNumber rest) : NoDigit rest := by
  rcases h with rfl | ⟨c, more, rfl, rfl | rfl | rfl⟩
  · intro c more hc
    cases hc
  · exact noDigit_cons (by decide)
  · exact noDigit_cons (by decide)
  · exact noDigit_cons (by decide)

theorem spanDigits_written (digits : List Digit) (h : NoDigit rest) :
    spanDigits (asPieces (digitChars digits) ++ rest) = (digits, rest) := by
  induction digits with
  | nil =>
      cases rest with
      | nil => rfl
      | cons p more =>
          cases p with
          | stray bytes => rfl
          | char c =>
              have hc := h c more rfl
              simp [digitChars, spanDigits, hc]
  | cons d digits ih =>
      simp only [digitChars, List.map_cons, asPieces_cons, List.cons_append] at ih ⊢
      rw [spanDigits, digit?_digitChar]
      simp only [ih]

/-- The characters of an exponent, if there is one. -/
def exponentPart (e : Option Int) : List Char :=
  e.elim [] exponentChars

/-- The characters of a fraction with its point, if there is one. -/
def fractionPart (digits : List Digit) : List Char :=
  if digits.isEmpty then [] else '.' :: digitChars digits

theorem exponentDigits?_written (negative : Bool) (n : Nat) (h : NoDigit rest) :
    exponentDigits? negative (asPieces (digitChars (digitsOf n)) ++ rest) =
      some (some (if negative then -(n : Int) else n), rest) := by
  unfold exponentDigits?
  rw [spanDigits_written _ h]
  split
  · next heq => exact absurd (congrArg Prod.fst heq) (digitsOf_ne_nil n)
  · next digits more _ heq =>
      obtain ⟨rfl, rfl⟩ := Prod.mk.inj heq
      rw [value_digitsOf]

theorem exponent?_written (e : Option Int) (h : EndsNumber rest) :
    exponent? (asPieces (exponentPart e) ++ rest) = some (e, rest) := by
  cases e with
  | none =>
      rcases h with rfl | ⟨c, more, rfl, rfl | rfl | rfl⟩
      · rfl
      · rfl
      · rfl
      · rfl
  | some e =>
      simp only [exponentPart, Option.elim_some, exponentChars]
      by_cases hneg : e < 0
      · have hdigits := exponentDigits?_written true e.natAbs h.noDigit
        have he : -(e.natAbs : Int) = e := by omega
        rw [if_pos rfl, he] at hdigits
        simpa [hneg, exponent?, signedExponent?] using hdigits
      · have hdigits := exponentDigits?_written false e.natAbs h.noDigit
        have he : (e.natAbs : Int) = e := by omega
        rw [if_neg Bool.false_ne_true, he] at hdigits
        simpa [hneg, exponent?, signedExponent?] using hdigits

theorem noDigit_exponentPart (e : Option Int) (h : EndsNumber rest) :
    NoDigit (asPieces (exponentPart e) ++ rest) := by
  cases e with
  | none => exact h.noDigit
  | some e => exact noDigit_cons (by decide)

theorem fraction?_written (digits : List Digit) (e : Option Int) (h : EndsNumber rest) :
    fraction? (asPieces (fractionPart digits) ++ (asPieces (exponentPart e) ++ rest)) =
      some (digits, asPieces (exponentPart e) ++ rest) := by
  cases digits with
  | nil =>
      cases e with
      | none =>
          rcases h with rfl | ⟨c, more, rfl, rfl | rfl | rfl⟩
          · rfl
          · rfl
          · rfl
          · rfl
      | some e => rfl
  | cons d digits =>
      have hspan := spanDigits_written (d :: digits) (noDigit_exponentPart e h)
      simp only [fractionPart, List.isEmpty_cons, Bool.false_eq_true, if_false, asPieces_cons,
        List.cons_append, fraction?, hspan]

theorem noDigit_fractionPart (digits : List Digit) (e : Option Int) (h : EndsNumber rest) :
    NoDigit (asPieces (fractionPart digits) ++ (asPieces (exponentPart e) ++ rest)) := by
  cases digits with
  | nil => exact noDigit_exponentPart e h
  | cons d digits => exact noDigit_cons (by decide)

/-- The characters of a numeral without its sign. -/
def unsignedChars (n : Numeral) : List Char :=
  digitChars n.whole ++ (fractionPart n.fraction ++ exponentPart n.exponent)

theorem chars_eq (n : Numeral) :
    n.chars = (if n.negative then ['-'] else []) ++ unsignedChars n := by
  simp [Numeral.chars, unsignedChars, fractionPart, exponentPart]

theorem numeral?_written {n : Numeral} (hn : Tidy n.whole) (h : EndsNumber rest) :
    numeral? n.negative (asPieces (unsignedChars n) ++ rest) = some (n, rest) := by
  have hspan := spanDigits_written n.whole (noDigit_fractionPart n.fraction n.exponent h)
  have hwhole : ¬ (n.whole = [] ∨ n.whole.head? = some Digit.zero ∧ n.whole ≠ [Digit.zero]) := by
    rintro (hnil | ⟨hzero, hmore⟩)
    · exact hn.1 hnil
    · exact hmore (hn.2 hzero)
  simp only [numeral?, unsignedChars, asPieces_append, List.append_assoc, hspan, if_neg hwhole,
    fraction?_written n.fraction n.exponent h, exponent?_written n.exponent h,
    Option.bind_eq_bind, Option.bind_some, Option.pure_def]

/-- A character that starts a number starts no other token. -/
theorem token?_of_digit (d : Digit) (more : List Piece) :
    token? (digitChar d) more =
      (numeral? false (.char (digitChar d) :: more)).map fun (n, rest) => (.num n, rest) := by
  have hd : punctuation? (digitChar d) = none ∧ digitChar d ≠ '"' ∧ digitChar d ≠ '-' ∧
      digitChar d ≠ 'n' ∧ digitChar d ≠ 't' ∧ digitChar d ≠ 'f' := by
    revert d
    decide
  obtain ⟨hp, hquote, hminus, hn, ht, hf⟩ := hd
  simp only [token?, hp, word?, if_neg hquote, if_neg hminus, if_neg hn, if_neg ht, if_neg hf]

theorem token?_minus (more : List Piece) :
    token? '-' more = (numeral? true more).map fun (n, rest) => (.num n, rest) := rfl

theorem isSpace_digitChar (d : Digit) : isSpace (digitChar d) = false := by
  revert d
  decide

theorem token?_numeral {n : Numeral} (hn : Tidy n.whole) (h : EndsNumber rest) :
    ∃ c more, n.chars = c :: more ∧ isSpace c = false ∧
      token? c (asPieces more ++ rest) = some (.num n, rest) := by
  have hread := numeral?_written hn h
  cases hneg : n.negative with
  | true =>
      refine ⟨'-', unsignedChars n, by simp [chars_eq, hneg], by decide, ?_⟩
      rw [token?_minus, ← hneg, hread]
      rfl
  | false =>
      obtain ⟨d, whole, hw⟩ := List.exists_cons_of_ne_nil hn.1
      have hchars : unsignedChars n = digitChar d :: (digitChars whole ++
          (fractionPart n.fraction ++ exponentPart n.exponent)) := by
        simp [unsignedChars, hw, digitChars]
      have hspace : isSpace (digitChar d) = false := isSpace_digitChar d
      refine ⟨_, _, by simpa [chars_eq, hneg] using hchars, hspace, ?_⟩
      rw [hchars, hneg] at hread
      rw [token?_of_digit]
      simp only [asPieces_cons, List.cons_append] at hread
      rw [hread]
      rfl

end Numbers

section Tokens

/-- A token that has a text and can be read from it. -/
def Legible : Token → Prop
  | .num n => Tidy n.whole
  | .str s => s.isSome
  | _ => True

/-- Whether a token is a number. -/
def isNumber : Token → Bool
  | .num _ => true
  | _ => false

/-- Whether a token is one of those that may follow a value. -/
def isCloser : Token → Bool
  | .comma | .rightBracket | .rightBrace => true
  | _ => false

variable {rest : List Piece}

/-- The text of a legible token is cut off in front of what follows. -/
theorem token?_tokenChars {t : Token} (ht : Legible t) (h : isNumber t → EndsNumber rest) :
    ∃ c more, tokenChars t = c :: more ∧ isSpace c = false ∧
      token? c (asPieces more ++ rest) = some (t, rest) := by
  cases t with
  | leftBrace => exact ⟨_, _, rfl, by decide, rfl⟩
  | rightBrace => exact ⟨_, _, rfl, by decide, rfl⟩
  | leftBracket => exact ⟨_, _, rfl, by decide, rfl⟩
  | rightBracket => exact ⟨_, _, rfl, by decide, rfl⟩
  | comma => exact ⟨_, _, rfl, by decide, rfl⟩
  | colon => exact ⟨_, _, rfl, by decide, rfl⟩
  | null => exact ⟨_, _, rfl, by decide, rfl⟩
  | bool b =>
      cases b with
      | true => exact ⟨_, _, rfl, by decide, rfl⟩
      | false => exact ⟨_, _, rfl, by decide, rfl⟩
  | num n => exact token?_numeral ht (h rfl)
  | str s =>
      obtain ⟨s, rfl⟩ := Option.isSome_iff_exists.mp ht
      refine ⟨'"', s.toList.flatMap escapedChar ++ ['"'], rfl, by decide, ?_⟩
      rw [asPieces_append, List.append_assoc]
      exact string?_written s rest

theorem lex?_cons {c : Char} {more : List Piece} {t : Token} (hc : isSpace c = false)
    (h : token? c more = some (t, rest)) : lex? (.char c :: more) = (lex? rest).map (t :: ·) := by
  rw [lex?]
  simp only [hc, Bool.false_eq_true, if_false]
  split
  · next hn => simp [h] at hn
  · next u more' hs =>
      obtain ⟨rfl, rfl⟩ := Prod.mk.inj (Option.some.inj (h.symm.trans hs))
      rfl

/-- The texts of some tokens, one behind the other. -/
def tokensText (ts : List Token) : List Char :=
  ts.flatMap tokenChars

/-- A number is followed by a token that may follow a value, or by nothing. -/
def Separate : List Token → Prop :=
  List.IsChain fun t u => isNumber t → isCloser u

theorem endsNumber_tokensText {t : Token} {ts : List Token} (h : Separate (t :: ts))
    (ht : isNumber t) : EndsNumber (asPieces (tokensText ts)) := by
  cases ts with
  | nil => exact Or.inl rfl
  | cons u us =>
      have hu : isCloser u := (List.isChain_cons_cons.mp h).1 ht
      right
      cases u with
      | comma => exact ⟨',', _, rfl, Or.inl rfl⟩
      | rightBracket => exact ⟨']', _, rfl, Or.inr (Or.inl rfl)⟩
      | rightBrace => exact ⟨'\x7d', _, rfl, Or.inr (Or.inr rfl)⟩
      | _ => simp [isCloser] at hu

/-- Legible tokens are read from their text as they were. -/
theorem lex?_tokensText {ts : List Token} (hl : ∀ t ∈ ts, Legible t) (hs : Separate ts) :
    lex? (asPieces (tokensText ts)) = some ts := by
  induction ts with
  | nil => simp [tokensText, lex?]
  | cons t ts ih =>
      obtain ⟨c, more, hchars, hspace, htoken⟩ :=
        token?_tokenChars (hl t List.mem_cons_self) (endsNumber_tokensText hs)
      have hrest := ih (fun u hu => hl u (List.mem_cons_of_mem t hu)) hs.tail
      have htext : tokensText (t :: ts) = c :: (more ++ tokensText ts) := by
        simp [tokensText, hchars]
      rw [htext, asPieces_cons, asPieces_append, lex?_cons hspace htoken, hrest]
      rfl

end Tokens

section Printable

/-- A text without characters below the blank, which JSON does not allow inside a string. -/
def Printable (s : List Char) : Prop :=
  ∀ c ∈ s, 0x20 ≤ c.toNat

instance (s : List Char) : Decidable (Printable s) :=
  List.decidableBAll _ s

theorem Printable.append {s t : List Char} (hs : Printable s) (ht : Printable t) :
    Printable (s ++ t) :=
  List.forall_mem_append.mpr ⟨hs, ht⟩

theorem Printable.cons {c : Char} {s : List Char} (hc : 0x20 ≤ c.toNat) (hs : Printable s) :
    Printable (c :: s) :=
  List.forall_mem_cons.mpr ⟨hc, hs⟩

theorem printable_flatMap {α : Type} {f : α → List Char} (h : ∀ a, Printable (f a)) (l : List α) :
    Printable (l.flatMap f) := by
  intro c hc
  obtain ⟨a, -, hc⟩ := List.mem_flatMap.mp hc
  exact h a c hc

theorem le_hexChar {n : Nat} (h : n < 16) : 0x20 ≤ (hexChar n).toNat := by
  revert h
  revert n
  decide

theorem le_digitChar (d : Digit) : 0x20 ≤ (digitChar d).toNat := by
  revert d
  decide

theorem printable_escapedChar (c : Char) : Printable (escapedChar c) := by
  unfold escapedChar
  split_ifs with hquote hslash h8 hC hn hr ht hlow
  · decide
  · decide
  · decide
  · decide
  · decide
  · decide
  · decide
  · have hdigits : Printable [hexChar (c.toNat / 16), hexChar (c.toNat % 16)] :=
      .cons (le_hexChar (by omega)) (.cons (le_hexChar (by omega)) (by decide))
    exact (by decide : Printable ['\\', 'u', '0', '0']).append hdigits
  · exact .cons (Nat.not_lt.mp hlow) (by decide)

theorem printable_digitChars (digits : List Digit) : Printable (digitChars digits) := by
  intro c hc
  obtain ⟨d, -, rfl⟩ := List.mem_map.mp hc
  exact le_digitChar d

theorem printable_numeral (n : Numeral) : Printable n.chars := by
  have hsign : Printable (if n.negative then ['-'] else []) := by
    split <;> decide
  have hfraction : Printable (if n.fraction.isEmpty then [] else '.' :: digitChars n.fraction) := by
    split
    · decide
    · exact .cons (by decide) (printable_digitChars n.fraction)
  have hexponent : Printable (n.exponent.elim [] exponentChars) := by
    cases n.exponent with
    | none => exact (by decide : Printable [])
    | some e =>
        refine .cons (by decide) (.cons ?_ (printable_digitChars _))
        split <;> decide
  exact ((hsign.append (printable_digitChars n.whole)).append hfraction).append hexponent

theorem printable_tokenChars (t : Token) : Printable (tokenChars t) := by
  cases t with
  | num n => exact printable_numeral n
  | str s =>
      have hinside := printable_flatMap printable_escapedChar (s.getD "").toList
      exact (hinside.cons (by decide)).append (by decide : Printable ['"'])
  | bool b => cases b <;> decide
  | leftBrace | rightBrace | leftBracket | rightBracket | comma | colon | null => decide

/-- The text of a document holds no character below the blank, whatever the document. -/
theorem printable_render (doc : Json) : Printable doc.render.toList := by
  rw [render, String.toList_ofList]
  exact printable_flatMap printable_tokenChars doc.tokens

end Printable

end LaunchDesk.Json
