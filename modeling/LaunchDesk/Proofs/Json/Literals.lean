import LaunchDesk.Proofs.Json.Documents
import LaunchDesk.Proofs.Json.Numerals

/-!
# Number literals in a text

A number that is written in the middle of a text is read as what it shows, whatever stands around
it and in whichever way it is written, as long as neither side is part of it. If it is written
without a sign, a fraction and an exponent, it is the one text of its value.

## Implementation notes

A literal keeps all that a numeral forgets: the letter and the sign of its exponent, and digits of
the exponent that are needless. So there is one literal for every text of a number. A text that is
put together is cut where its parts meet if no number stands there; only a number looks at what
follows it.
-/

namespace LaunchDesk.Json

open Decimal Text

/-- A character that a number goes on with. -/
def Continues (c : Char) : Prop :=
  digit? c ≠ none ∨ c ∈ ['.', 'e', 'E']

instance (c : Char) : Decidable (Continues c) :=
  inferInstanceAs (Decidable (_ ∨ _))

section Equations

variable {input : List Piece}

theorem fraction?_point (input : List Piece) :
    fraction? (.char '.' :: input) =
      if (spanDigits input).1 = [] then none else some (spanDigits input) := by
  rw [fraction?]
  split
  · next last hspan => simp [hspan]
  · next hspan => rw [if_neg fun hnil => hspan _ (Prod.ext hnil rfl)]

theorem fraction?_other (h : input.head? ≠ some (.char '.')) :
    fraction? input = some ([], input) := by
  fun_cases fraction? input
  · simp at h
  · simp at h
  · rfl

/-- The exponent that digits show behind a sign. -/
def exponentOf (negative : Bool) (digits : List Digit) : Int :=
  if negative then -(value digits : Int) else value digits

theorem exponentDigits?_eq (negative : Bool) (input : List Piece) :
    exponentDigits? negative input =
      if (spanDigits input).1 = [] then none
      else some (some (exponentOf negative (spanDigits input).1), (spanDigits input).2) := by
  rw [exponentDigits?]
  split
  · next last hspan => simp [hspan]
  · next digits last hne hspan =>
      have hnil : ¬ digits = [] := hne
      simp [hspan, hnil, exponentOf]

theorem signedExponent?_other (hminus : input.head? ≠ some (.char '-'))
    (hplus : input.head? ≠ some (.char '+')) :
    signedExponent? input = exponentDigits? false input := by
  fun_cases signedExponent? input
  · simp at hminus
  · simp at hplus
  · rfl

theorem exponent?_other (hsmall : input.head? ≠ some (.char 'e'))
    (hlarge : input.head? ≠ some (.char 'E')) : exponent? input = some (none, input) := by
  fun_cases exponent? input
  · simp at hsmall
  · simp at hlarge
  · rfl

/-- A number is its whole part, its fraction and its exponent, one behind the other. -/
theorem numeral?_eq_some_iff {negative : Bool} {n : Numeral} {more : List Piece} :
    numeral? negative input = some (n, more) ↔
      n.negative = negative ∧ n.whole = (spanDigits input).1 ∧ Tidy n.whole ∧
        ∃ behind, fraction? (spanDigits input).2 = some (n.fraction, behind) ∧
          exponent? behind = some (n.exponent, more) := by
  have htidy : Tidy (spanDigits input).1 ↔ ¬ ((spanDigits input).1 = [] ∨
      ((spanDigits input).1.head? = some .zero ∧ (spanDigits input).1 ≠ [.zero])) := by
    simp only [Tidy, not_or, not_and, not_not]
  obtain ⟨sign, whole, fraction, exponent⟩ := n
  rw [numeral?]
  simp only
  split_ifs with hbad
  · refine iff_of_false (by simp) ?_
    rintro ⟨-, rfl, hgood, -⟩
    exact htidy.mp hgood hbad
  · simp only [Option.bind_eq_bind, Option.bind_eq_some_iff, Option.pure_def, Option.some.injEq,
      Prod.mk.injEq, Numeral.mk.injEq, Prod.exists]
    constructor
    · rintro ⟨_, behind, hfraction, _, _, hexponent, ⟨rfl, rfl, rfl, rfl⟩, rfl⟩
      exact ⟨rfl, rfl, htidy.mpr hbad, behind, hfraction, hexponent⟩
    · rintro ⟨rfl, rfl, -, behind, hfraction, hexponent⟩
      exact ⟨_, behind, hfraction, _, _, hexponent, ⟨rfl, rfl, rfl, rfl⟩, rfl⟩

end Equations

section Appending

variable {input more rest : List Piece}

/-- A glyph in front does not change how the glyphs behind it end. -/
theorem map_glyph_append {x : Glyph} {g : List Glyph}
    (ih : ∀ {g}, glyphs? input = some (g, more) → glyphs? (input ++ rest) = some (g, more ++ rest))
    (h : (glyphs? input).map (fun (g, rest) => (x :: g, rest)) = some (g, more)) :
    (glyphs? (input ++ rest)).map (fun (g, rest) => (x :: g, rest)) = some (g, more ++ rest) := by
  obtain ⟨⟨behind, last⟩, hfound, heq⟩ := Option.map_eq_some_iff.mp h
  obtain ⟨rfl, rfl⟩ := Prod.mk.inj heq
  rw [ih hfound]
  rfl

theorem glyphs?_append {g : List Glyph} (h : glyphs? input = some (g, more)) :
    glyphs? (input ++ rest) = some (g, more ++ rest) := by
  fun_induction glyphs? input generalizing g with
  | case2 bytes inside ih => exact map_glyph_append ih h
  | case3 inside =>
      obtain ⟨rfl, rfl⟩ := Prod.mk.inj (Option.some.inj h)
      exact glyphs?_quote
  | case4 a b c d inside n hunit _ ih =>
      simp only [List.cons_append, glyphs?_unit hunit]
      exact map_glyph_append ih h
  | case6 e inside _ c hletter _ ih =>
      simp only [List.cons_append, glyphs?_letter hletter]
      exact map_glyph_append ih h
  | case10 c inside hquote hslash hlow ih =>
      simp only [List.cons_append, glyphs?_plain hquote hslash hlow]
      exact map_glyph_append ih h
  | _ => cases h

theorem afterWord?_append {word : List Char} (h : afterWord? word input = some more) :
    afterWord? word (input ++ rest) = some (more ++ rest) := by
  fun_induction afterWord? word input with
  | case1 => simp_all [afterWord?]
  | _ => simp_all [afterWord?]

theorem word?_append {c : Char} {t : Token} (h : word? c input = some (t, more)) :
    word? c (input ++ rest) = some (t, more ++ rest) := by
  unfold word? at h ⊢
  split_ifs at h ⊢ with hn ht hf
  all_goals
    obtain ⟨found, hfound, heq⟩ := Option.map_eq_some_iff.mp h
    obtain ⟨rfl, rfl⟩ := Prod.mk.inj heq
    rw [afterWord?_append hfound]
    rfl

/-- Digits that end inside a text end there whatever follows the text. -/
theorem spanDigits_append (h : (spanDigits input).2 ≠ []) :
    spanDigits (input ++ rest) = ((spanDigits input).1, (spanDigits input).2 ++ rest) := by
  fun_induction spanDigits input with
  | case1 => exact absurd rfl h
  | case2 => rfl
  | case3 c inside d hd ih => simp [spanDigits, hd, ih h]
  | case4 c inside hd => simp [spanDigits, hd]

theorem fraction?_append {digits : List Digit} (h : fraction? input = some (digits, more))
    (hmore : more ≠ []) : fraction? (input ++ rest) = some (digits, more ++ rest) := by
  by_cases hpoint : input.head? = some (.char '.')
  · obtain ⟨inside, rfl⟩ := List.head?_eq_some_iff.mp hpoint
    rw [fraction?_point] at h
    split_ifs at h with hnil
    have hspan := Option.some.inj h
    have happend : spanDigits (inside ++ rest) = (digits, more ++ rest) := by
      rw [spanDigits_append (by rwa [hspan]), hspan]
    rw [List.cons_append, fraction?_point, happend, if_neg (by simpa [hspan] using hnil)]
  · rw [fraction?_other hpoint] at h
    obtain ⟨rfl, rfl⟩ := Prod.mk.inj (Option.some.inj h)
    exact fraction?_other (by rwa [List.head?_append_of_ne_nil _ hmore])

theorem exponentDigits?_append {negative : Bool} {e : Option Int}
    (h : exponentDigits? negative input = some (e, more)) (hmore : more ≠ []) :
    exponentDigits? negative (input ++ rest) = some (e, more ++ rest) := by
  rw [exponentDigits?_eq] at h ⊢
  split_ifs at h with hnil
  obtain ⟨rfl, rfl⟩ := Prod.mk.inj (Option.some.inj h)
  rw [spanDigits_append hmore, if_neg hnil]

theorem signedExponent?_append {e : Option Int} (h : signedExponent? input = some (e, more))
    (hmore : more ≠ []) : signedExponent? (input ++ rest) = some (e, more ++ rest) := by
  by_cases hminus : input.head? = some (.char '-')
  · obtain ⟨inside, rfl⟩ := List.head?_eq_some_iff.mp hminus
    exact exponentDigits?_append h hmore
  · by_cases hplus : input.head? = some (.char '+')
    · obtain ⟨inside, rfl⟩ := List.head?_eq_some_iff.mp hplus
      exact exponentDigits?_append h hmore
    · rw [signedExponent?_other hminus hplus] at h
      have hne : input ≠ [] := by
        rintro rfl
        simp [exponentDigits?_eq, spanDigits] at h
      rw [← List.head?_append_of_ne_nil input hne] at hminus hplus
      rw [signedExponent?_other hminus hplus]
      exact exponentDigits?_append h hmore

theorem exponent?_append {e : Option Int} (h : exponent? input = some (e, more))
    (hmore : more ≠ []) : exponent? (input ++ rest) = some (e, more ++ rest) := by
  by_cases hsmall : input.head? = some (.char 'e')
  · obtain ⟨inside, rfl⟩ := List.head?_eq_some_iff.mp hsmall
    exact signedExponent?_append h hmore
  · by_cases hlarge : input.head? = some (.char 'E')
    · obtain ⟨inside, rfl⟩ := List.head?_eq_some_iff.mp hlarge
      exact signedExponent?_append h hmore
    · rw [exponent?_other hsmall hlarge] at h
      obtain ⟨rfl, rfl⟩ := Prod.mk.inj (Option.some.inj h)
      rw [← List.head?_append_of_ne_nil input hmore] at hsmall hlarge
      exact exponent?_other hsmall hlarge

theorem numeral?_append {negative : Bool} {n : Numeral}
    (h : numeral? negative input = some (n, more)) (hmore : more ≠ []) :
    numeral? negative (input ++ rest) = some (n, more ++ rest) := by
  rw [numeral?_eq_some_iff] at h ⊢
  obtain ⟨hsign, hwhole, htidy, behind, hfraction, hexponent⟩ := h
  have hbehind : behind ≠ [] := by
    rintro rfl
    exact hmore (List.length_eq_zero_iff.mp (Nat.le_zero.mp (length_exponent?_le hexponent)))
  have hspan : (spanDigits input).2 ≠ [] := by
    intro hnil
    rw [hnil] at hfraction
    exact hbehind (List.length_eq_zero_iff.mp (Nat.le_zero.mp (length_fraction?_le hfraction)))
  rw [spanDigits_append hspan]
  exact ⟨hsign, hwhole, htidy, behind ++ rest, fraction?_append hfraction hbehind,
    exponent?_append hexponent hmore⟩

/-- A number without a sign starts with a digit. -/
theorem digit?_of_numeral? {negative : Bool} {c : Char} {found : Numeral × List Piece}
    (h : numeral? negative (.char c :: input) = some found) : digit? c ≠ none := by
  intro hnone
  obtain ⟨-, hwhole, htidy, -⟩ := numeral?_eq_some_iff.mp h
  refine htidy.1 (hwhole.trans ?_)
  rw [spanDigits, hnone]

/-- No word starts like a number. -/
theorem word?_of_number {c : Char} (h : c = '-' ∨ Continues c) : word? c input = none := by
  have hne : ∀ d : Char, ¬ (d = '-' ∨ Continues d) → c ≠ d := by
    rintro d hd rfl
    exact hd h
  rw [word?, if_neg (hne _ (by decide)), if_neg (hne _ (by decide)), if_neg (hne _ (by decide))]

theorem token?_append {c : Char} {t : Token} (h : token? c input = some (t, more))
    (hmore : isNumber t → more ≠ []) : token? c (input ++ rest) = some (t, more ++ rest) := by
  unfold token? at h ⊢
  cases hp : punctuation? c with
  | some p =>
      rw [hp] at h
      obtain ⟨rfl, rfl⟩ := Prod.mk.inj (Option.some.inj h)
      rfl
  | none =>
      simp only [hp] at h ⊢
      by_cases hquote : c = '"'
      · rw [if_pos hquote, string?] at h ⊢
        obtain ⟨⟨g, last⟩, hg, heq⟩ := Option.map_eq_some_iff.mp h
        obtain ⟨rfl, rfl⟩ := Prod.mk.inj heq
        rw [glyphs?_append hg]
        rfl
      · rw [if_neg hquote] at h ⊢
        cases hword : word? c input with
        | some found =>
            rw [hword] at h
            obtain rfl := Option.some.inj h
            rw [word?_append hword]
        | none =>
            simp only [hword] at h
            obtain ⟨⟨n, last⟩, hn, heq⟩ := Option.map_eq_some_iff.mp h
            obtain ⟨rfl, rfl⟩ := Prod.mk.inj heq
            have hlast : last ≠ [] := hmore rfl
            by_cases hminus : c = '-'
            · rw [if_pos hminus] at hn
              simp only [word?_of_number (Or.inl hminus), if_pos hminus, numeral?_append hn hlast,
                Option.map_some]
            · rw [if_neg hminus] at hn
              have hdigit := digit?_of_numeral? hn
              have hread : numeral? false (.char c :: (input ++ rest)) = some (n, last ++ rest) :=
                numeral?_append hn hlast
              simp only [word?_of_number (Or.inr (Or.inl hdigit)), if_neg hminus, hread,
                Option.map_some]

/-- A text whose last token is no number is cut into the same tokens whatever follows it. -/
theorem lex?_append {ts : List Token} (h : lex? input = some ts)
    (hlast : ∀ t ∈ ts.getLast?, isNumber t = false) :
    lex? (input ++ rest) = (lex? rest).map (ts ++ ·) := by
  fun_induction lex? input generalizing ts with
  | case1 =>
      obtain rfl := Option.some.inj h
      exact Option.map_id'.symm
  | case3 c inside hspace ih =>
      rw [← ih h hlast, List.cons_append, lex?, if_pos hspace]
  | case5 c inside hspace t behind htoken ih =>
      obtain ⟨us, hus, rfl⟩ := Option.map_eq_some_iff.mp h
      have hmore : isNumber t → behind ≠ [] := by
        rintro hnumber rfl
        obtain rfl : [] = us := Option.some.inj ((lex?.eq_1).symm.trans hus)
        rw [hlast t rfl] at hnumber
        cases hnumber
      have hrest := ih hus fun u hu => hlast u (by rw [List.getLast?_cons, hu]; rfl)
      rw [List.cons_append, lex?_cons (by simpa using hspace) (token?_append htoken hmore), hrest,
        Option.map_map]
      rfl
  | _ => cases h

end Appending

/-- The exponent of a number as it is written. -/
structure Exponent where
  /-- Whether its letter is the large one. -/
  large : Bool
  /-- Its sign, if there is one, and whether that is a minus. -/
  sign : Option Bool
  /-- Its digits. -/
  digits : List Digit
  /-- There are some. -/
  digits_ne_nil : digits ≠ []

/-- A number as it is written. -/
structure Literal where
  /-- Whether a minus stands in front. -/
  negative : Bool
  /-- The digits before the point. -/
  whole : List Digit
  /-- They have no needless leading zero. -/
  tidy : Tidy whole
  /-- The digits behind the point, if there is a point. -/
  fraction : Option { digits : List Digit // digits ≠ [] }
  /-- The exponent, if there is one. -/
  exponent : Option Exponent

namespace Exponent

/-- The characters of an exponent. -/
def chars (e : Exponent) : List Char :=
  (if e.large then 'E' else 'e') ::
    (e.sign.elim [] (fun minus => [if minus then '-' else '+']) ++ digitChars e.digits)

/-- The power of ten that an exponent shows. -/
def power (e : Exponent) : Int :=
  exponentOf (e.sign.getD false) e.digits

end Exponent

namespace Literal

/-- The characters of a fraction and an exponent. -/
def tailChars (l : Literal) : List Char :=
  l.fraction.elim [] (fun digits => '.' :: digitChars digits.1) ++ l.exponent.elim [] Exponent.chars

/-- The characters of a literal. -/
def chars (l : Literal) : List Char :=
  (if l.negative then ['-'] else []) ++ (digitChars l.whole ++ l.tailChars)

/-- The text of a literal. -/
def text (l : Literal) : String :=
  String.ofList l.chars

/-- The numeral that a literal shows. -/
def numeral (l : Literal) : Numeral where
  negative := l.negative
  whole := l.whole
  fraction := l.fraction.elim [] Subtype.val
  exponent := l.exponent.map Exponent.power

/-- A literal has neither a sign nor a fraction nor an exponent. -/
def Plain (l : Literal) : Prop :=
  l.negative = false ∧ l.fraction = none ∧ l.exponent = none

/-- The literal of a natural number. -/
def ofNat (n : Nat) : Literal :=
  ⟨false, digitsOf n, tidy_digitsOf n, none, none⟩

end Literal

/-- A text that does not go on with a number in front of it. -/
def EndsLiteral (rest : List Piece) : Prop :=
  ∀ c more, rest = .char c :: more → ¬ Continues c

section Literals

variable {rest : List Piece}

theorem EndsLiteral.noDigit (h : EndsLiteral rest) : NoDigit rest := by
  intro c more hrest
  have hno := h c more hrest
  simp only [Continues, not_or, not_not] at hno
  exact hno.1

theorem EndsLiteral.head?_ne (h : EndsLiteral rest) {c : Char} (hc : Continues c) :
    rest.head? ≠ some (.char c) := by
  intro hhead
  obtain ⟨more, hrest⟩ := List.head?_eq_some_iff.mp hhead
  exact h c more hrest hc

theorem exponentDigits?_digitChars (negative : Bool) {digits : List Digit} (hne : digits ≠ [])
    (h : NoDigit rest) : exponentDigits? negative (asPieces (digitChars digits) ++ rest) =
      some (some (exponentOf negative digits), rest) := by
  rw [exponentDigits?_eq, spanDigits_written digits h, if_neg hne]

/-- Digits do not start with a sign of an exponent. -/
theorem signedExponent?_digitChars {digits : List Digit} (hne : digits ≠ []) :
    signedExponent? (asPieces (digitChars digits) ++ rest) =
      exponentDigits? false (asPieces (digitChars digits) ++ rest) := by
  obtain ⟨d, more, rfl⟩ := List.exists_cons_of_ne_nil hne
  have hsign : ∀ d : Digit, digitChar d ≠ '-' ∧ digitChar d ≠ '+' := by decide
  apply signedExponent?_other
  · simpa [digitChars] using (hsign d).1
  · simpa [digitChars] using (hsign d).2

theorem signedExponent?_exponent (e : Exponent) (h : NoDigit rest) :
    signedExponent? (asPieces (e.sign.elim [] (fun minus => [if minus then '-' else '+']) ++
      digitChars e.digits) ++ rest) = some (some e.power, rest) := by
  have hdigits := exponentDigits?_digitChars (e.sign.getD false) e.digits_ne_nil h
  rw [← Exponent.power] at hdigits
  rcases e with ⟨large, _ | _ | _, digits, hne⟩
  · exact (signedExponent?_digitChars hne).trans hdigits
  · exact hdigits
  · exact hdigits

theorem exponent?_exponent (e : Option Exponent) (h : EndsLiteral rest) :
    exponent? (asPieces (e.elim [] Exponent.chars) ++ rest) =
      some (e.map Exponent.power, rest) := by
  rcases e with _ | e
  · exact exponent?_other (h.head?_ne (by decide)) (h.head?_ne (by decide))
  · have hsigned := signedExponent?_exponent e h.noDigit
    rcases e with ⟨_ | _, sign, digits, hne⟩
    · exact hsigned
    · exact hsigned

/-- Behind its fraction a literal goes on with its exponent or ends. -/
theorem exponent_starts (e : Option Exponent) (h : EndsLiteral rest) :
    NoDigit (asPieces (e.elim [] Exponent.chars) ++ rest) ∧
      (asPieces (e.elim [] Exponent.chars) ++ rest).head? ≠ some (.char '.') := by
  rcases e with _ | ⟨_ | _, sign, digits, hne⟩
  · exact ⟨h.noDigit, h.head?_ne (by decide)⟩
  · exact ⟨noDigit_cons (by decide : digit? 'e' = none), by simp [Exponent.chars]⟩
  · exact ⟨noDigit_cons (by decide : digit? 'E' = none), by simp [Exponent.chars]⟩

namespace Literal

variable {l : Literal}

theorem fraction?_tailChars (h : EndsLiteral rest) :
    fraction? (asPieces l.tailChars ++ rest) =
      some (l.numeral.fraction, asPieces (l.exponent.elim [] Exponent.chars) ++ rest) := by
  obtain ⟨hdigit, hpoint⟩ := exponent_starts l.exponent h
  rcases l with ⟨negative, whole, tidy, _ | ⟨digits, hne⟩, exponent⟩
  · exact fraction?_other hpoint
  · have hspan := spanDigits_written digits hdigit
    rw [← List.append_assoc, ← asPieces_append] at hspan
    have hread := fraction?_point (asPieces (digitChars digits ++
      exponent.elim [] Exponent.chars) ++ rest)
    rw [hspan, if_neg hne] at hread
    exact hread

theorem noDigit_tailChars (h : EndsLiteral rest) : NoDigit (asPieces l.tailChars ++ rest) := by
  rcases l with ⟨negative, whole, tidy, _ | ⟨digits, hne⟩, exponent⟩
  · exact (exponent_starts exponent h).1
  · exact noDigit_cons (by decide)

theorem numeral?_literal (h : EndsLiteral rest) :
    numeral? l.negative (asPieces (digitChars l.whole ++ l.tailChars) ++ rest) =
      some (l.numeral, rest) := by
  rw [asPieces_append, List.append_assoc, numeral?_eq_some_iff,
    spanDigits_written l.whole (noDigit_tailChars h)]
  exact ⟨rfl, rfl, l.tidy, _, fraction?_tailChars h, exponent?_exponent l.exponent h⟩

/-- A literal is read as the numeral that it shows. -/
theorem lex?_literal (h : EndsLiteral rest) :
    lex? (asPieces l.chars ++ rest) = (lex? rest).map (.num l.numeral :: ·) := by
  have hread := numeral?_literal (l := l) h
  cases hneg : l.negative with
  | true =>
      rw [hneg] at hread
      have htoken : token? '-' (asPieces (digitChars l.whole ++ l.tailChars) ++ rest) =
          some (.num l.numeral, rest) := by
        rw [token?_minus, hread]
        rfl
      rw [chars, hneg]
      exact lex?_cons (by decide) htoken
  | false =>
      obtain ⟨d, whole, hwhole⟩ := List.exists_cons_of_ne_nil l.tidy.1
      have hchars : digitChars l.whole ++ l.tailChars =
          digitChar d :: (digitChars whole ++ l.tailChars) := by
        rw [hwhole]
        rfl
      rw [hneg, hchars] at hread
      have htoken : token? (digitChar d) (asPieces (digitChars whole ++ l.tailChars) ++ rest) =
          some (.num l.numeral, rest) := by
        rw [token?_of_digit]
        exact congrArg (Option.map _) hread
      rw [chars, hneg, if_neg Bool.false_ne_true, List.nil_append, hchars]
      exact lex?_cons (isSpace_digitChar d) htoken

end Literal

theorem Continues.ne {c d : Char} (h : Continues c) (hd : ¬ Continues d) : c ≠ d := by
  rintro rfl
  exact hd h

/-- A character that a number goes on with starts no token but a number. -/
theorem token?_of_continues {c : Char} (h : Continues c) (more : List Piece) :
    token? c more =
      (numeral? false (.char c :: more)).map fun (n, rest) => (.num n, rest) := by
  have hpunctuation : punctuation? c = none := by
    rw [punctuation?, if_neg (h.ne (by decide)), if_neg (h.ne (by decide)),
      if_neg (h.ne (by decide)), if_neg (h.ne (by decide)), if_neg (h.ne (by decide)),
      if_neg (h.ne (by decide))]
  simp only [token?, hpunctuation, if_neg (h.ne (by decide : ¬ Continues '"')),
    if_neg (h.ne (by decide : ¬ Continues '-')), word?_of_number (Or.inr h)]

theorem Continues.isSpace_eq_false {c : Char} (h : Continues c) : isSpace c = false := by
  simp only [isSpace, Bool.or_eq_false_iff, beq_eq_false_iff_ne]
  exact ⟨⟨⟨h.ne (by decide), h.ne (by decide)⟩, h.ne (by decide)⟩, h.ne (by decide)⟩

/-- A text whose first token is no number does not go on with one in front of it. -/
theorem endsLiteral_of_lex? {ts : List Token} (h : lex? rest = some ts)
    (hfirst : ∀ t ∈ ts.head?, isNumber t = false) : EndsLiteral rest := by
  rintro c more rfl hc
  rw [lex?, if_neg (by simp [hc.isSpace_eq_false])] at h
  split at h
  · cases h
  · next t behind htoken =>
      obtain ⟨us, -, rfl⟩ := Option.map_eq_some_iff.mp h
      rw [token?_of_continues hc] at htoken
      obtain ⟨⟨n, last⟩, -, heq⟩ := Option.map_eq_some_iff.mp htoken
      obtain ⟨rfl, rfl⟩ := Prod.mk.inj heq
      exact absurd (hfirst (.num n) rfl) (by simp [isNumber])

/-- A literal between two texts is read between the tokens of these. -/
theorem lex?_around {front back : List Piece} {ts us : List Token} (l : Literal)
    (hfront : lex? front = some ts) (hlast : ∀ t ∈ ts.getLast?, isNumber t = false)
    (hback : lex? back = some us) (hfirst : ∀ t ∈ us.head?, isNumber t = false) :
    lex? (front ++ asPieces l.chars ++ back) = some (ts ++ .num l.numeral :: us) := by
  rw [List.append_assoc, lex?_append hfront hlast,
    Literal.lex?_literal (endsLiteral_of_lex? hback hfirst), hback]
  rfl

end Literals

section Values

namespace Literal

variable {l : Literal}

/-- Exactly the plain literals show natural numbers. -/
theorem nat?_numeral_eq_some_iff {n : Nat} :
    l.numeral.nat? = some n ↔ l.Plain ∧ value l.whole = n := by
  rcases l with ⟨_ | _, whole, tidy, _ | ⟨digits, hne⟩, _ | exponent⟩ <;>
    simp_all [numeral, Numeral.nat?, Plain]

/-- A plain literal is the text of its value. -/
theorem text_eq_of_plain (h : l.Plain) : l.text = natText (value l.whole) := by
  obtain ⟨hsign, hfraction, hexponent⟩ := h
  rw [text, chars, tailChars, hsign, hfraction, hexponent, natText, digitsOf_value l.tidy]
  simp

end Literal

end Values

end LaunchDesk.Json
