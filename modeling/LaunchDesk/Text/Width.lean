import LaunchDesk.Text.EmojiTable
import LaunchDesk.Text.Ligature
import LaunchDesk.Text.WidthTable

/-!
# Display width

The number of terminal columns that a line of text takes.

## Implementation notes

A line is read from its end, because what follows a character can change its width: a selector
turns a symbol into an emoji of two columns or an emoji into a symbol of one, a joiner or a skin
tone merges emoji into one picture, and some letters merge with the ones before them. Control
characters count as one column, so a line may hold anything but its own line end.
-/

namespace LaunchDesk.Text

/-- What stands behind a character, as far as the width of the character depends on it. -/
inductive Follower where
  /-- Nothing that matters. -/
  | plain
  /-- An emoji. -/
  | emoji
  /-- A skin tone. -/
  | tone
  /-- One half of a flag. -/
  | halfFlag
  /-- Several halves of flags. -/
  | flags
  /-- A joiner with an emoji behind it. -/
  | joined
  /-- The frame of a keycap, joined to an emoji. -/
  | joinedKeycap
  /-- One half of a flag, joined to an emoji. -/
  | joinedHalfFlag
  /-- Several halves of flags, the last of them joined to an emoji, and whether their number is
  odd. -/
  | joinedFlags (odd : Bool)
  /-- The end of the name of a region, joined to an emoji; so many letters and digits of the name
  have been seen. -/
  | joinedRegion (letters digits : Nat)
  /-- The letter alef, perhaps with signs on it. -/
  | alef
  /-- Another letter that may end a merge, and whether a joiner is in front of it. -/
  | letter (l : Letter) (joined : Bool)
  /-- The Kirat Rai vowel sign e, which may be the second half of a vowel sign. -/
  | vowelE
  /-- The Kirat Rai vowel sign ai, which may be the second half of a vowel sign. -/
  | vowelAi
  deriving DecidableEq, Repr

namespace Follower

/-- Whether a selector in front of a follower leaves it in reach of the characters before. -/
def staysInReach : Follower → Bool
  | alef | letter _ _ => true
  | _ => false

/-- Whether a follower merges with an emoji that is selected before it. -/
def mergesSelected : Follower → Bool
  | joined | joinedKeycap => true
  | _ => false

end Follower

/-- What stands behind a character, with the selectors in between. -/
structure Behind where
  /-- What stands behind the selectors. -/
  follower : Follower
  /-- Whether the emoji style is selected. -/
  emojiStyle : Bool
  /-- Whether the text style is selected. -/
  textStyle : Bool
  /-- Whether the wide form is selected. -/
  wideForm : Bool
  deriving DecidableEq, Repr

namespace Behind

/-- A follower without selectors. -/
def bare (f : Follower) : Behind :=
  ⟨f, false, false, false⟩

/-- With the emoji style selected. -/
def selectEmoji (b : Behind) : Behind :=
  if b.follower.staysInReach || b.follower.mergesSelected then { b with emojiStyle := true }
  else ⟨.plain, true, false, false⟩

/-- With the text style selected. -/
def selectText (b : Behind) : Behind :=
  if b.follower.staysInReach then { b with textStyle := true } else ⟨.plain, false, true, false⟩

/-- With the wide form selected. -/
def selectWide (b : Behind) : Behind :=
  if b.follower.staysInReach then { b with wideForm := true } else ⟨.plain, false, false, true⟩

/-- What remains when the emoji style is selected for a character that does not have it. -/
def dropEmoji (b : Behind) : Behind :=
  if b.follower.staysInReach then { b with emojiStyle := false } else bare .plain

end Behind

/-- The width of a character that stands alone. -/
def charWidth (c : Char) : Nat :=
  if c.toNat ≤ 0xA0 then 1
  else if c.toNat = 0x17D8 then 3
  else if inRanges zeroWidthRanges c then 0
  else if inRanges wideRanges c then 2
  else 1

/-- The five skin tones. -/
def isTone (c : Char) : Bool :=
  inRanges [(0x1F3FB, 0x1F3FF)] c

/-- The halves of flags, which are letters. -/
def isHalfFlag (c : Char) : Bool :=
  inRanges [(0x1F1E6, 0x1F1FF)] c

/-- Whether a character has both a text and an emoji style. -/
def isStyled (c : Char) : Bool :=
  inRanges styledRanges c

/-- Whether a character is narrower in its text style; ideographs in squares are not. -/
def narrowsAsText (c : Char) : Bool :=
  isStyled c && inRanges emojiByDefaultRanges c && !inRanges [(0x1F200, 0x1F2FF)] c

/-- The quotation marks that have a wide form. -/
def isQuotationMark (c : Char) : Bool :=
  inRanges [(0x2018, 0x2019), (0x201C, 0x201D)] c

/-- The signs that may stand between a lam and an alef that merge. -/
def isOverAlef (c : Char) : Bool :=
  0xA0 < c.toNat && charWidth c == 0 && !inRanges separatingRanges c

/-- What a character is to the characters before it, if nothing behind it matters. -/
def followerOf (c : Char) : Follower :=
  if c.toNat ≤ 0xA0 then .plain
  else if isTone c then .tone
  else if isHalfFlag c then .halfFlag
  else if inRanges emojiByDefaultRanges c then .emoji
  else if isAlef c then .alef
  else if c.toNat = 0x16D67 then .vowelE
  else if c.toNat = 0x16D68 then .vowelAi
  else
    match Letter.of? c with
    | some l => .letter l false
    | none => .plain

/-- A character with nothing behind it that changes its width. -/
def alone (c : Char) : Int × Behind :=
  (charWidth c, .bare (followerOf c))

/-- A character that changes what stands behind it. -/
def changed (width : Int) (f : Follower) : Option (Int × Behind) :=
  some (width, .bare f)

/-- A character before the end of the name of a region that is joined to an emoji. A name has three
to six letters, or three digits before at most four letters. -/
def beforeRegion? (c : Char) (letters digits : Nat) : Option (Int × Behind) :=
  if inRanges [(0xE0061, 0xE007A)] c && digits == 0 && decide (letters < 6) then
    changed 0 (.joinedRegion (letters + 1) 0)
  else if inRanges [(0xE0030, 0xE0039)] c && decide (letters ≤ 4 ∧ digits < 3) then
    changed 0 (.joinedRegion letters (digits + 1))
  else if c.toNat == 0x1F3F4 && (digits == 3 || (digits == 0 && decide (3 ≤ letters))) then
    changed 0 .emoji
  else none

/-- A character before a joiner with an emoji behind it. -/
def beforeJoined? (c : Char) : Option (Int × Behind) :=
  if c.toNat = 0x20E3 then changed 0 .joinedKeycap
  else if c.toNat = 0xE007F then changed 0 (.joinedRegion 0 0)
  else if isHalfFlag c then changed 1 .joinedHalfFlag
  else if isTone c then changed 0 .tone
  else if inRanges emojiByDefaultRanges c then changed 0 .emoji
  else none

/-- A character before the Kirat Rai vowel sign e: e and e are ai, aa and e are o. -/
def beforeVowelE? (c : Char) : Option (Int × Behind) :=
  if c.toNat = 0x16D63 then changed 0 .plain
  else if c.toNat = 0x16D67 then changed 0 .vowelAi
  else if c.toNat = 0x16D68 then changed 1 .vowelE
  else if c.toNat = 0x16D69 then changed 0 .plain
  else none

/-- A character before a letter. -/
def beforeLetter? (c : Char) (l : Letter) (joined : Bool) : Option (Int × Behind) :=
  (l.merge? c joined).map fun (width, rest) =>
    (width, .bare (rest.elim .plain fun l => .letter l false))

/-- A character that merges with what stands behind it or is changed by it. -/
def before? (c : Char) : Follower → Option (Int × Behind)
  | .plain => none
  | .emoji => if c = joiner then changed 0 .joined else none
  | .tone =>
      if inRanges toneBaseRanges c then changed 0 .emoji
      else if c = joiner then changed 0 .joined
      else none
  | .halfFlag => if isHalfFlag c then changed 1 .flags else none
  | .flags =>
      if isHalfFlag c then changed 1 .flags
      else if c = joiner then changed 0 .joined
      else none
  | .joined => beforeJoined? c
  | .joinedKeycap => none
  | .joinedHalfFlag => if isHalfFlag c then changed (-1) (.joinedFlags false) else none
  | .joinedFlags odd =>
      if isHalfFlag c then changed (if odd then -1 else 3) (.joinedFlags (!odd))
      else if c = joiner then changed 0 .joined
      else none
  | .joinedRegion letters digits => beforeRegion? c letters digits
  | .alef =>
      if isLam c then changed 0 .plain
      else if isOverAlef c then changed 0 .alef
      else none
  | .letter l joined => beforeLetter? c l joined
  | .vowelE => beforeVowelE? c
  | .vowelAi => if c.toNat = 0x16D63 then changed 0 .plain else none

/-- A character with a bare follower behind it, or with one that a selector keeps apart. -/
def widthAt (c : Char) (b : Behind) : Int × Behind :=
  if b.wideForm then alone c else (before? c b.follower).getD (alone c)

/-- A character that is no selector, with neither of the two styles selected. Joiners and other
marks do not separate letters. -/
def widthAmongMarks (c : Char) (b : Behind) : Int × Behind :=
  match b.follower with
  | .letter l _ =>
      if c = joiner then (0, { b with follower := .letter l true })
      else if isTransparentMark c then (0, b)
      else widthAt c b
  | _ => widthAt c b

/-- A character for which the emoji style is not selected. -/
def widthUnstyled (c : Char) (b : Behind) : Int × Behind :=
  if c.toNat ≤ 0xA0 then alone c
  else if c.toNat = 0xFE0F then (0, b.selectEmoji)
  else if c.toNat = 0xFE0E then (0, b.selectText)
  else if c.toNat = 0xFE01 then (0, b.selectWide)
  else if b.textStyle then
    if narrowsAsText c then (1, .bare .plain) else widthAmongMarks c { b with textStyle := false }
  else if b.wideForm then
    if isQuotationMark c then (2, .bare .plain) else widthAmongMarks c { b with wideForm := false }
  else widthAmongMarks c b

/-- What a character adds to the width of what stands behind it, and what stands behind the
character before it then. -/
def widthBefore (c : Char) (b : Behind) : Int × Behind :=
  if b.emojiStyle then
    if isStyled c then (if b.follower.mergesSelected then 0 else 2, .bare .emoji)
    else widthUnstyled c b.dropEmoji
  else widthUnstyled c b

/-- The width of a line with one more character in front of it, and what stands behind the character
before that. -/
def measureBefore (c : Char) (measured : Int × Behind) : Int × Behind :=
  let (width, behind) := widthBefore c measured.2
  (measured.1 + width, behind)

/-- The width of a line, and what stands behind a character in front of it. -/
def measure (line : List Char) : Int × Behind :=
  line.foldr measureBefore (0, .bare .plain)

/-- The number of columns that a line takes. -/
def lineWidth (line : List Char) : Nat :=
  (measure line).1.toNat

end LaunchDesk.Text
