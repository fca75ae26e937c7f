import LaunchDesk.Text.Blank

/-!
# Letters that merge

Some letters merge with the letter before them into one sign. The scripts have rules of their own:
which letters merge, and whether they do so by themselves or only across a joiner.

## Implementation notes

A text is read from its end, so a merge is found at its last letter and grows toward the front. What
a further letter adds to the width can be negative: a letter that has been counted may turn out to
be a part of the sign before it.
-/

namespace LaunchDesk.Text

/-- The joiner, which has no shape and no width. -/
def joiner : Char := '\u200d'

/-- The forms of the letter alef that merge with a lam before them. -/
def isAlef (c : Char) : Bool :=
  inRanges [(0x622, 0x623), (0x625, 0x625), (0x627, 0x627), (0x671, 0x673), (0x675, 0x675),
    (0x773, 0x774), (0x870, 0x882)] c

/-- The forms of the letter lam that merge with an alef behind them. -/
def isLam (c : Char) : Bool :=
  inRanges [(0x644, 0x644), (0x6B5, 0x6B8), (0x76A, 0x76A), (0x8A6, 0x8A6), (0x8C7, 0x8C7)] c

/-- The Tifinagh consonants. -/
def isTifinaghConsonant (c : Char) : Bool :=
  inRanges [(0x2D31, 0x2D65), (0x2D6F, 0x2D6F)] c

/-- The Khmer letters that have a form below other letters. -/
def isSubjoinable (c : Char) : Bool :=
  inRanges [(0x1780, 0x1782), (0x1784, 0x1787), (0x1789, 0x178C), (0x178E, 0x1793),
    (0x1795, 0x1798), (0x179B, 0x179D), (0x17A0, 0x17A0), (0x17A2, 0x17A2), (0x17A7, 0x17A7),
    (0x17AB, 0x17AC), (0x17AF, 0x17AF)] c

/-- The marks that may stand anywhere in a merge. -/
def isTransparentMark (c : Char) : Bool :=
  inRanges [(0x34F, 0x34F), (0x17B4, 0x17B5), (0x180B, 0x180D), (0x180F, 0x180F),
    (0xFE00, 0xFE0F), (0xE0100, 0xE01EF)] c

/-- The last part of a possible merge. -/
inductive Letter where
  /-- The Hebrew letter lamed. -/
  | lamed
  /-- The Buginese letter ya. -/
  | ya
  /-- The Buginese vowel sign i joined to a ya. -/
  | vowelYa
  /-- A Tifinagh consonant. -/
  | consonant
  /-- A Tifinagh consonant behind the consonant joiner. -/
  | linkedConsonant
  /-- One of the two Lisu letters that end a pair of tones. -/
  | tone
  /-- The Old Turkic letter i of the Orkhon inscriptions. -/
  | orkhonI
  /-- A Khmer letter that has a form below other letters. -/
  | subjoinable
  deriving DecidableEq, Repr

namespace Letter

/-- The letter that a character is, if it may end a merge. -/
def of? (c : Char) : Option Letter :=
  if c.toNat = 0x5DC then some lamed
  else if c.toNat = 0x1A10 then some ya
  else if isTifinaghConsonant c then some consonant
  else if inRanges [(0xA4FC, 0xA4FD)] c then some tone
  else if c.toNat = 0x10C03 then some orkhonI
  else if isSubjoinable c then some subjoinable
  else none

/-- What a character in front of a letter adds to the width if the two merge, and the letter that
the merge ends with now, if it can go on. Some letters merge only across a joiner. -/
def merge? (c : Char) (joined : Bool) : Letter → Option (Int × Option Letter)
  | lamed => if joined && c.toNat == 0x5D0 then some (0, none) else none
  | ya => if joined && c.toNat == 0x1A17 then some (0, some vowelYa) else none
  | vowelYa => if c.toNat = 0x1A15 then some (0, none) else none
  | consonant =>
      if c.toNat = 0x2D7F then some (1, some linkedConsonant)
      else if joined && isTifinaghConsonant c then some (0, none)
      else none
  | linkedConsonant => if isTifinaghConsonant c then some (-1, none) else none
  | tone => if inRanges [(0xA4F8, 0xA4FB)] c then some (0, none) else none
  | orkhonI => if joined && c.toNat == 0x10C32 then some (0, none) else none
  | subjoinable => if c.toNat = 0x17D2 then some (-1, none) else none

end Letter

end LaunchDesk.Text
