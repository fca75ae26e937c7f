/-!
# Blanks

White space in the wide sense of the Unicode property, and texts without it at their ends.
-/

namespace LaunchDesk.Text

/-- The runs of code points with the property White_Space. -/
def blankRanges : List (Nat × Nat) :=
  [(0x9, 0xD), (0x20, 0x20), (0x85, 0x85), (0xA0, 0xA0), (0x1680, 0x1680), (0x2000, 0x200A),
    (0x2028, 0x2029), (0x202F, 0x202F), (0x205F, 0x205F), (0x3000, 0x3000)]

/-- Membership of a character in a table of code point ranges. -/
def inRanges (ranges : List (Nat × Nat)) (c : Char) : Bool :=
  ranges.any fun (first, last) => first ≤ c.toNat && c.toNat ≤ last

/-- White space of any kind, line ends included. -/
def isBlank (c : Char) : Bool :=
  inRanges blankRanges c

/-- Whether a text has nothing but blanks. -/
def isBlankText (s : String) : Bool :=
  s.toList.all isBlank

/-- A list without the elements that satisfy a test at either end. -/
def trimBy {α : Type} (test : α → Bool) (s : List α) : List α :=
  ((s.dropWhile test).reverse.dropWhile test).reverse

/-- A text without blanks at either end. -/
def trim (s : List Char) : List Char :=
  trimBy isBlank s

end LaunchDesk.Text
