import LaunchDesk.Text.CompositionTable

/-!
# Composed text

A letter with signs can be written as one character or as several, and signs that do not touch can
stand in any order. A composed text has one spelling for all of these: signs in the order of their
classes, and as few characters as the tables allow.

## Implementation notes

Korean syllables are composed by arithmetic. A syllable is made of one of 19 leading letters, one of
21 vowels and perhaps one of 27 trailing letters, and the syllables are numbered in that order.
-/

namespace LaunchDesk.Text

/-- The class of a character. Signs of the same class keep their order; characters of class zero
are not moved at all. -/
def signClass (c : Char) : Nat :=
  match signClasses.find? fun (first, last, _) => first ≤ c.toNat && c.toNat ≤ last with
  | some (_, _, n) => n
  | none => 0

/-- The leading letter, the vowel and the trailing letter of a Korean syllable. -/
def syllableParts? (c : Char) : Option (List Char) :=
  let n := c.toNat - 0xAC00
  if c.toNat < 0xAC00 || 11172 ≤ n then none
  else
    let letters := [Char.ofNat (0x1100 + n / 588), Char.ofNat (0x1161 + n % 588 / 28)]
    some (if n % 28 = 0 then letters else letters ++ [Char.ofNat (0x11A7 + n % 28)])

/-- The Korean syllable of two characters. -/
def syllable? (a b : Char) : Option Char :=
  let m := a.toNat
  let n := b.toNat
  if 0x1100 ≤ m && m < 0x1113 && 0x1161 ≤ n && n < 0x1176 then
    some (Char.ofNat (0xAC00 + (m - 0x1100) * 588 + (n - 0x1161) * 28))
  else if 0xAC00 ≤ m && m < 0xAC00 + 11172 && (m - 0xAC00) % 28 == 0 && 0x11A8 ≤ n &&
      n < 0x11C3 then
    some (Char.ofNat (m + (n - 0x11A7)))
  else none

/-- The character that is composed of two. -/
def composition? (a b : Char) : Option Char :=
  (syllable? a b).or <| compositions.findSome? fun (sign, bases, composed) =>
    if sign = b then (bases.toList.idxOf? a).bind fun i => composed.toList[i]? else none

/-- The two characters of which one is composed. -/
def components? (c : Char) : Option (Char × Char) :=
  compositions.findSome? fun (sign, bases, composed) => do
    let i ← composed.toList.idxOf? c
    return (← bases.toList[i]?, sign)

/-- A character without its signs, and the signs; at most so many of them are taken off. -/
def takenApart : Nat → Char → List Char
  | 0, c => [c]
  | signs + 1, c =>
      match components? c with
      | some (base, sign) => takenApart signs base ++ [sign]
      | none => [c]

/-- The parts of a character, of which none can be taken apart. No character has more than three
signs. -/
def parts (c : Char) : List Char :=
  (syllableParts? c).getD (takenApart 3 c)

/-- Put a character in front of a text, but behind the signs of lower classes at its start. -/
def insertSign (c : Char) : List Char → List Char
  | [] => [c]
  | d :: rest =>
      if signClass d ≠ 0 ∧ signClass d < signClass c then d :: insertSign c rest else c :: d :: rest

/-- A text with its signs in order. -/
def sortSigns (s : List Char) : List Char :=
  s.foldr insertSign []

/-- Compose a character with the signs behind it. `signs` are those that stay. -/
def composeWith (c : Char) (signs : List Char) : List Char → List Char
  | [] => c :: signs
  | d :: rest =>
      let inReach := signs.getLast?.all fun sign => signClass sign < signClass d
      match if inReach then composition? c d else none with
      | some composed => composeWith composed signs rest
      | none =>
          if signClass d = 0 then c :: signs ++ composeWith d [] rest
          else composeWith c (signs ++ [d]) rest

/-- A text of parts in order, composed. -/
def compose : List Char → List Char
  | [] => []
  | c :: rest => if signClass c = 0 then composeWith c [] rest else c :: compose rest

/-- The composed spelling of a text. -/
def composed (s : List Char) : List Char :=
  compose (sortSigns (s.flatMap parts))

end LaunchDesk.Text
