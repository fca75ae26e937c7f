import LaunchDesk.Text.Width
import Mathlib.Tactic.SplitIfs

/-!
# The width of composed lines

A blank, and every other sign of a frame, keeps what stands behind it apart from what stands in
front of it. So the width of a line that is composed around such signs is the sum of the widths of
its parts.

## Implementation notes

What a character adds to the width of a line can be negative, since characters that have been
counted may turn out to be parts of another one. All that is ever taken back has been put in reserve
before, by the follower that stands there; so no width is negative, and the sum of widths is one of
natural numbers.
-/

namespace LaunchDesk.Text

section Reserve

/-- How much of the width of what stands behind a character may still be taken back. -/
def Follower.reserve : Follower → Int
  | joinedHalfFlag | joinedFlags true => 1
  | letter .linkedConsonant _ | letter .subjoinable _ => 1
  | _ => 0

theorem Follower.reserve_nonneg (f : Follower) : 0 ≤ f.reserve := by
  unfold reserve
  split <;> decide

/-- A width that is added to a line which has some follower in front, and the new follower. No more
is taken back than there is in reserve. -/
def Covered (f : Follower) (p : Int × Behind) : Prop :=
  p.2.follower.reserve ≤ f.reserve + p.1

/-- The code points of the letters with a form below other letters. -/
theorem subjoinable_toNat {c : Char} (h : isSubjoinable c = true) :
    ∃ n < 0x30, c = Char.ofNat (0x1780 + n) := by
  refine ⟨c.toNat - 0x1780, ?_⟩
  simp only [isSubjoinable, inRanges, List.any_cons, List.any_nil, Bool.or_false, Bool.or_eq_true,
    Bool.and_eq_true, decide_eq_true_eq] at h
  have hrange : 0x1780 ≤ c.toNat ∧ c.toNat < 0x1780 + 0x30 := by omega
  refine ⟨by omega, ?_⟩
  rw [Nat.add_sub_cancel' hrange.1, Char.ofNat_toNat]

/-- A letter with a form below other letters has a width. -/
theorem charWidth_subjoinable {c : Char} (h : isSubjoinable c = true) : 1 ≤ charWidth c := by
  have hall : ∀ n < 0x30, isSubjoinable (Char.ofNat (0x1780 + n)) = true →
      1 ≤ charWidth (Char.ofNat (0x1780 + n)) := by
    decide +kernel
  obtain ⟨n, hn, rfl⟩ := subjoinable_toNat h
  exact hall n hn h

variable {c : Char} {f : Follower} {b : Behind} {p : Int × Behind}

/-- Of the characters that stand alone, only those letters put something in reserve. -/
theorem reserve_followerOf (c : Char) : (followerOf c).reserve ≤ charWidth c := by
  by_cases hsub : isSubjoinable c = true
  · have hwidth := charWidth_subjoinable hsub
    have hreserve : (followerOf c).reserve ≤ 1 := by
      unfold Follower.reserve
      split <;> decide
    omega
  · have hreserve : (followerOf c).reserve = 0 := by
      have hletter : ∀ l, Letter.of? c = some l → (Follower.letter l false).reserve = 0 := by
        intro l hl
        unfold Letter.of? at hl
        split_ifs at hl <;> cases hl <;> rfl
      unfold followerOf
      split_ifs
      any_goals rfl
      split
      · next l hl => exact hletter l hl
      · rfl
    omega

theorem covered_alone (c : Char) (f : Follower) : Covered f (alone c) := by
  have hnonneg := f.reserve_nonneg
  have hcovered := reserve_followerOf c
  simp only [Covered, alone, Behind.bare]
  omega

theorem covered_merge {l : Letter} {joined : Bool} {rest : Option Letter} {width : Int}
    (h : l.merge? c joined = some (width, rest)) :
    Covered (.letter l joined) (width, .bare (rest.elim .plain fun l => .letter l false)) := by
  cases l <;> simp only [Letter.merge?] at h <;> split_ifs at h <;> cases h <;>
    simp [Covered, Behind.bare, Follower.reserve]

theorem covered_before (h : before? c f = some p) : Covered f p := by
  cases f with
  | letter l joined =>
      obtain ⟨⟨width, rest⟩, hmerge, rfl⟩ := Option.map_eq_some_iff.mp h
      exact covered_merge hmerge
  | plain | joinedKeycap => cases h
  | joinedFlags odd =>
      cases odd <;> simp only [before?, changed, Bool.false_eq_true, if_false, if_true] at h <;>
        split_ifs at h <;> cases h <;> simp [Covered, Behind.bare, Follower.reserve]
  | _ =>
      simp only [before?, beforeJoined?, beforeRegion?, beforeVowelE?, changed] at h
      split_ifs at h <;> cases h <;> simp [Covered, Behind.bare, Follower.reserve]

theorem covered_widthAt (c : Char) (b : Behind) : Covered b.follower (widthAt c b) := by
  unfold widthAt
  split_ifs
  · exact covered_alone c _
  · cases h : before? c b.follower with
    | none => exact covered_alone c _
    | some p => exact covered_before h

/-- Marks take nothing back, and a letter stays the same behind them. -/
theorem covered_widthAmongMarks (c : Char) (b : Behind) :
    Covered b.follower (widthAmongMarks c b) := by
  unfold widthAmongMarks
  split
  · next l joined hl =>
      split_ifs
      · simp only [Covered, hl]
        cases l <;> simp [Follower.reserve]
      · simp [Covered, hl]
      · exact covered_widthAt c b
  · exact covered_widthAt c b

theorem covered_of_noReserve {w : Int} (hb : b.follower.reserve = 0) (hw : 0 ≤ w) :
    Covered f (w, b) := by
  have hnonneg := f.reserve_nonneg
  simp only [Covered]
  omega

theorem covered_select (b : Behind) :
    Covered b.follower (0, b.selectEmoji) ∧ Covered b.follower (0, b.selectText) ∧
      Covered b.follower (0, b.selectWide) := by
  refine ⟨?_, ?_, ?_⟩
  · unfold Behind.selectEmoji
    split_ifs
    · simp [Covered]
    · exact covered_of_noReserve rfl (by decide)
  · unfold Behind.selectText
    split_ifs
    · simp [Covered]
    · exact covered_of_noReserve rfl (by decide)
  · unfold Behind.selectWide
    split_ifs
    · simp [Covered]
    · exact covered_of_noReserve rfl (by decide)

theorem covered_widthUnstyled (c : Char) (b : Behind) :
    Covered b.follower (widthUnstyled c b) := by
  obtain ⟨hemoji, htext, hwide⟩ := covered_select b
  unfold widthUnstyled
  split_ifs
  · exact covered_alone c _
  · exact hemoji
  · exact htext
  · exact hwide
  · exact covered_of_noReserve rfl (by decide)
  · exact covered_widthAmongMarks c { b with textStyle := false }
  · exact covered_of_noReserve rfl (by decide)
  · exact covered_widthAmongMarks c { b with wideForm := false }
  · exact covered_widthAmongMarks c b

theorem covered_widthBefore (c : Char) (b : Behind) : Covered b.follower (widthBefore c b) := by
  unfold widthBefore
  split_ifs
  · exact covered_of_noReserve rfl (by decide)
  · exact covered_of_noReserve rfl (by decide)
  · have hdrop : b.dropEmoji.follower.reserve ≤ b.follower.reserve := by
      unfold Behind.dropEmoji
      split_ifs
      · exact Int.le_refl _
      · exact b.follower.reserve_nonneg
    have hcovered := covered_widthUnstyled c b.dropEmoji
    simp only [Covered] at hcovered ⊢
    omega
  · exact covered_widthUnstyled c b

theorem reserve_le_measure (line : List Char) :
    (measure line).2.follower.reserve ≤ (measure line).1 := by
  induction line with
  | nil => exact Int.le_refl 0
  | cons c line ih =>
      have hcovered := covered_widthBefore c (measure line).2
      simp only [Covered] at hcovered
      change (widthBefore c (measure line).2).2.follower.reserve ≤
        (measure line).1 + (widthBefore c (measure line).2).1
      omega

/-- No width is negative. -/
theorem lineWidth_eq (line : List Char) : (lineWidth line : Int) = (measure line).1 := by
  have hreserve := reserve_le_measure line
  have hnonneg := (measure line).2.follower.reserve_nonneg
  unfold lineWidth
  omega

end Reserve

section Frames

variable {c : Char} {front back : List Char}

/-- A sign that stands apart: it has one column, and nothing in front of it depends on what is
behind it. -/
def StandsApart (c : Char) : Prop :=
  c.toNat ≤ 0xA0 ∧ isStyled c = false

instance (c : Char) : Decidable (StandsApart c) :=
  inferInstanceAs (Decidable (_ ∧ _))

theorem widthBefore_of_apart (h : StandsApart c) (b : Behind) :
    widthBefore c b = (1, .bare .plain) := by
  obtain ⟨hc, hstyled⟩ := h
  have halone : alone c = (1, .bare .plain) := by
    simp [alone, charWidth, followerOf, hc]
  simp [widthBefore, widthUnstyled, hc, hstyled, halone]

/-- What is counted already is only added to. -/
theorem foldr_measureBefore (line : List Char) (n : Int) (b : Behind) :
    line.foldr measureBefore (n, b) =
      ((line.foldr measureBefore (0, b)).1 + n, (line.foldr measureBefore (0, b)).2) := by
  induction line with
  | nil => simp
  | cons c line ih =>
      rw [List.foldr_cons, List.foldr_cons, ih]
      simp only [measureBefore]
      refine Prod.ext ?_ rfl
      dsimp only
      omega

/-- Around a sign that stands apart the widths of both parts add up. -/
theorem lineWidth_append_cons (h : StandsApart c) (front back : List Char) :
    lineWidth (front ++ c :: back) = lineWidth front + 1 + lineWidth back := by
  have hback : measure (c :: back) = ((measure back).1 + 1, .bare .plain) := by
    change measureBefore c (measure back) = _
    rw [measureBefore, widthBefore_of_apart h]
  have hline : (measure (front ++ c :: back)).1 = (measure front).1 + 1 + (measure back).1 := by
    rw [measure, List.foldr_append]
    change (front.foldr measureBefore (measure (c :: back))).1 = _
    rw [hback, foldr_measureBefore]
    change (measure front).1 + ((measure back).1 + 1) = _
    omega
  have hsum : (lineWidth (front ++ c :: back) : Int) =
      (lineWidth front + 1 + lineWidth back : Nat) := by
    rw [lineWidth_eq, hline]
    push_cast
    rw [lineWidth_eq, lineWidth_eq]
  exact Int.ofNat_inj.mp hsum

theorem lineWidth_cons (h : StandsApart c) (line : List Char) :
    lineWidth (c :: line) = 1 + lineWidth line := by
  have hline := lineWidth_append_cons h [] line
  rwa [List.nil_append, show lineWidth [] = 0 from rfl, Nat.zero_add] at hline

theorem lineWidth_replicate (h : StandsApart c) (n : Nat) :
    lineWidth (List.replicate n c) = n := by
  induction n with
  | zero => rfl
  | succ n ih => rw [List.replicate_succ, lineWidth_cons h, ih, Nat.add_comm]

end Frames

end LaunchDesk.Text
