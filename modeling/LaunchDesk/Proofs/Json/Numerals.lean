import LaunchDesk.Decimal.Shortest
import Mathlib.Algebra.Group.Nat.Defs
import Mathlib.Data.List.Basic
import Mathlib.Data.List.Induction
import Mathlib.Tactic.SplitIfs

/-!
# Written numbers are numerals

Whatever a binary number is and in whatever style it is written, its whole part has at least one
digit and no needless leading zero, so it is a number of every grammar that asks for this.

## Implementation notes

The one way to a needless zero would be that no grid has a point, and the digits are those of zero.
The last grid that is tried is finer than the distance to the neighbours, and such a grid has a
point below the number. Whichever grid is taken, its point is inside the interval of the numbers
that are rounded to the one that is written.
-/

namespace LaunchDesk.Decimal

section Powers

/-- `log₂ 10` is above `93 / 28`. -/
theorem two_pow_le_ten_pow {m n : Nat} (h : 28 * m ≤ 93 * n - 45) : 2 ^ m ≤ 10 ^ n := by
  obtain ⟨a, b, hb, rfl⟩ : ∃ a b, b < 28 ∧ n = 28 * a + b :=
    ⟨n / 28, n % 28, Nat.mod_lt _ (by decide), (Nat.div_add_mod n 28).symm⟩
  have hsmall : ∀ b < 28, 2 ^ (33 * b / 10) ≤ 10 ^ b := by decide
  have hm : m ≤ 93 * a + 33 * b / 10 := by omega
  calc 2 ^ m ≤ 2 ^ (93 * a + 33 * b / 10) := Nat.pow_le_pow_right (by decide) hm
    _ = (2 ^ 93) ^ a * 2 ^ (33 * b / 10) := by rw [Nat.pow_add, Nat.pow_mul]
    _ ≤ (10 ^ 28) ^ a * 10 ^ b := Nat.mul_le_mul (Nat.pow_le_pow_left (by decide) a) (hsmall b hb)
    _ = 10 ^ (28 * a + b) := by rw [Nat.pow_add, Nat.pow_mul]

/-- `log₂ 10` is below `196 / 59`. -/
theorem ten_pow_le_two_pow {m n : Nat} (h : 196 * n + 58 ≤ 59 * m) : 10 ^ n ≤ 2 ^ m := by
  obtain ⟨a, b, hb, rfl⟩ : ∃ a b, b < 59 ∧ n = 59 * a + b :=
    ⟨n / 59, n % 59, Nat.mod_lt _ (by decide), (Nat.div_add_mod n 59).symm⟩
  have hsmall : ∀ b < 59, 10 ^ b ≤ 2 ^ ((196 * b + 58) / 59) := by decide
  have hm : 196 * a + (196 * b + 58) / 59 ≤ m := by omega
  calc 10 ^ (59 * a + b) = (10 ^ 59) ^ a * 10 ^ b := by rw [Nat.pow_add, Nat.pow_mul]
    _ ≤ (2 ^ 196) ^ a * 2 ^ ((196 * b + 58) / 59) :=
        Nat.mul_le_mul (Nat.pow_le_pow_left (by decide) a) (hsmall b hb)
    _ = 2 ^ (196 * a + (196 * b + 58) / 59) := by rw [Nat.pow_add, Nat.pow_mul]
    _ ≤ 2 ^ m := Nat.pow_le_pow_right (by decide) hm

end Powers

section Grids

/-- A quarter of the weight of the last digit, in the measure common to a number and a grid. -/
def Binary.quarter (b : Binary) (k : Int) : Nat :=
  Nat.pow 2 (b.power - 2).toNat * Nat.pow 10 (-k).toNat

/-- The step of a grid in this measure. -/
def Binary.step (b : Binary) (k : Int) : Nat :=
  Nat.pow 10 k.toNat * Nat.pow 2 (-(b.power - 2)).toNat

/-- The lower end of the interval around a number in this measure. -/
def Binary.low (b : Binary) (k : Int) : Nat :=
  (4 * b.mantissa - if b.nearBelow then 1 else 2) * b.quarter k

/-- The upper end of this interval. -/
def Binary.high (b : Binary) (k : Int) : Nat :=
  (4 * b.mantissa + 2) * b.quarter k

/-- The point of a grid below a number, as a multiple of the step. -/
def Binary.below (b : Binary) (k : Int) : Nat :=
  4 * b.mantissa * b.quarter k / b.step k

/-- A point of a grid is inside the interval around a number. The ends of the interval belong to it
if the mantissa is even. -/
structure Binary.Around (b : Binary) (k : Int) (c : Nat) : Prop where
  above_low : b.low k < c * b.step k ∨ b.mantissa % 2 = 0 ∧ b.low k = c * b.step k
  below_high : c * b.step k < b.high k ∨ b.mantissa % 2 = 0 ∧ c * b.step k = b.high k

variable {b : Binary} {halfUp : Bool} {k : Int} {c : Nat}

theorem quarter_pos : 0 < b.quarter k :=
  Nat.mul_pos (Nat.pow_pos (by decide)) (Nat.pow_pos (by decide))

theorem step_pos : 0 < b.step k :=
  Nat.mul_pos (Nat.pow_pos (by decide)) (Nat.pow_pos (by decide))

theorem low_le : b.low k ≤ 4 * b.mantissa * b.quarter k :=
  Nat.mul_le_mul_right _ (Nat.sub_le _ _)

theorem lt_high : 4 * b.mantissa * b.quarter k < b.high k :=
  Nat.mul_lt_mul_of_pos_right (by omega) quarter_pos

/-- The point below a number is not above the interval. -/
theorem below_lt_high : b.below k * b.step k < b.high k :=
  Nat.lt_of_le_of_lt (Nat.div_mul_le_self _ _) lt_high

/-- The point above it is not below. -/
theorem low_lt_next : b.low k < (b.below k + 1) * b.step k := by
  rw [Nat.add_one_mul (b.below k)]
  exact Nat.lt_of_le_of_lt low_le (Nat.lt_div_mul_add step_pos)

theorem around_below_iff : (decide (b.low k < b.below k * b.step k) ||
    b.mantissa % 2 == 0 && b.low k == b.below k * b.step k) = true ↔ b.Around k (b.below k) := by
  simp only [Bool.or_eq_true, Bool.and_eq_true, decide_eq_true_iff, beq_iff_eq]
  exact ⟨fun h => ⟨h, Or.inl below_lt_high⟩, fun h => h.above_low⟩

theorem around_above_iff : (decide ((b.below k + 1) * b.step k < b.high k) ||
    b.mantissa % 2 == 0 && (b.below k + 1) * b.step k == b.high k) = true ↔
      b.Around k (b.below k + 1) := by
  simp only [Bool.or_eq_true, Bool.and_eq_true, decide_eq_true_iff, beq_iff_eq]
  exact ⟨fun h => ⟨Or.inl low_lt_next, h⟩, fun h => h.below_high⟩

/-- A point is taken only inside the interval. -/
theorem gridPoint?_eq_some (h : gridPoint? b halfUp k = some c) : b.Around k c := by
  unfold gridPoint? at h
  simp only at h
  split at h
  · simp at h
  · next hbelow _ => exact Option.some.inj h ▸ around_below_iff.mp hbelow
  · next _ habove => exact Option.some.inj h ▸ around_above_iff.mp habove
  · next hbelow habove =>
      split_ifs at h
      · exact Option.some.inj h ▸ around_below_iff.mp hbelow
      · exact Option.some.inj h ▸ around_above_iff.mp habove
      · exact Option.some.inj h ▸ around_above_iff.mp habove
      · exact Option.some.inj h ▸ around_below_iff.mp hbelow

/-- If any point of a grid is inside the interval, then one of the two next to the number is. -/
theorem Binary.Around.next (h : b.Around k c) :
    b.Around k (b.below k) ∨ b.Around k (b.below k + 1) := by
  rcases Nat.lt_or_ge (b.below k) c with hlt | hle
  · have hpoint : (b.below k + 1) * b.step k ≤ c * b.step k := Nat.mul_le_mul_right _ hlt
    refine Or.inr ⟨Or.inl low_lt_next, ?_⟩
    rcases h.below_high with hstrict | ⟨heven, heq⟩
    · exact Or.inl (Nat.lt_of_le_of_lt hpoint hstrict)
    · exact (Nat.lt_or_eq_of_le (heq ▸ hpoint)).imp_right fun heq' => ⟨heven, heq'⟩
  · have hpoint : c * b.step k ≤ b.below k * b.step k := Nat.mul_le_mul_right _ hle
    refine Or.inl ⟨?_, Or.inl below_lt_high⟩
    rcases h.above_low with hstrict | ⟨heven, heq⟩
    · exact Or.inl (Nat.lt_of_lt_of_le hstrict hpoint)
    · exact (Nat.lt_or_eq_of_le (heq ▸ hpoint)).imp_right fun heq' => ⟨heven, heq'⟩

/-- A point is taken if there is one inside the interval. -/
theorem gridPoint?_ne_none (h : b.Around k c) : gridPoint? b halfUp k ≠ none := by
  intro hnone
  unfold gridPoint? at hnone
  simp only at hnone
  split at hnone
  · next hbelow habove =>
      rcases h.next with h' | h'
      · exact absurd ((around_below_iff.mpr h').symm.trans hbelow) (by decide)
      · exact absurd ((around_above_iff.mpr h').symm.trans habove) (by decide)
  · simp at hnone
  · simp at hnone
  · split_ifs at hnone

theorem Binary.Around.pos (h : b.Around k c) (hm : 0 < b.mantissa) : 0 < c := by
  have hlow : 0 < b.low k := by
    apply Nat.mul_pos _ quarter_pos
    split <;> omega
  rcases h.above_low with hlt | ⟨-, heq⟩
  · exact Nat.pos_of_mul_pos_right (Nat.lt_trans hlow hlt)
  · exact Nat.pos_of_mul_pos_right (heq ▸ hlow)

/-- A grid that is as fine as a quarter of the last digit has a point below the number. -/
theorem gridPoint?_of_fine (hm : 0 < b.mantissa) (h : b.step k ≤ b.quarter k) :
    gridPoint? b halfUp k ≠ none := by
  have hbelow : 4 * b.mantissa * b.quarter k < b.below k * b.step k + b.step k :=
    Nat.lt_div_mul_add step_pos
  have hlow : b.low k + b.quarter k ≤ 4 * b.mantissa * b.quarter k := by
    have hd : (4 * b.mantissa - if b.nearBelow then 1 else 2) + 1 ≤ 4 * b.mantissa := by
      split <;> omega
    calc b.low k + b.quarter k
        = ((4 * b.mantissa - if b.nearBelow then 1 else 2) + 1) * b.quarter k := by
          rw [Nat.add_mul, Nat.one_mul, Binary.low]
      _ ≤ 4 * b.mantissa * b.quarter k := Nat.mul_le_mul_right _ hd
  have habove : b.low k < b.below k * b.step k := by omega
  exact gridPoint?_ne_none ⟨Or.inl habove, Or.inl below_lt_high⟩

/-- A point of a coarser grid. -/
theorem Binary.Around.coarser (h : b.Around k (10 * c)) : b.Around (k + 1) c := by
  have hpoint : 10 * c * b.step k = 10 * (c * b.step k) := Nat.mul_assoc _ _ _
  obtain ⟨hlow, hhigh⟩ := h
  rw [hpoint] at hlow hhigh
  rcases Int.lt_or_le k 0 with hneg | hpos
  · have hk : (-k).toNat = (-(k + 1)).toNat + 1 := by omega
    have hquarter : b.quarter k = 10 * b.quarter (k + 1) := by
      rw [Binary.quarter, Binary.quarter, hk]
      simp only [Nat.pow_eq, Nat.pow_succ]
      ac_rfl
    have hstep : b.step (k + 1) = b.step k := by
      rw [Binary.step, Binary.step]
      congr 2
      omega
    rw [Binary.low, hquarter, Nat.mul_left_comm _ 10] at hlow
    rw [Binary.high, hquarter, Nat.mul_left_comm _ 10] at hhigh
    constructor
    · rw [Binary.low, hstep]
      omega
    · rw [Binary.high, hstep]
      omega
  · have hk : (k + 1).toNat = k.toNat + 1 := by omega
    have hquarter : b.quarter (k + 1) = b.quarter k := by
      rw [Binary.quarter, Binary.quarter]
      congr 2
      omega
    have hstep : c * b.step (k + 1) = 10 * (c * b.step k) := by
      rw [Binary.step, Binary.step, hk]
      simp only [Nat.pow_eq, Nat.pow_succ]
      ac_rfl
    constructor
    · rwa [hstep, Binary.low, hquarter]
    · rwa [hstep, Binary.high, hquarter]

/-- If the last grid has a point, there is one in the grid that is taken. -/
theorem gridPoint?_coarsest (steps : Nat) (h : gridPoint? b halfUp (k - steps) ≠ none) :
    gridPoint? b halfUp (coarsest b halfUp steps k).2 = some (coarsest b halfUp steps k).1 := by
  induction steps generalizing k with
  | zero =>
      obtain ⟨c, hc⟩ := Option.ne_none_iff_exists'.mp h
      rw [Int.natCast_zero, Int.sub_zero] at hc
      simp only [coarsest, hc, Option.getD_some]
  | succ steps ih =>
      simp only [coarsest]
      split
      · next c hc => exact hc
      · apply ih
        have hk : k - 1 - (steps : Int) = k - (steps + 1 : Nat) := by omega
        rwa [hk]

/-- No grid that is coarser than the one that is taken, and not above the first, has a point. -/
theorem coarsest_top (halfUp : Bool) (steps : Nat) : (coarsest b halfUp steps k).2 = k ∨
    gridPoint? b halfUp ((coarsest b halfUp steps k).2 + 1) = none := by
  induction steps generalizing k with
  | zero => exact Or.inl rfl
  | succ steps ih =>
      simp only [coarsest]
      split
      · exact Or.inl rfl
      · next hnone =>
          refine (ih (k := k - 1)).elim (fun htop => Or.inr ?_) Or.inr
          rwa [htop, Int.sub_add_cancel]

end Grids

section Shortest

/-- The mantissas and powers of binary numbers of 64 bits. -/
structure Binary.Fits (b : Binary) : Prop where
  mantissa_lt : b.mantissa < 2 ^ 53
  le_power : -1074 ≤ b.power
  power_le : b.power ≤ 972

theorem fits_binaryOf (x : Float) : (binaryOf x).2.Fits := by
  have hf : x.toBits.toNat % hiddenBit < hiddenBit := Nat.mod_lt _ (by decide)
  have he : x.toBits.toNat / hiddenBit % 0x800 < 0x800 := Nat.mod_lt _ (by decide)
  unfold binaryOf
  simp only
  split
  · exact ⟨by simp only [hiddenBit] at *; omega, by simp, by simp⟩
  · exact ⟨by simp only [hiddenBit] at *; omega, by simp only; omega, by simp only; omega⟩

variable {b : Binary} {halfUp : Bool}

theorem Binary.Fits.log2_lt (h : b.Fits) : b.mantissa.log2 < 53 := by
  by_cases h0 : b.mantissa = 0
  · simp [h0]
  · exact (Nat.log2_lt h0).mpr h.mantissa_lt

/-- The last of the grids that are tried is fine enough. -/
theorem step_le_quarter (h : b.Fits) :
    b.step (powerAbove b - 20) ≤ b.quarter (powerAbove b - 20) := by
  have hlog := h.log2_lt
  obtain ⟨-, hlow, hhigh⟩ := h
  unfold Binary.step Binary.quarter
  generalize hk : powerAbove b - 20 = k
  unfold powerAbove at hk
  rcases Int.le_total 0 k with h0 | h0
  · have hneg : (-k).toNat = 0 := by omega
    have hpow : (-(b.power - 2)).toNat = 0 := by omega
    rw [hneg, hpow]
    simpa using ten_pow_le_two_pow (by omega : 196 * k.toNat + 58 ≤ 59 * (b.power - 2).toNat)
  · have hneg : k.toNat = 0 := by omega
    have hpow : 2 ^ (-(b.power - 2)).toNat ≤ 10 ^ (-k).toNat := two_pow_le_ten_pow (by omega)
    rw [hneg]
    calc Nat.pow 10 0 * 2 ^ (-(b.power - 2)).toNat
        = 1 * 2 ^ (-(b.power - 2)).toNat := rfl
      _ ≤ 2 ^ (b.power - 2).toNat * 10 ^ (-k).toNat :=
          Nat.mul_le_mul Nat.one_le_two_pow hpow

/-- The tenth point of the first grid is above the interval. -/
theorem high_lt (h : b.Fits) : b.high (powerAbove b) < 10 * b.step (powerAbove b) := by
  have hlog := h.log2_lt
  obtain ⟨-, hlow, hhigh⟩ := h
  have hmantissa : 4 * b.mantissa + 2 < 2 ^ (b.mantissa.log2 + 3) := by
    have hlt : b.mantissa < 2 ^ (b.mantissa.log2 + 1) := Nat.lt_log2_self
    have hpow : 2 ^ (b.mantissa.log2 + 3) = 4 * 2 ^ (b.mantissa.log2 + 1) := by
      rw [Nat.pow_add _ (_ + 1) 2, Nat.mul_comm]
    omega
  refine Nat.lt_of_lt_of_le (Nat.mul_lt_mul_of_pos_right hmantissa quarter_pos) ?_
  unfold Binary.step Binary.quarter
  generalize hk : powerAbove b = k
  unfold powerAbove at hk
  simp only [Nat.pow_eq]
  generalize b.mantissa.log2 = l at *
  rcases Int.lt_or_le k 0 with hneg | hpos
  · have hunit : (b.power - 2).toNat = 0 := by omega
    have hk0 : k.toNat = 0 := by omega
    have hk1 : (-k).toNat = (-k - 1).toNat + 1 := by omega
    have hpower : (-(b.power - 2)).toNat = l + 3 + (-(l + 1 + b.power)).toNat := by omega
    have hten : 10 ^ (-k - 1).toNat ≤ 2 ^ (-(l + 1 + b.power)).toNat :=
      ten_pow_le_two_pow (by omega)
    calc 2 ^ (l + 3) * (2 ^ (b.power - 2).toNat * 10 ^ (-k).toNat)
        = 10 * (2 ^ (l + 3) * 10 ^ (-k - 1).toNat) := by
          rw [hunit, hk1, Nat.pow_succ 10]
          ac_rfl
      _ ≤ 10 * (2 ^ (l + 3) * 2 ^ (-(l + 1 + b.power)).toNat) :=
          Nat.mul_le_mul_left _ (Nat.mul_le_mul_left _ hten)
      _ = 10 * (10 ^ k.toNat * 2 ^ (-(b.power - 2)).toNat) := by
          rw [hk0, hpower, Nat.pow_add 2 (l + 3), Nat.pow_zero, Nat.one_mul]
  · have hk0 : (-k).toNat = 0 := by omega
    have htwo : 2 ^ (l + 1 + b.power).toNat ≤ 10 ^ (k.toNat + 1) := two_pow_le_ten_pow (by omega)
    calc 2 ^ (l + 3) * (2 ^ (b.power - 2).toNat * 10 ^ (-k).toNat)
        = 2 ^ (l + 3 + (b.power - 2).toNat) := by
          rw [hk0, Nat.pow_zero, Nat.mul_one, Nat.pow_add 2 (l + 3)]
      _ ≤ 2 ^ ((l + 1 + b.power).toNat + (-(b.power - 2)).toNat) :=
          Nat.pow_le_pow_right (by decide) (by omega)
      _ = 2 ^ (l + 1 + b.power).toNat * 2 ^ (-(b.power - 2)).toNat := Nat.pow_add _ _ _
      _ ≤ 10 ^ (k.toNat + 1) * 2 ^ (-(b.power - 2)).toNat := Nat.mul_le_mul_right _ htwo
      _ = 10 * (10 ^ k.toNat * 2 ^ (-(b.power - 2)).toNat) := by
          rw [Nat.pow_succ]
          ac_rfl

theorem getLast?_digitsOf (n : Nat) :
    (digitsOf n).getLast? = some ⟨n % 10, Nat.mod_lt _ (by decide)⟩ := by
  rw [digitsOf]
  split
  · next h => simp [Nat.mod_eq_of_lt h]
  · simp

/-- The digits of a number that is not zero start with none. -/
theorem head?_digitsOf_ne_zero {n : Nat} (h : 0 < n) : (digitsOf n).head? ≠ some 0 := by
  rw [Ne, head?_digitsOf]
  omega

/-- The digits of a shortest numeral are those of a point around the number that is on no coarser
grid. -/
theorem shortest_around (halfUp : Bool) (h : b.Fits) (hm : b.mantissa ≠ 0) :
    ∃ c k, shortest b halfUp = (digitsOf c, k) ∧ b.Around k c ∧ c % 10 ≠ 0 := by
  have hlast : gridPoint? b halfUp (powerAbove b - (20 : Nat)) ≠ none :=
    gridPoint?_of_fine (Nat.pos_of_ne_zero hm) (step_le_quarter h)
  have haround := gridPoint?_eq_some (gridPoint?_coarsest 20 hlast)
  have htop := coarsest_top (b := b) (k := powerAbove b) halfUp 20
  have hpos := haround.pos (Nat.pos_of_ne_zero hm)
  refine ⟨_, _, by rw [shortest, if_neg hm], haround, fun hten => ?_⟩
  generalize coarsest b halfUp 20 (powerAbove b) = found at *
  obtain ⟨c, hc⟩ := Nat.dvd_of_mod_eq_zero hten
  rw [hc] at haround
  rcases htop with hfirst | hnone
  · have hpoint : 10 * b.step found.2 ≤ 10 * c * b.step found.2 :=
      Nat.mul_le_mul_right _ (by omega)
    have hhigh : 10 * c * b.step found.2 ≤ b.high found.2 :=
      haround.below_high.elim Nat.le_of_lt fun h => Nat.le_of_eq h.2
    have hfew := high_lt h
    rw [← hfirst] at hfew
    omega
  · exact gridPoint?_ne_none haround.coarser hnone

/-- The digits of a shortest numeral: no zero at either end, or a lone zero of weight one. -/
theorem shortest_cases (h : b.Fits) :
    shortest b halfUp = ([.zero], 0) ∨
      (shortest b halfUp).1 ≠ [] ∧ (shortest b halfUp).1.head? ≠ some 0 ∧
        (shortest b halfUp).1.getLast? ≠ some 0 := by
  by_cases hm : b.mantissa = 0
  · exact Or.inl (by rw [shortest, if_pos hm])
  · obtain ⟨c, k, hs, haround, hlast⟩ := shortest_around halfUp h hm
    rw [hs, getLast?_digitsOf]
    exact Or.inr ⟨digitsOf_ne_nil _,
      head?_digitsOf_ne_zero (haround.pos (Nat.pos_of_ne_zero hm)), by simpa [Fin.ext_iff]⟩

end Shortest

section Values

/-- Digits without a needless leading zero are those of their value. -/
theorem digitsOf_value {digits : List Digit} (h : Tidy digits) :
    digitsOf (value digits) = digits := by
  induction digits using List.reverseRecOn with
  | nil => exact absurd rfl h.1
  | append_singleton front d ih =>
      by_cases hnil : front = []
      · subst hnil
        have hvalue : value ([] ++ [d]) = d.val := by simp [value]
        rw [hvalue, digitsOf, dif_pos d.isLt]
        rfl
      · have hhead : front.head? ≠ some 0 := by
          intro hzero
          have hall := h.2 (by rw [List.head?_append_of_ne_nil _ hnil, hzero])
          have hlength := congrArg List.length hall
          simp at hlength
          exact hnil hlength
        have hfront := ih ⟨hnil, fun hzero => absurd hzero hhead⟩
        have hpos : value front ≠ 0 := by
          intro hzero
          exact hhead (hfront ▸ (head?_digitsOf _).mpr hzero)
        have hlt := d.isLt
        have hdiv : (10 * value front + d.val) / 10 = value front := by omega
        have hmod : (10 * value front + d.val) % 10 = d.val := by omega
        rw [value_append_singleton, digitsOf, dif_neg (by omega)]
        simp only [hdiv, hmod, hfront]

end Values

section Layout

variable {digits : List Digit}

theorem tidy_of_head? (hne : digits ≠ []) (h : digits.head? ≠ some 0) : Tidy digits :=
  ⟨hne, fun h0 => absurd h0 h⟩

theorem tidy_singleton (d : Digit) : Tidy [d] :=
  ⟨by simp, fun h => by simpa using h⟩

/-- A nonempty start of digits that begin without a zero. -/
theorem tidy_take {n : Nat} (hn : 0 < n) (hne : digits ≠ []) (h : digits.head? ≠ some 0) :
    Tidy (digits.take n) := by
  cases digits with
  | nil => exact absurd rfl hne
  | cons d rest =>
      obtain ⟨m, rfl⟩ := Nat.exists_eq_succ_of_ne_zero (Nat.pos_iff_ne_zero.mp hn)
      exact tidy_of_head? (by simp) (by simpa using h)

theorem tidy_splitPoint (places : Nat) (hne : digits ≠ []) (h : digits.head? ≠ some 0) :
    Tidy (splitPoint digits places).1 := by
  unfold splitPoint zeros
  simp only
  rcases Nat.lt_or_ge places digits.length with hlt | hge
  · have hz : places + 1 - digits.length = 0 := by omega
    rw [hz]
    exact tidy_take (by simpa using Nat.sub_pos_of_lt hlt) hne h
  · -- The point stands in front of all digits, and one zero in front of the point.
    obtain ⟨m, hm⟩ : ∃ m, places + 1 - digits.length = m + 1 :=
      ⟨places - digits.length, by omega⟩
    have hlen : (List.replicate (m + 1) Digit.zero ++ digits).length - places = 1 := by
      simp only [List.length_append, List.length_replicate]
      omega
    rw [hm, hlen]
    exact tidy_singleton 0

/-- The part of the digits in front of the point when all places are written out. -/
def wholeDigits (digits : List Digit) (k : Int) : List Digit :=
  if k < 0 then (splitPoint digits (-k).toNat).1 else digits ++ zeros k.toNat

theorem tidy_wholeDigits (k : Int) (hne : digits ≠ []) (h : digits.head? ≠ some 0) :
    Tidy (wholeDigits digits k) := by
  unfold wholeDigits
  split_ifs
  · exact tidy_splitPoint _ hne h
  · apply tidy_of_head?
    · simp [hne]
    · rw [List.head?_append_of_ne_nil _ hne]
      exact h

theorem whole_ofFloat (style : NumberStyle) (x : Float) :
    (Numeral.ofFloat style x).whole =
        wholeDigits (shortest (binaryOf x).2 style.halfUp).1
          (shortest (binaryOf x).2 style.halfUp).2 ∨
      (Numeral.ofFloat style x).whole = (shortest (binaryOf x).2 style.halfUp).1.take 1 := by
  unfold Numeral.ofFloat wholeDigits
  simp only
  split
  · left
    split_ifs <;> rfl
  · exact Or.inr rfl

/-- However a number is written, what stands in front of the point is well-formed. -/
theorem tidy_whole_ofFloat (style : NumberStyle) (x : Float) :
    Tidy (Numeral.ofFloat style x).whole := by
  have hdigits : shortest (binaryOf x).2 style.halfUp = ([.zero], 0) ∨ _ :=
    shortest_cases (fits_binaryOf x)
  rcases hdigits with h0 | ⟨hne, hhead, -⟩
  · rcases whole_ofFloat style x with h | h
    · rw [h, h0]
      exact tidy_singleton 0
    · rw [h, h0]
      exact tidy_singleton 0
  · rcases whole_ofFloat style x with h | h
    · exact h ▸ tidy_wholeDigits _ hne hhead
    · exact h ▸ tidy_take (by decide) hne hhead

end Layout

end LaunchDesk.Decimal
