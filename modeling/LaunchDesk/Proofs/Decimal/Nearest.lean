import LaunchDesk.Proofs.Json.Numerals
import Mathlib

/-!
# Shortest numerals are rounded back

A point of a grid inside the interval around a binary number is nearer to it than to every other
binary number, except that an end of the interval may be as near to a neighbour; then the last bit
of the number is zero. So whoever rounds such a numeral gets the number that it was written for.

## Implementation notes

All sizes are rational numbers here. A number and a grid have a common measure, in which the
interval has whole ends; dividing by it gives the interval itself. The other numbers keep off: above
a number by a unit of its last digit, and below it by as much or, at a power of two, by half of it.
-/

namespace LaunchDesk.Decimal

open Float.Model (UnpackedFloat Format)

/-- The size of a number. -/
def Binary.size (b : Binary) : ℚ :=
  b.mantissa * 2 ^ b.power

/-- The sign and the size of a number. What is infinite stands for the least power of two that is
too large. -/
def signedSize? : UnpackedFloat → Option (Bool × ℚ)
  | .finite sign mantissa power _ => some (sign == .negative, mantissa * 2 ^ power)
  | .zero sign => some (sign == .negative, 0)
  | .infinity sign => some (sign == .negative, 2 ^ 1024)
  | .notANumber => none

/-- A number is rounded to a binary one of some size. Every binary number of another size is further
away, or as far while the last bit of this one is zero. -/
def RoundsTo (v : ℚ) (x : Float) (size : ℚ) : Prop :=
  ∀ (y : Float) (negative : Bool) (other : ℚ),
    signedSize? y.toModel.unpack = some (negative, other) → other ≠ size →
      |v - size| < |v - other| ∨ |v - size| = |v - other| ∧ x.toBits.toNat % 2 = 0

section Bits

variable (bits : BitVec 64)

theorem toNat_unpackMantissa :
    (@UnpackedFloat.unpackMantissa Format.binary64 bits).toNat =
      bits.toNat % hiddenBit := by
  simp [UnpackedFloat.unpackMantissa, BitVec.extractLsb, hiddenBit]

theorem toNat_unpackExponent :
    (@UnpackedFloat.unpackExponent Format.binary64 bits).toNat =
      bits.toNat / hiddenBit % 0x800 := by
  simp [UnpackedFloat.unpackExponent, BitVec.extractLsb, Nat.shiftRight_eq_div_pow, hiddenBit]

theorem toNat_unpackSign :
    (@UnpackedFloat.unpackSign Format.binary64 bits).toNat = bits.toNat / signBit := by
  have hlt : bits.toNat / signBit < 2 := by
    have := bits.isLt
    rw [signBit]
    omega
  simpa [UnpackedFloat.unpackSign, BitVec.extractLsb, Nat.shiftRight_eq_div_pow, signBit]
    using Nat.mod_eq_of_lt hlt

theorem sign_unpackSign :
    (UnpackedFloat.Sign.ofBitVec (@UnpackedFloat.unpackSign Format.binary64 bits) ==
      .negative) = (bits.toNat / signBit == 1) := by
  rw [← toNat_unpackSign]
  generalize @UnpackedFloat.unpackSign Format.binary64 bits = sign
  revert sign
  decide

theorem toNat_one_append (mantissa : BitVec 52) :
    (1#1 ++ mantissa).toNat = hiddenBit + mantissa.toNat := by
  rw [BitVec.toNat_append, ← Nat.shiftLeft_add_eq_or_of_lt mantissa.isLt, Nat.shiftLeft_eq]
  rfl

theorem size_infinite : (hiddenBit : ℚ) * 2 ^ ((2047 : Int) - 1075) = 2 ^ 1024 := by
  have hpower : (2 : ℚ) ^ ((2047 : Int) - 1075) = 2 ^ 972 := zpow_natCast 2 972
  rw [hpower, hiddenBit, show (1024 : ℕ) = 52 + 972 from rfl, pow_add]
  norm_num

/-- What is no number has all bits of the exponent and some of the mantissa. -/
theorem signedSize?_eq (x : Float) :
    signedSize? x.toModel.unpack =
      if x.toBits.toNat / hiddenBit % 0x800 = 0x7FF ∧ x.toBits.toNat % hiddenBit ≠ 0 then none
      else some ((binaryOf x).1, (binaryOf x).2.size) := by
  have hbits : x.toBits.toNat = x.toModel.toBits.toBitVec.toNat := rfl
  simp only [binaryOf, hbits]
  rw [Float.Model.unpack, UnpackedFloat.unpack]
  generalize x.toModel.toBits.toBitVec = bits
  rw [← toNat_unpackExponent, ← toNat_unpackMantissa, ← sign_unpackSign]
  have hones : (@UnpackedFloat.unpackExponent Format.binary64 bits).toNat = 0x7FF ↔
      @UnpackedFloat.unpackExponent Format.binary64 bits = -1#11 :=
    BitVec.toNat_inj (y := -1#11)
  have hzeros : (@UnpackedFloat.unpackExponent Format.binary64 bits).toNat = 0 ↔
      @UnpackedFloat.unpackExponent Format.binary64 bits = 0#11 :=
    BitVec.toNat_inj (y := 0#11)
  have hnone : (@UnpackedFloat.unpackMantissa Format.binary64 bits).toNat = 0 ↔
      @UnpackedFloat.unpackMantissa Format.binary64 bits = 0#52 :=
    BitVec.toNat_inj (y := 0#52)
  simp only [hones, hzeros, Ne, hnone]
  by_cases hmax : @UnpackedFloat.unpackExponent Format.binary64 bits = -1#11
  · by_cases hnan : @UnpackedFloat.unpackMantissa Format.binary64 bits = 0#52
    · simp only [hmax, hnan, signedSize?, Binary.size]
      exact congrArg (fun size => some (_, size)) size_infinite.symm
    · simp [hmax, hnan, signedSize?]
  · by_cases hmin : @UnpackedFloat.unpackExponent Format.binary64 bits = 0#11
    · by_cases hzero : @UnpackedFloat.unpackMantissa Format.binary64 bits = 0#52
      · simp [hmin, hzero, signedSize?, Binary.size]
      · simp only [hmin, hzero, signedSize?, Binary.size]
        rfl
    · simp only [hmax, hmin, signedSize?, Binary.size, toNat_one_append]
      rfl

end Bits

section Gaps

/-- The binary numbers that there are: all but the smallest have a leading bit of full weight, and
the lesser gap below a number is that below a power of two. -/
structure Binary.Proper (b : Binary) : Prop extends b.Fits where
  leading : -1074 < b.power → 2 ^ 52 ≤ b.mantissa
  nearBelow_iff : b.nearBelow = true ↔ b.mantissa = 2 ^ 52 ∧ -1074 < b.power

theorem proper_binaryOf (x : Float) : (binaryOf x).2.Proper := by
  refine ⟨fits_binaryOf x, ?_, ?_⟩
  · unfold binaryOf
    simp only
    split_ifs
    · simp
    · exact fun _ => Nat.le_add_right _ _
  · have hf : x.toBits.toNat % hiddenBit < hiddenBit := Nat.mod_lt _ (by decide)
    unfold binaryOf
    simp only
    split_ifs with hzero
    · simp
    · rw [Bool.and_eq_true, beq_iff_eq, decide_eq_true_iff]
      simp only [hiddenBit] at *
      omega

variable {b b' : Binary}

theorem unit_pos (n : Int) : (0 : ℚ) < 2 ^ n :=
  zpow_pos (by norm_num) n

/-- Between multiples of a unit there is at least one unit. -/
theorem add_unit_le {m n : ℕ} {p : Int} (h : (m : ℚ) * 2 ^ p < n * 2 ^ p) :
    (m : ℚ) * 2 ^ p + 2 ^ p ≤ n * 2 ^ p := by
  have hlt : (m : ℚ) < n := lt_of_mul_lt_mul_right h (unit_pos p).le
  have hnext : (m : ℚ) + 1 ≤ n := by exact_mod_cast hlt
  calc (m : ℚ) * 2 ^ p + 2 ^ p = (m + 1) * 2 ^ p := by ring
    _ ≤ n * 2 ^ p := mul_le_mul_of_nonneg_right hnext (unit_pos p).le

/-- A number of a weight that is not lower is a multiple of the unit. -/
theorem size_of_power_le (h : b.power ≤ b'.power) :
    ∃ n : ℕ, b'.size = n * 2 ^ b.power := by
  obtain ⟨m, hm⟩ := Int.le.dest h
  refine ⟨b'.mantissa * 2 ^ m, ?_⟩
  rw [Binary.size, ← hm, zpow_add₀ (by norm_num), zpow_natCast]
  push_cast
  ring

/-- A number of a lower weight is below all numbers with a leading bit. -/
theorem size_of_power_lt (hb : b'.Proper) (h : b'.power < b.power) :
    2 * b'.size ≤ (2 ^ 53 - 1) * 2 ^ b.power := by
  have hmantissa : (b'.mantissa : ℚ) ≤ 2 ^ 53 - 1 := by
    have hlt : b'.mantissa + 1 ≤ 2 ^ 53 := hb.mantissa_lt
    have hcast : ((b'.mantissa + 1 : ℕ) : ℚ) ≤ (2 ^ 53 : ℕ) := by exact_mod_cast hlt
    push_cast at hcast
    linarith
  have hpower : (2 : ℚ) * 2 ^ b'.power ≤ 2 ^ b.power := by
    rw [← zpow_one_add₀ (by norm_num)]
    exact zpow_le_zpow_right₀ (by norm_num) (by omega)
  calc 2 * b'.size = b'.mantissa * (2 * 2 ^ b'.power) := by rw [Binary.size]; ring
    _ ≤ (2 ^ 53 - 1) * 2 ^ b.power :=
        mul_le_mul hmantissa hpower (by positivity) (by norm_num)

theorem leading_le_size (hb : b.Proper) (h : -1074 < b.power) :
    2 ^ 52 * 2 ^ b.power ≤ b.size := by
  have hmantissa : (2 ^ 52 : ℚ) ≤ b.mantissa := by exact_mod_cast hb.leading h
  exact mul_le_mul_of_nonneg_right hmantissa (unit_pos _).le

/-- Above a number there is nothing for a unit of its last digit. -/
theorem size_add_unit_le (hb : b.Proper) (hb' : b'.Proper) (hlt : b.size < b'.size) :
    b.size + 2 ^ b.power ≤ b'.size := by
  have hunit := unit_pos b.power
  rcases le_or_gt b.power b'.power with hle | hgt
  · obtain ⟨n, hn⟩ := size_of_power_le hle
    rw [hn] at hlt ⊢
    exact add_unit_le hlt
  · have hfiner := size_of_power_lt hb' hgt
    have hleading := leading_le_size hb (hb'.le_power.trans_lt hgt)
    nlinarith

/-- The gap below a number: a unit of its last digit, or half of it. -/
def Binary.gap (b : Binary) : ℚ :=
  if b.nearBelow then 2 ^ b.power / 2 else 2 ^ b.power

theorem gap_le : b.gap ≤ 2 ^ b.power := by
  have hunit := unit_pos b.power
  unfold Binary.gap
  split_ifs <;> linarith

/-- Below a number there is nothing for its gap. -/
theorem size_add_gap_le (hb : b.Proper) (hb' : b'.Proper) (hlt : b'.size < b.size) :
    b'.size + b.gap ≤ b.size := by
  have hunit := unit_pos b.power
  rcases le_or_gt b.power b'.power with hle | hgt
  · obtain ⟨n, hn⟩ := size_of_power_le hle
    rw [hn] at hlt ⊢
    calc n * 2 ^ b.power + b.gap ≤ n * 2 ^ b.power + 2 ^ b.power := add_le_add_right gap_le _
      _ ≤ b.size := add_unit_le hlt
  · have hfiner := size_of_power_lt hb' hgt
    have hpower : -1074 < b.power := hb'.le_power.trans_lt hgt
    by_cases hnear : b.nearBelow = true
    · have hleading := leading_le_size hb hpower
      rw [Binary.gap, if_pos hnear]
      linarith
    · -- Above the power of two itself there is a whole unit.
      have hmantissa : 2 ^ 52 + 1 ≤ b.mantissa := by
        have hne : b.mantissa ≠ 2 ^ 52 := fun heq => hnear (hb.nearBelow_iff.mpr ⟨heq, hpower⟩)
        have hle := hb.leading hpower
        omega
      have hcast : (2 ^ 52 + 1 : ℚ) ≤ b.mantissa := by exact_mod_cast hmantissa
      have hsize : (2 ^ 52 + 1) * 2 ^ b.power ≤ b.size :=
        mul_le_mul_of_nonneg_right hcast hunit.le
      rw [Binary.gap, if_neg hnear]
      linarith

end Gaps

section Intervals

variable {b b' : Binary} {v : ℚ}

/-- A number is inside the interval around a binary one. The ends belong to it if the mantissa is
even. -/
structure Binary.Covers (b : Binary) (v : ℚ) : Prop where
  above : b.size - b.gap / 2 < v ∨ b.mantissa % 2 = 0 ∧ b.size - b.gap / 2 = v
  below : v < b.size + 2 ^ b.power / 2 ∨ b.mantissa % 2 = 0 ∧ v = b.size + 2 ^ b.power / 2

/-- The nearer of two points is the one on the same side of their middle. -/
theorem abs_sub_lt_iff_middle {v x y : ℚ} :
    |v - x| < |v - y| ↔ 0 < (y - x) * (x + y - 2 * v) := by
  have hsquares : (v - y) ^ 2 - (v - x) ^ 2 = (y - x) * (x + y - 2 * v) := by ring
  rw [← sq_lt_sq, ← sub_pos, hsquares]

theorem abs_sub_eq_of_middle {v x y : ℚ} (h : x + y = 2 * v) : |v - x| = |v - y| := by
  have hopposite : v - x = -(v - y) := by linarith
  rw [hopposite, abs_neg]

/-- What is inside the interval is nearer to the number than to any other one, or as near to a
neighbour at an end. -/
theorem Binary.Covers.nearest (h : b.Covers v) (hb : b.Proper) (hb' : b'.Proper)
    (hne : b'.size ≠ b.size) :
    |v - b.size| < |v - b'.size| ∨ |v - b.size| = |v - b'.size| ∧ b.mantissa % 2 = 0 := by
  rw [abs_sub_lt_iff_middle]
  rcases lt_or_gt_of_ne hne with hlt | hgt
  · have hmiddle : b.size + b'.size ≤ 2 * (b.size - b.gap / 2) := by
      linarith [size_add_gap_le hb hb' hlt]
    rcases h.above with hstrict | ⟨heven, heq⟩
    · exact Or.inl (mul_pos_of_neg_of_neg (by linarith) (by linarith))
    · rcases hmiddle.lt_or_eq with hbeyond | hend
      · exact Or.inl (mul_pos_of_neg_of_neg (by linarith) (by linarith))
      · exact Or.inr ⟨abs_sub_eq_of_middle (heq ▸ hend), heven⟩
  · have hmiddle : 2 * (b.size + 2 ^ b.power / 2) ≤ b.size + b'.size := by
      linarith [size_add_unit_le hb hb' hgt]
    rcases h.below with hstrict | ⟨heven, heq⟩
    · exact Or.inl (mul_pos (by linarith) (by linarith))
    · rcases hmiddle.lt_or_eq with hbeyond | hend
      · exact Or.inl (mul_pos (by linarith) (by linarith))
      · exact Or.inr ⟨abs_sub_eq_of_middle (heq ▸ hend.symm), heven⟩

end Intervals

section Grids

variable {b : Binary} {k : Int} {c : Nat}

theorem pow_toNat {a : ℚ} (ha : a ≠ 0) (n : Int) : a ^ n.toNat = a ^ n * a ^ (-n).toNat := by
  have hsum : (n.toNat : Int) = n + (-n).toNat := by omega
  rw [← zpow_natCast, hsum, zpow_add₀ ha, zpow_natCast]

/-- The measure in which a quarter of a unit and the step of a grid are whole. -/
def Binary.measure (b : Binary) (k : Int) : ℚ :=
  10 ^ (-k).toNat * 2 ^ (-(b.power - 2)).toNat

theorem measure_pos : 0 < b.measure k := by
  unfold Binary.measure
  positivity

theorem step_eq : (b.step k : ℚ) = 10 ^ k * b.measure k := by
  have hstep : (b.step k : ℚ) = 10 ^ k.toNat * 2 ^ (-(b.power - 2)).toNat := by
    simp [Binary.step]
  rw [hstep, pow_toNat (by norm_num), Binary.measure]
  ring

theorem quarter_eq : (b.quarter k : ℚ) = 2 ^ b.power / 4 * b.measure k := by
  have hquarter : (b.quarter k : ℚ) = 2 ^ (b.power - 2).toNat * 10 ^ (-k).toNat := by
    simp [Binary.quarter]
  have hfour : (2 : ℚ) ^ (b.power - 2) = 2 ^ b.power / 4 := by
    rw [zpow_sub₀ (by norm_num)]
    norm_num
  rw [hquarter, pow_toNat (by norm_num), hfour, Binary.measure]
  ring

theorem high_eq : (b.high k : ℚ) = (b.size + 2 ^ b.power / 2) * b.measure k := by
  rw [Binary.high, Binary.size]
  push_cast
  rw [quarter_eq]
  ring

theorem low_eq (hm : 0 < b.mantissa) : (b.low k : ℚ) = (b.size - b.gap / 2) * b.measure k := by
  have hle : (if b.nearBelow then 1 else 2) ≤ 4 * b.mantissa := by
    split_ifs <;> omega
  rw [Binary.low, Nat.cast_mul, Nat.cast_sub hle, quarter_eq, Binary.size, Binary.gap]
  split_ifs <;> push_cast <;> ring

/-- A point of a grid around a number is in the interval around it. -/
theorem Binary.Around.covers (h : b.Around k c) (hm : 0 < b.mantissa) :
    b.Covers (c * 10 ^ k) := by
  have hpoint : ((c * b.step k : ℕ) : ℚ) = c * 10 ^ k * b.measure k := by
    rw [Nat.cast_mul, step_eq, mul_assoc]
  have hpos := measure_pos (b := b) (k := k)
  have hlt : ∀ {m n : ℕ} {v w : ℚ}, (m : ℚ) = v * b.measure k → (n : ℚ) = w * b.measure k →
      (m < n ↔ v < w) := by
    intro m n v w hv hw
    rw [← Nat.cast_lt (α := ℚ), hv, hw, mul_lt_mul_iff_left₀ hpos]
  have heq : ∀ {m n : ℕ} {v w : ℚ}, (m : ℚ) = v * b.measure k → (n : ℚ) = w * b.measure k →
      (m = n ↔ v = w) := by
    intro m n v w hv hw
    rw [← Nat.cast_inj (R := ℚ), hv, hw, mul_left_inj' hpos.ne']
  constructor
  · rw [← hlt (low_eq hm) hpoint, ← heq (low_eq hm) hpoint]
    exact h.above_low
  · rw [← hlt hpoint high_eq, ← heq hpoint high_eq]
    exact h.below_high

end Grids

section Shortest

theorem mantissa_mod_two (x : Float) : (binaryOf x).2.mantissa % 2 = x.toBits.toNat % 2 := by
  unfold binaryOf
  simp only
  split
  all_goals
    simp only [hiddenBit]
    omega

/-- The digits of a number and the weight of the last one make a decimal number that is rounded to
it. -/
theorem roundsTo_shortest (x : Float) (halfUp : Bool) :
    RoundsTo (value (shortest (binaryOf x).2 halfUp).1 * 10 ^ (shortest (binaryOf x).2 halfUp).2) x
      (binaryOf x).2.size := by
  intro y negative other hother hne
  have hproper : (binaryOf x).2.Proper := proper_binaryOf x
  have hsize : other = (binaryOf y).2.size := by
    rw [signedSize?_eq] at hother
    split_ifs at hother
    exact (congrArg Prod.snd (Option.some.inj hother)).symm
  subst hsize
  by_cases hm : (binaryOf x).2.mantissa = 0
  · have hzero : (binaryOf x).2.size = 0 := by simp [Binary.size, hm]
    refine Or.inl ?_
    rw [hzero] at hne ⊢
    rw [shortest, if_pos hm]
    simpa [value] using hne
  · obtain ⟨c, k, hs, haround, -⟩ := shortest_around halfUp hproper.toFits hm
    rw [hs, value_digitsOf, ← mantissa_mod_two]
    exact (haround.covers (Nat.pos_of_ne_zero hm)).nearest hproper (proper_binaryOf y) hne

end Shortest

end LaunchDesk.Decimal
