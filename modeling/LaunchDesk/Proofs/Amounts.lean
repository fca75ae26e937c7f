import LaunchDesk.Job.Report
import LaunchDesk.Proofs.Decimal.Nearest

/-!
# What the text of an amount shows

A finite amount is written out as a decimal number that is rounded back to it, without a power of
ten and without needless zeros at either end. The other amounts have names.
-/

namespace LaunchDesk

namespace Decimal

variable {digits : List Digit} {k : Int}

theorem value_append (front back : List Digit) :
    value (front ++ back) = value front * 10 ^ back.length + value back := by
  induction back using List.reverseRecOn with
  | nil => simp [value]
  | append_singleton back d ih =>
      rw [← List.append_assoc, value_append_singleton, value_append_singleton, ih,
        List.length_append, List.length_singleton]
      ring

theorem value_zeros (n : Nat) : value (zeros n) = 0 := by
  induction n with
  | zero => rfl
  | succ n ih =>
      rw [zeros, List.replicate_succ', value_append_singleton, ← zeros, ih]
      rfl

theorem digitChars_digitsOf (n : Nat) : digitChars (digitsOf n) = Nat.toDigits 10 n := by
  have hchar : ∀ d : Digit, digitChar d = Nat.digitChar d.val := by decide
  induction n using digitsOf.induct with
  | case1 n h =>
      rw [digitsOf, dif_pos h, Nat.toDigits_of_lt_base h]
      simp [digitChars, hchar]
  | case2 n h ih =>
      rw [digitsOf, dif_neg h, Nat.toDigits_eq_if (by decide), if_neg h, ← ih]
      simp [digitChars, hchar]

theorem natText_eq (n : Nat) : natText n = toString n := by
  rw [natText, digitChars_digitsOf]
  exact Nat.repr_eq_ofList_toDigits.symm

/-- The digits behind the point when all places are written out. -/
def fractionDigits (digits : List Digit) (k : Int) : List Digit :=
  if k < 0 then (splitPoint digits (-k).toNat).2 else []

theorem splitPoint_append (digits : List Digit) (places : Nat) :
    (splitPoint digits places).1 ++ (splitPoint digits places).2 =
      zeros (places + 1 - digits.length) ++ digits :=
  List.take_append_drop _ _

theorem length_splitPoint (digits : List Digit) (places : Nat) :
    (splitPoint digits places).2.length = places := by
  simp only [splitPoint, List.length_drop, List.length_append, zeros, List.length_replicate]
  omega

/-- The digits on both sides of the point show the number. -/
theorem value_wholeDigits (digits : List Digit) (k : Int) :
    (value digits : ℚ) * 10 ^ k = value (wholeDigits digits k) +
      value (fractionDigits digits k) / 10 ^ (fractionDigits digits k).length := by
  unfold wholeDigits fractionDigits
  split_ifs with hk
  · obtain ⟨places, rfl⟩ : ∃ places : Nat, k = -places := ⟨(-k).toNat, by omega⟩
    have hvalue : value digits = value (splitPoint digits places).1 * 10 ^ places +
        value (splitPoint digits places).2 := by
      calc value digits = value (zeros (places + 1 - digits.length) ++ digits) := by
            rw [value_append, value_zeros, Nat.zero_mul, Nat.zero_add]
        _ = _ := by rw [← splitPoint_append, value_append, length_splitPoint]
    rw [neg_neg, Int.toNat_natCast, length_splitPoint, hvalue, zpow_neg, zpow_natCast]
    push_cast
    field_simp
  · obtain ⟨n, rfl⟩ : ∃ n : Nat, k = n := ⟨k.toNat, by omega⟩
    rw [value_append, value_zeros, Int.toNat_natCast]
    simp [value, zeros]

theorem getLast?_fractionDigits (h : k < 0 → digits ≠ [] ∧ digits.getLast? ≠ some 0) :
    (fractionDigits digits k).getLast? ≠ some 0 := by
  unfold fractionDigits
  split_ifs with hk
  · obtain ⟨hne, hlast⟩ := h hk
    have hfraction : (splitPoint digits (-k).toNat).2 ≠ [] := by
      rw [← List.length_pos_iff, length_splitPoint]
      omega
    rw [← List.getLast?_append_of_ne_nil _ hfraction, splitPoint_append,
      List.getLast?_append_of_ne_nil _ hne]
    exact hlast
  · simp

end Decimal

open Decimal Float.Model

/-- A text that shows a number from zero up. In front of the point is a natural number; the digits
behind it, if there are any, do not end in zero. -/
def ShowsSize (v : ℚ) (text : String) : Prop :=
  ∃ (whole : ℕ) (fraction : List Digit), fraction.getLast? ≠ some .zero ∧
    v = whole + value fraction / 10 ^ fraction.length ∧
    text = toString whole ++
      if fraction = [] then "" else "." ++ String.ofList (digitChars fraction)

/-- A minus sign, or nothing. -/
def signText (negative : Bool) : String :=
  if negative then "-" else ""

/-- A text that shows an amount. -/
def ShowsAmount (x : Float) (text : String) : Prop :=
  match x.toModel.unpack with
  | .notANumber => text = "NaN"
  | .infinity sign => text = signText (sign == .negative) ++ "inf"
  | number => ∃ negative size v shown, signedSize? number = some (negative, size) ∧
      RoundsTo v x size ∧ ShowsSize v shown ∧ text = signText negative ++ shown

section Texts

/-- The digits of an amount and the power of ten of the last one. -/
def amountDigits (x : Float) : List Digit × Int :=
  shortest (binaryOf x).2 true

theorem ofFloat_amountStyle (x : Float) : Numeral.ofFloat amountStyle x =
    ⟨(binaryOf x).1, wholeDigits (amountDigits x).1 (amountDigits x).2,
      fractionDigits (amountDigits x).1 (amountDigits x).2, none⟩ := by
  unfold Numeral.ofFloat wholeDigits fractionDigits amountDigits amountStyle
  simp only [Option.all_none, Bool.and_false]
  split_ifs <;> simp_all

/-- What is written of an amount behind the sign. -/
theorem showsSize_ofFloat (x : Float) : ∃ shown,
    ShowsSize (value (amountDigits x).1 * 10 ^ (amountDigits x).2) shown ∧
    String.ofList (Numeral.ofFloat amountStyle x).chars = signText (binaryOf x).1 ++ shown := by
  have htidy := tidy_whole_ofFloat amountStyle x
  have hfraction : (fractionDigits (amountDigits x).1 (amountDigits x).2).getLast? ≠ some 0 := by
    refine getLast?_fractionDigits fun hk => ?_
    have hdigits : amountDigits x = ([.zero], 0) ∨ _ := shortest_cases (fits_binaryOf x)
    rcases hdigits with h0 | ⟨hne, -, hlast⟩
    · simp [h0] at hk
    · exact ⟨hne, hlast⟩
  rw [ofFloat_amountStyle] at htidy ⊢
  refine ⟨_, ⟨_, _, hfraction, value_wholeDigits _ _, rfl⟩, ?_⟩
  rw [← natText_eq, natText, digitsOf_value htidy, String.toList_inj.symm]
  unfold Numeral.chars signText
  split_ifs <;> simp_all

/-- Sign and size of what is a number. -/
theorem signedSize?_of_isNaN {x : Float} (h : x.toModel.unpack.isNaN = false) :
    signedSize? x.toModel.unpack = some ((binaryOf x).1, (binaryOf x).2.size) := by
  have heq := signedSize?_eq x
  split_ifs at heq
  · cases hunpack : x.toModel.unpack <;> simp_all [signedSize?, UnpackedFloat.isNaN]
  · exact heq

/-- The text of an amount shows it. -/
theorem showsAmount_amountText (x : Float) : ShowsAmount x (amountText x) := by
  have hnan : x.isNaN = x.toModel.unpack.isNaN := rfl
  have hinf : x.isInf = x.toModel.unpack.isInf := rfl
  have hsize : x.toModel.unpack.isNaN = false → _ := signedSize?_of_isNaN
  obtain ⟨shown, hshown, htext⟩ := showsSize_ofFloat x
  have hround := roundsTo_shortest x true
  unfold ShowsAmount amountText
  rw [hnan, hinf, htext]
  cases hunpack : x.toModel.unpack with
  | notANumber => rfl
  | infinity sign =>
      rw [hunpack] at hsize
      have hsign : (sign == .negative) = (binaryOf x).1 :=
        congrArg Prod.fst (Option.some.inj (hsize rfl))
      change (if (binaryOf x).1 then "-inf" else "inf") = signText (sign == .negative) ++ "inf"
      rw [hsign, signText]
      split_ifs <;> rfl
  | zero sign =>
      rw [hunpack] at hsize
      exact ⟨_, _, _, shown, hsize rfl, hround, hshown, rfl⟩
  | finite sign mantissa power h =>
      rw [hunpack] at hsize
      exact ⟨_, _, _, shown, hsize rfl, hround, hshown, rfl⟩

end Texts

end LaunchDesk
