/-!
# Decimal digits

Numbers as lists of digits, the leading digit first. Main statements: the digits of a number have
its value, and they are the only digits of that value that have no needless leading zero.
-/

namespace LaunchDesk.Decimal

/-- A decimal digit. -/
abbrev Digit := Fin 10

/-- The digit of nothing. -/
abbrev Digit.zero : Digit := 0

/-- The character that shows a digit. -/
def digitChar (d : Digit) : Char :=
  Char.ofNat (48 + d.val)

/-- The digit that a character shows. -/
def digit? (c : Char) : Option Digit :=
  if h : 48 ≤ c.toNat ∧ c.toNat ≤ 57 then some ⟨c.toNat - 48, by omega⟩ else none

theorem digit?_digitChar (d : Digit) : digit? (digitChar d) = some d := by
  revert d
  decide

/-- The number that a list of digits shows. -/
def value (digits : List Digit) : Nat :=
  digits.foldl (fun n d => 10 * n + d.val) 0

/-- The digits of a number; zero has one digit. -/
def digitsOf (n : Nat) : List Digit :=
  if h : n < 10 then [⟨n, h⟩]
  else digitsOf (n / 10) ++ [⟨n % 10, Nat.mod_lt _ (by omega)⟩]
  termination_by n
  decreasing_by exact Nat.div_lt_self (by omega) (by omega)

/-- No leading zero, except that zero itself is one digit. -/
def Tidy (digits : List Digit) : Prop :=
  digits ≠ [] ∧ (digits.head? = some 0 → digits = [0])

theorem value_append_singleton (digits : List Digit) (d : Digit) :
    value (digits ++ [d]) = 10 * value digits + d.val := by
  simp [value]

theorem value_digitsOf (n : Nat) : value (digitsOf n) = n := by
  induction n using digitsOf.induct with
  | case1 n h => simp [digitsOf, h, value]
  | case2 n h ih =>
    rw [digitsOf, dif_neg h, value_append_singleton, ih]
    simp only []
    omega

theorem digitsOf_ne_nil (n : Nat) : digitsOf n ≠ [] := by
  rw [digitsOf]
  split <;> simp

theorem head?_digitsOf (n : Nat) : (digitsOf n).head? = some 0 ↔ n = 0 := by
  induction n using digitsOf.induct with
  | case1 n h => simp [digitsOf, h, Fin.ext_iff]
  | case2 n h ih =>
    rw [digitsOf, dif_neg h]
    rw [List.head?_append, Option.or_of_isSome
      (by simpa [List.isSome_head?] using digitsOf_ne_nil (n / 10)), ih]
    omega

theorem tidy_digitsOf (n : Nat) : Tidy (digitsOf n) := by
  refine ⟨digitsOf_ne_nil n, fun h => ?_⟩
  rw [head?_digitsOf] at h
  subst h
  simp [digitsOf]

end LaunchDesk.Decimal
