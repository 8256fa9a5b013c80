import Mathlib.Algebra.BigOperators.Group.List.Basic
import Mathlib.Data.Nat.Prime.Basic
import Mathlib.Data.Rat.Floor
import Mathlib.Tactic.Positivity
import Mathlib.Tactic.Ring

namespace Numeric

/-- A number that decimal digits hold. -/
def DecimalNumber (x : ℚ) : Prop := ∃ (n : ℤ) (places : ℕ), x = n / 10 ^ places

/-- The numbers of a language, which stand for themselves as the decimals that they are
written as: a decimal denotes the number nearest to it, and so is a result rounded. -/
structure Arithmetic where
  nearest : ℚ → ℚ
  written : ℚ → ℚ
  nearest_decimal : ∀ x, DecimalNumber x → DecimalNumber (nearest x)
  written_decimal : ∀ x, DecimalNumber x → DecimalNumber (written x)

namespace Arithmetic

/-- Nothing is rounded. -/
def exact : Arithmetic := ⟨id, id, fun _ decimal => decimal, fun _ decimal => decimal⟩

variable (A : Arithmetic)

/-- The number that a result comes to. -/
def result (x : ℚ) : ℚ := A.written (A.nearest x)

def add (x y : ℚ) : ℚ := A.result (A.nearest x + A.nearest y)

def sub (x y : ℚ) : ℚ := A.result (A.nearest x - A.nearest y)

def mul (x y : ℚ) : ℚ := A.result (A.nearest x * A.nearest y)

/-- The numbers of a list, added up one after the other from zero. -/
def sum (numbers : List ℚ) : ℚ := numbers.foldl A.add 0

@[simp] theorem exact_nearest (x : ℚ) : exact.nearest x = x := rfl

@[simp] theorem exact_add (x y : ℚ) : exact.add x y = x + y := rfl

@[simp] theorem exact_sub (x y : ℚ) : exact.sub x y = x - y := rfl

@[simp] theorem exact_mul (x y : ℚ) : exact.mul x y = x * y := rfl

theorem exact_sum (numbers : List ℚ) : exact.sum numbers = numbers.sum := List.sum_eq_foldl.symm

end Arithmetic

theorem DecimalNumber.add {x y : ℚ} (left : DecimalNumber x) (right : DecimalNumber y) : DecimalNumber (x + y) := by
  obtain ⟨m, i, rfl⟩ := left
  obtain ⟨n, j, rfl⟩ := right
  refine ⟨m * 10 ^ j + n * 10 ^ i, i + j, ?_⟩
  rw [div_add_div _ _ (by positivity) (by positivity), pow_add]
  push_cast
  ring

theorem DecimalNumber.neg {x : ℚ} (decimal : DecimalNumber x) : DecimalNumber (-x) := by
  obtain ⟨n, places, rfl⟩ := decimal
  exact ⟨-n, places, by push_cast; ring⟩

theorem Arithmetic.add_decimal (A : Arithmetic) {x y : ℚ} (left : DecimalNumber x) (right : DecimalNumber y) :
    DecimalNumber (A.add x y) :=
  A.written_decimal _ (A.nearest_decimal _ ((A.nearest_decimal _ left).add (A.nearest_decimal _ right)))

theorem Arithmetic.sub_decimal (A : Arithmetic) {x y : ℚ} (left : DecimalNumber x) (right : DecimalNumber y) :
    DecimalNumber (A.sub x y) := by
  have difference := (A.nearest_decimal _ left).add (A.nearest_decimal _ right).neg
  rw [← sub_eq_add_neg] at difference
  exact A.written_decimal _ (A.nearest_decimal _ difference)

/-- Decimals add up to a decimal, whatever is rounded on the way. -/
theorem Arithmetic.sum_decimal (A : Arithmetic) {numbers : List ℚ} (decimals : ∀ x ∈ numbers, DecimalNumber x) :
    DecimalNumber (A.sum numbers) := by
  have from_any : ∀ start, DecimalNumber start → DecimalNumber (numbers.foldl A.add start) := by
    induction numbers with
    | nil => exact fun _ start => start
    | cons x numbers ih =>
      obtain ⟨first, others⟩ := List.forall_mem_cons.mp decimals
      exact fun _ start => ih others _ (A.add_decimal start first)
  exact from_any 0 ⟨0, 0, by simp⟩

/-- A divisor of a power of ten divides ten to its own power. -/
theorem dvd_ten_pow_self {d places : ℕ} (divides : d ∣ 10 ^ places) : d ∣ 10 ^ d := by
  have ten : ∀ n, 10 ^ n = 2 ^ n * 5 ^ n := fun n => Nat.mul_pow 2 5 n
  rw [ten] at divides
  obtain ⟨a, b, twos, fives, rfl⟩ := (Nat.dvd_mul).mp divides
  obtain ⟨i, _, rfl⟩ := (Nat.dvd_prime_pow Nat.prime_two).mp twos
  obtain ⟨j, _, rfl⟩ := (Nat.dvd_prime_pow Nat.prime_five).mp fives
  have first : i ≤ 2 ^ i * 5 ^ j :=
    Nat.lt_two_pow_self.le.trans (Nat.le_mul_of_pos_right _ (Nat.pow_pos (by decide)))
  have second : j ≤ 2 ^ i * 5 ^ j :=
    (Nat.lt_pow_self (by decide)).le.trans (Nat.le_mul_of_pos_left _ (Nat.pow_pos (by decide)))
  rw [ten]
  exact Nat.mul_dvd_mul (Nat.pow_dvd_pow 2 first) (Nat.pow_dvd_pow 5 second)

/-- As many places as its denominator says hold a decimal number. -/
theorem DecimalNumber.places {x : ℚ} (decimal : DecimalNumber x) :
    ∃ places ≤ x.den, ∃ n : ℤ, (|x| - ⌊|x|⌋) * 10 ^ places = n := by
  obtain ⟨n, places, same⟩ := decimal
  have whole : (x.den : ℤ) ∣ x.num * 10 ^ places := by
    refine ⟨n, ?_⟩
    have scaled : x * 10 ^ places = n := by rw [same, div_mul_cancel₀ _ (by positivity)]
    have split : (x.num : ℚ) = x * x.den := (Rat.mul_den_eq_num x).symm
    have rational : (x.num : ℚ) * 10 ^ places = x.den * n := by rw [split, ← scaled]; ring
    exact_mod_cast rational
  have divides : x.den ∣ 10 ^ places := by
    have sizes := Int.natAbs_dvd_natAbs.mpr whole
    rw [Int.natAbs_natCast, Int.natAbs_mul, Int.natAbs_pow] at sizes
    exact x.reduced.symm.dvd_of_dvd_mul_left sizes
  obtain ⟨m, power⟩ := dvd_ten_pow_self divides
  refine ⟨x.den, le_refl _, |x.num| * m - ⌊|x|⌋ * 10 ^ x.den, ?_⟩
  have size : |x| * x.den = |(x.num : ℚ)| := by
    rw [← abs_of_nonneg (Nat.cast_nonneg (α := ℚ) x.den), ← abs_mul, Rat.mul_den_eq_num]
  have power : (10 : ℚ) ^ x.den = x.den * m := by exact_mod_cast power
  push_cast
  rw [sub_mul, ← size]
  nth_rewrite 1 [power]
  ring

end Numeric
