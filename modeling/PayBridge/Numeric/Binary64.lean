import Mathlib.Algebra.Order.Field.Power
import Mathlib.Data.Int.Log
import Mathlib.Tactic.FieldSimp
import PayBridge.Numeric.Arithmetic

namespace Numeric

/-- The nearest integer, the even one of two. -/
def roundEven (x : ℚ) : ℤ := if x - ⌊x⌋ < 1 / 2 ∨ x - ⌊x⌋ = 1 / 2 ∧ ⌊x⌋ % 2 = 0 then ⌊x⌋ else ⌊x⌋ + 1

namespace Binary64

/-- The distance of the doubles about a number: 53 binary digits, down to the subnormal ones. -/
def quantum (x : ℚ) : ℚ := 2 ^ max (Int.log 2 |x| - 52) (-1074)

/-- The double nearest to a number, as long as that is not too large for one. -/
def nearest (x : ℚ) : ℚ := roundEven (x / quantum x) * quantum x

/-- The decimals next to a number, from one digit on: with each number of digits the nearer one first. -/
def candidates (x : ℚ) : List ℚ :=
  (List.range 17).flatMap fun digits =>
    let unit : ℚ := 10 ^ (Int.log 10 |x| - digits)
    [roundEven (x / unit) * unit, (2 * ⌊x / unit⌋ + 1 - roundEven (x / unit) : ℤ) * unit]

/-- The shortest decimal that denotes a double. -/
def written (x : ℚ) : ℚ := ((candidates x).find? fun decimal => nearest decimal = x).getD x

theorem scaled_decimal {b : ℕ} (base : b = 2 ∨ b = 10) (n e : ℤ) : DecimalNumber (n * (b : ℚ) ^ e) := by
  cases e with
  | ofNat k => exact ⟨n * b ^ k, 0, by push_cast; simp⟩
  | negSucc k =>
    rcases base with rfl | rfl
    · refine ⟨n * 5 ^ (k + 1), k + 1, ?_⟩
      have ten : (10 : ℚ) ^ (k + 1) = 2 ^ (k + 1) * 5 ^ (k + 1) := by rw [← mul_pow]; norm_num
      rw [zpow_negSucc, ten]
      push_cast
      field_simp
    · refine ⟨n, k + 1, ?_⟩
      rw [zpow_negSucc]
      push_cast
      rfl

theorem nearest_decimal (x : ℚ) (_ : DecimalNumber x) : DecimalNumber (nearest x) :=
  scaled_decimal (Or.inl rfl) _ _

theorem written_decimal (x : ℚ) (decimal : DecimalNumber x) : DecimalNumber (written x) := by
  unfold written
  cases found : (candidates x).find? fun decimal => nearest decimal = x with
  | none => exact decimal
  | some d =>
    obtain ⟨digits, _, inside⟩ := List.mem_flatMap.mp (List.mem_of_find?_eq_some found)
    rcases List.mem_pair.mp inside with rfl | rfl
    · exact scaled_decimal (Or.inr rfl) _ _
    · exact scaled_decimal (Or.inr rfl) _ _

end Binary64

/-- Double precision numbers. -/
def binary64 : Arithmetic := ⟨Binary64.nearest, Binary64.written, Binary64.nearest_decimal, Binary64.written_decimal⟩

example : binary64.add (11 / 10) (22 / 10) = 33000000000000003 / 10000000000000000 := by decide +kernel

example : binary64.sub 100 (804 / 100) = 9196000000000001 / 100000000000000 := by decide +kernel

end Numeric
