import Mathlib.Data.Rat.Floor
import Mathlib.Tactic.Linarith
import Mathlib.Tactic.FieldSimp
import Mathlib.Tactic.Ring
import PayBridge.Numeric.Arithmetic

namespace PayBridge
open Numeric

/-- `Math.round`: the nearest integer, halves upwards. -/
def mathRound (x : ℚ) : ℤ := ⌊x + 1 / 2⌋

/-- `Math.round(x * 100) / 100`. A number of whole cents is written as it is, as an amount
that a column can hold has no more than twelve digits. -/
def roundCents (A : Arithmetic) (x : ℚ) : ℚ := mathRound (A.nearest (A.mul x 100)) / 100

/-- A value of a `Decimal(12,2)` column. -/
structure Decimal where
  cents : ℤ
  fits : cents.natAbs < 10 ^ 12
  deriving DecidableEq

/-- `Number(decimal)`. -/
def Decimal.toNumber (d : Decimal) : ℚ := d.cents / 100

/-- PostgreSQL rounds a numeric to its scale half away from zero. -/
def roundHalfAway (x : ℚ) : ℤ := if 0 ≤ x then ⌊x + 1 / 2⌋ else -⌊-x + 1 / 2⌋

/-- What a `Decimal(12,2)` column makes of a number; none is the overflow error. -/
def Decimal.ofNumber (x : ℚ) : Option Decimal :=
  if fits : (roundHalfAway (x * 100)).natAbs < 10 ^ 12 then some ⟨roundHalfAway (x * 100), fits⟩ else none

/-- A number of whole cents. -/
def WholeCents (x : ℚ) : Prop := ∃ cents : ℤ, x = cents / 100

theorem WholeCents.zero : WholeCents 0 := ⟨0, by norm_num⟩

theorem WholeCents.add {x y : ℚ} (left : WholeCents x) (right : WholeCents y) : WholeCents (x + y) := by
  obtain ⟨a, rfl⟩ := left
  obtain ⟨b, rfl⟩ := right
  exact ⟨a + b, by push_cast; ring⟩

theorem WholeCents.sub {x y : ℚ} (left : WholeCents x) (right : WholeCents y) : WholeCents (x - y) := by
  obtain ⟨a, rfl⟩ := left
  obtain ⟨b, rfl⟩ := right
  exact ⟨a - b, by push_cast; ring⟩

theorem WholeCents.natCast (n : Nat) : WholeCents n := ⟨n * 100, by push_cast; ring⟩

theorem WholeCents.sum {numbers : List ℚ} (whole : ∀ x ∈ numbers, WholeCents x) : WholeCents numbers.sum := by
  induction numbers with
  | nil => exact WholeCents.zero
  | cons x numbers ih =>
    obtain ⟨first, others⟩ := List.forall_mem_cons.mp whole
    rw [List.sum_cons]
    exact first.add (ih others)

theorem Decimal.toNumber_wholeCents (d : Decimal) : WholeCents d.toNumber := ⟨d.cents, rfl⟩

theorem mathRound_intCast (n : ℤ) : mathRound n = n := by
  unfold mathRound
  rw [Int.floor_eq_iff]
  constructor <;> linarith

theorem roundCents_exact (x : ℚ) : roundCents .exact x = mathRound (x * 100) / 100 := rfl

theorem wholeCents_roundCents (A : Arithmetic) (x : ℚ) : WholeCents (roundCents A x) := ⟨_, rfl⟩

/-- Rounding to cents changes no whole number of cents. -/
theorem roundCents_wholeCents {x : ℚ} (whole : WholeCents x) : roundCents .exact x = x := by
  obtain ⟨n, rfl⟩ := whole
  have scaled : (n : ℚ) / 100 * 100 = n := by ring
  rw [roundCents_exact, scaled, mathRound_intCast]

theorem roundHalfAway_intCast (n : ℤ) : roundHalfAway n = n := by
  unfold roundHalfAway
  split
  · exact mathRound_intCast n
  · have mirrored := mathRound_intCast (-n)
    simp only [mathRound, Int.cast_neg] at mirrored
    rw [mirrored, neg_neg]

/-- A whole number of cents between zero and a stored amount is stored as it is. -/
theorem Decimal.ofNumber_wholeCents {x : ℚ} {d : Decimal} (whole : WholeCents x) (lower : 0 ≤ x)
    (upper : x ≤ d.toNumber) : ∃ stored, Decimal.ofNumber x = some stored ∧ stored.toNumber = x := by
  obtain ⟨n, rfl⟩ := whole
  have scaled : (n : ℚ) / 100 * 100 = n := by ring
  have nonneg : 0 ≤ n := by
    have := mul_nonneg lower (by norm_num : (0 : ℚ) ≤ 100)
    rw [scaled] at this
    exact_mod_cast this
  have below : n ≤ d.cents := by
    have := mul_le_mul_of_nonneg_right upper (by norm_num : (0 : ℚ) ≤ 100)
    rw [scaled, Decimal.toNumber, div_mul_cancel₀ _ (by norm_num)] at this
    exact_mod_cast this
  have fits : n.natAbs < 10 ^ 12 := by have := d.fits; omega
  refine ⟨⟨n, fits⟩, ?_, rfl⟩
  simp only [Decimal.ofNumber, scaled, roundHalfAway_intCast, dif_pos fits]

theorem mathRound_add (n : ℤ) (x : ℚ) : mathRound (n + x) = n + mathRound x := by
  have moved : (n : ℚ) + x + 1 / 2 = x + 1 / 2 + n := by ring
  unfold mathRound
  rw [moved, Int.floor_add_intCast, add_comm]

/-- On numbers from zero on, the column rounds as `Math.round` does. -/
theorem roundHalfAway_nonneg {x : ℚ} (nonneg : 0 ≤ x) : roundHalfAway x = mathRound x := if_pos nonneg

/-- Rounding crosses no whole number. -/
theorem mathRound_le {x : ℚ} {n : ℤ} (below : x ≤ n) : mathRound x ≤ n := by
  have strict : x + 1 / 2 < n + 1 := by linarith
  have floored : mathRound x < n + 1 := Int.floor_lt.mpr (by exact_mod_cast strict)
  omega

theorem le_mathRound {x : ℚ} {n : ℤ} (above : (n : ℚ) ≤ x) : n ≤ mathRound x := by
  have under : (n : ℚ) ≤ x + 1 / 2 := by linarith
  exact Int.le_floor.mpr under

theorem mathRound_mono {x y : ℚ} (below : x ≤ y) : mathRound x ≤ mathRound y := by
  have shifted : x + 1 / 2 ≤ y + 1 / 2 := by linarith
  exact Int.floor_le_floor shifted

/-- Half-way between two whole numbers, the upper one is taken from both sides. -/
theorem mathRound_halfWay {x : ℚ} {k : ℤ} (half : x = k + 1 / 2) (n : ℤ) : mathRound x + mathRound (n - x) = n + 1 := by
  have upper : x + 1 / 2 = ((k + 1 : ℤ) : ℚ) := by
    push_cast
    linarith
  have mirrored : (n : ℚ) - x + 1 / 2 = ((n - k : ℤ) : ℚ) := by
    push_cast
    linarith
  unfold mathRound
  rw [upper, mirrored, Int.floor_intCast, Int.floor_intCast]
  omega

/-- Elsewhere two parts of a whole number are rounded to parts of it. -/
theorem mathRound_complement {x : ℚ} (other : ∀ k : ℤ, x ≠ k + 1 / 2) (n : ℤ) : mathRound x + mathRound (n - x) = n := by
  have lower : (mathRound x : ℚ) ≤ x + 1 / 2 := Int.floor_le _
  have upper : x + 1 / 2 < mathRound x + 1 := Int.lt_floor_add_one _
  have strict : (mathRound x : ℚ) < x + 1 / 2 := by
    refine lt_of_le_of_ne lower fun reached => other (mathRound x - 1) ?_
    push_cast
    linarith
  have mirrored : mathRound (n - x) = n - mathRound x := by
    unfold mathRound at *
    rw [Int.floor_eq_iff]
    push_cast
    constructor <;> linarith
  omega

/-- What a column holds of a number from zero on. -/
theorem Decimal.ofNumber_some {x : ℚ} {stored : Decimal} (nonneg : 0 ≤ x) (held : Decimal.ofNumber x = some stored) :
    stored.cents = mathRound (x * 100) := by
  unfold Decimal.ofNumber at held
  split at held
  · cases held
    exact roundHalfAway_nonneg (by linarith)
  · cases held

/-- A number between zero and whole cents that fit, is stored. -/
theorem Decimal.ofNumber_below {x : ℚ} {cents : ℤ} (d : Decimal) (nonneg : 0 ≤ x) (below : x ≤ cents / 100)
    (upper : cents ≤ d.cents) : ∃ stored, Decimal.ofNumber x = some stored := by
  have scaled : x * 100 ≤ cents := by linarith
  have rounded : roundHalfAway (x * 100) = mathRound (x * 100) := roundHalfAway_nonneg (by linarith)
  have least : 0 ≤ mathRound (x * 100) := le_mathRound (by push_cast; linarith)
  have most := mathRound_le scaled
  have fits : (roundHalfAway (x * 100)).natAbs < 10 ^ 12 := by
    have room := d.fits
    omega
  exact ⟨_, dif_pos fits⟩

/-- A column holds a number as it is, if and only if it is of whole cents. -/
theorem Decimal.ofNumber_exact {x : ℚ} {stored : Decimal} (held : Decimal.ofNumber x = some stored) :
    stored.toNumber = x ↔ WholeCents x := by
  constructor
  · rintro rfl
    exact stored.toNumber_wholeCents
  · rintro ⟨n, rfl⟩
    have scaled : (n : ℚ) / 100 * 100 = n := by ring
    unfold Decimal.ofNumber at held
    split at held
    · cases held
      simp only [Decimal.toNumber, scaled, roundHalfAway_intCast]
    · cases held

/-- The digits after the point of a number below one, as far as they go. -/
def fractionDigits : Nat → ℚ → List Char
  | 0, _ => []
  | fuel + 1, x =>
    if x = 0 then [] else Nat.digitChar ⌊x * 10⌋.toNat :: fractionDigits fuel (x * 10 - ⌊x * 10⌋)

/-- Digits with a point behind the first one, and an exponent. -/
def scientific (digits exponent : List Char) : List Char :=
  digits.take 1 ++ (if digits.length ≤ 1 then [] else '.' :: digits.drop 1) ++ 'e' :: exponent

/-- `String(x)` of a number that has a decimal expansion; from 1e21 on and below
1e-6 JavaScript writes an exponent. -/
def numberText (x : ℚ) : String :=
  let whole := (toString ⌊|x|⌋.toNat).toList
  let fraction := fractionDigits x.den (|x| - ⌊|x|⌋)
  let body :=
    if 10 ^ 21 ≤ |x| then
      scientific ((whole ++ fraction).reverse.dropWhile (· = '0')).reverse ('+' :: (toString (whole.length - 1)).toList)
    else if fraction = [] then whole
    else if |x| < 1 / 10 ^ 6 then
      let digits := fraction.dropWhile (· = '0')
      scientific digits ('-' :: (toString (fraction.length - digits.length + 1)).toList)
    else whole ++ '.' :: fraction
  String.ofList (if x < 0 then '-' :: body else body)

example : numberText (4237 / 100) = "42.37" := by decide +kernel

example : numberText (-123 / 10 ^ 9) = "-1.23e-7" := by decide +kernel

end PayBridge
