import Mathlib.Data.List.TakeWhile
import Mathlib.Data.Rat.Defs
import Mathlib.Algebra.Field.Rat
import Mathlib.Algebra.GroupWithZero.Basic
import Mathlib.Tactic.FieldSimp
import Mathlib.Tactic.Ring

namespace Codec

/-- The number with the digits before and after a point, times a power of ten. -/
def decimalValue (whole fraction : List Char) (exponent : ℤ) : ℚ :=
  Nat.ofDigitChars 10 (whole ++ fraction) 0 * (10 : ℚ) ^ (exponent - fraction.length)

/-- Takes a sign off the front of a text; whether it is a minus. -/
def readSign : List Char → Bool × List Char
  | '-' :: rest => (true, rest)
  | '+' :: rest => (false, rest)
  | rest => (false, rest)

/-- The digits after a point, if there is one. -/
def readFraction : List Char → List Char × List Char
  | '.' :: rest => (rest.takeWhile Char.isDigit, rest.dropWhile Char.isDigit)
  | rest => ([], rest)

/-- The exponent at the end of a number; none is a text that is not one. -/
def readExponent : List Char → Option ℤ
  | [] => some 0
  | mark :: rest =>
    let (negative, digits) := readSign rest
    if (mark = 'e' ∨ mark = 'E') ∧ digits ≠ [] ∧ digits.all Char.isDigit then
      some (if negative then -Nat.ofDigitChars 10 digits 0 else Nat.ofDigitChars 10 digits 0)
    else none

/-- The exact value of a number in decimal text, with an optional sign, fraction and exponent. -/
def readDecimal (text : List Char) : Option ℚ :=
  let (negative, unsigned) := readSign text
  let whole := unsigned.takeWhile Char.isDigit
  let (fraction, rest) := readFraction (unsigned.dropWhile Char.isDigit)
  if whole ++ fraction = [] then none
  else (readExponent rest).map fun exponent => (if negative then -1 else 1) * decimalValue whole fraction exponent

/-- A text with a minus in front, if it is to have one. -/
def withSign (negative : Bool) (text : List Char) : List Char := if negative then '-' :: text else text

theorem ofDigitChars_append_zero (left right : List Char) :
    Nat.ofDigitChars 10 (left ++ right) 0 = 10 ^ right.length * Nat.ofDigitChars 10 left 0 + Nat.ofDigitChars 10 right 0 := by
  rw [Nat.ofDigitChars_append, Nat.ofDigitChars_eq_ofDigitChars_zero]

/-- Digits are taken up to the first character that is none. -/
theorem digits_taken {digits rest : List Char} (all : ∀ c ∈ digits, c.isDigit = true)
    (stops : rest.takeWhile Char.isDigit = []) :
    (digits ++ rest).takeWhile Char.isDigit = digits ∧ (digits ++ rest).dropWhile Char.isDigit = rest := by
  have kept : rest.dropWhile Char.isDigit = rest := by
    have split := List.takeWhile_append_dropWhile (p := Char.isDigit) (l := rest)
    rwa [stops, List.nil_append] at split
  exact ⟨by rw [List.takeWhile_append_of_pos all, stops, List.append_nil], by rw [List.dropWhile_append_of_pos all, kept]⟩

theorem readSign_withSign (negative : Bool) {c : Char} (digit : c.isDigit = true) (text : List Char) :
    readSign (withSign negative (c :: text)) = (negative, c :: text) := by
  cases negative with
  | true => rfl
  | false =>
    have plus : c ≠ '+' := by rintro rfl; cases digit
    have minus : c ≠ '-' := by rintro rfl; cases digit
    simp [withSign, readSign, plus, minus]

/-- A number is read part by part. -/
theorem readDecimal_parts (negative : Bool) {whole fraction point rest : List Char} {exponent : ℤ}
    (some_digit : whole ≠ []) (digits : ∀ c ∈ whole, c.isDigit = true) (stops : point.takeWhile Char.isDigit = [])
    (pointed : readFraction point = (fraction, rest)) (scaled : readExponent rest = some exponent) :
    readDecimal (withSign negative (whole ++ point)) =
      some ((if negative then -1 else 1) * decimalValue whole fraction exponent) := by
  obtain ⟨c, whole, rfl⟩ := List.exists_cons_of_ne_nil some_digit
  have signed := readSign_withSign negative (digits c List.mem_cons_self) (whole ++ point)
  obtain ⟨taken, left⟩ := digits_taken digits stops
  rw [List.cons_append] at taken left ⊢
  unfold readDecimal
  simp only [signed, taken, left, pointed, scaled, Option.map_some]
  rw [if_neg (by simp)]

theorem readFraction_digits {fraction rest : List Char} (digits : ∀ c ∈ fraction, c.isDigit = true)
    (stops : rest.takeWhile Char.isDigit = []) : readFraction ('.' :: (fraction ++ rest)) = (fraction, rest) := by
  obtain ⟨taken, left⟩ := digits_taken digits stops
  simp only [readFraction, taken, left]

theorem readExponent_plus {digits : List Char} (some_digit : digits ≠ []) (all : ∀ c ∈ digits, c.isDigit = true) :
    readExponent ('e' :: '+' :: digits) = some (Nat.ofDigitChars 10 digits 0 : ℤ) := by
  have each : digits.all Char.isDigit = true := List.all_eq_true.mpr all
  simp [readExponent, readSign, some_digit, each]

theorem readExponent_minus {digits : List Char} (some_digit : digits ≠ []) (all : ∀ c ∈ digits, c.isDigit = true) :
    readExponent ('e' :: '-' :: digits) = some (-(Nat.ofDigitChars 10 digits 0 : ℤ)) := by
  have each : digits.all Char.isDigit = true := List.all_eq_true.mpr all
  simp [readExponent, readSign, some_digit, each]

/-- The digits of a whole number. -/
theorem toDigits_isDigit (n : Nat) : ∀ c ∈ Nat.toDigits 10 n, c.isDigit = true := fun _ member =>
  Nat.isDigit_of_mem_toDigits (by decide) (by decide) member

/-- No zero stands in front of the digits of a positive number. -/
theorem toDigits_head {n : Nat} (positive : 0 < n) : (Nat.toDigits 10 n).head? ≠ some '0' := by
  induction n using Nat.strongRecOn with
  | ind n ih =>
    by_cases small : n < 10
    · rw [Nat.toDigits_of_lt_base small, List.head?_cons, Ne, Option.some.injEq]
      have apart : ∀ d < 10, 0 < d → Nat.digitChar d ≠ '0' := by decide
      exact apart n small positive
    · rw [Nat.toDigits_of_base_le (by decide) (by omega), List.head?_append_of_ne_nil _ Nat.toDigits_ne_nil]
      exact ih (n / 10) (by omega) (by omega)

/-- Digits are read with a point before the last ones. -/
theorem readDecimal_places (negative : Bool) {digits : List Char} (all : ∀ c ∈ digits, c.isDigit = true) {places : Nat}
    (long : places < digits.length) :
    readDecimal (withSign negative (digits.take (digits.length - places) ++ '.' :: digits.drop (digits.length - places))) =
      some ((if negative then -1 else 1) * ((Nat.ofDigitChars 10 digits 0 : ℚ) / 10 ^ places)) := by
  have before : digits.take (digits.length - places) ≠ [] := by
    rw [← List.length_pos_iff, List.length_take]
    omega
  have behind : (digits.drop (digits.length - places)).length = places := by
    rw [List.length_drop]
    omega
  have after : ∀ c ∈ digits.drop (digits.length - places), c.isDigit = true := fun c member =>
    all c (List.mem_of_mem_drop member)
  have pointed := readFraction_digits after (List.takeWhile_nil (p := Char.isDigit))
  have parts := readDecimal_parts negative before (fun c member => all c (List.mem_of_mem_take member)) rfl pointed rfl
  rw [List.append_nil, decimalValue, List.take_append_drop, behind, zero_sub, zpow_neg, zpow_natCast,
    ← div_eq_mul_inv] at parts
  exact parts

/-- What numbers are written with. -/
def isNumeric (c : Char) : Bool := c.isDigit || ['+', '-', '.', 'e', 'E'].contains c

theorem readSign_numeric {text : List Char} (rest : ∀ c ∈ (readSign text).2, isNumeric c = true) :
    ∀ c ∈ text, isNumeric c = true := by
  unfold readSign at rest
  split at rest
  · exact List.forall_mem_cons.mpr ⟨rfl, rest⟩
  · exact List.forall_mem_cons.mpr ⟨rfl, rest⟩
  · exact rest

theorem digit_numeric {c : Char} (digit : c.isDigit = true) : isNumeric c = true := by
  rw [isNumeric, digit, Bool.true_or]

theorem digits_numeric {text : List Char} (rest : ∀ c ∈ text.dropWhile Char.isDigit, isNumeric c = true) :
    ∀ c ∈ text, isNumeric c = true := by
  intro c member
  rw [← List.takeWhile_append_dropWhile (p := Char.isDigit) (l := text), List.mem_append] at member
  rcases member with digit | later
  · exact digit_numeric (List.mem_takeWhile_imp digit)
  · exact rest c later

theorem readFraction_numeric {text : List Char} (rest : ∀ c ∈ (readFraction text).2, isNumeric c = true) :
    ∀ c ∈ text, isNumeric c = true := by
  unfold readFraction at rest
  split at rest
  · exact List.forall_mem_cons.mpr ⟨rfl, digits_numeric rest⟩
  · exact rest

theorem readExponent_numeric {text : List Char} {exponent : ℤ} (read : readExponent text = some exponent) :
    ∀ c ∈ text, isNumeric c = true := by
  cases text with
  | nil => exact fun _ member => absurd member List.not_mem_nil
  | cons mark rest =>
    simp only [readExponent, Option.ite_none_right_eq_some] at read
    obtain ⟨⟨marked, _, digits⟩, _⟩ := read
    refine List.forall_mem_cons.mpr ⟨?_, readSign_numeric fun c member => digit_numeric (List.all_eq_true.mp digits c member)⟩
    rcases marked with rfl | rfl <;> rfl

/-- A text that is read as a number, is written like one. -/
theorem readDecimal_numeric {text : List Char} {x : ℚ} (read : readDecimal text = some x) :
    text ≠ [] ∧ ∀ c ∈ text, isNumeric c = true := by
  simp only [readDecimal, Option.ite_none_left_eq_some, Option.map_eq_some_iff] at read
  obtain ⟨some_digit, exponent, scaled, _⟩ := read
  constructor
  · rintro rfl
    exact some_digit rfl
  · exact readSign_numeric (digits_numeric (readFraction_numeric (readExponent_numeric scaled)))

/-- A floating-point number, the finite ones exact. -/
inductive Number
  | finite (x : ℚ)
  | infinite (negative : Bool)
  | notANumber
  deriving DecidableEq

/-- Reads a number in decimal text, or one of the words for the others, in any case. -/
def readNumber (text : List Char) : Option Number :=
  match readDecimal text with
  | some x => some (.finite x)
  | none =>
    let word := String.ofList (text.map Char.toLower)
    if word = "nan" then some .notANumber
    else if ["inf", "+inf", "infinity", "+infinity"].contains word then some (.infinite false)
    else if ["-inf", "-infinity"].contains word then some (.infinite true)
    else none

theorem readNumber_decimal {text : List Char} {x : ℚ} (read : readDecimal text = some x) :
    readNumber text = some (.finite x) := by
  rw [readNumber, read]

theorem decimalValue_point (whole fraction : List Char) :
    decimalValue whole fraction 0 =
      Nat.ofDigitChars 10 whole 0 + Nat.ofDigitChars 10 fraction 0 / (10 : ℚ) ^ fraction.length := by
  rw [decimalValue, ofDigitChars_append_zero, zero_sub, zpow_neg, zpow_natCast]
  push_cast
  field_simp

/-- The value depends on the digits without zeros at the end, and on the place of the point. -/
theorem decimalValue_moved {whole fraction whole' fraction' : List Char} {zeros : Nat} {exponent exponent' : ℤ}
    (same : whole' ++ fraction' = whole ++ fraction ++ List.replicate zeros '0')
    (place : whole.length + exponent = whole'.length + exponent') :
    decimalValue whole' fraction' exponent' = decimalValue whole fraction exponent := by
  have ten : (10 : ℚ) ≠ 0 := by norm_num
  have lengths := congrArg List.length same
  simp only [List.length_append, List.length_replicate] at lengths
  have moved : exponent - fraction.length = zeros + (exponent' - fraction'.length) := by omega
  rw [decimalValue, decimalValue, same, Nat.ofDigitChars_append, Nat.ofDigitChars_replicate_zero, moved, zpow_add₀ ten,
    zpow_natCast]
  push_cast
  ring

/-- The value does not depend on zeros in front of the digits. -/
theorem decimalValue_led {whole fraction whole' fraction' : List Char} {zeros : Nat} {exponent exponent' : ℤ}
    (same : whole' ++ fraction' = List.replicate zeros '0' ++ (whole ++ fraction))
    (place : exponent' - fraction'.length = exponent - fraction.length) :
    decimalValue whole' fraction' exponent' = decimalValue whole fraction exponent := by
  rw [decimalValue, decimalValue, same, place, Nat.ofDigitChars_append, Nat.ofDigitChars_replicate_zero, Nat.mul_zero]

end Codec
