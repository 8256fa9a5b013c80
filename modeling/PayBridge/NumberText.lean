import PayBridge.Codec.Decimal
import PayBridge.Money

namespace PayBridge
open Codec Numeric

/-- `x.toFixed(2)`: the nearest hundredth, halves away from zero; from 1e21 on it
is `String(x)`. -/
def toFixed2 (A : Arithmetic) (x : ℚ) : String :=
  if 10 ^ 21 ≤ |x| then numberText x
  else
    let digits := Nat.toDigits 10 (mathRound (|A.nearest x| * 100)).toNat
    let padded := List.replicate (3 - digits.length) '0' ++ digits
    String.ofList (withSign (x < 0) (padded.take (padded.length - 2) ++ '.' :: padded.drop (padded.length - 2)))

example : toFixed2 .exact (-7 / 100) = "-0.07" := by decide +kernel

/-- The number that the text with two places denotes. -/
def fixed2 (A : Arithmetic) (x : ℚ) : ℚ :=
  if 10 ^ 21 ≤ |x| then x else (if x < 0 then -1 else 1) * (mathRound (|A.nearest x| * 100) / 100)

/-- The next digit of a number below one, and what is left behind it. -/
theorem nextDigit {x : ℚ} (nonneg : 0 ≤ x) (below : x < 1) :
    ⌊x * 10⌋.toNat < 10 ∧ ((⌊x * 10⌋.toNat : ℕ) : ℚ) = ⌊x * 10⌋ ∧ 0 ≤ x * 10 - ⌊x * 10⌋ ∧ x * 10 - ⌊x * 10⌋ < 1 := by
  have least : 0 ≤ ⌊x * 10⌋ := Int.floor_nonneg.mpr (by linarith)
  have most : ⌊x * 10⌋ < 10 := Int.floor_lt.mpr (by push_cast; linarith)
  have value : ((⌊x * 10⌋.toNat : ℕ) : ℚ) = ⌊x * 10⌋ := by exact_mod_cast Int.toNat_of_nonneg least
  have lower : (⌊x * 10⌋ : ℚ) ≤ x * 10 := Int.floor_le _
  have upper : x * 10 < ⌊x * 10⌋ + 1 := Int.lt_floor_add_one _
  exact ⟨by omega, value, by linarith, by linarith⟩

theorem zero_of_whole {x : ℚ} (nonneg : 0 ≤ x) (below : x < 1) {n : ℤ} (same : x = n) : x = 0 := by
  have least : 0 ≤ n := by exact_mod_cast same ▸ nonneg
  have most : n < 1 := by exact_mod_cast same ▸ below
  have zero : n = 0 := by omega
  rw [same, zero, Int.cast_zero]

theorem fractionDigits_isDigit (fuel : Nat) {x : ℚ} (nonneg : 0 ≤ x) (below : x < 1) :
    ∀ c ∈ fractionDigits fuel x, c.isDigit = true := by
  induction fuel generalizing x with
  | zero => exact fun _ member => absurd member List.not_mem_nil
  | succ fuel ih =>
    obtain ⟨digit, _, left, small⟩ := nextDigit nonneg below
    unfold fractionDigits
    split
    · exact fun _ member => absurd member List.not_mem_nil
    · refine List.forall_mem_cons.mpr ⟨?_, ih left small⟩
      rw [Nat.isDigit_digitChar, decide_eq_true digit]

/-- The digits after the point are all there are, if so many places hold the number. -/
theorem fractionDigits_value {fuel places : Nat} (room : places ≤ fuel) {x : ℚ} (nonneg : 0 ≤ x) (below : x < 1)
    (exact : ∃ n : ℤ, x * 10 ^ places = n) :
    (Nat.ofDigitChars 10 (fractionDigits fuel x) 0 : ℚ) = x * 10 ^ (fractionDigits fuel x).length := by
  induction fuel generalizing x places with
  | zero =>
    obtain ⟨n, same⟩ := exact
    rw [Nat.le_zero.mp room, pow_zero, mul_one] at same
    rw [zero_of_whole nonneg below same]
    simp [fractionDigits]
  | succ fuel ih =>
    unfold fractionDigits
    by_cases none : x = 0
    · simp [none]
    · obtain ⟨digit, value, left, small⟩ := nextDigit nonneg below
      have held : ∃ n : ℤ, (x * 10 - ⌊x * 10⌋) * 10 ^ (places - 1) = n := by
        obtain ⟨n, same⟩ := exact
        cases places with
        | zero => exact absurd (zero_of_whole nonneg below (by rw [← same, pow_zero, mul_one])) none
        | succ places =>
          refine ⟨n - ⌊x * 10⌋ * 10 ^ places, ?_⟩
          rw [Nat.add_sub_cancel]
          push_cast
          rw [← same]
          ring
      have later := ih (by omega : places - 1 ≤ fuel) left small held
      rw [if_neg none, Nat.ofDigitChars_cons_digitChar_of_lt_ten digit, Nat.ofDigitChars_eq_ofDigitChars_zero,
        List.length_cons]
      push_cast
      rw [later, value]
      ring

theorem WholeCents.decimal {x : ℚ} (whole : WholeCents x) : DecimalNumber x := by
  obtain ⟨cents, rfl⟩ := whole
  exact ⟨cents, 2, by norm_num⟩

/-- The digits of a decimal number, before and after the point. -/
theorem decimalValue_decimal {x : ℚ} (decimal : DecimalNumber x) :
    decimalValue (Nat.toDigits 10 ⌊|x|⌋.toNat) (fractionDigits x.den (|x| - ⌊|x|⌋)) 0 = |x| := by
  have lower : (⌊|x|⌋ : ℚ) ≤ |x| := Int.floor_le _
  have upper : |x| < ⌊|x|⌋ + 1 := Int.lt_floor_add_one _
  have least : 0 ≤ ⌊|x|⌋ := Int.floor_nonneg.mpr (abs_nonneg x)
  have value : ((⌊|x|⌋.toNat : ℕ) : ℚ) = ⌊|x|⌋ := by exact_mod_cast Int.toNat_of_nonneg least
  obtain ⟨places, room, held⟩ := decimal.places
  rw [decimalValue_point, Nat.ofDigitChars_ten_toDigits, value,
    fractionDigits_value room (by linarith) (by linarith) held, mul_div_cancel_right₀ _ (by positivity), add_sub_cancel]

theorem signed_abs (x : ℚ) : (if decide (x < 0) = true then -1 else 1) * |x| = x := by
  by_cases negative : x < 0
  · rw [if_pos (decide_eq_true negative), abs_of_neg negative, neg_one_mul, neg_neg]
  · rw [if_neg (by simpa using negative), one_mul, abs_of_nonneg (not_lt.mp negative)]

/-- Digits without the zeros at their end. -/
theorem zeros_dropped (digits : List Char) :
    ∃ zeros, digits = (digits.reverse.dropWhile (· = '0')).reverse ++ List.replicate zeros '0' := by
  have split := congrArg List.reverse (List.takeWhile_append_dropWhile (p := (· = '0')) (l := digits.reverse))
  rw [List.reverse_append, List.reverse_reverse] at split
  have zeros : (digits.reverse.takeWhile (· = '0')).reverse =
      List.replicate (digits.reverse.takeWhile (· = '0')).length '0' := by
    refine List.eq_replicate_iff.mpr ⟨List.length_reverse, fun c member => ?_⟩
    simpa using List.mem_takeWhile_imp (List.mem_reverse.mp member)
  exact ⟨_, zeros ▸ split.symm⟩

/-- How a number is written behind its sign: no zero in front of other digits, and a
digit behind every point. -/
structure Written (x : ℚ) (whole fraction point rest : List Char) (exponent : ℤ) : Prop where
  some_digit : whole ≠ []
  digits : ∀ c ∈ whole, c.isDigit = true
  lead : whole = ['0'] ∨ whole.head? ≠ some '0'
  stops : point.takeWhile Char.isDigit = []
  pointed : readFraction point = (fraction, rest)
  dotted : point.head? = some '.' → fraction ≠ []
  scaled : readExponent rest = some exponent
  value : decimalValue whole fraction exponent = |x|

/-- Digits that do not begin with a zero are written with an exponent. -/
theorem Written.scientific {x : ℚ} {first : Char} {later exponent : List Char} {power : ℤ}
    (all : ∀ c ∈ first :: later, c.isDigit = true) (lead : first ≠ '0') (scaled : readExponent ('e' :: exponent) = some power)
    (value : decimalValue [first] later power = |x|) : ∃ fraction point rest,
      PayBridge.scientific (first :: later) exponent = [first] ++ point ∧ Written x [first] fraction point rest power := by
  have one : ∀ c ∈ [first], c.isDigit = true := List.forall_mem_singleton.mpr (all first List.mem_cons_self)
  have head : [first].head? ≠ some '0' := fun same => lead (Option.some.inj same)
  unfold PayBridge.scientific
  simp only [List.take_succ_cons, List.take_zero, List.drop_succ_cons, List.drop_zero, List.length_cons, List.append_assoc]
  by_cases alone : later = []
  · subst alone
    exact ⟨[], _, _, rfl, List.cons_ne_nil first [], one, .inr head, rfl, rfl, (by simp), scaled, value⟩
  · have many : ¬ later.length + 1 ≤ 1 := by
      have positive := List.length_pos_iff.mpr alone
      omega
    rw [if_neg many, List.cons_append]
    exact ⟨later, _, _, rfl, List.cons_ne_nil first [], one, .inr head, rfl,
      readFraction_digits (fun c member => all c (List.mem_cons_of_mem first member)) rfl, fun _ => alone, scaled, value⟩

/-- Digits behind the zeros at their front. -/
theorem zeros_skipped (digits : List Char) :
    ∃ zeros, digits = List.replicate zeros '0' ++ digits.dropWhile (· = '0') := by
  have zeros : digits.takeWhile (· = '0') = List.replicate (digits.takeWhile (· = '0')).length '0' :=
    List.eq_replicate_iff.mpr ⟨rfl, fun c member => by simpa using List.mem_takeWhile_imp member⟩
  refine ⟨(digits.takeWhile (· = '0')).length, ?_⟩
  rw [← zeros]
  exact List.takeWhile_append_dropWhile.symm

theorem fractionDigits_zero (fuel : Nat) : fractionDigits fuel 0 = [] := by
  cases fuel <;> simp [fractionDigits]

/-- The digits of a large number, without the zeros at their end. -/
theorem large_written {x : ℚ} {before after : List Char} (all : ∀ c ∈ before ++ after, c.isDigit = true)
    (lead : before.head? ≠ some '0') (some_digit : before ≠ []) (value : decimalValue before after 0 = |x|) (positive : 0 < |x|) :
    ∃ whole fraction point rest power,
      scientific ((before ++ after).reverse.dropWhile (· = '0')).reverse ('+' :: Nat.toDigits 10 (before.length - 1)) =
        whole ++ point ∧ Written x whole fraction point rest power := by
  obtain ⟨zeros, trimmed⟩ := zeros_dropped (before ++ after)
  generalize ((before ++ after).reverse.dropWhile (· = '0')).reverse = kept at *
  have some_kept : kept ≠ [] := by
    rintro rfl
    rw [decimalValue, trimmed, List.nil_append, Nat.ofDigitChars_replicate_zero, Nat.mul_zero, Nat.cast_zero, zero_mul] at value
    exact positive.ne value
  obtain ⟨first, later, rfl⟩ := List.exists_cons_of_ne_nil some_kept
  have nonzero : first ≠ '0' := by
    obtain ⟨c, others, rfl⟩ := List.exists_cons_of_ne_nil some_digit
    rw [List.cons_append, List.cons_append] at trimmed
    rw [← (List.cons.inj trimmed).1]
    exact fun zero => lead (congrArg some zero)
  have long := List.length_pos_iff.mpr some_digit
  have moved : decimalValue before after 0 = decimalValue [first] later (before.length - 1 : ℕ) := by
    have same : before ++ after = [first] ++ later ++ List.replicate zeros '0' := by
      rw [List.singleton_append, trimmed]
    exact decimalValue_moved same (by rw [List.length_singleton]; omega)
  have scaled : readExponent ('e' :: '+' :: Nat.toDigits 10 (before.length - 1)) = some ((before.length - 1 : ℕ) : ℤ) := by
    rw [readExponent_plus Nat.toDigits_ne_nil (toDigits_isDigit _), Nat.ofDigitChars_ten_toDigits]
  have kept_digits : ∀ c ∈ first :: later, c.isDigit = true := fun c member =>
    all c (trimmed ▸ List.mem_append_left _ member)
  obtain ⟨fraction, point, rest, text, written⟩ := Written.scientific kept_digits nonzero scaled (moved.symm.trans value)
  exact ⟨_, fraction, point, rest, _, text, written⟩

/-- The digits of a small number, behind the zeros at their front. -/
theorem small_written {x : ℚ} {after : List Char} (all : ∀ c ∈ after, c.isDigit = true)
    (value : decimalValue ['0'] after 0 = |x|) (positive : 0 < |x|) : ∃ whole fraction point rest power,
      scientific (after.dropWhile (· = '0'))
          ('-' :: Nat.toDigits 10 (after.length - (after.dropWhile (· = '0')).length + 1)) = whole ++ point ∧
        Written x whole fraction point rest power := by
  obtain ⟨zeros, skipped⟩ := zeros_skipped after
  have head := List.head?_dropWhile_not (· = '0') after
  generalize after.dropWhile (· = '0') = kept at *
  have some_kept : kept ≠ [] := by
    rintro rfl
    rw [decimalValue, skipped, List.append_nil, ← List.replicate_one, List.replicate_append_replicate,
      Nat.ofDigitChars_replicate_zero, Nat.mul_zero, Nat.cast_zero, zero_mul] at value
    exact positive.ne value
  obtain ⟨first, later, rfl⟩ := List.exists_cons_of_ne_nil some_kept
  have nonzero : first ≠ '0' := by simpa using head
  have count : after.length - (first :: later).length + 1 = zeros + 1 := by
    rw [skipped, List.length_append, List.length_replicate]
    omega
  have moved : decimalValue ['0'] after 0 = decimalValue [first] later (-((zeros + 1 : ℕ) : ℤ)) := by
    have same : ['0'] ++ after = List.replicate (zeros + 1) '0' ++ ([first] ++ later) := by
      rw [skipped, List.replicate_succ]
      rfl
    refine decimalValue_led same ?_
    rw [skipped, List.length_append, List.length_replicate, List.length_cons]
    push_cast
    ring
  have scaled : readExponent ('e' :: '-' :: Nat.toDigits 10 (zeros + 1)) = some (-((zeros + 1 : ℕ) : ℤ)) := by
    rw [readExponent_minus Nat.toDigits_ne_nil (toDigits_isDigit _), Nat.ofDigitChars_ten_toDigits]
  have kept_digits : ∀ c ∈ first :: later, c.isDigit = true := fun c member =>
    all c (skipped ▸ List.mem_append_right _ member)
  obtain ⟨fraction, point, rest, text, written⟩ := Written.scientific kept_digits nonzero scaled (moved.symm.trans value)
  rw [count]
  exact ⟨_, fraction, point, rest, _, text, written⟩

theorem numberText_written {x : ℚ} (decimal : DecimalNumber x) : ∃ whole fraction point rest exponent,
    (numberText x).toList = withSign (decide (x < 0)) (whole ++ point) ∧ Written x whole fraction point rest exponent := by
  have value := decimalValue_decimal decimal
  have lower : (⌊|x|⌋ : ℚ) ≤ |x| := Int.floor_le _
  have upper : |x| < ⌊|x|⌋ + 1 := Int.lt_floor_add_one _
  have fractional := fractionDigits_isDigit x.den (x := |x| - ⌊|x|⌋) (by linarith) (by linarith)
  have digits := toDigits_isDigit ⌊|x|⌋.toNat
  have some_digit : Nat.toDigits 10 ⌊|x|⌋.toNat ≠ [] := Nat.toDigits_ne_nil
  have lead : 0 < ⌊|x|⌋ → (Nat.toDigits 10 ⌊|x|⌋.toNat).head? ≠ some '0' := fun positive => toDigits_head (by omega)
  have none : ⌊|x|⌋ = 0 → Nat.toDigits 10 ⌊|x|⌋.toNat = ['0'] := by
    intro zero
    rw [zero]
    rfl
  have empty : |x| = 0 → fractionDigits x.den (|x| - ⌊|x|⌋) = [] := by
    intro zero
    rw [zero, Int.floor_zero, Int.cast_zero, sub_zero, fractionDigits_zero]
  have least : 0 ≤ ⌊|x|⌋ := Int.floor_nonneg.mpr (abs_nonneg x)
  have sign : ∀ body : List Char, (if x < 0 then '-' :: body else body) = withSign (decide (x < 0)) body := by
    intro body
    simp only [withSign, decide_eq_true_eq]
  unfold numberText
  simp only [Nat.toString_eq_repr, Nat.toList_repr, String.toList_ofList, sign]
  generalize Nat.toDigits 10 ⌊|x|⌋.toNat = before at *
  generalize fractionDigits x.den (|x| - ⌊|x|⌋) = after at *
  by_cases large : 10 ^ 21 ≤ |x|
  · have above : (10 : ℤ) ^ 21 ≤ ⌊|x|⌋ := Int.le_floor.mpr (by exact_mod_cast large)
    have positive : 0 < ⌊|x|⌋ := lt_of_lt_of_le (by norm_num) above
    have all : ∀ c ∈ before ++ after, c.isDigit = true := fun c member =>
      (List.mem_append.mp member).elim (digits c) (fractional c)
    obtain ⟨whole, fraction, point, rest, power, text, written⟩ :=
      large_written all (lead positive) some_digit value (lt_of_lt_of_le (by norm_num) large)
    rw [if_pos large, text]
    exact ⟨whole, fraction, point, rest, power, rfl, written⟩
  rw [if_neg large]
  have lead : before = ['0'] ∨ before.head? ≠ some '0' := (eq_or_lt_of_le least).imp (fun zero => none zero.symm) lead
  split
  · next no_place =>
    rw [no_place] at value
    exact ⟨before, [], [], [], 0, by rw [List.append_nil], some_digit, digits, lead, rfl, rfl, (by simp), rfl, value⟩
  next some_place =>
  split
  · next small =>
    have zero : ⌊|x|⌋ = 0 := Int.floor_eq_zero_iff.mpr ⟨abs_nonneg x, by linarith⟩
    have positive : 0 < |x| := lt_of_le_of_ne (abs_nonneg x) fun same => some_place (empty same.symm)
    rw [none zero] at value
    obtain ⟨whole, fraction, point, rest, power, text, written⟩ := small_written fractional value positive
    rw [text]
    exact ⟨whole, fraction, point, rest, power, rfl, written⟩
  · have pointed := readFraction_digits fractional (List.takeWhile_nil (p := Char.isDigit))
    rw [List.append_nil] at pointed
    exact ⟨before, after, '.' :: after, [], 0, rfl, some_digit, digits, lead, rfl, pointed, fun _ => some_place, rfl, value⟩

/-- A decimal number is read back from its text. -/
theorem numberText_decimal {x : ℚ} (decimal : DecimalNumber x) : readDecimal (numberText x).toList = some x := by
  obtain ⟨whole, fraction, point, rest, exponent, text, written⟩ := numberText_written decimal
  have signed := signed_abs x
  have parts := readDecimal_parts (decide (x < 0)) written.some_digit written.digits written.stops written.pointed written.scaled
  rwa [← text, written.value, signed] at parts

theorem numberText_read {x : ℚ} (whole : WholeCents x) : readDecimal (numberText x).toList = some x :=
  numberText_decimal whole.decimal

/-- A decimal number is read back from its text with two places as the nearest hundredth. -/
theorem toFixed2_read (A : Arithmetic) {x : ℚ} (decimal : DecimalNumber x) :
    readDecimal (toFixed2 A x).toList = some (fixed2 A x) := by
  unfold toFixed2 fixed2
  split
  · exact numberText_decimal decimal
  · have value : (((mathRound (|A.nearest x| * 100)).toNat : ℕ) : ℚ) = mathRound (|A.nearest x| * 100) := by
      have least : 0 ≤ mathRound (|A.nearest x| * 100) := le_mathRound (by push_cast; positivity)
      exact_mod_cast Int.toNat_of_nonneg least
    have digits := toDigits_isDigit (mathRound (|A.nearest x| * 100)).toNat
    have number : Nat.ofDigitChars 10 (Nat.toDigits 10 (mathRound (|A.nearest x| * 100)).toNat) 0 =
        (mathRound (|A.nearest x| * 100)).toNat := Nat.ofDigitChars_ten_toDigits
    generalize Nat.toDigits 10 (mathRound (|A.nearest x| * 100)).toNat = cents at *
    have padded : ∀ c ∈ List.replicate (3 - cents.length) '0' ++ cents, c.isDigit = true := by
      intro c member
      rcases List.mem_append.mp member with zero | digit
      · rw [List.eq_of_mem_replicate zero]
        rfl
      · exact digits c digit
    have long : 2 < (List.replicate (3 - cents.length) '0' ++ cents).length := by
      rw [List.length_append, List.length_replicate]
      omega
    have hundredth : (10 : ℚ) ^ 2 = 100 := by norm_num
    rw [String.toList_ofList, readDecimal_places _ padded long, Nat.ofDigitChars_append, Nat.ofDigitChars_replicate_zero,
      Nat.mul_zero, number, value, hundredth]
    simp only [decide_eq_true_eq]

/-- In exact arithmetic a number of whole cents is the nearest hundredth. -/
theorem fixed2_wholeCents {x : ℚ} (whole : WholeCents x) : fixed2 .exact x = x := by
  have signed := signed_abs x
  simp only [decide_eq_true_eq] at signed
  unfold fixed2
  split
  · rfl
  · obtain ⟨cents, same⟩ := whole
    have hundred : |(100 : ℚ)| = 100 := abs_of_pos (by norm_num)
    have scaled : |x| * 100 = (|cents| : ℤ) := by
      rw [same, abs_div, hundred, Int.cast_abs]
      ring
    have back : ((|cents| : ℤ) : ℚ) / 100 = |x| := by rw [← scaled]; ring
    rw [Arithmetic.exact_nearest, scaled, mathRound_intCast, back, signed]

end PayBridge
