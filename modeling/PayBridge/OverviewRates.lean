import PayBridge.Overview
import PayBridge.System

namespace PayBridge

/-- A share, in percent, lies half-way between two numbers of two decimals. -/
def HalfWay (share whole : Nat) : Prop := ∃ k : ℕ, share * 20000 = (2 * k + 1) * whole

theorem rate_none (share : Nat) : rate share 0 = 0 := if_neg (Nat.lt_irrefl 0)

theorem rate_some {whole : Nat} (some : 0 < whole) (share : Nat) :
    rate share whole = mathRound ((share : ℚ) / whole * 10000) / 100 := if_pos some

theorem rate_nonneg (share whole : Nat) : 0 ≤ rate share whole := by
  unfold rate
  split
  · have above : ((0 : ℤ) : ℚ) ≤ (share : ℚ) / whole * 10000 := by
      push_cast
      positivity
    have least : (0 : ℚ) ≤ mathRound ((share : ℚ) / whole * 10000) := by exact_mod_cast le_mathRound above
    linarith
  · exact le_refl 0

theorem rate_le_hundred {share whole : Nat} (within : share ≤ whole) : rate share whole ≤ 100 := by
  unfold rate
  split
  · next some =>
    have positive : (0 : ℚ) < whole := by exact_mod_cast some
    have part : (share : ℚ) / whole ≤ 1 := (div_le_one positive).mpr (by exact_mod_cast within)
    have below : (share : ℚ) / whole * 10000 ≤ ((10000 : ℤ) : ℚ) := by
      push_cast
      linarith
    have most : (mathRound ((share : ℚ) / whole * 10000) : ℚ) ≤ 10000 := by exact_mod_cast mathRound_le below
    linarith
  · norm_num

/-- The same share of more is less. -/
theorem rate_antitone {share whole total : Nat} (within : share ≤ whole) (more : whole ≤ total) :
    rate share total ≤ rate share whole := by
  by_cases some : 0 < whole
  · have positive : (0 : ℚ) < whole := by exact_mod_cast some
    have larger : (whole : ℚ) ≤ total := by exact_mod_cast more
    have below : (share : ℚ) / total * 10000 ≤ (share : ℚ) / whole * 10000 := by gcongr
    have rounded : (mathRound ((share : ℚ) / total * 10000) : ℚ) ≤ mathRound ((share : ℚ) / whole * 10000) := by
      exact_mod_cast mathRound_mono below
    rw [rate_some (some.trans_le more), rate_some some]
    linarith
  · have none : share = 0 := by omega
    have zero : rate 0 total = 0 := by
      unfold rate
      split
      · have nothing : ((0 : ℕ) : ℚ) / total * 10000 = ((0 : ℤ) : ℚ) := by
          push_cast
          ring
        rw [nothing, mathRound_intCast]
        norm_num
      · rfl
    rw [none, zero]
    exact rate_nonneg 0 whole

theorem halfWay_iff {share whole : Nat} (some : 0 < whole) :
    HalfWay share whole ↔ ∃ k : ℤ, (share : ℚ) / whole * 10000 = k + 1 / 2 := by
  have positive : (whole : ℚ) ≠ 0 := by
    have := some.ne'
    exact_mod_cast this
  have scaled : ∀ k : ℚ, (share : ℚ) / whole * 10000 = k + 1 / 2 ↔ (share : ℚ) * 20000 = (2 * k + 1) * whole := by
    intro k
    constructor
    · intro half
      field_simp at half
      linarith
    · intro half
      field_simp
      linarith
  constructor
  · rintro ⟨k, half⟩
    refine ⟨k, (scaled _).mpr ?_⟩
    exact_mod_cast half
  · rintro ⟨k, half⟩
    have product := (scaled _).mp half
    have whole_product : (share : ℤ) * 20000 = (2 * k + 1) * whole := by exact_mod_cast product
    have nonneg : 0 ≤ k := by
      by_contra negative
      have below : (2 * k + 1) * (whole : ℤ) < 0 := mul_neg_of_neg_of_pos (by omega) (by exact_mod_cast some)
      omega
    obtain ⟨n, rfl⟩ := Int.eq_ofNat_of_zero_le nonneg
    exact ⟨n, by exact_mod_cast whole_product⟩

/-- Two shares that are all there is add up to a hundred, or to a hundredth
more where both are half-way. -/
theorem rate_sum {share other : Nat} (some : 0 < share + other) :
    (HalfWay share (share + other) → rate share (share + other) + rate other (share + other) = 100 + 1 / 100) ∧
      (¬ HalfWay share (share + other) → rate share (share + other) + rate other (share + other) = 100) := by
  have positive : ((share + other : ℕ) : ℚ) ≠ 0 := by
    have := some.ne'
    exact_mod_cast this
  have rest : (other : ℚ) / (share + other : ℕ) * 10000 = ((10000 : ℤ) : ℚ) - (share : ℚ) / (share + other : ℕ) * 10000 := by
    field_simp
    push_cast
    ring
  rw [halfWay_iff some, rate_some some, rate_some some, rest]
  constructor
  · rintro ⟨k, half⟩
    have sum := mathRound_halfWay half 10000
    have exact : (mathRound ((share : ℚ) / (share + other : ℕ) * 10000) : ℚ) +
        mathRound (((10000 : ℤ) : ℚ) - (share : ℚ) / (share + other : ℕ) * 10000) = 10001 := by exact_mod_cast sum
    linarith
  · intro whole
    have sum := mathRound_complement (fun k half => whole ⟨k, half⟩) 10000
    have exact : (mathRound ((share : ℚ) / (share + other : ℕ) * 10000) : ℚ) +
        mathRound (((10000 : ℤ) : ℚ) - (share : ℚ) / (share + other : ℕ) * 10000) = 10000 := by exact_mod_cast sum
    linarith

/-- The rates of a gateway. -/
structure GatewayMetrics.Rated (gw : GatewayMetrics) : Prop where
  success : 0 ≤ gw.successRate ∧ gw.successRate ≤ 100
  failure : 0 ≤ gw.failureRate ∧ gw.failureRate ≤ 100
  idle : gw.successfulTransactions + gw.failedTransactions = 0 → gw.successRate = 0 ∧ gw.failureRate = 0
  halfWay : HalfWay gw.successfulTransactions (gw.successfulTransactions + gw.failedTransactions) →
    0 < gw.successfulTransactions + gw.failedTransactions → gw.successRate + gw.failureRate = 100 + 1 / 100
  others : ¬ HalfWay gw.successfulTransactions (gw.successfulTransactions + gw.failedTransactions) →
    0 < gw.successfulTransactions + gw.failedTransactions → gw.successRate + gw.failureRate = 100

theorem rated_rates (gw : GatewayMetrics) : gw.rated.Rated where
  success := ⟨rate_nonneg _ _, rate_le_hundred (Nat.le_add_right _ _)⟩
  failure := ⟨rate_nonneg _ _, rate_le_hundred (Nat.le_add_left _ _)⟩
  idle none := by
    have nothing : gw.successfulTransactions + gw.failedTransactions = 0 := none
    simp only [GatewayMetrics.rated, nothing, rate_none, and_self]
  halfWay half some := (rate_sum some).1 half
  others whole some := (rate_sum some).2 whole

/-- All rates lie between zero and a hundred. The two of a gateway add up to a
hundred, except where both are half-way and are both rounded up. -/
theorem overviewOf_rates (intents : List IntentWithRefunds) :
    (∀ gateway, ((overviewOf intents).gatewayBreakdown gateway).Rated) ∧
      0 ≤ (overviewOf intents).summary.overallConversionRate ∧
      (overviewOf intents).summary.overallConversionRate ≤ (overviewOf intents).summary.overallSuccessRate ∧
      (overviewOf intents).summary.overallSuccessRate ≤ 100 := by
  have outcomes := numberOf_outcomes (fun _ => true) intents
  simp only [Bool.true_and, numberOf_true] at outcomes
  refine ⟨fun gateway => ?_, ?_⟩
  · rw [overviewOf_gateway]
    exact rated_rates _
  · rw [overviewOf_summary]
    exact ⟨rate_nonneg _ _, rate_antitone (Nat.le_add_right _ _) (by omega), rate_le_hundred (Nat.le_add_right _ _)⟩

/-- One payment captured and 31 failed, all at Stripe. -/
def oneOfThirtyTwo : List IntentWithRefunds :=
  ⟨sampleIntent .captured, []⟩ :: List.replicate 31 ⟨sampleIntent .failed, []⟩

/-- 3.125 and 96.875 percent are both rounded up. -/
theorem oneOfThirtyTwo_rates :
    0 < ((overviewOf oneOfThirtyTwo).gatewayBreakdown .stripe).successfulTransactions +
        ((overviewOf oneOfThirtyTwo).gatewayBreakdown .stripe).failedTransactions ∧
      ((overviewOf oneOfThirtyTwo).gatewayBreakdown .stripe).successRate = 313 / 100 ∧
      ((overviewOf oneOfThirtyTwo).gatewayBreakdown .stripe).failureRate = 9688 / 100 ∧
      ((overviewOf oneOfThirtyTwo).gatewayBreakdown .stripe).successRate +
        ((overviewOf oneOfThirtyTwo).gatewayBreakdown .stripe).failureRate ≠ 100 := by
  have successful : numberOf (fun intent => intent.gateway = .stripe && intent.status.isSuccess) oneOfThirtyTwo = 1 := by
    decide
  have failed : numberOf (fun intent => intent.gateway = .stripe && intent.status.isFailed) oneOfThirtyTwo = 31 := by
    decide
  have captured : rate 1 (1 + 31) = 313 / 100 := by
    norm_num [rate, mathRound]
  have lost : rate 31 (1 + 31) = 9688 / 100 := by
    norm_num [rate, mathRound]
  simp only [overviewOf_gateway, GatewayMetrics.rated, successful, failed, captured, lost]
  norm_num

end PayBridge
