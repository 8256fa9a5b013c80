import PayBridge.Overview

namespace PayBridge
open Store

/-- The captured and refunded amounts in a currency, added up. -/
def capturedIn (currency : String) (intents : List IntentWithRefunds) : ℚ :=
  ((intents.filter fun found => found.intent.currency = currency &&
    (found.intent.status = .captured || found.intent.status = .refunded)).map fun found => found.intent.amount.toNumber).sum

def succeededRefunds (found : IntentWithRefunds) : List Refund :=
  found.refunds.filter fun refund => refund.status = .succeeded

/-- The refunds of the intents in a currency that have come through, added up. -/
def refundedIn (currency : String) (intents : List IntentWithRefunds) : ℚ :=
  (((intents.filter fun found => found.intent.currency = currency).flatMap succeededRefunds).map fun refund =>
    refund.amount.toNumber).sum

/-- The same intents with the same refunds, all of them in any order. -/
def Reordered (intents other : List IntentWithRefunds) : Prop :=
  ∃ moved : List IntentWithRefunds, moved.Perm intents ∧
    List.Forall₂ (fun left right => left.intent = right.intent ∧ left.refunds.Perm right.refunds) moved other

theorem takings_intents (p : PaymentIntent → Bool) (intents : List IntentWithRefunds) :
    takings p intents = ((intents.map IntentWithRefunds.intent).filter fun intent => p intent && intent.status.isSuccess).map
      fun intent => ⟨intent.currency, intent.amount.toNumber⟩ := by
  rw [List.filter_map, List.map_map]
  rfl

/-- All takings of a currency, as the sum that is meant. -/
theorem sum_takings (currency : String) (intents : List IntentWithRefunds) :
    (amountsIn currency (takings (fun _ => true) intents)).sum = capturedIn currency intents := by
  unfold amountsIn takings capturedIn
  rw [List.filter_map, List.map_map, List.filter_filter]
  rfl

theorem sum_givenBack (currency : String) (intents : List IntentWithRefunds) :
    (amountsIn currency (givenBack intents)).sum = refundedIn currency intents := by
  induction intents with
  | nil => rfl
  | cons found intents ih =>
    have split : givenBack (found :: intents) = found.givenBack ++ givenBack intents := List.flatMap_cons ..
    unfold amountsIn refundedIn at *
    rw [split, List.filter_append, List.map_append, List.sum_append, ih]
    by_cases same : found.intent.currency = currency
    · have own : found.givenBack.filter (fun entry => entry.currency = currency) = found.givenBack := by
        refine List.filter_eq_self.mpr fun entry member => ?_
        obtain ⟨refund, _, rfl⟩ := List.mem_map.mp member
        simpa using same
      rw [own, List.filter_cons_of_pos (by simpa using same), List.flatMap_cons, List.map_append, List.sum_append,
        IntentWithRefunds.givenBack, List.map_map]
      rfl
    · have none : found.givenBack.filter (fun entry => entry.currency = currency) = [] := by
        refine List.filter_eq_nil_iff.mpr fun entry member => ?_
        obtain ⟨refund, _, rfl⟩ := List.mem_map.mp member
        simpa using same
      rw [none, List.filter_cons_of_neg (by simpa using same), List.map_nil, List.sum_nil, zero_add]

/-- The takings by gateway add up to all takings. -/
theorem sum_gateway_takings (currency : String) (intents : List IntentWithRefunds) :
    ∑ gateway, (amountsIn currency (takings (fun intent => intent.gateway = gateway) intents)).sum =
      (amountsIn currency (takings (fun _ => true) intents)).sum := by
  induction intents with
  | nil => exact Finset.sum_const_zero
  | cons found intents ih =>
    have cons : ∀ p : PaymentIntent → Bool, (amountsIn currency (takings p (found :: intents))).sum =
        (if p found.intent && found.intent.status.isSuccess && found.intent.currency = currency then
          found.intent.amount.toNumber else 0) + (amountsIn currency (takings p intents)).sum := by
      intro p
      rw [takings_cons]
      by_cases kept : p found.intent && found.intent.status.isSuccess
      · by_cases same : found.intent.currency = currency
        · have taken : decide (found.taken.currency = currency) = true := decide_eq_true same
          simp only [kept, same, amountsIn, if_true, List.filter_cons, taken, List.map_cons, List.sum_cons, decide_true,
            Bool.and_self]
          rfl
        · have other : decide (found.taken.currency = currency) = false := decide_eq_false same
          simp only [kept, same, amountsIn, if_true, List.filter_cons, other, Bool.false_eq_true, if_false, decide_false,
            Bool.and_false, zero_add]
      · simp only [kept, Bool.false_eq_true, if_false, Bool.false_and, zero_add]
    simp only [cons, Finset.sum_add_distrib, ih]
    simp [Finset.sum_ite_eq, Bool.and_eq_true, ite_and]

theorem amountsOf_perm {entries other : List CurrencyAmount} (whole : ∀ entry ∈ entries, WholeCents entry.amount)
    (same : other.Perm entries) : (amountsOf other).rows.Perm (amountsOf entries).rows := by
  refine Table.perm_of_find fun currency => ?_
  have amounts : (amountsIn currency other).Perm (amountsIn currency entries) := (same.filter _).map _
  rw [amountsOf_find entries whole, amountsOf_find other fun entry member => whole entry (same.mem_iff.mp member),
    amounts.sum_eq]
  have absent : amountsIn currency other = [] ↔ amountsIn currency entries = [] := by
    rw [← List.length_eq_zero_iff, amounts.length_eq, List.length_eq_zero_iff]
  simp only [absent]

theorem Reordered.intents {intents other : List IntentWithRefunds} (same : Reordered intents other) :
    (other.map IntentWithRefunds.intent).Perm (intents.map IntentWithRefunds.intent) := by
  obtain ⟨moved, perm, rows⟩ := same
  have kept : moved.map IntentWithRefunds.intent = other.map IntentWithRefunds.intent := by
    clear perm
    induction rows with
    | nil => rfl
    | cons head _ ih => rw [List.map_cons, List.map_cons, head.1, ih]
  rw [← kept]
  exact perm.map _

theorem Reordered.givenBack {intents other : List IntentWithRefunds} (same : Reordered intents other) :
    (givenBack other).Perm (givenBack intents) := by
  obtain ⟨moved, perm, rows⟩ := same
  have kept : (PayBridge.givenBack moved).Perm (PayBridge.givenBack other) := by
    clear perm
    induction rows with
    | nil => exact List.Perm.refl _
    | @cons left right _ _ head _ ih =>
      have refunds := (head.2.filter fun refund => refund.status = .succeeded).map fun refund =>
        CurrencyAmount.mk right.intent.currency refund.amount.toNumber
      simp only [PayBridge.givenBack, List.flatMap_cons, IntentWithRefunds.givenBack, head.1] at ih ⊢
      exact refunds.append ih
  exact kept.symm.trans (perm.flatMap_right _)

theorem Reordered.takings {intents other : List IntentWithRefunds} (same : Reordered intents other)
    (p : PaymentIntent → Bool) : (takings p other).Perm (takings p intents) := by
  rw [takings_intents, takings_intents]
  exact (same.intents.filter _).map _

theorem Reordered.number {intents other : List IntentWithRefunds} (same : Reordered intents other)
    (p : PaymentIntent → Bool) : numberOf p other = numberOf p intents := by
  have mapped : ∀ l : List IntentWithRefunds, numberOf p l = (l.map IntentWithRefunds.intent).countP p := fun l =>
    (List.countP_map ..).symm
  rw [mapped, mapped, same.intents.countP_eq]

theorem overviewOf_volume_perm {intents other : List IntentWithRefunds} (same : Reordered intents other) :
    (overviewOf other).volumeByCurrency.Perm (overviewOf intents).volumeByCurrency := by
  rw [overviewOf_volume, overviewOf_volume]
  refine Table.perm_of_find fun currency => ?_
  have left := overviewOf_volume_find other currency
  have right := overviewOf_volume_find intents currency
  have sums : (amountsIn currency (takings (fun _ => true) other)).Perm (amountsIn currency (takings (fun _ => true) intents)) :=
    ((same.takings _).filter _).map _
  rw [overviewOf_volume, same.number, sums.sum_eq] at left
  rw [overviewOf_volume] at right
  exact left.trans right.symm

/-- The entries of the volumes are the currencies that some intent has. -/
theorem mem_volumeByCurrency {intents : List IntentWithRefunds} {volume : CurrencyVolume} :
    volume ∈ (overviewOf intents).volumeByCurrency ↔
      numberOf (fun intent => intent.currency = volume.currency) intents ≠ 0 ∧
        volume.totalAmount = capturedIn volume.currency intents ∧
        volume.count = numberOf (fun intent => intent.currency = volume.currency) intents := by
  have entry : volume ∈ (overviewOf intents).volumeByCurrency ↔
      (overviewOf intents).volumeByCurrency.find? (fun other => other.currency = volume.currency) = some volume := by
    rw [overviewOf_volume]
    exact (Table.find_some.trans (and_iff_left rfl)).symm
  rw [entry, overviewOf_volume_find, sum_takings]
  by_cases none : numberOf (fun intent => intent.currency = volume.currency) intents = 0
  · rw [if_pos none]
    simp [none]
  · rw [if_neg none, Option.some.injEq]
    constructor
    · intro same
      exact ⟨none, (congrArg CurrencyVolume.totalAmount same).symm, (congrArg CurrencyVolume.count same).symm⟩
    · rintro ⟨_, total, count⟩
      rw [← total, ← count]

theorem numberOf_ne_zero {p : PaymentIntent → Bool} {intents : List IntentWithRefunds} :
    numberOf p intents ≠ 0 ↔ ∃ found ∈ intents, p found.intent := by
  rw [numberOf, ← Nat.pos_iff_ne_zero, List.countP_pos_iff]

/-- The money of an overview, in exact numbers: one entry for each currency
with the sum of its captured and refunded amounts, which is also what the
gateways have of it together; and the refunds that have come through, number and
sums. The order of the intents and of their refunds does not matter. -/
theorem overviewOf_volumes (intents : List IntentWithRefunds) :
    ((overviewOf intents).volumeByCurrency.map CurrencyVolume.currency).Nodup ∧
      (∀ currency, currency ∈ (overviewOf intents).volumeByCurrency.map CurrencyVolume.currency ↔
        ∃ found ∈ intents, found.intent.currency = currency) ∧
      (∀ volume ∈ (overviewOf intents).volumeByCurrency, volume.totalAmount = capturedIn volume.currency intents) ∧
      (∀ currency, ∑ gateway, amountIn ((overviewOf intents).gatewayBreakdown gateway).totalVolume currency =
        capturedIn currency intents) ∧
      (overviewOf intents).refunds.totalRefunds = (intents.flatMap succeededRefunds).length ∧
      (∀ currency, amountIn (overviewOf intents).refunds.totalRefundAmount currency = refundedIn currency intents) ∧
      ∀ other, Reordered intents other →
        (overviewOf other).volumeByCurrency.Perm (overviewOf intents).volumeByCurrency ∧
        (∀ gateway, ((overviewOf other).gatewayBreakdown gateway).totalVolume.rows.Perm
          ((overviewOf intents).gatewayBreakdown gateway).totalVolume.rows) ∧
        (overviewOf other).refunds.totalRefunds = (overviewOf intents).refunds.totalRefunds ∧
        (overviewOf other).refunds.totalRefundAmount.rows.Perm (overviewOf intents).refunds.totalRefundAmount.rows := by
  have distinct : ((overviewOf intents).volumeByCurrency.map CurrencyVolume.currency).Nodup := by
    rw [overviewOf_volume]
    exact (volumesInto Table.empty intents).distinct
  refine ⟨distinct, fun currency => ?_, fun volume member => (mem_volumeByCurrency.mp member).2.1, fun currency => ?_, ?_,
    fun currency => ?_, fun other same => ⟨overviewOf_volume_perm same, fun gateway => ?_, ?_, ?_⟩⟩
  · have present : numberOf (fun intent => intent.currency = currency) intents ≠ 0 ↔
        ∃ found ∈ intents, found.intent.currency = currency := by
      rw [numberOf_ne_zero]
      simp only [decide_eq_true_eq]
    rw [← present, List.mem_map]
    constructor
    · rintro ⟨volume, member, rfl⟩
      exact (mem_volumeByCurrency.mp member).1
    · intro some
      have entry : ⟨currency, capturedIn currency intents, numberOf (fun intent => intent.currency = currency) intents⟩ ∈
          (overviewOf intents).volumeByCurrency := mem_volumeByCurrency.mpr ⟨some, rfl, rfl⟩
      exact ⟨_, entry, rfl⟩
  · have gateways : ∀ gateway, amountIn ((overviewOf intents).gatewayBreakdown gateway).totalVolume currency =
        (amountsIn currency (takings (fun intent => intent.gateway = gateway) intents)).sum := by
      intro gateway
      rw [overviewOf_gateway]
      exact amountIn_amountsOf _ (takings_wholeCents _ intents) currency
    rw [Finset.sum_congr rfl fun gateway _ => gateways gateway, sum_gateway_takings, sum_takings]
  · rw [overviewOf_refunds, PayBridge.givenBack, List.length_flatMap, List.length_flatMap]
    refine congrArg List.sum (List.map_congr_left fun found _ => ?_)
    exact List.length_map _
  · rw [overviewOf_refunds, amountIn_amountsOf _ (givenBack_wholeCents intents), sum_givenBack]
  · rw [overviewOf_gateway, overviewOf_gateway]
    exact amountsOf_perm (takings_wholeCents _ intents) (same.takings _)
  · rw [overviewOf_refunds, overviewOf_refunds]
    exact same.givenBack.length_eq
  · rw [overviewOf_refunds, overviewOf_refunds]
    exact amountsOf_perm (givenBack_wholeCents intents) same.givenBack

end PayBridge
