import Mathlib.Algebra.BigOperators.Ring.Finset
import Mathlib.Data.Fintype.Basic
import PayBridge.Analytics
import PayBridge.Store.Grouping

namespace PayBridge
open Store

instance : Fintype GatewayProvider := ⟨{.paymob, .fawry, .stripe}, by intro gateway; cases gateway <;> decide⟩

instance : Fintype PaymentStatus :=
  ⟨{.pending, .authorized, .captured, .failed, .refunded}, by intro status; cases status <;> decide⟩

/-- Amounts added to those of a table, each sum rounded to cents. -/
def amountsInto (amounts : Table CurrencyAmount.currency) (entries : List CurrencyAmount) : Table CurrencyAmount.currency :=
  entries.foldl (fun amounts entry => addAmount amounts entry.currency entry.amount) amounts

abbrev amountsOf (entries : List CurrencyAmount) : Table CurrencyAmount.currency := amountsInto Table.empty entries

/-- The amount under a currency, zero if there is none. -/
def amountIn (amounts : Table CurrencyAmount.currency) (currency : String) : ℚ :=
  ((amounts.find currency).map CurrencyAmount.amount).getD 0

def amountsIn (currency : String) (entries : List CurrencyAmount) : List ℚ :=
  (entries.filter fun entry => entry.currency = currency).map CurrencyAmount.amount

def IntentWithRefunds.taken (found : IntentWithRefunds) : CurrencyAmount :=
  ⟨found.intent.currency, found.intent.amount.toNumber⟩

/-- The refunds that have come through. -/
def IntentWithRefunds.givenBack (found : IntentWithRefunds) : List CurrencyAmount :=
  (found.refunds.filter fun refund => refund.status = .succeeded).map fun refund =>
    ⟨found.intent.currency, refund.amount.toNumber⟩

/-- How many of the intents `p` holds of. -/
def numberOf (p : PaymentIntent → Bool) (intents : List IntentWithRefunds) : Nat := intents.countP fun found => p found.intent

/-- The successful intents that `p` holds of, as amounts. -/
def takings (p : PaymentIntent → Bool) (intents : List IntentWithRefunds) : List CurrencyAmount :=
  (intents.filter fun found => p found.intent && found.intent.status.isSuccess).map IntentWithRefunds.taken

def givenBack (intents : List IntentWithRefunds) : List CurrencyAmount := intents.flatMap IntentWithRefunds.givenBack

/-- Whole cents are added up to the cent. -/
theorem add_amounts (entries : List CurrencyAmount) (whole : ∀ entry ∈ entries, WholeCents entry.amount)
    (sum : CurrencyAmount) (known : WholeCents sum.amount) :
    (entries.foldl (fun sum entry => CurrencyAmount.add entry.amount sum) sum) =
      ⟨sum.currency, sum.amount + (entries.map CurrencyAmount.amount).sum⟩ := by
  induction entries generalizing sum with
  | nil => rw [List.map_nil, List.sum_nil, add_zero]; rfl
  | cons entry entries ih =>
    have exact : WholeCents (sum.amount + entry.amount) := known.add (whole entry List.mem_cons_self)
    have added : CurrencyAmount.add entry.amount sum = ⟨sum.currency, sum.amount + entry.amount⟩ := by
      rw [CurrencyAmount.add, roundCents_wholeCents exact]
    rw [List.foldl_cons, added, ih (fun other member => whole other (List.mem_cons_of_mem _ member)) _ exact,
      List.map_cons, List.sum_cons, add_assoc]

theorem amountsInto_grouped (amounts : Table CurrencyAmount.currency) (entries : List CurrencyAmount) :
    amountsInto amounts entries = Table.groupInto CurrencyAmount.currency (fun currency => ⟨currency, 0⟩)
      (fun entry => CurrencyAmount.add entry.amount) (fun entry => CurrencyAmount.add_currency entry.amount) amounts entries :=
  rfl

theorem amountsOf_find (entries : List CurrencyAmount) (whole : ∀ entry ∈ entries, WholeCents entry.amount)
    (currency : String) :
    (amountsOf entries).find currency =
      if amountsIn currency entries = [] then none else some ⟨currency, (amountsIn currency entries).sum⟩ := by
  unfold amountsOf amountsIn
  rw [amountsInto_grouped, Table.find_groupInto_empty fun _ => rfl]
  simp only [List.map_eq_nil_iff]
  split
  · rfl
  · rw [add_amounts _ (fun entry member => whole entry (List.mem_filter.mp member).1) _ WholeCents.zero, zero_add]

theorem amountIn_amountsOf (entries : List CurrencyAmount) (whole : ∀ entry ∈ entries, WholeCents entry.amount)
    (currency : String) : amountIn (amountsOf entries) currency = (amountsIn currency entries).sum := by
  unfold amountIn
  rw [amountsOf_find entries whole]
  split
  · next none => rw [none]; rfl
  · rfl

theorem takings_wholeCents (p : PaymentIntent → Bool) (intents : List IntentWithRefunds) :
    ∀ entry ∈ takings p intents, WholeCents entry.amount := by
  intro entry member
  obtain ⟨found, _, rfl⟩ := List.mem_map.mp member
  exact found.intent.amount.toNumber_wholeCents

theorem givenBack_wholeCents (intents : List IntentWithRefunds) : ∀ entry ∈ givenBack intents, WholeCents entry.amount := by
  intro entry member
  obtain ⟨found, _, held⟩ := List.mem_flatMap.mp member
  obtain ⟨refund, _, rfl⟩ := List.mem_map.mp held
  exact refund.amount.toNumber_wholeCents

/-- The volumes by currency, as one grouping of the intents. -/
def volumesInto (volumes : Table CurrencyVolume.currency) (intents : List IntentWithRefunds) :
    Table CurrencyVolume.currency :=
  Table.groupInto (fun found => found.intent.currency) (fun currency => ⟨currency, 0, 0⟩)
    (fun found => CurrencyVolume.add found.intent.status.isSuccess found.intent.amount.toNumber)
    (fun found => CurrencyVolume.add_currency found.intent.status.isSuccess found.intent.amount.toNumber) volumes intents

theorem countRefund_run (currency : String) (refunds : List Refund) (tally : OverviewTally) :
    refunds.foldl (OverviewTally.countRefund currency) tally =
      { tally with
        totalRefundsCount := tally.totalRefundsCount + refunds.countP fun refund => refund.status = .succeeded
        totalRefundAmountMap := amountsInto tally.totalRefundAmountMap
          ((refunds.filter fun refund => refund.status = .succeeded).map fun refund => ⟨currency, refund.amount.toNumber⟩) } := by
  induction refunds generalizing tally with
  | nil => rfl
  | cons refund refunds ih =>
    rw [List.foldl_cons, ih]
    by_cases succeeded : refund.status = .succeeded
    · have counted : tally.countRefund currency refund =
          { tally with
            totalRefundsCount := tally.totalRefundsCount + 1
            totalRefundAmountMap := addAmount tally.totalRefundAmountMap currency refund.amount.toNumber } := if_pos succeeded
      rw [counted, List.countP_cons_of_pos (by simpa using succeeded), List.filter_cons_of_pos (by simpa using succeeded)]
      simp only [List.map_cons, amountsInto, List.foldl_cons, OverviewTally.mk.injEq, true_and, and_true]
      omega
    · have passed : tally.countRefund currency refund = tally := if_neg succeeded
      rw [passed, List.countP_cons_of_neg (by simpa using succeeded), List.filter_cons_of_neg (by simpa using succeeded)]

/-- The loop of `getOverview`, tally by tally. -/
theorem count_run (intents : List IntentWithRefunds) (tally : OverviewTally) :
    intents.foldl OverviewTally.count tally =
      { successfulTransactions := tally.successfulTransactions + numberOf (fun intent => intent.status.isSuccess) intents
        failedTransactions := tally.failedTransactions + numberOf (fun intent => intent.status.isFailed) intents
        pendingTransactions := tally.pendingTransactions + numberOf (fun intent => intent.status.isPending) intents
        volumeByCurrencyMap := volumesInto tally.volumeByCurrencyMap intents
        statusBreakdown := fun status => tally.statusBreakdown status + numberOf (fun intent => intent.status = status) intents
        gatewayBreakdown := fun gateway =>
          (intents.filter fun found => found.intent.gateway = gateway).foldl (fun gw found => gw.add found.intent)
            (tally.gatewayBreakdown gateway)
        totalRefundsCount := tally.totalRefundsCount + (givenBack intents).length
        totalRefundAmountMap := amountsInto tally.totalRefundAmountMap (givenBack intents) } := by
  induction intents generalizing tally with
  | nil => rfl
  | cons found intents ih =>
    have refunds : (givenBack (found :: intents)).length =
        (found.refunds.countP fun refund => refund.status = .succeeded) + (givenBack intents).length := by
      rw [givenBack, List.flatMap_cons, List.length_append, IntentWithRefunds.givenBack, List.length_map,
        List.countP_eq_length_filter, givenBack]
    have amounts : amountsInto tally.totalRefundAmountMap (givenBack (found :: intents)) =
        amountsInto (amountsInto tally.totalRefundAmountMap found.givenBack) (givenBack intents) := by
      rw [givenBack, List.flatMap_cons, amountsInto, List.foldl_append]
      rfl
    rw [List.foldl_cons, ih, refunds, amounts]
    simp only [OverviewTally.count, countRefund_run, OverviewTally.mk.injEq]
    refine ⟨?_, ?_, ?_, rfl, ?_, ?_, (add_assoc _ _ _), rfl⟩
    · simp only [numberOf, List.countP_cons]
      omega
    · simp only [numberOf, List.countP_cons]
      omega
    · simp only [numberOf, List.countP_cons]
      omega
    · funext status
      by_cases same : found.intent.status = status
      · subst same
        simp only [Function.update_self, numberOf, List.countP_cons, decide_true, if_true]
        omega
      · rw [Function.update_of_ne fun other => same other.symm]
        simp only [numberOf, List.countP_cons, same, decide_false, Bool.false_eq_true, if_false, add_zero]
    · funext gateway
      by_cases same : found.intent.gateway = gateway
      · subst same
        rw [List.filter_cons_of_pos (by simp), Function.update_self, List.foldl_cons]
      · rw [List.filter_cons_of_neg (by simpa using same), Function.update_of_ne fun other => same other.symm]

theorem takings_cons (p : PaymentIntent → Bool) (found : IntentWithRefunds) (intents : List IntentWithRefunds) :
    takings p (found :: intents) =
      if p found.intent && found.intent.status.isSuccess then found.taken :: takings p intents else takings p intents := by
  unfold takings
  rw [List.filter_cons]
  split <;> rfl

/-- The intents of one gateway, tally by tally. -/
theorem gateway_run (intents : List IntentWithRefunds) (gw : GatewayMetrics) :
    intents.foldl (fun gw found => gw.add found.intent) gw =
      { gw with
        totalTransactions := gw.totalTransactions + intents.length
        totalVolume := amountsInto gw.totalVolume (takings (fun _ => true) intents)
        successfulTransactions := gw.successfulTransactions + numberOf (fun intent => intent.status.isSuccess) intents
        failedTransactions := gw.failedTransactions + numberOf (fun intent => intent.status.isFailed) intents
        pendingTransactions := gw.pendingTransactions + numberOf (fun intent => intent.status.isPending) intents } := by
  induction intents generalizing gw with
  | nil => rfl
  | cons found intents ih =>
    rw [List.foldl_cons, ih]
    simp only [GatewayMetrics.add, GatewayMetrics.mk.injEq, numberOf, List.countP_cons, List.length_cons, true_and, and_true]
    refine ⟨by omega, ?_, by omega, by omega, by omega⟩
    rw [takings_cons, Bool.true_and]
    by_cases success : found.intent.status.isSuccess
    · rw [if_pos success, if_pos success, amountsInto, amountsInto, List.foldl_cons]
      rfl
    · rw [if_neg success, if_neg success]

/-- The gateways of an overview, gateway by gateway. -/
theorem overviewOf_gateway (intents : List IntentWithRefunds) (gateway : GatewayProvider) :
    (overviewOf intents).gatewayBreakdown gateway =
      GatewayMetrics.rated {
        gateway
        totalTransactions := numberOf (fun intent => intent.gateway = gateway) intents
        totalVolume := amountsOf (takings (fun intent => intent.gateway = gateway) intents)
        successfulTransactions := numberOf (fun intent => intent.gateway = gateway && intent.status.isSuccess) intents
        failedTransactions := numberOf (fun intent => intent.gateway = gateway && intent.status.isFailed) intents
        pendingTransactions := numberOf (fun intent => intent.gateway = gateway && intent.status.isPending) intents
        successRate := 0
        failureRate := 0 } := by
  have own : takings (fun _ => true) (intents.filter fun found => found.intent.gateway = gateway) =
      takings (fun intent => intent.gateway = gateway) intents := by
    simp only [takings, List.filter_filter, Bool.true_and, Bool.and_comm]
  have counted : ∀ p : PaymentIntent → Bool, numberOf p (intents.filter fun found => found.intent.gateway = gateway) =
      numberOf (fun intent => intent.gateway = gateway && p intent) intents := by
    intro p
    simp only [numberOf, List.countP_filter, Bool.and_comm]
  have size : (intents.filter fun found => found.intent.gateway = gateway).length =
      numberOf (fun intent => intent.gateway = gateway) intents := List.countP_eq_length_filter.symm
  simp only [overviewOf, count_run, gateway_run, OverviewTally.initial, initialGatewayMetric, own, counted, size, zero_add]

theorem overviewOf_volume (intents : List IntentWithRefunds) :
    (overviewOf intents).volumeByCurrency = (volumesInto Table.empty intents).rows := by
  simp only [overviewOf, count_run, OverviewTally.initial]

theorem overviewOf_refunds (intents : List IntentWithRefunds) :
    (overviewOf intents).refunds = ⟨(givenBack intents).length, amountsOf (givenBack intents)⟩ := by
  simp only [overviewOf, count_run, OverviewTally.initial, zero_add]

theorem overviewOf_status (intents : List IntentWithRefunds) (status : PaymentStatus) :
    (overviewOf intents).statusBreakdown status = numberOf (fun intent => intent.status = status) intents := by
  simp only [overviewOf, count_run, OverviewTally.initial, zero_add]

theorem overviewOf_summary (intents : List IntentWithRefunds) :
    (overviewOf intents).summary = {
      totalTransactions := intents.length
      successfulTransactions := numberOf (fun intent => intent.status.isSuccess) intents
      failedTransactions := numberOf (fun intent => intent.status.isFailed) intents
      pendingTransactions := numberOf (fun intent => intent.status.isPending) intents
      overallSuccessRate := rate (numberOf (fun intent => intent.status.isSuccess) intents)
        (numberOf (fun intent => intent.status.isSuccess) intents + numberOf (fun intent => intent.status.isFailed) intents)
      overallConversionRate := rate (numberOf (fun intent => intent.status.isSuccess) intents) intents.length } := by
  simp only [overviewOf, count_run, OverviewTally.initial, zero_add]

/-- A predicate that two others share out is counted by both. -/
theorem numberOf_split {p q r : PaymentIntent → Bool}
    (shared : ∀ intent, (if p intent then 1 else 0) = (if q intent then 1 else 0) + if r intent then 1 else 0)
    (intents : List IntentWithRefunds) : numberOf p intents = numberOf q intents + numberOf r intents := by
  induction intents with
  | nil => rfl
  | cons found intents ih =>
    have one := shared found.intent
    simp only [numberOf, List.countP_cons] at ih ⊢
    omega

/-- The counts by a field add up to the count without it. -/
theorem sum_numberOf {ι : Type} [Fintype ι] [DecidableEq ι] (field : PaymentIntent → ι) (p : PaymentIntent → Bool)
    (intents : List IntentWithRefunds) :
    ∑ i, numberOf (fun intent => field intent = i && p intent) intents = numberOf p intents := by
  induction intents with
  | nil => exact Finset.sum_const_zero
  | cons found intents ih =>
    simp only [numberOf, List.countP_cons, Finset.sum_add_distrib] at ih ⊢
    rw [ih, Nat.add_left_cancel_iff]
    cases held : p found.intent with
    | true => simp
    | false => simp

theorem numberOf_true (intents : List IntentWithRefunds) : numberOf (fun _ => true) intents = intents.length :=
  congrFun List.countP_true intents

/-- Every intent is successful, failed or pending. -/
theorem numberOf_outcomes (p : PaymentIntent → Bool) (intents : List IntentWithRefunds) :
    numberOf p intents = numberOf (fun intent => p intent && intent.status.isSuccess) intents +
      numberOf (fun intent => p intent && intent.status.isFailed) intents +
      numberOf (fun intent => p intent && intent.status.isPending) intents := by
  have rest := numberOf_split (p := p) (q := fun intent => p intent && !intent.status.isPending)
    (r := fun intent => p intent && intent.status.isPending) (fun intent => by
      cases p intent <;> cases intent.status.isPending <;> rfl) intents
  have ended := numberOf_split (p := fun intent => p intent && !intent.status.isPending)
    (q := fun intent => p intent && intent.status.isSuccess) (r := fun intent => p intent && intent.status.isFailed)
    (fun intent => by cases p intent <;> cases intent.status <;> rfl) intents
  omega

/-- What an overview counts, with zero for a currency that it does not have. -/
structure OverviewCounts where
  totalTransactions : Nat
  successfulTransactions : Nat
  failedTransactions : Nat
  pendingTransactions : Nat
  status : PaymentStatus → Nat
  gatewayTotal : GatewayProvider → Nat
  gatewaySuccessful : GatewayProvider → Nat
  gatewayFailed : GatewayProvider → Nat
  gatewayPending : GatewayProvider → Nat
  currency : String → Nat
  totalRefunds : Nat

def OverviewCounts.add (left right : OverviewCounts) : OverviewCounts where
  totalTransactions := left.totalTransactions + right.totalTransactions
  successfulTransactions := left.successfulTransactions + right.successfulTransactions
  failedTransactions := left.failedTransactions + right.failedTransactions
  pendingTransactions := left.pendingTransactions + right.pendingTransactions
  status status := left.status status + right.status status
  gatewayTotal gateway := left.gatewayTotal gateway + right.gatewayTotal gateway
  gatewaySuccessful gateway := left.gatewaySuccessful gateway + right.gatewaySuccessful gateway
  gatewayFailed gateway := left.gatewayFailed gateway + right.gatewayFailed gateway
  gatewayPending gateway := left.gatewayPending gateway + right.gatewayPending gateway
  currency currency := left.currency currency + right.currency currency
  totalRefunds := left.totalRefunds + right.totalRefunds

def countIn (volumes : List CurrencyVolume) (currency : String) : Nat :=
  ((volumes.find? fun volume => volume.currency = currency).map CurrencyVolume.count).getD 0

def AnalyticsOverviewResponse.counts (overview : AnalyticsOverviewResponse) : OverviewCounts where
  totalTransactions := overview.summary.totalTransactions
  successfulTransactions := overview.summary.successfulTransactions
  failedTransactions := overview.summary.failedTransactions
  pendingTransactions := overview.summary.pendingTransactions
  status := overview.statusBreakdown
  gatewayTotal gateway := (overview.gatewayBreakdown gateway).totalTransactions
  gatewaySuccessful gateway := (overview.gatewayBreakdown gateway).successfulTransactions
  gatewayFailed gateway := (overview.gatewayBreakdown gateway).failedTransactions
  gatewayPending gateway := (overview.gatewayBreakdown gateway).pendingTransactions
  currency := countIn overview.volumeByCurrency
  totalRefunds := overview.refunds.totalRefunds

/-- The counts of an overview agree with each other. -/
structure AnalyticsOverviewResponse.Consistent (overview : AnalyticsOverviewResponse) : Prop where
  outcomes : overview.summary.totalTransactions = overview.summary.successfulTransactions +
    overview.summary.failedTransactions + overview.summary.pendingTransactions
  statuses : ∑ status, overview.statusBreakdown status = overview.summary.totalTransactions
  gateways : ∑ gateway, (overview.gatewayBreakdown gateway).totalTransactions = overview.summary.totalTransactions
  currencies : (overview.volumeByCurrency.map CurrencyVolume.count).sum = overview.summary.totalTransactions
  gateway : ∀ gateway, (overview.gatewayBreakdown gateway).successfulTransactions +
    (overview.gatewayBreakdown gateway).failedTransactions + (overview.gatewayBreakdown gateway).pendingTransactions =
      (overview.gatewayBreakdown gateway).totalTransactions
  successful : ∑ gateway, (overview.gatewayBreakdown gateway).successfulTransactions = overview.summary.successfulTransactions
  failed : ∑ gateway, (overview.gatewayBreakdown gateway).failedTransactions = overview.summary.failedTransactions
  pending : ∑ gateway, (overview.gatewayBreakdown gateway).pendingTransactions = overview.summary.pendingTransactions
  paid : overview.statusBreakdown .captured + overview.statusBreakdown .refunded = overview.summary.successfulTransactions
  waiting : overview.statusBreakdown .pending + overview.statusBreakdown .authorized = overview.summary.pendingTransactions

theorem add_volumes (intents : List IntentWithRefunds) (volume : CurrencyVolume) (known : WholeCents volume.totalAmount) :
    intents.foldl (fun volume found => CurrencyVolume.add found.intent.status.isSuccess found.intent.amount.toNumber volume)
        volume =
      ⟨volume.currency, volume.totalAmount + ((takings (fun _ => true) intents).map CurrencyAmount.amount).sum,
        volume.count + intents.length⟩ := by
  induction intents generalizing volume with
  | nil => simp [takings]
  | cons found intents ih =>
    have counted : volume.count + 1 + intents.length = volume.count + (found :: intents).length := by
      rw [List.length_cons]
      omega
    rw [takings_cons, Bool.true_and, List.foldl_cons, CurrencyVolume.add]
    by_cases success : found.intent.status.isSuccess
    · have exact := known.add found.intent.amount.toNumber_wholeCents
      rw [if_pos success, if_pos success, roundCents_wholeCents exact, ih _ exact, List.map_cons, List.sum_cons, counted,
        add_assoc]
      rfl
    · rw [if_neg success, if_neg success, ih ⟨volume.currency, volume.totalAmount, volume.count + 1⟩ known, counted]

theorem volumesInto_find (intents : List IntentWithRefunds) (currency : String) :
    (volumesInto Table.empty intents).find currency =
      if intents.filter (fun found => found.intent.currency = currency) = [] then none
      else some ((intents.filter fun found => found.intent.currency = currency).foldl
        (fun volume found => CurrencyVolume.add found.intent.status.isSuccess found.intent.amount.toNumber volume)
          ⟨currency, 0, 0⟩) :=
  Table.find_groupInto_empty (fun _ => rfl) intents currency

/-- The entry of a currency: there if an intent has it, with the sum and the number of its intents. -/
theorem overviewOf_volume_find (intents : List IntentWithRefunds) (currency : String) :
    ((overviewOf intents).volumeByCurrency.find? fun volume => volume.currency = currency) =
      if numberOf (fun intent => intent.currency = currency) intents = 0 then none
      else some ⟨currency, (amountsIn currency (takings (fun _ => true) intents)).sum,
        numberOf (fun intent => intent.currency = currency) intents⟩ := by
  have absent : intents.filter (fun found => found.intent.currency = currency) = [] ↔
      numberOf (fun intent => intent.currency = currency) intents = 0 := by
    rw [numberOf, List.countP_eq_length_filter, List.length_eq_zero_iff]
  have size : (intents.filter fun found => found.intent.currency = currency).length =
      numberOf (fun intent => intent.currency = currency) intents := List.countP_eq_length_filter.symm
  have taken : takings (fun _ => true) (intents.filter fun found => found.intent.currency = currency) =
      (takings (fun _ => true) intents).filter fun entry => entry.currency = currency := by
    simp only [takings, Bool.true_and, List.filter_filter, List.filter_map]
    exact congrArg _ (List.filter_congr fun found _ => Bool.and_comm _ _)
  rw [overviewOf_volume]
  refine (volumesInto_find intents currency).trans ?_
  rw [add_volumes _ _ WholeCents.zero, taken, size]
  simp only [absent, zero_add, amountsIn]

/-- What an overview of a list counts. -/
def countsOf (intents : List IntentWithRefunds) : OverviewCounts where
  totalTransactions := intents.length
  successfulTransactions := numberOf (fun intent => intent.status.isSuccess) intents
  failedTransactions := numberOf (fun intent => intent.status.isFailed) intents
  pendingTransactions := numberOf (fun intent => intent.status.isPending) intents
  status status := numberOf (fun intent => intent.status = status) intents
  gatewayTotal gateway := numberOf (fun intent => intent.gateway = gateway) intents
  gatewaySuccessful gateway := numberOf (fun intent => intent.gateway = gateway && intent.status.isSuccess) intents
  gatewayFailed gateway := numberOf (fun intent => intent.gateway = gateway && intent.status.isFailed) intents
  gatewayPending gateway := numberOf (fun intent => intent.gateway = gateway && intent.status.isPending) intents
  currency currency := numberOf (fun intent => intent.currency = currency) intents
  totalRefunds := (givenBack intents).length

theorem overviewOf_countIn (intents : List IntentWithRefunds) (currency : String) :
    countIn (overviewOf intents).volumeByCurrency currency = numberOf (fun intent => intent.currency = currency) intents := by
  unfold countIn
  rw [overviewOf_volume_find]
  split
  · next none => rw [none]; rfl
  · rfl

theorem counts_overviewOf (intents : List IntentWithRefunds) : (overviewOf intents).counts = countsOf intents := by
  simp only [AnalyticsOverviewResponse.counts, countsOf, overviewOf_summary, overviewOf_gateway, overviewOf_refunds,
    GatewayMetrics.rated, OverviewCounts.mk.injEq, true_and, and_true]
  exact ⟨funext (overviewOf_status intents), funext (overviewOf_countIn intents)⟩

theorem countsOf_append (intents more : List IntentWithRefunds) :
    countsOf (intents ++ more) = (countsOf intents).add (countsOf more) := by
  simp only [countsOf, OverviewCounts.add, numberOf, List.countP_append, List.length_append, givenBack, List.flatMap_append]

theorem countsOf_perm {intents other : List IntentWithRefunds} (same : other.Perm intents) :
    countsOf other = countsOf intents := by
  have number : ∀ p : PaymentIntent → Bool, numberOf p other = numberOf p intents := fun p => same.countP_eq _
  have refunds : (givenBack other).length = (givenBack intents).length := (same.flatMap_right _).length_eq
  simp only [countsOf, number, same.length_eq, refunds]

theorem volumesInto_count (volumes : Table CurrencyVolume.currency) (intents : List IntentWithRefunds) :
    ((volumesInto volumes intents).rows.map CurrencyVolume.count).sum =
      (volumes.rows.map CurrencyVolume.count).sum + intents.length := by
  have size : (intents.map fun _ => 1).sum = intents.length := by simp
  rw [← size]
  exact Table.sum_groupInto (fun _ => rfl) CurrencyVolume.count (fun _ => 1) (fun _ _ _ => rfl) (fun _ => rfl) volumes
    intents

theorem overviewOf_consistent (intents : List IntentWithRefunds) : (overviewOf intents).Consistent where
  outcomes := by
    have outcomes := numberOf_outcomes (fun _ => true) intents
    simp only [Bool.true_and, numberOf_true] at outcomes
    rw [overviewOf_summary]
    exact outcomes
  statuses := by
    have statuses := sum_numberOf PaymentIntent.status (fun _ => true) intents
    simp only [Bool.and_true, numberOf_true] at statuses
    simp only [overviewOf_summary, overviewOf_status, statuses]
  gateways := by
    have gateways := sum_numberOf PaymentIntent.gateway (fun _ => true) intents
    simp only [Bool.and_true, numberOf_true] at gateways
    simp only [overviewOf_summary, overviewOf_gateway, GatewayMetrics.rated, gateways]
  currencies := by
    rw [overviewOf_volume, volumesInto_count, overviewOf_summary]
    exact zero_add _
  gateway gateway := by
    have outcomes := numberOf_outcomes (fun intent => intent.gateway = gateway) intents
    simp only [overviewOf_gateway, GatewayMetrics.rated]
    omega
  successful := by
    simp only [overviewOf_summary, overviewOf_gateway, GatewayMetrics.rated]
    exact sum_numberOf PaymentIntent.gateway (fun intent => intent.status.isSuccess) intents
  failed := by
    simp only [overviewOf_summary, overviewOf_gateway, GatewayMetrics.rated]
    exact sum_numberOf PaymentIntent.gateway (fun intent => intent.status.isFailed) intents
  pending := by
    simp only [overviewOf_summary, overviewOf_gateway, GatewayMetrics.rated]
    exact sum_numberOf PaymentIntent.gateway (fun intent => intent.status.isPending) intents
  paid := by
    simp only [overviewOf_summary, overviewOf_status]
    refine (numberOf_split (fun intent => ?_) intents).symm
    cases intent.status <;> rfl
  waiting := by
    simp only [overviewOf_summary, overviewOf_status]
    refine (numberOf_split (fun intent => ?_) intents).symm
    cases intent.status <;> rfl

/-- The counts of an overview agree with each other, the counts of two lists add
up to those of both, and the order of the intents does not matter. -/
theorem overviewOf_counts (intents : List IntentWithRefunds) :
    (overviewOf intents).Consistent ∧
      (∀ more, (overviewOf (intents ++ more)).counts = (overviewOf intents).counts.add (overviewOf more).counts) ∧
      ∀ other, other.Perm intents → (overviewOf other).counts = (overviewOf intents).counts := by
  refine ⟨overviewOf_consistent intents, fun more => ?_, fun other same => ?_⟩
  · rw [counts_overviewOf, counts_overviewOf, counts_overviewOf, countsOf_append]
  · rw [counts_overviewOf, counts_overviewOf, countsOf_perm same]

end PayBridge
