import PayBridge.MetricsSamples
import PayBridge.System

namespace PayBridge
open Store Await Codec Numeric

/-- What `getOverview` answers over all merchants and without a filter. -/
def fullOverview (readDate : String → JsDate) (env : Nat → AnalyticsOp → Env) (w : World) :
    Except JsError AnalyticsOverviewResponse :=
  (Async.play performAnalytics env (getOverview readDate ⟨.undefined, .undefined, .undefined⟩ none) [] w).value

/-- All intents with their refunds. -/
def Database.allIntents (db : Database) : List IntentWithRefunds :=
  db.intents.rows.map fun intent => ⟨intent, db.refundsOf intent.id⟩

theorem fullOverview_answered (readDate : String → JsDate) {env : Nat → AnalyticsOp → Env}
    (calm : ∀ op, (env 0 op).fails = false) (w : World) :
    fullOverview readDate env w = .ok (overviewOf w.db.allIntents) := by
  have all : w.db.intents.rows.filter (IntentFilter.admits ⟨none, none, none, none⟩) = w.db.intents.rows :=
    List.filter_eq_self.mpr fun _ _ => rfl
  have found : w.db.findMany ⟨none, none, none, none⟩ = .ok w.db.allIntents := by
    rw [Database.findMany, if_neg (by simp), all]
    rfl
  have filter : AnalyticsQueryDto.whereClause readDate ⟨.undefined, .undefined, .undefined⟩ none = ⟨none, none, none, none⟩ :=
    rfl
  rw [fullOverview, getOverview, filter]
  simp [Async.play_bind, performAnalytics, calm, found]

/-- A line that gives a series a value. -/
def Shows (line series : String) (value : ℚ) : Prop :=
  ∃ text : String, line = series ++ text ∧ readDecimal text.toList = some value

/-- A line up to its value. -/
def CountLabels.series (labels : CountLabels) : String := "paybridge_payment_intents_total\x7b" ++ labels.text ++ "\x7d "

def VolumeLabels.series (labels : VolumeLabels) : String := "paybridge_payment_volume_total\x7b" ++ labels.text ++ "\x7d "

/-- Samples with a series each, whose lines give them their values. -/
structure Emitted (counts : Table CountSample.labels) (volumes : Table VolumeSample.labels) : Prop where
  countSeries : Function.Injective CountLabels.series
  volumeSeries : Function.Injective VolumeLabels.series
  counts : ∀ sample ∈ counts.rows, Shows sample.line sample.labels.series sample.count
  volumes : ∀ sample ∈ volumes.rows, Shows (sample.line .exact) sample.labels.series sample.value

/-- Samples and an overview that agree. -/
structure SamplesAgree (counts : Table CountSample.labels) (volumes : Table VolumeSample.labels)
    (overview : AnalyticsOverviewResponse) : Prop where
  volumes : ∀ gateway currency, (volumes.find ⟨gateway, currency⟩).map VolumeSample.value =
    ((overview.gatewayBreakdown gateway).totalVolume.find currency).map CurrencyAmount.amount
  gateways : ∀ gateway, ((counts.rows.filter fun sample => sample.labels.gateway = gateway).map CountSample.count).sum =
    (overview.gatewayBreakdown gateway).totalTransactions
  statuses : ∀ status, ((counts.rows.filter fun sample => sample.labels.status = status).map CountSample.count).sum =
    overview.statusBreakdown status
  currencies : ∀ currency, ((counts.rows.filter fun sample => sample.labels.currency = currency).map CountSample.count).sum =
    countIn overview.volumeByCurrency currency

/-- The captured and refunded amounts of a gateway in a currency, from either list. -/
theorem own_amounts (db : Database) (gateway : GatewayProvider) (currency : String) :
    (((db.intents.rows.map PaymentIntent.selected).filter fun intent =>
        intent.status.isSuccess && intent.volumeLabels = ⟨gateway, currency⟩).map fun intent => intent.amount.toNumber) =
      amountsIn currency (takings (fun intent => intent.gateway = gateway) db.allIntents) := by
  unfold amountsIn takings Database.allIntents
  simp only [List.filter_map, List.map_map, List.filter_filter]
  refine congrArg (List.map _) (List.filter_congr fun intent _ => ?_)
  have labels : decide (intent.selected.volumeLabels = ⟨gateway, currency⟩) =
      (decide (intent.gateway = gateway) && decide (intent.currency = currency)) := by
    rw [← Bool.decide_and]
    exact decide_eq_decide.mpr (VolumeLabels.mk.injEq ..).to_iff
  simp only [Function.comp_apply, labels]
  rw [Bool.and_comm, Bool.and_right_comm, Bool.and_comm]
  rfl

theorem numberOf_allIntents (p : PaymentIntent → Bool) (db : Database) : numberOf p db.allIntents = db.intents.rows.countP p :=
  List.countP_map ..

/-- On one database the samples agree with the overview. -/
theorem samples_agree (db : Database) :
    SamplesAgree (countSamples (db.intents.rows.map PaymentIntent.selected))
      (volumeSamples .exact (db.intents.rows.map PaymentIntent.selected)) (overviewOf db.allIntents) where
  volumes gateway currency := by
    have own := own_amounts db gateway currency
    have absent := congrArg (· = []) own
    simp only [List.map_eq_nil_iff] at absent
    rw [find_volumeSamples, overviewOf_gateway, GatewayMetrics.rated, amountsOf_find _ (takings_wholeCents _ _)]
    simp only [own, absent, Arithmetic.exact_sum]
    split <;> rfl
  gateways gateway := by
    rw [sum_countSamples fun labels => labels.gateway = gateway, overviewOf_gateway, GatewayMetrics.rated,
      numberOf_allIntents, List.countP_map]
    rfl
  statuses status := by
    rw [sum_countSamples fun labels => labels.status = status, overviewOf_status, numberOf_allIntents, List.countP_map]
    rfl
  currencies currency := by
    rw [sum_countSamples fun labels => labels.currency = currency, overviewOf_countIn, numberOf_allIntents, List.countP_map]
    rfl

theorem CountLabels.series_inj : Function.Injective CountLabels.series := by
  intro left right same
  exact CountLabels.text_inj ((String.append_right_inj _).mp ((String.append_left_inj _).mp same))

theorem VolumeLabels.series_inj : Function.Injective VolumeLabels.series := by
  intro left right same
  exact VolumeLabels.text_inj ((String.append_right_inj _).mp ((String.append_left_inj _).mp same))

theorem emitted_samples (intents : List SelectedIntent) : Emitted (countSamples intents) (volumeSamples .exact intents) where
  countSeries := CountLabels.series_inj
  volumeSeries := VolumeLabels.series_inj
  counts sample _ := ⟨numberText sample.count, rfl, numberText_read (.natCast sample.count)⟩
  volumes sample member := by
    refine ⟨toFixed2 .exact sample.value, rfl, ?_⟩
    have whole := volumeSamples_wholeCents intents sample member
    rw [toFixed2_read .exact whole.decimal, fixed2_wholeCents whole]

section
variable (O : Opossum) (circuitBreaker : CircuitBreakerService) (now : Timestamp) (uptime : ℚ) (heapUsed : Nat)

/-- A scrape and an overview of one database, in exact arithmetic. The samples of the scrape, as it
prints them, are the amounts of the overview by gateway and currency, one for
each that there is, and add up to its counts. -/
theorem metrics_agree_with_overview (readDate : String → JsDate) (metricsEnv : Nat → MetricsOp → MetricsEnv)
    (env : Nat → AnalyticsOp → Env) (scraped : (metricsEnv 0 .findMany).fails = false)
    (answered : ∀ op, (env 0 op).fails = false) (w : World) :
    ∃ counts volumes overview,
      scrape .exact O circuitBreaker now uptime heapUsed metricsEnv w.db = .ok ("\n".intercalate
        (processLines .exact uptime heapUsed (circuitBreaker.getAllBreakersStatus O now) ++ (sampleLines .exact counts volumes ++
          if (metricsEnv 1 .groupBy).fails then [] else refundLines w.db.groupRefunds)) ++ "\n") ∧
      fullOverview readDate env w = .ok overview ∧ Emitted counts volumes ∧ SamplesAgree counts volumes overview := by
  refine ⟨_, _, _, ?_, fullOverview_answered readDate answered w, emitted_samples _, samples_agree w.db⟩
  rw [← intentLines_samples]
  exact scrape_answered .exact O circuitBreaker now uptime heapUsed scraped w.db

/-- The amount of the sample intent. -/
theorem metrics_agree_with_overview_sample :
    ∃ counts volumes overview,
      fullOverview (fun _ => none) (fun _ _ => calmEnv) ⟨sampleDatabase .captured, []⟩ = .ok overview ∧
      Emitted counts volumes ∧ SamplesAgree counts volumes overview ∧
      (volumes.find ⟨.stripe, "USD"⟩).map VolumeSample.value = some 100 := by
  obtain ⟨counts, volumes, overview, _, answered, emitted, agree⟩ :=
    metrics_agree_with_overview ⟨fun _ _ _ => true, fun _ _ _ => false, fun _ _ _ => false⟩ .new 0 (217 / 20) 52428800
      (fun _ => none) (fun _ _ => ⟨false, ""⟩) (fun _ _ => calmEnv) rfl (fun _ => rfl)
      ⟨sampleDatabase .captured, []⟩
  refine ⟨counts, volumes, overview, answered, emitted, agree, ?_⟩
  rw [fullOverview_answered _ (fun _ => rfl)] at answered
  cases answered
  rw [agree.volumes]
  decide +kernel

end

end PayBridge
