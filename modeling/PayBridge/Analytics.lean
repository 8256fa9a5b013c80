import Mathlib.Logic.Function.Basic
import PayBridge.Effects

namespace PayBridge
open Store Await

structure AnalyticsQueryDto where
  dateFrom : JsOptional String
  dateTo : JsOptional String
  gateway : JsOptional GatewayProvider

/-- A `Date`; none is an invalid one. -/
abbrev JsDate := Option Timestamp

/-- The `where` of a search for intents. -/
structure IntentFilter where
  merchantId : Option Uuid
  gte : Option JsDate
  lte : Option JsDate
  gateway : Option GatewayProvider

def IntentFilter.admits (filter : IntentFilter) (intent : PaymentIntent) : Bool :=
  filter.merchantId.all (fun id => intent.merchantId = id) &&
    filter.gte.all (fun date => date.all fun time => time ≤ intent.createdAt) &&
    filter.lte.all (fun date => date.all fun time => intent.createdAt ≤ time) &&
    filter.gateway.all fun gateway => intent.gateway = gateway

/-- `paymentIntent.findMany` with the refunds; an invalid date is refused. -/
def Database.findMany (db : Database) (filter : IntentFilter) : Except DbError (List IntentWithRefunds) :=
  if filter.gte = some none ∨ filter.lte = some none then .error .invalidArgument
  else .ok ((db.intents.rows.filter filter.admits).map fun intent => ⟨intent, db.refundsOf intent.id⟩)

inductive AnalyticsOp
  | findMany (filter : IntentFilter)

abbrev AnalyticsOp.Answer : AnalyticsOp → Type
  | .findMany _ => Except JsError (List IntentWithRefunds)

def performAnalytics (env : Env) : (op : AnalyticsOp) → World → op.Answer × World
  | .findMany filter, w =>
    if env.fails then (.error (DbError.unavailable.thrown env.message), w)
    else match w.db.findMany filter with
      | .ok intents => (.ok intents, w)
      | .error err => (.error (err.thrown env.message), w)

structure CurrencyVolume where
  currency : String
  totalAmount : ℚ
  count : Nat
  deriving DecidableEq

/-- An entry of a record of amounts by currency. -/
structure CurrencyAmount where
  currency : String
  amount : ℚ
  deriving DecidableEq

structure GatewayMetrics where
  gateway : GatewayProvider
  totalTransactions : Nat
  totalVolume : Table CurrencyAmount.currency
  successfulTransactions : Nat
  failedTransactions : Nat
  pendingTransactions : Nat
  successRate : ℚ
  failureRate : ℚ

structure AnalyticsSummary where
  totalTransactions : Nat
  successfulTransactions : Nat
  failedTransactions : Nat
  pendingTransactions : Nat
  overallSuccessRate : ℚ
  overallConversionRate : ℚ
  deriving DecidableEq

structure RefundMetrics where
  totalRefunds : Nat
  totalRefundAmount : Table CurrencyAmount.currency

structure AnalyticsOverviewResponse where
  summary : AnalyticsSummary
  volumeByCurrency : List CurrencyVolume
  gatewayBreakdown : GatewayProvider → GatewayMetrics
  statusBreakdown : PaymentStatus → Nat
  refunds : RefundMetrics

namespace PaymentStatus

def isSuccess (status : PaymentStatus) : Bool := status = .captured || status = .refunded

def isFailed (status : PaymentStatus) : Bool := status = .failed

def isPending (status : PaymentStatus) : Bool := status = .pending || status = .authorized

end PaymentStatus

def CurrencyAmount.add (amount : ℚ) (entry : CurrencyAmount) : CurrencyAmount :=
  { entry with amount := roundCents .exact (entry.amount + amount) }

@[simp] theorem CurrencyAmount.add_currency (amount : ℚ) (entry : CurrencyAmount) :
    (entry.add amount).currency = entry.currency := rfl

/-- `map[currency] = Math.round(((map[currency] || 0) + amount) * 100) / 100`. -/
def addAmount (amounts : Table CurrencyAmount.currency) (currency : String) (amount : ℚ) :
    Table CurrencyAmount.currency :=
  amounts.upsert ⟨currency, 0⟩ (CurrencyAmount.add amount) (CurrencyAmount.add_currency amount)

/-- One intent more in its currency; only a successful one adds its amount. -/
def CurrencyVolume.add (isSuccess : Bool) (amount : ℚ) (volume : CurrencyVolume) : CurrencyVolume where
  currency := volume.currency
  totalAmount := if isSuccess then roundCents .exact (volume.totalAmount + amount) else volume.totalAmount
  count := volume.count + 1

@[simp] theorem CurrencyVolume.add_currency (isSuccess : Bool) (amount : ℚ) (volume : CurrencyVolume) :
    (volume.add isSuccess amount).currency = volume.currency := rfl

def initialGatewayMetric (gateway : GatewayProvider) : GatewayMetrics :=
  ⟨gateway, 0, Table.empty, 0, 0, 0, 0, 0⟩

/-- One intent more at its gateway. -/
def GatewayMetrics.add (gw : GatewayMetrics) (intent : PaymentIntent) : GatewayMetrics :=
  let status := intent.status
  { gw with
    totalTransactions := gw.totalTransactions + 1
    successfulTransactions := gw.successfulTransactions + if status.isSuccess then 1 else 0
    totalVolume :=
      if status.isSuccess then addAmount gw.totalVolume intent.currency intent.amount.toNumber else gw.totalVolume
    failedTransactions := gw.failedTransactions + if status.isFailed then 1 else 0
    pendingTransactions := gw.pendingTransactions + if status.isPending then 1 else 0 }

/-- What the loop of `getOverview` has counted. -/
structure OverviewTally where
  successfulTransactions : Nat
  failedTransactions : Nat
  pendingTransactions : Nat
  volumeByCurrencyMap : Table CurrencyVolume.currency
  statusBreakdown : PaymentStatus → Nat
  gatewayBreakdown : GatewayProvider → GatewayMetrics
  totalRefundsCount : Nat
  totalRefundAmountMap : Table CurrencyAmount.currency

namespace OverviewTally

def initial : OverviewTally := ⟨0, 0, 0, Table.empty, fun _ => 0, initialGatewayMetric, 0, Table.empty⟩

def countRefund (currency : String) (tally : OverviewTally) (refund : Refund) : OverviewTally :=
  if refund.status = .succeeded then
    { tally with
      totalRefundsCount := tally.totalRefundsCount + 1
      totalRefundAmountMap := addAmount tally.totalRefundAmountMap currency refund.amount.toNumber }
  else tally

/-- One round of the loop. -/
def count (tally : OverviewTally) (found : IntentWithRefunds) : OverviewTally :=
  let intent := found.intent
  let amount := intent.amount.toNumber
  let isSuccess := intent.status.isSuccess
  let counted : OverviewTally :=
    { tally with
      statusBreakdown := Function.update tally.statusBreakdown intent.status (tally.statusBreakdown intent.status + 1)
      successfulTransactions := tally.successfulTransactions + if isSuccess then 1 else 0
      failedTransactions := tally.failedTransactions + if intent.status.isFailed then 1 else 0
      pendingTransactions := tally.pendingTransactions + if intent.status.isPending then 1 else 0
      volumeByCurrencyMap := tally.volumeByCurrencyMap.upsert ⟨intent.currency, 0, 0⟩
        (CurrencyVolume.add isSuccess amount) (CurrencyVolume.add_currency isSuccess amount)
      gatewayBreakdown := Function.update tally.gatewayBreakdown intent.gateway
        ((tally.gatewayBreakdown intent.gateway).add intent) }
  found.refunds.foldl (countRefund intent.currency) counted

end OverviewTally

/-- A share in percent with two decimals, or zero of nothing. -/
def rate (share whole : Nat) : ℚ := if 0 < whole then mathRound (share / whole * 10000) / 100 else 0

def GatewayMetrics.rated (gw : GatewayMetrics) : GatewayMetrics :=
  let completed := gw.successfulTransactions + gw.failedTransactions
  { gw with
    successRate := rate gw.successfulTransactions completed
    failureRate := rate gw.failedTransactions completed }

/-- What `getOverview` makes of the intents it has read. -/
def overviewOf (intents : List IntentWithRefunds) : AnalyticsOverviewResponse :=
  let tally := intents.foldl OverviewTally.count .initial
  let completedTotal := tally.successfulTransactions + tally.failedTransactions
  { summary := {
      totalTransactions := intents.length
      successfulTransactions := tally.successfulTransactions
      failedTransactions := tally.failedTransactions
      pendingTransactions := tally.pendingTransactions
      overallSuccessRate := rate tally.successfulTransactions completedTotal
      overallConversionRate := rate tally.successfulTransactions intents.length }
    volumeByCurrency := tally.volumeByCurrencyMap.rows
    gatewayBreakdown := fun gateway => (tally.gatewayBreakdown gateway).rated
    statusBreakdown := tally.statusBreakdown
    refunds := ⟨tally.totalRefundsCount, tally.totalRefundAmountMap⟩ }

/-- The `where` of an overview; an empty text gives no bound. -/
def AnalyticsQueryDto.whereClause (readDate : String → JsDate) (query : AnalyticsQueryDto) (merchantId : Option Uuid) :
    IntentFilter where
  merchantId := merchantId
  gte := (query.dateFrom.toOption.filter (· ≠ "")).map readDate
  lte := (query.dateTo.toOption.filter (· ≠ "")).map readDate
  gateway := query.gateway.toOption

/-- `readDate` is `new Date` of a text. -/
def getOverview (readDate : String → JsDate) (query : AnalyticsQueryDto) (merchantId : Option Uuid) :
    Async AnalyticsOp AnalyticsOp.Answer JsError AnalyticsOverviewResponse := do
  let intents ← Async.request (.findMany (query.whereClause readDate merchantId)) fun answer => answer
  return overviewOf intents

/-- Two captured payments and a failed one, with a refund. -/
example :
    let intent (cents : ℤ) (fits : cents.natAbs < 10 ^ 12) (currency : String) (status : PaymentStatus) : PaymentIntent :=
      ⟨⟨"a"⟩, "ORD", ⟨cents, fits⟩, currency, status, .stripe, none, "", ⟨"m"⟩, 0⟩
    let overview := overviewOf [
      ⟨intent 10000 (by decide) "USD" .captured, [⟨⟨"r"⟩, ⟨"a"⟩, ⟨2000, by decide⟩, none, .succeeded, none⟩]⟩,
      ⟨intent 5000 (by decide) "USD" .failed, []⟩, ⟨intent 50000 (by decide) "EGP" .captured, []⟩]
    overview.volumeByCurrency = [⟨"USD", 100, 2⟩, ⟨"EGP", 500, 1⟩] ∧ overview.summary = ⟨3, 2, 1, 0, 66.67, 66.67⟩ ∧
      overview.refunds.totalRefundAmount.rows = [⟨"USD", 20⟩] := by decide +kernel

end PayBridge
