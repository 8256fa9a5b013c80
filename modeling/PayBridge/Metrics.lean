import PayBridge.CircuitBreaker
import PayBridge.NumberText
import PayBridge.Store.Grouping
import PayBridge.WebhookDelivery

namespace PayBridge
open Store Await Numeric

/-- The columns of an intent that the metrics select. -/
structure SelectedIntent where
  gateway : GatewayProvider
  status : PaymentStatus
  currency : String
  amount : Decimal
  deriving DecidableEq

def PaymentIntent.selected (intent : PaymentIntent) : SelectedIntent :=
  ⟨intent.gateway, intent.status, intent.currency, intent.amount⟩

structure RefundGroup where
  status : RefundStatus
  count : Nat
  deriving DecidableEq

def RefundGroup.add (group : RefundGroup) : RefundGroup := { group with count := group.count + 1 }

/-- `refund.groupBy` by status. -/
def Database.groupRefunds (db : Database) : List RefundGroup :=
  (Table.groupInto Refund.status (fun status => ⟨status, 0⟩) (fun _ => RefundGroup.add) (fun _ _ => rfl)
    (Table.empty : Table RefundGroup.status) db.refunds.rows).rows

inductive MetricsOp
  | findMany
  | groupBy

abbrev MetricsOp.Answer : MetricsOp → Type
  | .findMany => Except JsError (List SelectedIntent)
  | .groupBy => Except JsError (List RefundGroup)

/-- What a query of the metrics meets. -/
structure MetricsEnv where
  fails : Bool
  message : String

def performMetrics (env : MetricsEnv) : (op : MetricsOp) → Database → op.Answer × Database
  | .findMany, db =>
    (if env.fails then .error (DbError.unavailable.thrown env.message) else .ok (db.intents.rows.map PaymentIntent.selected), db)
  | .groupBy, db =>
    (if env.fails then .error (DbError.unavailable.thrown env.message) else .ok db.groupRefunds, db)

/-- The status of every supported gateway, in the order of the record. -/
def CircuitBreakerService.getAllBreakersStatus (O : Opossum) (service : CircuitBreakerService) (now : Timestamp) :
    List (GatewayProvider × BreakerStatus) :=
  [.stripe, .paymob, .fawry].map fun gateway => (gateway, service.getBreakerStatus O gateway now)

/-- The lines about the process and its breakers. -/
def processLines (A : Arithmetic) (uptime : ℚ) (heapUsed : Nat) (cbStatuses : List (GatewayProvider × BreakerStatus)) : List String :=
  ["# HELP paybridge_process_uptime_seconds Process uptime in seconds",
    "# TYPE paybridge_process_uptime_seconds gauge",
    "paybridge_process_uptime_seconds " ++ toFixed2 A uptime,
    "# HELP paybridge_process_heap_bytes Process heap memory usage in bytes",
    "# TYPE paybridge_process_heap_bytes gauge",
    "paybridge_process_heap_bytes " ++ numberText heapUsed,
    "# HELP paybridge_circuit_breaker_open Circuit breaker open state (1 = open, 0 = closed)",
    "# TYPE paybridge_circuit_breaker_open gauge"] ++
  cbStatuses.map fun (gateway, status) =>
    "paybridge_circuit_breaker_open\x7bgateway=\"" ++ gateway.text ++ "\"\x7d " ++ if status = .opened then "1" else "0"

/-- An entry of `countsMap`. -/
structure CountEntry where
  labels : String
  count : Nat

/-- An entry of `volumeMap`. -/
structure VolumeEntry where
  labels : String
  vol : ℚ

def CountEntry.add (entry : CountEntry) : CountEntry := { entry with count := entry.count + 1 }

def VolumeEntry.add (A : Arithmetic) (amount : ℚ) (entry : VolumeEntry) : VolumeEntry := { entry with vol := A.add entry.vol amount }

def countKey (gateway : GatewayProvider) (status : PaymentStatus) (currency : String) : String :=
  "gateway=\"" ++ gateway.text ++ "\",status=\"" ++ status.text ++ "\",currency=\"" ++ currency ++ "\""

def volKey (gateway : GatewayProvider) (currency : String) : String :=
  "gateway=\"" ++ gateway.text ++ "\",currency=\"" ++ currency ++ "\""

/-- What the loop of `getPrometheusMetrics` has counted. -/
structure MetricsTally where
  countsMap : Table CountEntry.labels
  volumeMap : Table VolumeEntry.labels

/-- One round of the loop. -/
def MetricsTally.count (A : Arithmetic) (tally : MetricsTally) (intent : SelectedIntent) : MetricsTally where
  countsMap := tally.countsMap.upsert ⟨countKey intent.gateway intent.status intent.currency, 0⟩ CountEntry.add fun _ => rfl
  volumeMap :=
    if intent.status = .captured ∨ intent.status = .refunded then
      tally.volumeMap.upsert ⟨volKey intent.gateway intent.currency, 0⟩ (VolumeEntry.add A intent.amount.toNumber) fun _ => rfl
    else tally.volumeMap

def CountEntry.line (entry : CountEntry) : String :=
  "paybridge_payment_intents_total\x7b" ++ entry.labels ++ "\x7d " ++ numberText entry.count

def VolumeEntry.line (A : Arithmetic) (entry : VolumeEntry) : String :=
  "paybridge_payment_volume_total\x7b" ++ entry.labels ++ "\x7d " ++ toFixed2 A entry.vol

def RefundGroup.line (group : RefundGroup) : String :=
  "paybridge_refunds_total\x7bstatus=\"" ++ group.status.text ++ "\"\x7d " ++ numberText group.count

def countHeader : List String :=
  ["# HELP paybridge_payment_intents_total Total count of payment intents by gateway, status, and currency",
    "# TYPE paybridge_payment_intents_total counter"]

def volumeHeader : List String :=
  ["# HELP paybridge_payment_volume_total Total captured volume by gateway and currency",
    "# TYPE paybridge_payment_volume_total counter"]

def refundHeader : List String :=
  ["# HELP paybridge_refunds_total Total count of refund operations by status",
    "# TYPE paybridge_refunds_total counter"]

def intentLines (A : Arithmetic) (intents : List SelectedIntent) : List String :=
  let tally := intents.foldl (MetricsTally.count A) ⟨Table.empty, Table.empty⟩
  countHeader ++ tally.countsMap.rows.map CountEntry.line ++ (volumeHeader ++ tally.volumeMap.rows.map (VolumeEntry.line A))

def refundLines (refunds : List RefundGroup) : List String := refundHeader ++ refunds.map RefundGroup.line

/-- `uptime` and `heapUsed` are what the process reports of itself, and `now`
is when its breakers are asked. -/
def getPrometheusMetrics (A : Arithmetic) (O : Opossum) (circuitBreaker : CircuitBreakerService) (now : Timestamp) (uptime : ℚ)
    (heapUsed : Nat) : Async MetricsOp MetricsOp.Answer JsError String := do
  let lines := processLines A uptime heapUsed (circuitBreaker.getAllBreakersStatus O now)
  -- The one `catch` keeps the lines that were pushed before a query failed.
  let lines ← tryCatch (do
    let intents ← Async.request .findMany fun answer => answer
    let lines := lines ++ intentLines A intents
    tryCatch (do
      let refunds ← Async.request .groupBy fun answer => answer
      return lines ++ refundLines refunds) fun _ => return lines) fun _ => return lines
  return "\n".intercalate lines ++ "\n"

/-- The text of a scrape. -/
def scrape (A : Arithmetic) (O : Opossum) (circuitBreaker : CircuitBreakerService) (now : Timestamp) (uptime : ℚ) (heapUsed : Nat)
    (env : Nat → MetricsOp → MetricsEnv) (db : Database) : Except JsError String :=
  (Async.play performMetrics env (getPrometheusMetrics A O circuitBreaker now uptime heapUsed) [] db).value

/-- A scrape whose first query is answered has the lines of the intents, and
never fails. -/
theorem scrape_answered (A : Arithmetic) (O : Opossum) (circuitBreaker : CircuitBreakerService) (now : Timestamp) (uptime : ℚ)
    (heapUsed : Nat) {env : Nat → MetricsOp → MetricsEnv} (calm : (env 0 .findMany).fails = false) (db : Database) :
    scrape A O circuitBreaker now uptime heapUsed env db = .ok ("\n".intercalate
      (processLines A uptime heapUsed (circuitBreaker.getAllBreakersStatus O now) ++
        (intentLines A (db.intents.rows.map PaymentIntent.selected) ++
          if (env 1 .groupBy).fails then [] else refundLines db.groupRefunds)) ++ "\n") := by
  cases fails : (env 1 .groupBy).fails <;>
    simp [scrape, getPrometheusMetrics, Async.play_bind, Async.play_tryCatch, performMetrics, calm, fails]

end PayBridge
