import PayBridge.Await.Pool
import PayBridge.Await.Serial
import PayBridge.Transactions

namespace PayBridge
open Store Await

structure IntentWithRefunds where
  intent : PaymentIntent
  refunds : List Refund

/-- The database steps of the service. A transaction is one step. -/
inductive Query
  | findIntent (id : String)
  | findStaleIntents (cutoff : Timestamp)
  | updateIntent (id : Uuid) (status : PaymentStatus)
  | recordEvent (paymentIntentId providerEventId : JsValue) (payload : Json)
  | recordRefund (refund : NewRefund) (markRefunded : Bool)
  | findMerchant (id : Uuid)
  | createIntent (data : NewIntent)

abbrev Query.Result : Query → Type
  | .findIntent _ => Option IntentWithRefunds
  | .findStaleIntents _ => List PaymentIntent
  | .updateIntent _ _ => PaymentIntent
  | .recordEvent _ _ _ => PaymentIntent
  | .recordRefund _ _ => Refund
  | .findMerchant _ => Option Merchant
  | .createIntent _ => PaymentIntent

inductive GatewayPaymentStatus
  | captured
  | failed
  | pending
  | refunded
  | authorized
  deriving DecidableEq

structure RefundResult where
  gatewayRefundId : String
  status : RefundStatus
  deriving DecidableEq

structure PaymentIntentResult where
  gatewayPaymentId : String
  clientSecret : String
  deriving DecidableEq

inductive OutboundEventType
  | paymentSucceeded
  | paymentFailed
  | paymentRefunded
  deriving DecidableEq

def OutboundEventType.text : OutboundEventType → String
  | .paymentSucceeded => "payment.succeeded"
  | .paymentFailed => "payment.failed"
  | .paymentRefunded => "payment.refunded"

structure RefundData where
  id : Uuid
  amount : ℚ
  reason : JsOptional String
  gatewayRefundId : String
  status : RefundStatus
  remainingBalance : ℚ
  deriving DecidableEq

structure PaymentIntentData where
  id : Uuid
  reference : String
  amount : ℚ
  currency : String
  status : PaymentStatus
  gateway : GatewayProvider
  customerEmail : String
  gatewayPaymentId : Option String
  refund : Option RefundData
  deriving DecidableEq

structure PaymentEventPayload where
  id : String
  event : OutboundEventType
  timestamp : Timestamp
  data : PaymentIntentData
  deriving DecidableEq

structure OutboundWebhookJobData where
  intentId : Uuid
  targetUrl : String
  secret : String
  payload : PaymentEventPayload
  deriving DecidableEq

/-- Everything the service awaits. A call through a circuit breaker is one
operation with the breaker's rejection among its answers. -/
inductive Op
  | query (q : Query)
  | fetchPaymentStatus (gateway : GatewayProvider) (gatewayPaymentId : String)
  | refund (gateway : GatewayProvider) (gatewayPaymentId : String) (amount : ℚ) (currency : String)
      (reason : JsOptional String)
  | fireCreateIntent (gateway : GatewayProvider) (amount : ℚ) (currency reference : String)
  | enqueue (event : OutboundEventType) (data : PaymentIntentData) (targetUrl secret : String)
  | now

/-- How a fired circuit breaker fails: it is open, or the call itself threw. -/
inductive BreakerError
  | opened
  | failed (err : JsError)
  deriving DecidableEq

abbrev Op.Answer : Op → Type
  | .query q => Except JsError q.Result
  | .fetchPaymentStatus _ _ => Except JsError GatewayPaymentStatus
  | .refund _ _ _ _ _ => Except JsError RefundResult
  | .fireCreateIntent _ _ _ _ => Except BreakerError PaymentIntentResult
  | .enqueue _ _ _ _ => Except JsError Unit
  | .now => Timestamp

/-- The state shared by all requests: the database and the outbound queue. -/
structure World where
  db : Database
  queue : List OutboundWebhookJobData

/-- What one step meets from outside: whether it is struck by a failure and
with which text, the ids and times it is given, and what a gateway answers. -/
structure Env where
  fails : Bool
  message : String
  id : Uuid
  now : Timestamp
  status : GatewayPaymentStatus
  refund : RefundResult
  breakerOpen : Bool
  created : PaymentIntentResult

def Query.exec (P : Platform) (env : Env) : (q : Query) → Tx q.Result
  | .findIntent id => fun db => do
    let id ← P.readId id
    return ((db.intents.find id).map fun intent => ⟨intent, db.refundsOf id⟩, db)
  | .findStaleIntents cutoff => fun db =>
    .ok (db.intents.rows.filter fun intent => intent.status = .pending ∧ intent.createdAt ≤ cutoff, db)
  | .updateIntent id status => paymentIntentUpdate id status
  | .recordEvent paymentIntentId providerEventId payload => recordEventTx P paymentIntentId providerEventId payload
  | .recordRefund refund markRefunded => recordRefundTx env.id refund markRefunded
  | .findMerchant id => fun db => .ok (db.merchants.find id, db)
  | .createIntent data => paymentIntentCreate env.id env.now data

/-- One operation on the shared state. A failed database step leaves the
database as it was, a failed enqueue leaves the queue. -/
def perform (P : Platform) (env : Env) : (op : Op) → World → op.Answer × World
  | .query q, w =>
    if env.fails then (.error (DbError.unavailable.thrown env.message), w)
    else match q.exec P env w.db with
      | .ok (result, db) => (.ok result, { w with db })
      | .error err => (.error (err.thrown env.message), w)
  | .fetchPaymentStatus _ _, w => (if env.fails then .error ⟨.other, env.message⟩ else .ok env.status, w)
  | .refund _ _ _ _ _, w => (if env.fails then .error ⟨.other, env.message⟩ else .ok env.refund, w)
  | .fireCreateIntent _ _ _ _, w =>
    (if env.breakerOpen then .error .opened
      else if env.fails then .error (.failed ⟨.other, env.message⟩) else .ok env.created, w)
  | .enqueue event data targetUrl secret, w =>
    if env.fails then (.error ⟨.other, env.message⟩, w)
    else (.ok (), { w with queue := w.queue ++ [⟨data.id, targetUrl, secret, ⟨"evt_" ++ env.id.text, event, env.now, data⟩⟩] })
  | .now, w => (env.now, w)

/-- An asynchronous function of the service. -/
abbrev Promise := Async Op Op.Answer JsError

def query (q : Query) : Promise q.Result := Async.request (.query q) fun answer => answer

/-- `Date.now()`. -/
def dateNow : Promise Timestamp := Async.request .now .ok

theorem perform_query_ok {P : Platform} {env : Env} {q : Query} {w : World} {result : q.Result}
    (answered : (perform P env (.query q) w).1 = .ok result) :
    env.fails = false ∧ q.exec P env w.db = .ok (result, (perform P env (.query q) w).2.db) := by
  by_cases fails : env.fails
  · simp [perform, fails] at answered
  · cases ran : q.exec P env w.db with
    | error err => simp [perform, fails, ran] at answered
    | ok pair =>
      simp only [perform, fails, ran, Bool.false_eq_true, if_false] at answered
      cases answered
      exact ⟨by simpa using fails, by simp [perform, fails, ran]⟩

theorem perform_query_error {P : Platform} {env : Env} {q : Query} {w : World} {err : JsError}
    (answered : (perform P env (.query q) w).1 = .error err) : (perform P env (.query q) w).2 = w := by
  by_cases fails : env.fails
  · simp [perform, fails]
  · cases ran : q.exec P env w.db with
    | error err => simp [perform, fails, ran]
    | ok pair => simp [perform, fails, ran] at answered

end PayBridge
