import PayBridge.Store.Table
import PayBridge.Money
import PayBridge.Json

namespace PayBridge
open Store Numeric

structure Uuid where
  text : String
  deriving DecidableEq

/-- Milliseconds since the epoch. -/
abbrev Timestamp := Int

inductive PaymentStatus
  | pending
  | authorized
  | captured
  | failed
  | refunded
  deriving DecidableEq

def PaymentStatus.text : PaymentStatus → String
  | .pending => "PENDING"
  | .authorized => "AUTHORIZED"
  | .captured => "CAPTURED"
  | .failed => "FAILED"
  | .refunded => "REFUNDED"

inductive GatewayProvider
  | paymob
  | fawry
  | stripe
  deriving DecidableEq

def GatewayProvider.text : GatewayProvider → String
  | .paymob => "PAYMOB"
  | .fawry => "FAWRY"
  | .stripe => "STRIPE"

inductive RefundStatus
  | pending
  | succeeded
  | failed
  deriving DecidableEq

structure Merchant where
  id : Uuid
  name : String
  email : String
  webhookUrl : Option String
  webhookSecret : Option String
  isActive : Bool
  createdAt : Timestamp
  deriving DecidableEq

structure PaymentIntent where
  id : Uuid
  reference : String
  amount : Decimal
  currency : String
  status : PaymentStatus
  gateway : GatewayProvider
  gatewayPaymentId : Option String
  customerEmail : String
  merchantId : Uuid
  createdAt : Timestamp
  deriving DecidableEq

structure WebhookEvent where
  paymentIntentId : Uuid
  providerEventId : String
  payload : Json

structure Refund where
  id : Uuid
  paymentIntentId : Uuid
  amount : Decimal
  reason : Option String
  status : RefundStatus
  gatewayRefundId : Option String
  deriving DecidableEq

/-- The tables with their unique keys and foreign keys. -/
structure Database where
  merchants : Table Merchant.id
  intents : Table PaymentIntent.id
  events : Table WebhookEvent.providerEventId
  refunds : Table Refund.id
  intentMerchant : ∀ intent ∈ intents.rows, ∃ merchant ∈ merchants.rows, merchant.id = intent.merchantId
  eventIntent : ∀ event ∈ events.rows, ∃ intent ∈ intents.rows, intent.id = event.paymentIntentId
  refundIntent : ∀ refund ∈ refunds.rows, ∃ intent ∈ intents.rows, intent.id = refund.paymentIntentId

/-- The refunds stored for an intent. -/
def Database.refundsOf (db : Database) (id : Uuid) : List Refund :=
  db.refunds.rows.filter fun refund => refund.paymentIntentId = id

/-- What the code takes from the process environment. -/
structure ProcessEnv where
  merchantWebhookUrl : Option String
  webhookSigningSecret : Option String
  reconciliationThresholdMinutes : Option String
  idempotencyTtlSeconds : Option String

/-- What is outside the repository: the arithmetic of the engine, the Unicode
tables behind `toUpperCase`, how the database reads a text given for a uuid
column (none is its refusal), and the process environment. -/
structure Platform where
  arithmetic : Arithmetic
  toUpperCase : String → String
  readUuid : String → Option Uuid
  processEnv : ProcessEnv

end PayBridge
