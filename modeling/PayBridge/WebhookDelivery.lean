import PayBridge.Codec.Hex
import PayBridge.Await.Played
import PayBridge.Effects

namespace PayBridge
open Await Codec

/-- HMAC-SHA256 of a text under a secret, in lower-case hexadecimal. -/
abbrev Hmac := String → String → HexText 32

def RefundStatus.text : RefundStatus → String
  | .pending => "PENDING"
  | .succeeded => "SUCCEEDED"
  | .failed => "FAILED"

/-- An optional field of an object; `undefined` is left out. -/
def optionalField (name : String) : JsOptional String → List (String × Json)
  | .undefined => []
  | .null => [(name, .null)]
  | .value text => [(name, .str text)]

def RefundData.toJson (refund : RefundData) : Json :=
  .obj ([("id", .str refund.id.text), ("amount", .num (numberText refund.amount))] ++
    optionalField "reason" refund.reason ++
    [("gatewayRefundId", .str refund.gatewayRefundId), ("status", .str refund.status.text),
      ("remainingBalance", .num (numberText refund.remainingBalance))])

def PaymentIntentData.toJson (data : PaymentIntentData) : Json :=
  .obj ([("id", .str data.id.text), ("reference", .str data.reference), ("amount", .num (numberText data.amount)),
      ("currency", .str data.currency), ("status", .str data.status.text), ("gateway", .str data.gateway.text),
      ("customerEmail", .str data.customerEmail), ("gatewayPaymentId", (data.gatewayPaymentId.map Json.str).getD .null)] ++
    (data.refund.map fun refund => ("refund", refund.toJson)).toList)

def PaymentEventPayload.toJson (payload : PaymentEventPayload) : Json :=
  .obj [("id", .str payload.id), ("event", .str payload.event.text), ("timestamp", .num (toString payload.timestamp)),
    ("data", payload.data.toJson)]

structure HttpRequest where
  url : String
  method : String
  headers : List (String × String)
  body : String
  deriving DecidableEq

structure HttpResponse where
  ok : Bool
  status : Nat
  statusText : String
  deriving DecidableEq

/-- What a delivery awaits. -/
inductive DeliveryOp
  | now
  | fetch (request : HttpRequest)

/-- How a `fetch` fails: the timer has aborted it, or it threw otherwise. -/
inductive FetchError
  | aborted
  | failed (err : JsError)

abbrev DeliveryOp.Answer : DeliveryOp → Type
  | .now => Timestamp
  | .fetch _ => Except FetchError HttpResponse

/-- The clock, and what the endpoint answers. -/
structure DeliveryEnv where
  now : Timestamp
  response : Except FetchError HttpResponse

def performDelivery (env : DeliveryEnv) : (op : DeliveryOp) → Unit → op.Answer × Unit
  | .now, w => (env.now, w)
  | .fetch _, w => (env.response, w)

/-- The text that is signed. -/
def signaturePayload (timestamp : Int) (payload : String) : String := toString timestamp ++ "." ++ payload

/-- A reading of the clock prints as its digits. -/
def generateSignature (hmac : Hmac) (payload secret : String) (timestamp : Int) : String :=
  "t=" ++ toString timestamp ++ ",v1=" ++ String.ofList (hmac secret (signaturePayload timestamp payload)).chars

def deliveryRequest (hmac : Hmac) (job : OutboundWebhookJobData) (timestamp : Int) : HttpRequest where
  url := job.targetUrl
  method := "POST"
  headers := [("Content-Type", "application/json"), ("User-Agent", "Paybridge-Webhook-Dispatcher/1.0"),
    ("x-paybridge-signature", generateSignature hmac job.payload.toJson.stringify job.secret timestamp),
    ("x-paybridge-timestamp", toString timestamp)]
  body := job.payload.toJson.stringify

def processWebhookDelivery (hmac : Hmac) (job : OutboundWebhookJobData) : Async DeliveryOp DeliveryOp.Answer JsError Unit := do
  let now ← Async.request .now .ok
  let timestamp := now / 1000
  let response ← Async.request (.fetch (deliveryRequest hmac job timestamp)) fun answer => match answer with
    | .ok response => .ok response
    | .error .aborted => .error ⟨.other, "Webhook dispatch timed out after 10000ms"⟩
    | .error (.failed err) => .error err
  if !response.ok then
    throw ⟨.other, s!"Target webhook endpoint responded with HTTP status {response.status} ({response.statusText})"⟩

/-- A delivery reads the clock and sends one request, signed at that time. -/
theorem play_delivery (hmac : Hmac) (job : OutboundWebhookJobData) (env : Nat → DeliveryOp → DeliveryEnv) :
    (Async.play performDelivery env (processWebhookDelivery hmac job) [] ()).log =
      [⟨.fetch (deliveryRequest hmac job ((env 0 .now).now / 1000)),
          (env 1 (.fetch (deliveryRequest hmac job ((env 0 .now).now / 1000)))).response⟩, ⟨.now, (env 0 .now).now⟩] := by
  unfold processWebhookDelivery
  simp only [Async.play_bind, Async.play_request, performDelivery, List.length_nil, List.length_singleton]
  split
  · split <;> rfl
  · rfl

end PayBridge
