import PayBridge.OutboundWebhooks
import PayBridge.Orchestrator

namespace PayBridge
open Store Await

/-- An inbound request to the webhook endpoint. -/
structure Delivery where
  gatewayParam : String
  headers : List (String × String)
  rawBody : RawBody

structure WebhookReply where
  status : Nat
  received : Bool
  deriving DecidableEq

/-- What the handler takes out of a delivery before it opens the transaction. -/
structure InboundEvent where
  paymentIntentId : JsValue
  providerEventId : JsValue
  payload : Json

/-- Stripe signs in `stripe-signature`, every other gateway in `hmac`. -/
def Delivery.signature (gateway : String) (d : Delivery) : Option String :=
  if gateway = "STRIPE" then d.headers.lookup "stripe-signature" else d.headers.lookup "hmac"

/-- The event id: `payload.id`, or `payload.obj.id.toString()`. -/
def eventIdOf (gateway : String) (payload : Json) : Except JsError JsValue :=
  if gateway = "STRIPE" then JsValue.get (some payload) "id"
  else do
    let obj ← JsValue.get (some payload) "obj"
    let id ← obj.get "id"
    let text ← id.toString
    return some (.str text)

/-- The paid object: `payload.data.object.id`, or `payload.obj.order.id.toString()`. -/
def paymentIntentIdOf (gateway : String) (payload : Json) : Except JsError JsValue :=
  if gateway = "STRIPE" then do
    let data ← JsValue.get (some payload) "data"
    let object ← data.get "object"
    object.get "id"
  else do
    let obj ← JsValue.get (some payload) "obj"
    let order ← obj.get "order"
    let id ← order.get "id"
    let text ← id.toString
    return some (.str text)

/-- `JSON.parse` of the raw body; a missing body reads as `{}`. -/
def RawBody.parse : RawBody → Except JsError Json
  | .absent => .ok (.obj [])
  | .malformed => .error ⟨.syntaxError, "Unexpected token"⟩
  | .json payload => .ok payload

/-- The part of `handleIncomingWebhook` outside its `try`: the provider, the
signature and the ids of the payload. -/
def inboundEvent (P : Platform) (d : Delivery) : Except JsError InboundEvent := do
  let gateway := P.toUpperCase d.gatewayParam
  let provider ← getProvider gateway
  match (d.signature gateway).filter (· ≠ "") with
  | none => throw ⟨.http 401, "Missing webhook signature header"⟩
  | some signature =>
    if verifyWebhookSignature provider d.rawBody signature then
      let payload ← d.rawBody.parse
      let providerEventId ← eventIdOf gateway payload
      let paymentIntentId ← paymentIntentIdOf gateway payload
      return ⟨paymentIntentId, providerEventId, payload⟩
    else throw ⟨.http 401, "Invalid webhook signature"⟩

/-- A delivery gets past the checks only signed, for a registered gateway and
with the ids of its payload. -/
theorem inboundEvent_ok {P : Platform} {d : Delivery} {event : InboundEvent} (passed : inboundEvent P d = .ok event) :
    ∃ provider signature, getProvider (P.toUpperCase d.gatewayParam) = .ok provider ∧
      (d.signature (P.toUpperCase d.gatewayParam)).filter (· ≠ "") = some signature ∧
      verifyWebhookSignature provider d.rawBody signature = true ∧ d.rawBody.parse = .ok event.payload ∧
      eventIdOf (P.toUpperCase d.gatewayParam) event.payload = .ok event.providerEventId ∧
      paymentIntentIdOf (P.toUpperCase d.gatewayParam) event.payload = .ok event.paymentIntentId := by
  simp only [inboundEvent, bind, Except.bind] at passed
  cases known : getProvider (P.toUpperCase d.gatewayParam) with
  | error err => simp [known] at passed
  | ok provider =>
    simp only [known] at passed
    split at passed
    · cases passed
    · next signature signed =>
      split at passed
      · next verified =>
        cases parsed : d.rawBody.parse with
        | error err => simp [parsed] at passed
        | ok payload =>
          cases named : eventIdOf (P.toUpperCase d.gatewayParam) payload with
          | error err => simp [parsed, named] at passed
          | ok providerEventId =>
            cases paid : paymentIntentIdOf (P.toUpperCase d.gatewayParam) payload with
            | error err => simp [parsed, named, paid] at passed
            | ok paymentIntentId =>
              simp only [parsed, named, paid] at passed
              cases passed
              exact ⟨provider, signature, rfl, signed, verified, rfl, named, paid⟩
      · cases passed

/-- The event data of a payment notification, from the row as updated. -/
def PaymentIntent.eventData (intent : PaymentIntent) : PaymentIntentData where
  id := intent.id
  reference := intent.reference
  amount := intent.amount.toNumber
  currency := intent.currency
  status := intent.status
  gateway := intent.gateway
  customerEmail := intent.customerEmail
  gatewayPaymentId := intent.gatewayPaymentId
  refund := none

def handleIncomingWebhook (P : Platform) (d : Delivery) : Promise WebhookReply := do
  let event ← Async.ofExcept (inboundEvent P d)
  tryCatch
    (do
      let updatedIntent ← query (.recordEvent event.paymentIntentId event.providerEventId event.payload)
      dispatchPaymentEvent P .paymentSucceeded updatedIntent.eventData (some updatedIntent.merchantId) none none
      return ⟨200, true⟩)
    fun error => if error.code = some "P2002" then return ⟨200, true⟩ else return ⟨500, false⟩

/-- The event id of a delivery that reaches the transaction with a string for it. -/
def Delivery.providerEventId (P : Platform) (d : Delivery) : Option String :=
  match inboundEvent P d with
  | .ok event => (readString event.providerEventId).toOption
  | .error _ => none

theorem Delivery.providerEventId_some {P : Platform} {d : Delivery} {text : String} :
    d.providerEventId P = some text ↔
      ∃ event, inboundEvent P d = .ok event ∧ event.providerEventId = some (.str text) := by
  unfold Delivery.providerEventId
  cases inboundEvent P d with
  | error err => simp
  | ok event =>
    have read : (readString event.providerEventId).toOption = some text ↔ event.providerEventId = some (.str text) := by
      rw [← readString_ok]
      cases readString event.providerEventId <;> simp [Except.toOption]
    simpa using read

/-- Where a delivery stands after what it has seen: one transaction, and after
a committed one a merchant lookup and the notification of the updated row. -/
inductive WebhookCourse (P : Platform) (d : Delivery) : History Op.Answer → Op → Prop
  | record {event : InboundEvent} : inboundEvent P d = .ok event →
      WebhookCourse P d [] (.query (.recordEvent event.paymentIntentId event.providerEventId event.payload))
  | lookup {event : InboundEvent} {row : PaymentIntent} {id : Uuid} : inboundEvent P d = .ok event →
      WebhookCourse P d
        [⟨.query (.recordEvent event.paymentIntentId event.providerEventId event.payload), .ok row⟩]
        (.query (.findMerchant id))
  | notify {event : InboundEvent} {row : PaymentIntent} {later : History Op.Answer} {url secret : String} :
      inboundEvent P d = .ok event →
      LookedUp [⟨.query (.recordEvent event.paymentIntentId event.providerEventId event.payload), .ok row⟩] later →
      WebhookCourse P d later (.enqueue .paymentSucceeded row.eventData url secret)

/-- A delivery answered with 200 has committed its transaction or was told
that the event id is taken. -/
def WebhookAnswered (P : Platform) (d : Delivery) (seen : History Op.Answer) (reply : WebhookReply) : Prop :=
  reply.status = 200 → ∃ event answer, inboundEvent P d = .ok event ∧
    (⟨.query (.recordEvent event.paymentIntentId event.providerEventId event.payload), answer⟩ : (op : Op) × op.Answer) ∈ seen ∧
      ∀ err, answer = .error err → err.code = some "P2002"

/-- All that a delivery has seen when it asks for something: nothing, or its
transaction, and then the merchant of the updated row, who is notified last. -/
inductive WebhookSteps (P : Platform) (d : Delivery) : History Op.Answer → Op → Prop
  | record {event : InboundEvent} : inboundEvent P d = .ok event →
      WebhookSteps P d [] (.query (.recordEvent event.paymentIntentId event.providerEventId event.payload))
  | lookup {event : InboundEvent} {row : PaymentIntent} : inboundEvent P d = .ok event →
      WebhookSteps P d [⟨.query (.recordEvent event.paymentIntentId event.providerEventId event.payload), .ok row⟩]
        (.query (.findMerchant row.merchantId))
  | notify {event : InboundEvent} {row : PaymentIntent} {found} : inboundEvent P d = .ok event →
      WebhookSteps P d [⟨.query (.findMerchant row.merchantId), found⟩,
        ⟨.query (.recordEvent event.paymentIntentId event.providerEventId event.payload), .ok row⟩]
        (notice P .paymentSucceeded row.eventData found)

theorem handleIncomingWebhook_steps (P : Platform) (d : Delivery) :
    Async.Obeys (WebhookSteps P d) (WebhookAnswered P d) (fun _ _ => True) (handleIncomingWebhook P d) [] := by
  have answer : ∀ event seen err answer, inboundEvent P d = .ok event →
      (⟨.query (.recordEvent event.paymentIntentId event.providerEventId event.payload), answer⟩ : (op : Op) × op.Answer) ∈ seen →
      (∀ cause, answer = .error cause → cause = err) →
      Async.Obeys (WebhookSteps P d) (WebhookAnswered P d) (fun _ _ => True)
        (if err.code = some "P2002" then return ⟨200, true⟩ else return ⟨500, false⟩ : Promise WebhookReply) seen := by
    intro event seen err answer parsed member caused
    split
    · next duplicate =>
      intro _
      exact ⟨event, answer, parsed, member, fun cause same => by rw [caused cause same]; exact duplicate⟩
    · intro impossible
      cases impossible
  unfold handleIncomingWebhook
  refine (Async.obeys_bind _ _ _).mpr ((Async.obeys_ofExcept _ _).mpr ?_)
  cases parsed : inboundEvent P d with
  | error err => trivial
  | ok event =>
    refine (Async.obeys_tryCatch _ _ _).mpr ((Async.obeys_bind _ _ _).mpr ?_)
    refine (Async.obeys_request _ _ _).mpr ⟨.record parsed, ?_⟩
    rintro (err | row)
    · exact answer event _ err _ parsed (List.mem_cons_self ..) fun cause same => (Except.error.inj same).symm
    refine (Async.obeys_bind _ _ _).mpr (obeys_dispatch_own _ _ _ _ _ (.lookup parsed) fun found => ?_)
    refine ⟨.notify parsed, ?_, ?_⟩
    · intro _
      exact ⟨event, .ok row, parsed, by simp, fun err impossible => by cases impossible⟩
    · intro err
      exact answer event _ err (.ok row) parsed (by simp) fun cause impossible => by cases impossible

theorem WebhookSteps.course {P : Platform} {d : Delivery} {seen : History Op.Answer} {op : Op} (steps : WebhookSteps P d seen op) :
    WebhookCourse P d seen op := by
  cases steps with
  | record parsed => exact .record parsed
  | lookup parsed => exact .lookup parsed
  | notify parsed => exact .notify parsed (Or.inr ⟨_, _, rfl⟩)

theorem handleIncomingWebhook_course (P : Platform) (d : Delivery) :
    Async.Obeys (WebhookCourse P d) (WebhookAnswered P d) (fun _ _ => True) (handleIncomingWebhook P d) [] :=
  (handleIncomingWebhook_steps P d).mono (fun _ _ steps => steps.course) (fun _ _ answered => answered) fun _ _ thrown => thrown

section
variable {P : Platform} {env : Op → Env} {d : Delivery} {event : InboundEvent} {w : World}

/-- The transaction of a delivery. -/
abbrev InboundEvent.transaction (event : InboundEvent) : Query :=
  .recordEvent event.paymentIntentId event.providerEventId event.payload

/-- A refused transaction is answered at once: 200 for a duplicate, 500 for
anything else. Nothing has changed. -/
theorem handle_refused {err : JsError} (passed : inboundEvent P d = .ok event)
    (refused : (perform P (env (.query event.transaction)) (.query event.transaction) w).1 = .error err) :
    let o := (handleIncomingWebhook P d).run (perform P) env w
    o.value = .ok (if err.code = some "P2002" then ⟨200, true⟩ else ⟨500, false⟩) ∧ o.world = w := by
  intro o
  have same := perform_query_error refused
  have ran : o = (handleIncomingWebhook P d).run (perform P) env w := rfl
  simp only [handleIncomingWebhook, passed, Async.run_bind, Async.run_ofExcept, Async.run_tryCatch, query,
    Async.run_request, refused, same, Outcome.after_nil] at ran
  rw [ran]
  split <;> exact ⟨rfl, rfl⟩

/-- After a committed transaction the answer depends on the enqueue alone. -/
theorem handle_committed {row : PaymentIntent} (passed : inboundEvent P d = .ok event)
    (committed : (perform P (env (.query event.transaction)) (.query event.transaction) w).1 = .ok row) :
    let after := (perform P (env (.query event.transaction)) (.query event.transaction) w).2
    let o := (handleIncomingWebhook P d).run (perform P) env w
    ∃ url secret, let sent := env (.enqueue .paymentSucceeded row.eventData url secret)
      o.world.db = after.db ∧
        (sent.fails = true → o.value = .ok ⟨500, false⟩ ∧ o.world.queue = after.queue) ∧
        (sent.fails = false → o.value = .ok ⟨200, true⟩ ∧ o.world.queue = after.queue ++
          [⟨row.id, url, secret, ⟨"evt_" ++ sent.id.text, .paymentSucceeded, sent.now, row.eventData⟩⟩]) := by
  intro after o
  obtain ⟨url, secret, db, struck, spared⟩ :=
    run_dispatch P env .paymentSucceeded row.eventData (some row.merchantId) none none after
  refine ⟨url, secret, ?_⟩
  have ran : o = (handleIncomingWebhook P d).run (perform P) env w := rfl
  simp only [handleIncomingWebhook, passed, Async.run_bind, Async.run_ofExcept, Async.run_tryCatch, query,
    Async.run_request, committed, Outcome.after_nil] at ran
  cases fails : (env (.enqueue .paymentSucceeded row.eventData url secret)).fails with
  | true =>
    obtain ⟨thrown, queue⟩ := struck fails
    simp only [after] at thrown
    simp only [thrown, Outcome.after_value, JsError.code, reduceCtorEq, if_false, Async.run_pure] at ran
    rw [ran]
    exact ⟨db, fun _ => ⟨rfl, queue⟩, (fun impossible => by cases fails.symm.trans impossible)⟩
  | false =>
    obtain ⟨sent, queue⟩ := spared fails
    simp only [after] at sent
    simp only [sent, Outcome.after_value, Async.run_pure] at ran
    rw [ran]
    exact ⟨db, (fun impossible => by cases fails.symm.trans impossible), fun _ => ⟨rfl, queue⟩⟩
end

end PayBridge
