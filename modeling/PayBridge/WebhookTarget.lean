import PayBridge.System

namespace PayBridge
open Store Await

/-- A new, correctly signed event of a gateway, about the payment that the
gateway made for a pending intent and that the intent keeps the id of. -/
structure PaidEvent (P : Platform) (db : Database) (row : PaymentIntent) (d : Delivery) (text : String)
    (payload : Json) : Prop where
  stored : db.intents.find row.id = some row
  pending : row.status = .pending
  gateway : P.toUpperCase d.gatewayParam = row.gateway.text
  signed : ∃ signature, (d.signature row.gateway.text).filter (· ≠ "") = some signature ∧
    verifyWebhookSignature row.gateway d.rawBody signature = true
  parsed : d.rawBody.parse = .ok payload
  named : eventIdOf row.gateway.text payload = .ok (some (.str text))
  paid : ∃ gatewayPaymentId, row.gatewayPaymentId = some gatewayPaymentId ∧
    paymentIntentIdOf row.gateway.text payload = .ok (some (.str gatewayPaymentId))
  fresh : db.events.find text = none

/-- Recorded against exactly one intent, which alone is captured, and answered with 200. -/
def RecordedAgainst (row : PaymentIntent) (text : String) (payload : Json) (before : World)
    (o : Outcome Op.Answer World (Except JsError WebhookReply)) : Prop :=
  o.value = .ok ⟨200, true⟩ ∧
  o.world.db.events.rows = before.db.events.rows ++ [⟨row.id, text, payload⟩] ∧
  ∀ id, o.world.db.intents.find id =
    if id = row.id then some { row with status := .captured } else before.db.intents.find id

/-- The checks let the event of a payment pass. -/
theorem PaidEvent.passed {P : Platform} {db : Database} {row : PaymentIntent} {d : Delivery} {text : String}
    {payload : Json} (event : PaidEvent P db row d text payload) :
    inboundEvent P d = .ok ⟨row.gatewayPaymentId.map .str, some (.str text), payload⟩ := by
  obtain ⟨signature, given, verified⟩ := event.signed
  obtain ⟨gatewayPaymentId, kept, paid⟩ := event.paid
  simp only [inboundEvent, event.gateway, getProvider_text, given, verified, event.parsed, event.named, paid, kept,
    bind, Except.bind, if_true]
  rfl

/-- The event of a payment reaches the intent it was made for if and only if
the gateway's id of the payment happens to be the intent's own uuid. -/
theorem webhook_target_iff {P : Platform} {env : Op → Env} {w : World} {row : PaymentIntent} {d : Delivery}
    {text : String} {payload : Json} (event : PaidEvent P w.db row d text payload)
    (calm : ∀ op, (env op).fails = false) :
    RecordedAgainst row text payload w ((handleIncomingWebhook P d).run (perform P) env w) ↔
      row.gatewayPaymentId.bind P.readUuid = some row.id := by
  obtain ⟨gatewayPaymentId, kept, _⟩ := event.paid
  have passed := event.passed
  rw [kept, Option.map_some] at passed
  rw [kept, Option.bind_some]
  let op : Op := .query (.recordEvent (some (.str gatewayPaymentId)) (some (.str text)) payload)
  constructor
  · rintro ⟨_, rows, _⟩
    cases ran : recordEventTx P (some (.str gatewayPaymentId)) (some (.str text)) payload w.db with
    | error cause =>
      have refused : (perform P (env op) op w).1 = .error (cause.thrown (env op).message) := by
        simp only [op, perform, calm, Bool.false_eq_true, if_false, Query.exec, ran]
      obtain ⟨_, same⟩ := handle_refused passed refused
      rw [same] at rows
      have longer := congrArg List.length rows
      simp only [List.length_append, List.length_singleton] at longer
      omega
    | ok pair =>
      obtain ⟨found, db⟩ := pair
      obtain ⟨_, _, id, _, same, named, read, _, _, _, _, grown, _⟩ := recordEventTx_ok ran
      cases same
      cases named
      have committed : perform P (env op) op w = (.ok found, { w with db }) := by
        simp only [op, perform, calm, Bool.false_eq_true, if_false, Query.exec, ran]
      obtain ⟨url, secret, after, _⟩ := handle_committed passed (congrArg Prod.fst committed)
      rw [after, congrArg Prod.snd committed] at rows
      have last := List.append_cancel_left (grown.symm.trans rows)
      have same : id = row.id := by
        cases List.head_eq_of_cons_eq last
        rfl
      rw [read, same]
  · intro read
    obtain ⟨db, ran⟩ := recordEventTx_fresh read event.stored event.fresh payload
    obtain ⟨_, _, id, _, same, named, read', _, _, _, intents, grown, _⟩ := recordEventTx_ok ran
    cases same
    cases named
    cases read.symm.trans read'
    have committed : perform P (env op) op w = (.ok { row with status := .captured }, { w with db }) := by
      simp only [op, perform, calm, Bool.false_eq_true, if_false, Query.exec, ran]
    obtain ⟨url, secret, after, _, sent⟩ := handle_committed passed (congrArg Prod.fst committed)
    refine ⟨(sent (calm _)).1, ?_, ?_⟩
    · rw [after, congrArg Prod.snd committed]
      exact grown
    · intro id
      rw [after, congrArg Prod.snd committed]
      simp only [intents, Database.setStatus_find]
      by_cases mine : id = row.id
      · rw [if_pos mine, if_pos mine, mine, event.stored]
        rfl
      · rw [if_neg mine, if_neg mine]

/-- The body of a Stripe event about a payment. -/
def stripePayload (eventId objectId : String) : Json :=
  .obj [("id", .str eventId), ("data", .obj [("object", .obj [("id", .str objectId)])])]

/-- The sample intent with a payment of its own. -/
def paidIntent (gatewayPaymentId : String) : PaymentIntent :=
  { sampleIntent .pending with gatewayPaymentId := some gatewayPaymentId }

def paidWorld (gatewayPaymentId : String) : World := ⟨singleIntent (paidIntent gatewayPaymentId) rfl, []⟩

theorem samplePaidEvent (gatewayPaymentId : String) :
    PaidEvent plainPlatform (paidWorld gatewayPaymentId).db (paidIntent gatewayPaymentId)
      (sampleDelivery "evt_1" gatewayPaymentId) "evt_1" (stripePayload "evt_1" gatewayPaymentId) where
  stored := Table.find_mem (List.mem_singleton_self _)
  pending := rfl
  gateway := rfl
  signed := ⟨"valid-stripe-signature", rfl, rfl⟩
  parsed := rfl
  named := rfl
  paid := ⟨gatewayPaymentId, rfl, rfl⟩
  fresh := rfl

/-- The event arrives where the gateway calls the payment by the intent's uuid. -/
theorem webhook_target_sample :
    let own := (sampleIntent .pending).id.text
    RecordedAgainst (paidIntent own) "evt_1" (stripePayload "evt_1" own) (paidWorld own)
      ((handleIncomingWebhook plainPlatform (sampleDelivery "evt_1" own)).run (perform plainPlatform)
        (fun _ => calmEnv) (paidWorld own)) := by
  intro own
  refine (webhook_target_iff (samplePaidEvent own) fun _ => rfl).mpr ?_
  decide +kernel

/-- An event about a payment by the id Stripe gave it finds no intent. -/
theorem webhook_misses_intent :
    ¬ ∀ (P : Platform) (env : Op → Env) (w : World) (row : PaymentIntent) (d : Delivery) (text : String) (payload : Json),
      PaidEvent P w.db row d text payload → (∀ op, (env op).fails = false) →
        RecordedAgainst row text payload w ((handleIncomingWebhook P d).run (perform P) env w) := by
  intro always
  have recorded := always plainPlatform (fun _ => calmEnv) _ _ _ _ _ (samplePaidEvent "pi_stripe_1755000000000")
    fun _ => rfl
  have answered : ((handleIncomingWebhook plainPlatform (sampleDelivery "evt_1" "pi_stripe_1755000000000")).run
      (perform plainPlatform) (fun _ => calmEnv) (paidWorld "pi_stripe_1755000000000")).value.toOption =
        some ⟨500, false⟩ := by decide +kernel
  rw [recorded.1] at answered
  cases answered

end PayBridge
