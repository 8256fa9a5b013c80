import PayBridge.GatewayTraffic
import PayBridge.ReconcileRun

namespace PayBridge
open Store Await

/-- A correctly signed new event of an intent's gateway, whose payload reports
an outcome of the pending payment. How a payload reports is left open: the
handler does not read it. -/
structure FreshReport (P : Platform) (reports : Json → Option GatewayPaymentStatus) (db : Database) (row : PaymentIntent)
    (d : Delivery) (event : InboundEvent) (gatewayPaymentId : String) (outcome : GatewayPaymentStatus) : Prop where
  stored : db.intents.find row.id = some row
  pending : row.status = .pending
  known : row.gatewayPaymentId.filter (· ≠ "") = some gatewayPaymentId
  signed : d.gateway P = some row.gateway
  passed : inboundEvent P d = .ok event
  reported : reports event.payload = some outcome
  fresh : ∃ text, event.providerEventId = some (.str text) ∧ db.events.find text = none

/-- The object of an event is an intent by its own id. -/
def InboundEvent.Names (P : Platform) (event : InboundEvent) (id : Uuid) : Prop :=
  ∃ idText, event.paymentIntentId = some (.str idText) ∧ P.readUuid idText = some id

/-- Two states agree on the status of an intent and on the notices about it. -/
structure AgreeOn (id : Uuid) (left right : World) : Prop where
  status : (left.db.intents.find id).map (fun intent => intent.status) = (right.db.intents.find id).map fun intent => intent.status
  notices : noticesOf left.queue id = noticesOf right.queue id

section
variable {P : Platform} {reports : Json → Option GatewayPaymentStatus} {w : World} {row : PaymentIntent} {d : Delivery}
variable {event : InboundEvent} {gatewayPaymentId : String} {outcome : GatewayPaymentStatus} {env : Op → Env}

/-- An event that names its intent captures it and says so, whatever it reports. -/
theorem webhook_named (report : FreshReport P reports w.db row d event gatewayPaymentId outcome)
    (calm : ∀ op, (env op).fails = false) (names : event.Names P row.id) :
    let o := (handleIncomingWebhook P d).run (perform P) env w
    o.world.db.intents.find row.id = some { row with status := .captured } ∧
      noticesOf o.world.queue row.id = noticesOf w.queue row.id ++ [.paymentSucceeded] := by
  obtain ⟨idText, paid, read⟩ := names
  obtain ⟨text, named, fresh⟩ := report.fresh
  obtain ⟨committed, changed⟩ := transaction_fresh (calm (.query event.transaction)) paid named read report.stored fresh
  obtain ⟨url, secret, db, _, sent⟩ := handle_committed report.passed committed
  obtain ⟨_, queue⟩ := sent (calm _)
  intro o
  constructor
  · rw [db, changed.updated]
    show (w.db.setStatus row.id .captured).intents.find row.id = _
    rw [Database.setStatus_find, if_pos rfl, report.stored]
    rfl
  · rw [queue, changed.enqueued, List.append_nil, noticesOf_append]
    congr 1
    exact if_pos rfl

/-- An event that does not name the intent leaves it alone. -/
theorem webhook_unnamed (passed : inboundEvent P d = .ok event) (calm : ∀ op, (env op).fails = false) {id : Uuid}
    (unnamed : ¬ event.Names P id) :
    let o := (handleIncomingWebhook P d).run (perform P) env w
    o.world.db.intents.find id = w.db.intents.find id ∧ noticesOf o.world.queue id = noticesOf w.queue id := by
  intro o
  cases ran : recordEventTx P event.paymentIntentId event.providerEventId event.payload w.db with
  | error cause =>
    obtain ⟨_, same⟩ := handle_refused passed (congrArg Prod.fst (transaction_refused (calm (.query event.transaction)) ran))
    rw [show o.world = w from same]
    exact ⟨rfl, rfl⟩
  | ok pair =>
    obtain ⟨found, db⟩ := pair
    obtain ⟨idText, text, other, intent, paid, _, read, known, _, rfl, intents, _⟩ := recordEventTx_ok ran
    have committed : perform P (env (.query event.transaction)) (.query event.transaction) w =
        (.ok { intent with status := .captured }, { w with db }) := by
      simp only [perform, calm, Bool.false_eq_true, if_false, Query.exec, ran]
    obtain ⟨url, secret, after, _, sent⟩ := handle_committed passed (congrArg Prod.fst committed)
    obtain ⟨_, queue⟩ := sent (calm _)
    have apart : other ≠ id := by
      rintro rfl
      exact unnamed ⟨idText, paid, read⟩
    have key : intent.id = other := Table.find_key known
    constructor
    · rw [show o.world.db = _ from after, congrArg Prod.snd committed]
      simp only [intents, Database.setStatus_find, if_neg (Ne.symm apart)]
    · rw [show o.world.queue = _ from queue, congrArg Prod.snd committed, noticesOf_append]
      have foreign : ¬ intent.id = id := fun same => apart (key.symm.trans same)
      simp only [foreign, if_false, List.append_nil]

/-- A webhook and a reconciliation learn the same of a payment exactly when the
event names its intent and the payment is captured, or the event misses the
intent and the gateway reports nothing that would settle it. -/
theorem outcomes_agree_iff (report : FreshReport P reports w.db row d event gatewayPaymentId outcome)
    (calm : ∀ op, (env op).fails = false) {checks : Nat → Op → Env}
    (answers : Reports checks row.gateway gatewayPaymentId outcome) {cutoff : Timestamp}
    (cut : cutoffDate P (checks 0 .now).now = some cutoff) (stale : row.createdAt ≤ cutoff) :
    AgreeOn row.id ((handleIncomingWebhook P d).run (perform P) env w).world
        (Async.play (perform P) checks (reconcileStaleIntents P) [] w).world ↔
      event.Names P row.id ∧ outcome = .captured ∨
        ¬ event.Names P row.id ∧ outcome ≠ .captured ∧ outcome ≠ .failed := by
  have member : row ∈ w.db.staleIntents cutoff := by
    refine List.mem_filter.mpr ⟨(Table.find_some.mp report.stored).1, ?_⟩
    simp [report.pending, stale]
  have distinct : ((w.db.staleIntents cutoff).map PaymentIntent.id).Nodup :=
    w.db.intents.distinct.sublist (List.filter_sublist.map PaymentIntent.id)
  have spared := answers.calm 1 (.query (.findStaleIntents cutoff)) fun _ _ same => by cases same
  rw [play_reconcile P checks w cut spared]
  have unread : Updates [⟨.now, (checks 2 .now).now⟩, ⟨.query (.findStaleIntents cutoff), .ok (w.db.staleIntents cutoff)⟩,
      ⟨.now, (checks 0 .now).now⟩] := by
    intro _ _ _ listed
    simp at listed
  obtain ⟨find, notices⟩ := loop_settles P checks w _ answers report.known report.stored distinct member
    ⟨(w.db.staleIntents cutoff).length, 0, 0, 0, [], (checks 2 .now).now⟩ unread
  generalize (Async.play (perform P) checks (reconcileAll P (w.db.staleIntents cutoff) _) _ w).world = reconciled
    at find notices ⊢
  by_cases names : event.Names P row.id
  · obtain ⟨find', notices'⟩ := webhook_named report calm names
    simp only [names, true_and, not_true_eq_false, false_and, or_false]
    constructor
    · rintro ⟨status, _⟩
      rw [find, find', report.pending] at status
      cases outcome with
      | captured => rfl
      | _ => cases status
    · rintro rfl
      exact ⟨by rw [find, find']; rfl, notices'.trans notices.symm⟩
  · obtain ⟨find', notices'⟩ := webhook_unnamed (w := w) report.passed calm names
    simp only [names, false_and, not_false_eq_true, true_and, false_or]
    constructor
    · rintro ⟨_, same⟩
      rw [notices', notices] at same
      have none : outcome.notices = [] := List.append_right_eq_self.mp same.symm
      constructor
      · rintro rfl
        cases none
      · rintro rfl
        cases none
    · rintro ⟨uncaptured, unfailed⟩
      have idle : outcome.notices = [] ∧ outcome.settles row.status = row.status := by
        cases outcome with
        | captured => exact absurd rfl uncaptured
        | failed => exact absurd rfl unfailed
        | _ => exact ⟨rfl, rfl⟩
      refine ⟨by rw [find, find', report.stored, idle.2], ?_⟩
      rw [notices', notices, idle.1, List.append_nil]

end

/-- A Stripe event about the sample intent, with its type. -/
def typedPayload (type : String) : Json :=
  .obj [("id", .str "evt_1"), ("type", .str type), ("data", .obj [("object", .obj [("id", .str (sampleIntent .pending).id.text)])])]

def typedDelivery (type : String) : Delivery where
  gatewayParam := "stripe"
  headers := [("stripe-signature", "valid-stripe-signature")]
  rawBody := .json (typedPayload type)

/-- A platform for these runs, whose `toUpperCase` knows the name of Stripe. -/
def stripePlatform : Platform := { plainPlatform with toUpperCase := fun text => if text = "stripe" then "STRIPE" else text }

/-- What Stripe's event type says of a payment. -/
def eventType (payload : Json) : Option GatewayPaymentStatus :=
  match (JsValue.get (some payload) "type").toOption with
  | some (some (.str "payment_intent.succeeded")) => some .captured
  | some (some (.str "payment_intent.payment_failed")) => some .failed
  | some (some (.str "payment_intent.processing")) => some .pending
  | _ => none

/-- An environment without failures in which every payment has one outcome. -/
def outcomeEnv (outcome : GatewayPaymentStatus) : Env := { calmEnv with status := outcome }

theorem outcomeEnv_reports (outcome : GatewayPaymentStatus) (gateway : GatewayProvider) (gatewayPaymentId : String) :
    Reports (fun _ _ => outcomeEnv outcome) gateway gatewayPaymentId outcome :=
  ⟨fun _ _ _ => rfl, fun _ => ⟨rfl, rfl⟩⟩

theorem typedReport {type : String} {outcome : GatewayPaymentStatus} (reported : eventType (typedPayload type) = some outcome) :
    FreshReport stripePlatform eventType (sampleDatabase .pending) (sampleIntent .pending) (typedDelivery type)
      ⟨some (.str (sampleIntent .pending).id.text), some (.str "evt_1"), typedPayload type⟩ "pi_stripe_1755000000000" outcome where
  stored := Table.find_mem (List.mem_singleton_self _)
  pending := rfl
  known := rfl
  signed := rfl
  passed := rfl
  reported := reported
  fresh := ⟨"evt_1", rfl, rfl⟩

/-- A payment that has succeeded. -/
theorem outcomes_agree_sample :
    AgreeOn (sampleIntent .pending).id
      ((handleIncomingWebhook stripePlatform (typedDelivery "payment_intent.succeeded")).run (perform stripePlatform)
        (fun _ => calmEnv) ⟨sampleDatabase .pending, []⟩).world
      (Async.play (perform stripePlatform) (fun _ _ => outcomeEnv .captured) (reconcileStaleIntents stripePlatform) []
        ⟨sampleDatabase .pending, []⟩).world := by
  have captured : eventType (typedPayload "payment_intent.succeeded") = some .captured := by decide +kernel
  have names : InboundEvent.Names stripePlatform
      ⟨some (.str (sampleIntent .pending).id.text), some (.str "evt_1"), typedPayload "payment_intent.succeeded"⟩
      (sampleIntent .pending).id := ⟨_, rfl, by decide +kernel⟩
  have cut : cutoffDate stripePlatform ((fun _ _ => outcomeEnv .captured : Nat → Op → Env) 0 .now).now = some 99100000 := by
    decide +kernel
  exact (outcomes_agree_iff (typedReport captured) (fun _ => rfl) (outcomeEnv_reports .captured _ _) cut
    (by decide)).mpr (Or.inl ⟨names, rfl⟩)

/-- A payment that has failed: the webhook captures its intent and tells the
merchant so, reconciliation fails it. -/
theorem failed_payment_captured :
    ¬ ∀ (P : Platform) (reports : Json → Option GatewayPaymentStatus) (w : World) (row : PaymentIntent) (d : Delivery)
      (event : InboundEvent) (gatewayPaymentId : String) (outcome : GatewayPaymentStatus) (env : Op → Env)
      (checks : Nat → Op → Env) (cutoff : Timestamp), FreshReport P reports w.db row d event gatewayPaymentId outcome →
      (∀ op, (env op).fails = false) → Reports checks row.gateway gatewayPaymentId outcome →
      cutoffDate P (checks 0 .now).now = some cutoff → row.createdAt ≤ cutoff →
      AgreeOn row.id ((handleIncomingWebhook P d).run (perform P) env w).world
        (Async.play (perform P) checks (reconcileStaleIntents P) [] w).world := by
  intro always
  have agree := always stripePlatform eventType ⟨sampleDatabase .pending, []⟩ _ (typedDelivery "payment_intent.payment_failed")
    _ _ .failed (fun _ => calmEnv) (fun _ _ => outcomeEnv .failed) 99100000 (typedReport (by decide +kernel)) (fun _ => rfl)
    (outcomeEnv_reports .failed _ _) (by decide +kernel) (by decide)
  have captured : (((handleIncomingWebhook stripePlatform (typedDelivery "payment_intent.payment_failed")).run
      (perform stripePlatform) (fun _ => calmEnv) ⟨sampleDatabase .pending, []⟩).world.db.intents.find
        (sampleIntent .pending).id).map (fun intent => intent.status) = some .captured := by decide +kernel
  have failed : ((Async.play (perform stripePlatform) (fun _ _ => outcomeEnv .failed) (reconcileStaleIntents stripePlatform) []
      ⟨sampleDatabase .pending, []⟩).world.db.intents.find (sampleIntent .pending).id).map (fun intent => intent.status) =
        some .failed := by decide +kernel
  have same := captured.symm.trans (agree.status.trans failed)
  cases same

end PayBridge
