import PayBridge.Await.History
import PayBridge.Numeric.Binary64
import PayBridge.Refunds
import PayBridge.Reconciliation

namespace PayBridge
open Store Await

/-- What the service is asked to do: inbound webhooks, reconciliation runs
(scheduled or triggered) and refunds. -/
inductive Request
  | webhook (d : Delivery)
  | reconcile
  | refund (paymentIntentId : String) (dto : CreateRefundDto) (merchantId : Uuid)

inductive Reply
  | webhook (reply : WebhookReply)
  | reconciled (summary : ReconciliationSummary)
  | refunded (response : RefundResponse)

def handle (P : Platform) : Request → Promise Reply
  | .webhook d => do
    let reply ← handleIncomingWebhook P d
    return .webhook reply
  | .reconcile => do
    let summary ← reconcileStaleIntents P
    return .reconciled summary
  | .refund paymentIntentId dto merchantId => do
    let response ← processRefund P paymentIntentId dto merchantId
    return .refunded response

/-- Any number of requests at once over one database and one queue. -/
def payments (P : Platform) : System Op Op.Answer World Env Request (Except JsError Reply) where
  perform := perform P
  start request := ExceptT.run (handle P request)

abbrev Service := Pool Op Op.Answer World Request (Except JsError Reply)
abbrev Step := Event Request Env

/-- What each request asks along the way. -/
def Course (P : Platform) : Request → History Op.Answer → Op → Prop
  | .webhook d => WebhookCourse P d
  | .reconcile => ReconcileCourse
  | .refund paymentIntentId dto merchantId => RefundCourse P paymentIntentId dto merchantId

/-- What each request has seen when it ends. -/
def Ended (P : Platform) : Request → History Op.Answer → Except JsError Reply → Prop
  | .webhook d, seen, .ok (.webhook reply) => WebhookAnswered P d seen reply
  | .refund paymentIntentId dto merchantId, seen, _ => RefundSettled P paymentIntentId dto merchantId seen
  | _, _, _ => True

theorem payments_course (P : Platform) (request : Request) :
    ((payments P).start request).Obeys (Course P request) (Ended P request) [] := by
  have course : Async.Obeys (Course P request) (fun seen reply => Ended P request seen (.ok reply))
      (fun seen err => Ended P request seen (.error err)) (handle P request) [] := by
    cases request with
    | webhook d =>
      exact (Async.obeys_bind _ _ _).mpr (Async.Obeys.mono (fun _ _ asks => asks) (fun _ _ ends => ends)
        (fun _ _ _ => trivial) (handleIncomingWebhook_course P d))
    | reconcile =>
      exact (Async.obeys_bind _ _ _).mpr (Async.Obeys.mono (fun _ _ asks => asks) (fun _ _ _ => trivial)
        (fun _ _ _ => trivial) (reconcileStaleIntents_course P))
    | refund paymentIntentId dto merchantId =>
      exact (Async.obeys_bind _ _ _).mpr (processRefund_course P paymentIntentId dto merchantId)
  refine Prog.Obeys.mono (fun _ _ asks => asks) ?_ course
  rintro seen (err | reply) ends <;> exact ends

/-- No request creates an intent. -/
theorem Course.no_intent {P : Platform} {request : Request} {seen : History Op.Answer} {data : NewIntent}
    (course : Course P request seen (.query (.createIntent data))) : False := by
  cases request with
  | webhook d => cases course
  | reconcile => cases course
  | refund paymentIntentId dto merchantId =>
    cases course with
    | report _ shape =>
      rcases shape with ⟨id, same⟩ | ⟨url, secret, same⟩ <;> cases same

/-- The statuses that webhooks and reconciliation write. -/
theorem Course.sets {P : Platform} {request : Request} {seen : History Op.Answer} {id : Uuid} {status : PaymentStatus}
    (course : Course P request seen (.query (.updateIntent id status))) : status = .captured ∨ status = .failed := by
  cases request with
  | webhook d => cases course
  | reconcile => cases course with
    | write _ settles => exact settles
  | refund paymentIntentId dto merchantId =>
    cases course with
    | report _ shape => rcases shape with ⟨id, same⟩ | ⟨url, secret, same⟩ <;> cases same

/-- Everything an operation can answer and do to the shared world. -/
inductive Performed (P : Platform) (env : Env) (w : World) : (op : Op) → op.Answer → World → Prop
  | refused {q : Query} {cause : DbError} :
      env.fails = true ∧ cause = .unavailable ∨ env.fails = false ∧ q.exec P env w.db = .error cause →
      Performed P env w (.query q) (.error (cause.thrown env.message)) w
  | readIntent {text : String} {id : Uuid} : P.readUuid text = some id →
      Performed P env w (.query (.findIntent text))
        (.ok ((w.db.intents.find id).map fun intent => ⟨intent, w.db.refundsOf id⟩)) w
  | readStale {cutoff : Timestamp} :
      Performed P env w (.query (.findStaleIntents cutoff))
        (.ok (w.db.intents.rows.filter fun intent => intent.status = .pending ∧ intent.createdAt ≤ cutoff)) w
  | readMerchant {id : Uuid} : Performed P env w (.query (.findMerchant id)) (.ok (w.db.merchants.find id)) w
  | updated {id : Uuid} {status : PaymentStatus} {intent : PaymentIntent} :
      env.fails = false → w.db.intents.find id = some intent →
      Performed P env w (.query (.updateIntent id status)) (.ok { intent with status })
        { w with db := w.db.setStatus id status }
  | recorded {idText text : String} {payload : Json} {id : Uuid} {intent : PaymentIntent} {db : Database} :
      env.fails = false → P.readUuid idText = some id → w.db.intents.find id = some intent →
      w.db.events.find text = none → db.intents = (w.db.setStatus id .captured).intents →
      db.events.rows = w.db.events.rows ++ [⟨id, text, payload⟩] → db.refunds = w.db.refunds →
      Performed P env w (.query (.recordEvent (some (.str idText)) (some (.str text)) payload))
        (.ok { intent with status := .captured }) { w with db }
  | refunded {data : NewRefund} {markRefunded : Bool} {amount : Decimal} {intent : PaymentIntent} {row : Refund}
      {db : Database} : env.fails = false → Decimal.ofNumber data.amount = some amount →
      row = ⟨env.id, data.paymentIntentId, amount, data.reason, data.status, some data.gatewayRefundId⟩ →
      w.db.intents.find data.paymentIntentId = some intent → db.refunds.rows = w.db.refunds.rows ++ [row] →
      db.events = w.db.events →
      db.intents = (if markRefunded then (w.db.setStatus data.paymentIntentId .refunded).intents else w.db.intents) →
      Performed P env w (.query (.recordRefund data markRefunded)) (.ok row) { w with db }
  | unqueued {event : OutboundEventType} {data : PaymentIntentData} {url secret : String} : env.fails = true →
      Performed P env w (.enqueue event data url secret) (.error ⟨.other, env.message⟩) w
  | enqueued {event : OutboundEventType} {data : PaymentIntentData} {url secret : String} : env.fails = false →
      Performed P env w (.enqueue event data url secret) (.ok ())
        { w with queue := w.queue ++ [⟨data.id, url, secret, ⟨"evt_" ++ env.id.text, event, env.now, data⟩⟩] }
  | inquired {gateway : GatewayProvider} {gatewayPaymentId : String} {answer : Except JsError GatewayPaymentStatus} :
      answer = (if env.fails then .error ⟨.other, env.message⟩ else .ok env.status) →
      Performed P env w (.fetchPaymentStatus gateway gatewayPaymentId) answer w
  | paidBack {gateway : GatewayProvider} {gatewayPaymentId : String} {amount : ℚ} {currency : String}
      {reason : JsOptional String} {answer : Except JsError RefundResult} :
      answer = (if env.fails then .error ⟨.other, env.message⟩ else .ok env.refund) →
      Performed P env w (.refund gateway gatewayPaymentId amount currency reason) answer w
  | fired {gateway : GatewayProvider} {amount : ℚ} {currency reference : String}
      {answer : Except BreakerError PaymentIntentResult} :
      answer = (if env.breakerOpen then .error .opened
        else if env.fails then .error (.failed ⟨.other, env.message⟩) else .ok env.created) →
      Performed P env w (.fireCreateIntent gateway amount currency reference) answer w
  | timed : Performed P env w .now env.now w

theorem performed_query {P : Platform} {env : Env} {q : Query} {w : World} {result : q.Result} {db : Database}
    (spared : env.fails = false) (ran : q.exec P env w.db = .ok (result, db)) (old : ∀ data, q ≠ .createIntent data) :
    Performed P env w (.query q) (.ok result) { w with db } := by
  cases q with
  | findIntent text =>
    simp only [Query.exec] at ran
    cases named : P.readId text with
    | error err => rw [named] at ran; cases ran
    | ok id =>
      rw [named] at ran
      cases ran
      exact .readIntent (readId_ok.mp named)
  | findStaleIntents cutoff => cases ran; exact .readStale
  | findMerchant id => cases ran; exact .readMerchant
  | updateIntent id status =>
    obtain ⟨intent, found, rfl, rfl⟩ := paymentIntentUpdate_ok ran
    exact .updated spared found
  | recordEvent paymentIntentId providerEventId payload =>
    obtain ⟨idText, text, id, intent, rfl, rfl, named, found, fresh, rfl, intents, rows, refunds, _⟩ := recordEventTx_ok ran
    exact .recorded spared named found fresh intents rows refunds
  | recordRefund data markRefunded =>
    obtain ⟨amount, intent, stored, row, found, rows, events, _, intents⟩ := recordRefundTx_ok ran
    exact .refunded spared stored row found rows events intents
  | createIntent data => exact absurd rfl (old data)

theorem performed (P : Platform) (env : Env) {op : Op} (w : World) (old : ∀ data, op ≠ .query (.createIntent data)) :
    Performed P env w op (perform P env op w).1 (perform P env op w).2 := by
  cases op with
  | query q =>
    by_cases fails : env.fails = true
    · simp only [perform, fails, if_true]
      exact .refused (Or.inl ⟨fails, rfl⟩)
    · have spared : env.fails = false := by simpa using fails
      cases ran : q.exec P env w.db with
      | error err =>
        simp only [perform, spared, Bool.false_eq_true, if_false, ran]
        exact .refused (Or.inr ⟨spared, ran⟩)
      | ok pair =>
        simp only [perform, spared, Bool.false_eq_true, if_false, ran]
        exact performed_query spared ran fun data same => old data (by rw [same])
  | enqueue event data url secret =>
    by_cases fails : env.fails = true
    · simp only [perform, fails, if_true]
      exact .unqueued fails
    · have spared : env.fails = false := by simpa using fails
      simp only [perform, spared, Bool.false_eq_true, if_false]
      exact .enqueued spared
  | fetchPaymentStatus gateway gatewayPaymentId => exact .inquired rfl
  | refund gateway gatewayPaymentId amount currency reason => exact .paidBack rfl
  | fireCreateIntent gateway amount currency reference => exact .fired rfl
  | now => exact .timed

/-- What a request on its course does, which creates no intent. -/
theorem Course.performed {P : Platform} {request : Request} {seen : History Op.Answer} {op : Op}
    (course : Course P request seen op) (env : Env) (w : World) :
    Performed P env w op (perform P env op w).1 (perform P env op w).2 := by
  refine PayBridge.performed P env w ?_
  rintro data rfl
  exact course.no_intent

/-- The stored intent apart from its status. -/
def Database.paymentOf (db : Database) (id : Uuid) : Option PaymentIntent :=
  (db.intents.find id).map fun intent => { intent with status := .captured }

theorem setStatus_paymentOf {db db' : Database} {id : Uuid} {status : PaymentStatus}
    (set : db'.intents = (db.setStatus id status).intents) (j : Uuid) : db'.paymentOf j = db.paymentOf j := by
  unfold Database.paymentOf
  rw [set, Database.setStatus_find]
  split
  · rw [Option.map_map]
    rfl
  · rfl

/-- No operation of the service changes an intent but for its status. -/
theorem performed_paymentOf {P : Platform} {env : Env} {op : Op} {answer : op.Answer} {before after : World}
    (did : Performed P env before op answer after) (id : Uuid) : after.db.paymentOf id = before.db.paymentOf id := by
  cases did with
  | updated spared found => exact setStatus_paymentOf rfl id
  | recorded spared named found fresh intents rows refunds => exact setStatus_paymentOf intents id
  | @refunded data markRefunded amount intent row db spared stored rowIs found rows events intents =>
    cases markRefunded with
    | false =>
      have same : db.intents = before.db.intents := intents
      simp only [Database.paymentOf, same]
    | true => exact setStatus_paymentOf intents id
  | _ => rfl

/-- The induction over a run of the service: one request more, or one
operation of a request on its course. -/
theorem service_steps {P : Platform} {meets : Service → Step → Prop} {world : World}
    {motive : (s : Service) → Reach (payments P) meets world s → Prop} (initial : motive _ .start)
    (spawn : ∀ s request (before : Reach (payments P) meets world s), meets s (.spawn request) → motive s before →
      ∀ after, motive { s with threads := s.threads ++ [⟨request, (payments P).start request⟩] } after)
    (advance : ∀ s i env request op next answer w (before : Reach (payments P) meets world s),
      meets s (.advance i env) → s.threads[i]? = some ⟨request, .await op next⟩ →
      Course P request (own i s.log) op → Performed P env s.world op answer w → motive s before →
      ∀ after, motive ⟨w, s.threads.set i ⟨request, next answer⟩, (i, ⟨op, answer⟩) :: s.log⟩ after)
    {s : Service} (reach : Reach (payments P) meets world s) : motive s reach := by
  refine Await.Reach.asked_steps (payments_course P) initial spawn ?_ reach
  intro s i env request op next before met stands course ih after
  exact advance s i env request op next _ _ before met stands course (course.performed env s.world) ih after

/-- What letting one request run does: nothing when it does not wait, and
otherwise the operation it stands at. -/
theorem advance_cases {P : Platform} {meets : Service → Step → Prop} {world : World} {s : Service}
    (reach : Reach (payments P) meets world s) (i : Nat) (env : Env) :
    (∀ t, s.threads[i]? = some t → t.prog.waiting = none) ∧ s.step (payments P) (.advance i env) = s ∨
      ∃ request op next answer w, s.threads[i]? = some ⟨request, .await op next⟩ ∧
        Course P request (own i s.log) op ∧ Performed P env s.world op answer w ∧
        s.step (payments P) (.advance i env) =
          ⟨w, s.threads.set i ⟨request, next answer⟩, (i, ⟨op, answer⟩) :: s.log⟩ := by
  cases standing : s.threads[i]? with
  | none =>
    left
    refine ⟨fun t impossible => ?_, by simp only [Pool.step, standing]⟩
    cases impossible
  | some thread =>
    obtain ⟨request, prog⟩ := thread
    cases prog with
    | done reply =>
      left
      refine ⟨fun t atI => ?_, by simp only [Pool.step, standing]⟩
      cases atI
      rfl
    | await op next =>
      right
      have course := (reach.obeys (payments_course P) standing).1
      exact ⟨request, op, next, _, _, rfl, course, course.performed env s.world, Pool.step_advance (payments P) standing env⟩

/-- The queries of webhooks and reconciliation that would go through on these
tables, with the row they find and the status they set. -/
inductive Writes (P : Platform) (db : Database) : Query → PaymentIntent → PaymentStatus → Prop
  | event {idText text : String} {payload : Json} {id : Uuid} {intent : PaymentIntent} :
      P.readUuid idText = some id → db.intents.find id = some intent → db.events.find text = none →
      Writes P db (.recordEvent (some (.str idText)) (some (.str text)) payload) intent .captured
  | update {id : Uuid} {status : PaymentStatus} {intent : PaymentIntent} :
      db.intents.find id = some intent → Writes P db (.updateIntent id status) intent status

/-- Such a query is not refused. -/
theorem Writes.goes_through {P : Platform} {db : Database} {q : Query} {intent : PaymentIntent}
    {status : PaymentStatus} (writes : Writes P db q intent status) (env : Env) : ∃ pair, q.exec P env db = .ok pair := by
  cases writes with
  | event named found fresh =>
    obtain ⟨db', ran⟩ := recordEventTx_fresh named found fresh _
    exact ⟨_, ran⟩
  | update found => exact ⟨_, paymentIntentUpdate_known found status⟩

/-- The step lets no status write of a webhook or of reconciliation through
but allowed ones. A query struck by a failure writes nothing. -/
def WritesOnly (P : Platform) (allowed : PaymentIntent → PaymentStatus → Prop) (s : Service) : Step → Prop
  | .spawn _ => True
  | .advance i env => ∀ t q intent status, s.threads[i]? = some t → t.prog.waiting = some (.query q) →
      env.fails = false → Writes P s.world.db q intent status → allowed intent status

/-- The row and the status that a query would write. -/
def Query.written (P : Platform) (db : Database) : Query → Option (PaymentIntent × PaymentStatus)
  | .recordEvent (some (.str idText)) (some (.str text)) _ =>
    if (db.events.find text).isNone then ((P.readUuid idText).bind db.intents.find).map fun intent => (intent, .captured) else none
  | .updateIntent id status => (db.intents.find id).map fun intent => (intent, status)
  | _ => none

theorem writes_iff {P : Platform} {db : Database} {q : Query} {intent : PaymentIntent} {status : PaymentStatus} :
    Writes P db q intent status ↔ q.written P db = some (intent, status) := by
  constructor
  · intro writes
    cases writes with
    | event named found fresh => simp [Query.written, named, found, fresh]
    | update found => simp [Query.written, found]
  · intro written
    unfold Query.written at written
    split at written
    · next idText text _ =>
      split at written
      · next fresh =>
        obtain ⟨row, read, same⟩ := Option.map_eq_some_iff.mp written
        obtain ⟨id, named, found⟩ := Option.bind_eq_some_iff.mp read
        cases same
        exact .event named found (Option.isNone_iff_eq_none.mp fresh)
      · cases written
    · obtain ⟨row, found, same⟩ := Option.map_eq_some_iff.mp written
      cases same
      exact .update found
    · cases written

/-- The status that a step would write, with the row that it finds. -/
def written (P : Platform) (s : Service) : Step → Option (PaymentIntent × PaymentStatus)
  | .spawn _ => none
  | .advance i env =>
    match s.threads[i]?.bind fun t => t.prog.waiting with
    | some (.query q) => if env.fails then none else q.written P s.world.db
    | _ => none

theorem writesOnly_iff {P : Platform} {allowed : PaymentIntent → PaymentStatus → Prop} {s : Service} {step : Step} :
    WritesOnly P allowed s step ↔ ∀ pair ∈ written P s step, allowed pair.1 pair.2 := by
  cases step with
  | spawn request => simp [WritesOnly, written]
  | advance i env =>
    constructor
    · rintro only ⟨intent, status⟩ writes
      simp only [written] at writes
      split at writes
      · next q waits =>
        obtain ⟨t, standing, waiting⟩ := Option.bind_eq_some_iff.mp waits
        split at writes
        · cases writes
        · next spared => exact only t q intent status standing waiting (Bool.eq_false_iff.mpr spared) (writes_iff.mpr writes)
      · cases writes
    · intro each t q intent status standing waits spared writes
      have one : written P s (.advance i env) = some (intent, status) := by
        simp [written, standing, waits, spared, writes_iff.mp writes]
      exact each _ one

instance (P : Platform) (allowed : PaymentIntent → PaymentStatus → Prop) [∀ intent status, Decidable (allowed intent status)]
    (s : Service) (step : Step) : Decidable (WritesOnly P allowed s step) :=
  decidable_of_iff _ writesOnly_iff.symm

/-- Whether an entry of the log is a successful enqueue of a certain kind. -/
def sentAs (kind : OutboundEventType → PaymentIntentData → Bool) : (op : Op) × op.Answer → Bool
  | ⟨.enqueue event data _ _, .ok _⟩ => kind event data
  | _ => false

/-- The queue has grown by exactly what the log has sent. -/
theorem queue_count {P : Platform} {meets : Service → Step → Prop} {world : World} {s : Service}
    (kind : OutboundEventType → PaymentIntentData → Bool) (reach : Reach (payments P) meets world s) :
    s.world.queue.countP (fun job => kind job.payload.event job.payload.data) =
      world.queue.countP (fun job => kind job.payload.event job.payload.data) +
        s.log.countP fun entry => sentAs kind entry.2 := by
  induction reach using service_steps with
  | initial => rfl
  | spawn s request _ _ ih _ => exact ih
  | advance s i env request op next answer w _ _ _ _ did ih _ =>
    rw [List.countP_cons, ← Nat.add_assoc, ← ih]
    cases did with
    | enqueued _ =>
      simp only [List.countP_append, List.countP_singleton, sentAs]
      rfl
    | _ => simp [sentAs]

/-- A platform for fixed runs: nothing is rounded, the texts of uuid length are
the uuids, and nothing is configured. -/
def plainPlatform : Platform where
  arithmetic := .exact
  toUpperCase text := text
  readUuid text := if text.length = 36 then some ⟨text⟩ else none
  processEnv := ⟨none, none, none, none⟩

/-- The same with the numbers of the engine. -/
def doublePlatform : Platform := { plainPlatform with arithmetic := Numeric.binary64 }

def sampleMerchant : Merchant :=
  ⟨⟨"7c1f6e0a-52f4-4c0e-9a57-0f2a4d1b8c11"⟩, "Corner Shop", "shop@example.com", none, none, true, 0⟩

/-- An intent over 100.00 at Stripe. -/
def sampleIntent (status : PaymentStatus) : PaymentIntent where
  id := ⟨"2b9d4f60-8e1c-4f7a-b0d3-5a6c7e8f9012"⟩
  reference := "ORD-1"
  amount := ⟨10000, by decide⟩
  currency := "USD"
  status := status
  gateway := .stripe
  gatewayPaymentId := some "pi_stripe_1755000000000"
  customerEmail := "customer@example.com"
  merchantId := sampleMerchant.id
  createdAt := 0

/-- One merchant with one intent, and nothing else yet. -/
def singleIntent (intent : PaymentIntent) (owned : intent.merchantId = sampleMerchant.id) : Database where
  merchants := ⟨[sampleMerchant], List.nodup_singleton _⟩
  intents := ⟨[intent], List.nodup_singleton _⟩
  events := Table.empty
  refunds := Table.empty
  intentMerchant := by
    intro row member
    exact ⟨sampleMerchant, List.mem_singleton_self _, by rw [List.mem_singleton.mp member, owned]⟩
  eventIntent := by
    intro event member
    cases member
  refundIntent := by
    intro refund member
    cases member

def sampleDatabase (status : PaymentStatus) : Database := singleIntent (sampleIntent status) rfl

/-- Merchants with their intents, and nothing else yet. -/
def Database.withoutEvents (merchants : Table Merchant.id) (intents : Table PaymentIntent.id)
    (owned : ∀ intent ∈ intents.rows, ∃ merchant ∈ merchants.rows, merchant.id = intent.merchantId) : Database where
  merchants := merchants
  intents := intents
  events := Table.empty
  refunds := Table.empty
  intentMerchant := owned
  eventIntent := by
    intro event member
    cases member
  refundIntent := by
    intro refund member
    cases member

/-- A step that meets no failure. -/
def calmEnv : Env where
  fails := false
  message := ""
  id := ⟨"d3a1c5e7-0b2f-4d68-8a9c-1e3f5b7d9a02"⟩
  now := 100000000
  status := .captured
  refund := ⟨"re_stripe_1755000000002", .succeeded⟩
  breakerOpen := false
  created := ⟨"pi_stripe_1755000000001", "pi_stripe_1755000000001_secret_mock"⟩

/-- A signed Stripe event about the object under an id. -/
def sampleDelivery (eventId objectId : String) : Delivery where
  gatewayParam := "STRIPE"
  headers := [("stripe-signature", "valid-stripe-signature")]
  rawBody := .json (.obj [("id", .str eventId), ("data", .obj [("object", .obj [("id", .str objectId)])])])

end PayBridge
