import PayBridge.CheckoutRecord

namespace PayBridge
open Store Await

/-- Everything the application does with payments: it opens checkout sessions,
lists the refunds of an intent, and serves the requests that settle payments.
The state of the circuits and the random bytes are what a checkout meets. -/
inductive AppRequest
  | createSession (dto : CreateCheckoutSessionDto) (isAvailable : GatewayProvider → Bool) (randomHex : String) (merchantId : Uuid)
  | getRefunds (paymentIntentId : String) (merchantId : Uuid)
  | payment (request : Request)

inductive AppReply
  | session (session : CheckoutSession)
  | refunds (found : IntentRefunds)
  | payment (reply : Reply)

def AppRequest.handle (P : Platform) (orchestrator : OrchestratorService) : AppRequest → Promise AppReply
  | .createSession dto isAvailable randomHex merchantId => do
    let session ← PayBridge.createSession P orchestrator isAvailable randomHex dto merchantId
    return .session session
  | .getRefunds paymentIntentId merchantId => do
    let found ← getRefundsByIntentId paymentIntentId merchantId
    return .refunds found
  | .payment request => do
    let reply ← PayBridge.handle P request
    return .payment reply

/-- Any number of requests of all kinds at once, over one database and one queue. -/
def app (P : Platform) (orchestrator : OrchestratorService) :
    System Op Op.Answer World Env AppRequest (Except JsError AppReply) where
  perform := perform P
  start request := ExceptT.run (request.handle P orchestrator)

abbrev App := Pool Op Op.Answer World AppRequest (Except JsError AppReply)
abbrev AppStep := Event AppRequest Env

/-- Whatever the orchestrator holds for the failover method hands a checkout on
as it is. A real orchestrator holds nothing. -/
def OrchestratorService.Faithful (orchestrator : OrchestratorService) : Prop :=
  ∀ call, orchestrator.safeCreateIntentWithFallback = some call → Forwards call

theorem OrchestratorService.new_faithful : OrchestratorService.new.Faithful := by
  intro call assigned
  cases assigned

/-- An operation charges a candidate of a checkout that started at a time. -/
abbrev CreateCheckoutSessionDto.charges (P : Platform) (isAvailable : GatewayProvider → Bool) (randomHex : String)
    (dto : CreateCheckoutSessionDto) (now : Timestamp) (op : Op) : Prop :=
  Charges (dto.route P isAvailable).candidates dto.amount dto.currency (orderReference now randomHex) op

/-- Where a checkout stands after what it has seen: it takes the time for its
reference, has candidates charged, and inserts what one of them has accepted. -/
inductive CheckoutCourse (P : Platform) (dto : CreateCheckoutSessionDto) (isAvailable : GatewayProvider → Bool)
    (randomHex : String) (merchantId : Uuid) : History Op.Answer → Op → Prop
  | now : CheckoutCourse P dto isAvailable randomHex merchantId [] .now
  | charge {now seen op} : dto.charges P isAvailable randomHex now op →
      Prog.Since (dto.charges P isAvailable randomHex now) [⟨.now, now⟩] seen →
      CheckoutCourse P dto isAvailable randomHex merchantId seen op
  | store {now seen execution} : Charged dto.amount dto.currency (orderReference now randomHex) seen execution →
      Prog.Since (dto.charges P isAvailable randomHex now) [⟨.now, now⟩] seen →
      CheckoutCourse P dto isAvailable randomHex merchantId seen (dto.insert P (orderReference now randomHex) merchantId execution)

/-- A reconciliation takes the time, scans, and goes through the rounds of the scanned rows. -/
inductive SweepCourse (P : Platform) : History Op.Answer → Op → Prop
  | now {seen} : SweepCourse P seen .now
  | scan {seen cutoff} : SweepCourse P seen (.query (.findStaleIntents cutoff))
  | round {start seen op} {intent : PaymentIntent} : Scanned start intent → RoundCourse P intent start seen op →
      SweepCourse P seen op

/-- What each request asks along the way. -/
def AppCourse (P : Platform) : AppRequest → History Op.Answer → Op → Prop
  | .createSession dto isAvailable randomHex merchantId => CheckoutCourse P dto isAvailable randomHex merchantId
  | .getRefunds paymentIntentId _ => fun seen op => seen = [] ∧ op = .query (.findIntent paymentIntentId)
  | .payment (.webhook d) => WebhookSteps P d
  | .payment .reconcile => SweepCourse P
  | .payment (.refund paymentIntentId dto merchantId) => RefundSteps P paymentIntentId dto merchantId

theorem createSession_course (P : Platform) {orchestrator : OrchestratorService} (faithful : orchestrator.Faithful)
    (isAvailable : GatewayProvider → Bool) (randomHex : String) (dto : CreateCheckoutSessionDto) (merchantId : Uuid) :
    Async.Obeys (CheckoutCourse P dto isAvailable randomHex merchantId) (fun _ _ => True) (fun _ _ => True)
      (createSession P orchestrator isAvailable randomHex dto merchantId) [] := by
  unfold createSession
  refine (Async.obeys_bind _ _ _).mpr ((Async.obeys_request _ _ _).mpr ⟨.now, fun now => ?_⟩)
  dsimp only
  cases executor : orchestrator.safeCreateIntentWithFallback with
  | none => trivial
  | some call =>
    have forwarded := faithful call executor (dto.route P isAvailable).candidates dto.amount dto.currency
      (orderReference now randomHex) [⟨.now, now⟩]
    refine (Async.obeys_bind _ _ _).mpr (Prog.Obeys.mono ?_ ?_ (forwarded.since (.refl _ _)))
    · rintro seen op ⟨charges, since⟩
      exact .charge charges since
    · rintro seen (err | execution) ⟨charged, since⟩
      · trivial
      · refine (Async.obeys_bind _ _ _).mpr ((Async.obeys_request _ _ _).mpr ⟨.store charged since, ?_⟩)
        rintro (err | row) <;> trivial

theorem reconcileStaleIntents_sweep (P : Platform) :
    Async.Obeys (SweepCourse P) (fun _ _ => True) (fun _ _ => True) (reconcileStaleIntents P) [] := by
  refine obeys_reconcileStaleIntents P (fun _ => .now) (fun _ _ => .scan) fun staleIntents seen summary still => ?_
  have round : ∀ intent ∈ staleIntents, ∀ summary start, StillScanned staleIntents start →
      Async.Obeys (SweepCourse P) (fun later _ => StillScanned staleIntents later) (fun _ _ => False)
        (reconcileIntent P intent summary) start := by
    intro intent member summary start still
    exact (reconcileIntent_course P intent start summary).mono (fun _ _ course => .round (still intent member) course)
      (fun _ _ kept => still.later kept.1) fun _ _ never => never
  exact (obeys_reconcileAll P round still).mono (fun _ _ asks => asks) (fun _ _ _ => trivial) fun _ _ never => never

theorem getRefunds_course (P : Platform) (paymentIntentId : String) (merchantId : Uuid) :
    Async.Obeys (AppCourse P (.getRefunds paymentIntentId merchantId)) (fun _ _ => True) (fun _ _ => True)
      (getRefundsByIntentId paymentIntentId merchantId) [] := by
  refine (Async.obeys_bind _ _ _).mpr ((Async.obeys_request _ _ _).mpr ⟨⟨rfl, rfl⟩, ?_⟩)
  rintro (err | found)
  · trivial
  · refine (Async.obeys_ofExcept _ _).mpr ?_
    split <;> trivial

theorem app_course (P : Platform) {orchestrator : OrchestratorService} (faithful : orchestrator.Faithful) (request : AppRequest) :
    ((app P orchestrator).start request).Obeys (AppCourse P request) (fun _ _ => True) [] := by
  have course : Async.Obeys (AppCourse P request) (fun _ _ => True) (fun _ _ => True) (request.handle P orchestrator) [] := by
    cases request with
    | createSession dto isAvailable randomHex merchantId =>
      exact (Async.obeys_bind _ _ _).mpr (createSession_course P faithful isAvailable randomHex dto merchantId)
    | getRefunds paymentIntentId merchantId =>
      exact (Async.obeys_bind _ _ _).mpr (getRefunds_course P paymentIntentId merchantId)
    | payment request =>
      refine (Async.obeys_bind _ _ _).mpr ?_
      cases request with
      | webhook d =>
        exact (Async.obeys_bind _ _ _).mpr (Async.Obeys.mono (fun _ _ asks => asks) (fun _ _ _ => trivial)
          (fun _ _ _ => trivial) (handleIncomingWebhook_steps P d))
      | reconcile => exact (Async.obeys_bind _ _ _).mpr (reconcileStaleIntents_sweep P)
      | refund paymentIntentId dto merchantId =>
        exact (Async.obeys_bind _ _ _).mpr (Async.Obeys.mono (fun _ _ asks => asks) (fun _ _ _ => trivial)
          (fun _ _ _ => trivial) (processRefund_steps P paymentIntentId dto merchantId))
  refine Prog.Obeys.mono (fun _ _ asks => asks) ?_ course
  rintro seen (err | reply) _ <;> trivial

section
variable {P : Platform} {request : AppRequest} {seen : History Op.Answer}

/-- A checkout asks the time first, and then charges or inserts. -/
theorem CheckoutCourse.inserts {dto : CreateCheckoutSessionDto} {isAvailable : GatewayProvider → Bool} {randomHex : String}
    {merchantId : Uuid} {q : Query} (course : CheckoutCourse P dto isAvailable randomHex merchantId seen (.query q)) :
    ∃ now execution, q = .createIntent (dto.newIntent P (orderReference now randomHex) merchantId execution) ∧
      Charged dto.amount dto.currency (orderReference now randomHex) seen execution ∧
      Prog.Since (dto.charges P isAvailable randomHex now) [⟨.now, now⟩] seen := by
  cases course with
  | charge charges _ =>
    obtain ⟨_, _, same⟩ := charges
    cases same
  | store charged since => exact ⟨_, _, rfl, charged, since⟩

theorem CheckoutCourse.sends_nothing {dto : CreateCheckoutSessionDto} {isAvailable : GatewayProvider → Bool} {randomHex : String}
    {merchantId : Uuid} {event : OutboundEventType} {data : PaymentIntentData} {targetUrl secret : String}
    (course : CheckoutCourse P dto isAvailable randomHex merchantId seen (.enqueue event data targetUrl secret)) : False := by
  cases course with
  | charge charges _ =>
    obtain ⟨_, _, same⟩ := charges
    cases same

/-- Only a reconciliation updates an intent, in the round of a scanned row: it
gives the intent up, or has just been confirmed its status. -/
theorem AppCourse.updates {id : Uuid} {status : PaymentStatus}
    (course : AppCourse P request seen (.query (.updateIntent id status))) :
    ∃ start intent, Scanned start intent ∧ intent.id = id ∧
      ((∃ now : Timestamp, seen = ⟨.now, now⟩ :: start ∧ intent.gatewayPaymentId.filter (· ≠ "") = none ∧
          intent.createdAt < now - 24 * 60 * 60 * 1000 ∧ status = .failed) ∨
        ∃ asked, seen = asked :: start ∧ Confirms intent asked status) := by
  match request, course with
  | .createSession _ _ _ _, course =>
    obtain ⟨_, _, same, _⟩ := CheckoutCourse.inserts course
    cases same
  | .getRefunds _ _, course => cases course.2
  | .payment (.webhook d), course => cases course
  | .payment .reconcile, course =>
    cases course with
    | round scanned round =>
      cases round with
      | abandon unknown old => exact ⟨_, _, scanned, rfl, Or.inl ⟨_, rfl, unknown, old, rfl⟩⟩
      | settle confirms => exact ⟨_, _, scanned, rfl, Or.inr ⟨_, rfl, confirms⟩⟩
  | .payment (.refund _ _ _), course => cases course

/-- Only a webhook records an event, as its payload gives it. -/
theorem AppCourse.records {paymentIntentId providerEventId : JsValue} {payload : Json}
    (course : AppCourse P request seen (.query (.recordEvent paymentIntentId providerEventId payload))) :
    ∃ d, request = .payment (.webhook d) ∧ inboundEvent P d = .ok ⟨paymentIntentId, providerEventId, payload⟩ ∧ seen = [] := by
  match request, course with
  | .createSession _ _ _ _, course =>
    obtain ⟨_, _, same, _⟩ := CheckoutCourse.inserts course
    cases same
  | .getRefunds _ _, course => cases course.2
  | .payment (.webhook d), course =>
    cases course with
    | record passed => exact ⟨d, rfl, passed, rfl⟩
  | .payment .reconcile, course =>
    cases course with
    | round _ round => cases round
  | .payment (.refund _ _ _), course => cases course

/-- Only a refund request records a refund, once the provider has answered its plan. -/
theorem AppCourse.refunds {data : NewRefund} {markRefunded : Bool}
    (course : AppCourse P request seen (.query (.recordRefund data markRefunded))) :
    ∃ paymentIntentId dto merchantId found plan refundResult, request = .payment (.refund paymentIntentId dto merchantId) ∧
      refundPlan P paymentIntentId dto merchantId found = .ok plan ∧ data = plan.newRefund dto refundResult ∧
      markRefunded = plan.marksRefunded refundResult ∧
      seen = [⟨plan.call dto, .ok refundResult⟩, ⟨.query (.findIntent paymentIntentId), .ok found⟩] := by
  match request, course with
  | .createSession _ _ _ _, course =>
    obtain ⟨_, _, same, _⟩ := CheckoutCourse.inserts course
    cases same
  | .getRefunds _ _, course => cases course.2
  | .payment (.webhook d), course => cases course
  | .payment .reconcile, course =>
    cases course with
    | round _ round => cases round
  | .payment (.refund _ _ _), course =>
    cases course with
    | record accepted => exact ⟨_, _, _, _, _, _, rfl, accepted, rfl, rfl, rfl⟩

/-- Only a checkout inserts an intent, once a candidate has accepted its charge. -/
theorem AppCourse.inserts {data : NewIntent} (course : AppCourse P request seen (.query (.createIntent data))) :
    ∃ dto isAvailable randomHex merchantId now execution, request = .createSession dto isAvailable randomHex merchantId ∧
      data = dto.newIntent P (orderReference now randomHex) merchantId execution ∧
      Charged dto.amount dto.currency (orderReference now randomHex) seen execution ∧
      Prog.Since (dto.charges P isAvailable randomHex now) [⟨.now, now⟩] seen := by
  match request, course with
  | .createSession _ _ _ _, course =>
    obtain ⟨_, _, same, charged, since⟩ := CheckoutCourse.inserts course
    cases same
    exact ⟨_, _, _, _, _, _, rfl, rfl, charged, since⟩
  | .getRefunds _ _, course => cases course.2
  | .payment (.webhook d), course => cases course
  | .payment .reconcile, course =>
    cases course with
    | round _ round => cases round
  | .payment (.refund _ _ _), course => cases course

/-- What a request has seen when it sends an event: its webhook's transaction,
the write of its round, or its recorded refund, and then the merchant it sends to. -/
inductive Sends (P : Platform) : AppRequest → History Op.Answer → OutboundEventType → PaymentIntentData →
    Uuid → Except JsError (Option Merchant) → Prop
  | webhook {d inbound row merchant} : inboundEvent P d = .ok inbound →
      Sends P (.payment (.webhook d)) [⟨.query (.findMerchant row.merchantId), merchant⟩, ⟨.query inbound.transaction, .ok row⟩]
        .paymentSucceeded row.eventData row.merchantId merchant
  | round {start intent asked status row merchant} : Scanned start intent → Confirms intent asked status →
      Sends P (.payment .reconcile) (⟨.query (.findMerchant row.merchantId), merchant⟩ ::
        ⟨.query (.updateIntent intent.id status), .ok row⟩ :: asked :: start) (noticeOf status) row.eventData row.merchantId merchant
  | refund {paymentIntentId dto merchantId found plan refundResult newRefund merchant} :
      refundPlan P paymentIntentId dto merchantId found = .ok plan →
      Sends P (.payment (.refund paymentIntentId dto merchantId))
        [⟨.query (.findMerchant plan.intent.merchantId), merchant⟩, ⟨plan.record dto refundResult, .ok newRefund⟩,
          ⟨plan.call dto, .ok refundResult⟩, ⟨.query (.findIntent paymentIntentId), .ok found⟩]
        .paymentRefunded (plan.eventData dto refundResult newRefund) plan.intent.merchantId merchant

/-- An event is sent to where the look-up of its merchant has led. -/
theorem AppCourse.sends {event : OutboundEventType} {data : PaymentIntentData} {targetUrl secret : String}
    (course : AppCourse P request seen (.enqueue event data targetUrl secret)) :
    ∃ merchantId merchant, Sends P request seen event data merchantId merchant ∧
      targetUrl = resolvedUrl P (webhookConfigOf merchant).1 ∧ secret = resolvedSecret P (webhookConfigOf merchant).2 := by
  match request, course with
  | .createSession _ _ _ _, course => exact (CheckoutCourse.sends_nothing course).elim
  | .getRefunds _ _, course => cases course.2
  | .payment (.webhook d), course =>
    cases course with
    | notify passed => exact ⟨_, _, .webhook passed, rfl, rfl⟩
  | .payment .reconcile, course =>
    cases course with
    | round scanned round =>
      cases round with
      | notify confirms => exact ⟨_, _, .round scanned confirms, rfl, rfl⟩
  | .payment (.refund _ _ _), course =>
    cases course with
    | report accepted => exact ⟨_, _, .refund accepted, rfl, rfl⟩

/-- The look-up of the merchant comes right before. -/
theorem Sends.looked_up {event : OutboundEventType} {data : PaymentIntentData} {merchantId : Uuid}
    {merchant : Except JsError (Option Merchant)} (sends : Sends P request seen event data merchantId merchant) :
    ∃ earlier, seen = ⟨.query (.findMerchant merchantId), merchant⟩ :: earlier := by
  cases sends <;> exact ⟨_, rfl⟩

end

/-- Everything an operation of the application can answer and do: an insertion
of an intent, or what the payment requests can do. -/
inductive AppPerformed (P : Platform) (env : Env) (w : World) : (op : Op) → op.Answer → World → Prop
  | settled {op : Op} {answer : op.Answer} {after : World} : Performed P env w op answer after → AppPerformed P env w op answer after
  | created {data : NewIntent} {amount : Decimal} {row : PaymentIntent} {db : Database} : env.fails = false →
      Decimal.ofNumber data.amount = some amount →
      row = ⟨env.id, data.reference, amount, data.currency, data.status, data.gateway, some data.gatewayPaymentId,
        data.customerEmail, data.merchantId, env.now⟩ → db.intents.rows = w.db.intents.rows ++ [row] →
      db.events = w.db.events → db.refunds = w.db.refunds →
      AppPerformed P env w (.query (.createIntent data)) (.ok row) { w with db }

theorem app_performed (P : Platform) (env : Env) (op : Op) (w : World) :
    AppPerformed P env w op (perform P env op w).1 (perform P env op w).2 := by
  by_cases inserts : ∃ data, op = .query (.createIntent data)
  · obtain ⟨data, rfl⟩ := inserts
    by_cases fails : env.fails = true
    · simp only [perform, fails, if_true]
      exact .settled (.refused (Or.inl ⟨fails, rfl⟩))
    · have spared : env.fails = false := by simpa using fails
      cases ran : (Query.createIntent data).exec P env w.db with
      | error cause =>
        simp only [perform, spared, Bool.false_eq_true, if_false, ran]
        exact .settled (.refused (Or.inr ⟨spared, ran⟩))
      | ok pair =>
        simp only [perform, spared, Bool.false_eq_true, if_false, ran]
        obtain ⟨amount, stored, made, added⟩ := paymentIntentCreate_ok ran
        obtain ⟨_, events, refunds, rows⟩ := Database.addIntent_ok added
        exact .created spared stored made rows events refunds
  · exact .settled (performed P env w fun data same => inserts ⟨data, same⟩)

/-- The application with an executor that tries one candidate after the other. -/
def sampleOrchestrator : OrchestratorService := ⟨some tryCandidates⟩

theorem sampleOrchestrator_faithful : sampleOrchestrator.Faithful := by
  rintro call ⟨⟩
  exact tryCandidates_forwards

/-- A merchant with one open intent. -/
def openWorld : World := ⟨sampleDatabase .pending, []⟩

/-- A checkout; then a webhook captures the open intent, and it is refunded. -/
def sampleSteps : List AppStep :=
  .spawn (.createSession sampleCheckout (fun _ => true) "a1b2c3d4" sampleMerchant.id) :: List.replicate 3 (.advance 0 calmEnv) ++
    .spawn (.payment (.webhook (sampleDelivery "evt_1" (sampleIntent .pending).id.text))) :: List.replicate 3 (.advance 1 calmEnv) ++
    .spawn (.payment (.refund (sampleIntent .pending).id.text ⟨.undefined, .undefined⟩ sampleMerchant.id)) ::
      List.replicate 5 (.advance 2 calmEnv)

def sampleApp : App := (Pool.initial openWorld).run (app plainPlatform sampleOrchestrator) sampleSteps

theorem sampleApp_reached : Reach (app plainPlatform sampleOrchestrator) (fun _ _ => True) openWorld sampleApp :=
  Reach.run_free sampleSteps .start

end PayBridge
