import PayBridge.GatewayTraffic

namespace PayBridge
open Store Await

/-- An answer that shows the row of an intent. -/
inductive ShowsRow : (op : Op) × op.Answer → PaymentIntent → Prop
  | read {text row refunds} : ShowsRow ⟨.query (.findIntent text), .ok (some ⟨row, refunds⟩)⟩ row
  | updated {id status row} : ShowsRow ⟨.query (.updateIntent id status), .ok row⟩ row
  | recorded {paymentIntentId providerEventId payload row} :
      ShowsRow ⟨.query (.recordEvent paymentIntentId providerEventId payload), .ok row⟩ row

/-- A request enqueues only right after it has looked up the merchant of an
intent it was shown, to where the answer leads. -/
inductive Addressed (P : Platform) : History Op.Answer → Op → Prop
  | silent {seen op} : (∀ event data url secret, op ≠ .enqueue event data url secret) → Addressed P seen op
  | notify {earlier entry row found event} {data : PaymentIntentData} : entry ∈ earlier → ShowsRow entry row → data.id = row.id →
      Addressed P (⟨.query (.findMerchant row.merchantId), found⟩ :: earlier) (notice P event data found)

/-- What a request has seen right before it enqueues. -/
theorem Addressed.enqueued {P : Platform} {seen : History Op.Answer} {event : OutboundEventType} {data : PaymentIntentData}
    {url secret : String} (addressed : Addressed P seen (.enqueue event data url secret)) :
    ∃ earlier entry row found, seen = ⟨.query (.findMerchant row.merchantId), found⟩ :: earlier ∧ entry ∈ earlier ∧
      ShowsRow entry row ∧ data.id = row.id ∧ url = resolvedUrl P (webhookConfigOf found).1 ∧
      secret = resolvedSecret P (webhookConfigOf found).2 := by
  cases addressed with
  | silent silent => exact absurd rfl (silent _ _ _ _)
  | notify member shows about => exact ⟨_, _, _, _, rfl, member, shows, about, rfl, rfl⟩

section
variable {P : Platform} {seen : History Op.Answer} {event : OutboundEventType}

theorem Addressed.quiet (q : Query) : Addressed P seen (.query q) :=
  .silent fun _ _ _ _ same => by cases same

/-- What a request does with a row it was shown: one dispatch to its merchant. -/
theorem dispatch_addressed {entry : (op : Op) × op.Answer} {row : PaymentIntent} {data : PaymentIntentData} (member : entry ∈ seen)
    (shows : ShowsRow entry row) (about : data.id = row.id) :
    Async.Obeys (Addressed P) (fun _ _ => True) (fun _ _ => True)
      (dispatchPaymentEvent P event data (some row.merchantId) none none) seen :=
  obeys_dispatch_own _ _ _ _ _ (.quiet _) fun _ => ⟨.notify member shows about, trivial, fun _ => trivial⟩

theorem webhook_addressed (P : Platform) (d : Delivery) :
    Async.Obeys (Addressed P) (fun _ _ => True) (fun _ _ => True) (handleIncomingWebhook P d) [] := by
  have answer : ∀ (err : JsError) seen, Async.Obeys (Addressed P) (fun _ _ => True) (fun _ _ => True)
      (if err.code = some "P2002" then return ⟨200, true⟩ else return ⟨500, false⟩ : Promise WebhookReply) seen := by
    intro err seen
    split <;> trivial
  unfold handleIncomingWebhook
  refine (Async.obeys_bind _ _ _).mpr ((Async.obeys_ofExcept _ _).mpr ?_)
  cases inboundEvent P d with
  | error err => trivial
  | ok event =>
    refine (Async.obeys_tryCatch _ _ _).mpr ((Async.obeys_bind _ _ _).mpr ((Async.obeys_request _ _ _).mpr ⟨.quiet _, ?_⟩))
    rintro (err | row)
    · exact answer err _
    · refine (Async.obeys_bind _ _ _).mpr (Async.Obeys.mono (fun _ _ asks => asks) (fun _ _ _ => trivial)
        (fun _ err _ => answer err _) (dispatch_addressed List.mem_cons_self .recorded rfl))

/-- A round asks nothing out of place: its notice is about the row it has just written. -/
theorem RoundCourse.addressed {intent : PaymentIntent} {start : History Op.Answer} {op : Op}
    (course : RoundCourse P intent start seen op) : Addressed P seen op := by
  cases course with
  | now => exact .silent (by simp)
  | inquire => exact .silent (by simp)
  | notify _ => exact .notify List.mem_cons_self .updated rfl
  | _ => exact .quiet _

theorem reconcile_addressed (P : Platform) :
    Async.Obeys (Addressed P) (fun _ _ => True) (fun _ _ => True) (reconcileStaleIntents P) [] := by
  refine obeys_reconcileStaleIntents P (fun _ => .silent (by simp)) (fun _ _ => .quiet _) fun staleIntents seen summary _ => ?_
  refine obeys_reconcileAll P (fun intent _ counted start _ => ?_) trivial
  exact (reconcileIntent_course P intent start counted).mono (fun _ _ course => course.addressed) (fun _ _ _ => trivial)
    fun _ _ never => never

theorem refund_addressed (P : Platform) (paymentIntentId : String) (dto : CreateRefundDto) (merchantId : Uuid) :
    Async.Obeys (Addressed P) (fun _ _ => True) (fun _ _ => True) (processRefund P paymentIntentId dto merchantId) [] := by
  unfold processRefund
  refine (Async.obeys_bind _ _ _).mpr ((Async.obeys_request _ _ _).mpr ⟨.quiet _, ?_⟩)
  rintro (err | found)
  · trivial
  refine (Async.obeys_bind _ _ _).mpr ((Async.obeys_ofExcept _ _).mpr ?_)
  cases checked : refundPlan P paymentIntentId dto merchantId found with
  | error err => trivial
  | ok plan =>
    obtain ⟨refunds, shown, _⟩ := refundPlan_ok checked
    subst shown
    simp only [orchestratorRefund_eq]
    refine (Async.obeys_bind _ _ _).mpr ((Async.obeys_request _ _ _).mpr ⟨.silent (by simp), ?_⟩)
    rintro (err | refundResult)
    · trivial
    refine (Async.obeys_bind _ _ _).mpr ((Async.obeys_request _ _ _).mpr ⟨.quiet _, ?_⟩)
    rintro (err | newRefund)
    · trivial
    · exact (Async.obeys_bind _ _ _).mpr
        (dispatch_addressed (List.mem_cons_of_mem _ (List.mem_cons_of_mem _ List.mem_cons_self)) .read rfl)

theorem payments_addressed (P : Platform) (request : Request) :
    ((payments P).start request).Obeys (Addressed P) (fun _ _ => True) [] := by
  have addressed : Async.Obeys (Addressed P) (fun _ _ => True) (fun _ _ => True) (handle P request) [] := by
    cases request with
    | webhook d => exact (Async.obeys_bind _ _ _).mpr (webhook_addressed P d)
    | reconcile => exact (Async.obeys_bind _ _ _).mpr (reconcile_addressed P)
    | refund paymentIntentId dto merchantId => exact (Async.obeys_bind _ _ _).mpr (refund_addressed P paymentIntentId dto merchantId)
  refine Prog.Obeys.mono (fun _ _ asks => asks) ?_ addressed
  rintro seen (err | reply) _ <;> trivial

/-- What a request is told agrees with the tables it started from. -/
structure ToldTruly (db : Database) (entry : (op : Op) × op.Answer) : Prop where
  intent : ∀ row, ShowsRow entry row → db.paymentOf row.id = some { row with status := .captured }
  merchant : ∀ id found, entry = ⟨.query (.findMerchant id), .ok found⟩ → found = db.merchants.find id

theorem paymentOf_found {db : Database} {id : Uuid} {intent : PaymentIntent} (found : db.intents.find id = some intent) :
    db.paymentOf intent.id = some { intent with status := .captured } := by
  have key : intent.id = id := Table.find_key found
  have stored : db.intents.find intent.id = some intent := by
    rw [key]
    exact found
  rw [Database.paymentOf, stored]
  rfl

theorem performed_truly {env : Env} {op : Op} {answer : op.Answer} {before after : World}
    (did : Performed P env before op answer after) : ToldTruly before.db ⟨op, answer⟩ := by
  constructor
  · intro row shows
    generalize made : (⟨op, answer⟩ : (op : Op) × op.Answer) = entry at shows
    cases shows with
    | read =>
      obtain ⟨rfl, told⟩ := Sigma.mk.inj_iff.mp made
      have told := eq_of_heq told
      cases did with
      | refused _ => cases told
      | readIntent named =>
        obtain ⟨intent, found, same⟩ := Option.map_eq_some_iff.mp (Except.ok.inj told)
        cases same
        exact paymentOf_found found
    | updated =>
      obtain ⟨rfl, told⟩ := Sigma.mk.inj_iff.mp made
      have told := eq_of_heq told
      cases did with
      | refused _ => cases told
      | updated spared found =>
        cases told
        have same := paymentOf_found found
        exact same
    | recorded =>
      obtain ⟨rfl, told⟩ := Sigma.mk.inj_iff.mp made
      have told := eq_of_heq told
      cases did with
      | refused _ => cases told
      | recorded spared named found fresh intents rows refunds =>
        cases told
        have same := paymentOf_found found
        exact same
  · intro id found same
    obtain ⟨rfl, told⟩ := Sigma.mk.inj_iff.mp same
    have told := eq_of_heq told
    cases did with
    | refused _ => cases told
    | readMerchant => exact (Except.ok.inj told).symm

/-- Everything the requests of a run are told agrees with the tables it started from. -/
theorem truly_run {meets : Service → Step → Prop} {world : World} {s : Service} (reach : Reach (payments P) meets world s)
    {i : Nat} {entry : (op : Op) × op.Answer} (member : (i, entry) ∈ s.log) : ToldTruly world.db entry := by
  induction reach using service_steps with
  | initial => cases member
  | spawn s request _ _ ih _ => exact ih member
  | advance s j env request op next answer w before _ _ _ did ih _ =>
    rcases List.mem_cons.mp member with same | old
    · cases same
      obtain ⟨merchants, intents⟩ := payments_kept before
      obtain ⟨intent, merchant⟩ := performed_truly did
      constructor
      · intro row shows
        rw [← intents]
        exact intent row shows
      · intro id found asked
        rw [← merchants]
        exact merchant id found asked
    · exact ih old

/-- Every job that a run has added to the queue was enqueued by one of its requests. -/
theorem jobs_enqueued {meets : Service → Step → Prop} {world : World} {s : Service} (reach : Reach (payments P) meets world s)
    {job : OutboundWebhookJobData} (queued : job ∈ s.world.queue) : job ∈ world.queue ∨ ∃ i event data,
      (i, (⟨.enqueue event data job.targetUrl job.secret, .ok ()⟩ : (op : Op) × op.Answer)) ∈ s.log ∧ job.intentId = data.id := by
  induction reach using service_steps with
  | initial => exact Or.inl queued
  | spawn s request _ _ ih _ => exact ih queued
  | advance s j env request op next answer w _ _ _ _ did ih _ =>
    have earlier : job ∈ s.world.queue → job ∈ world.queue ∨ ∃ i event data,
        (i, (⟨.enqueue event data job.targetUrl job.secret, .ok ()⟩ : (op : Op) × op.Answer)) ∈
          (j, ⟨op, answer⟩) :: s.log ∧ job.intentId = data.id := by
      intro old
      rcases ih old with first | ⟨i, event, data, member, about⟩
      · exact Or.inl first
      · exact Or.inr ⟨i, event, data, List.mem_cons_of_mem _ member, about⟩
    cases did with
    | @enqueued event data url secret _ =>
      rcases List.mem_append.mp queued with old | new
      · exact earlier old
      · rw [List.mem_singleton.mp new]
        exact Or.inr ⟨j, event, data, List.mem_cons_self, rfl⟩
    | _ => exact earlier queued

/-- A job goes where the merchant has it sent, if the merchant was looked up, and
to the shared endpoint with the shared secret if the lookup has failed. -/
structure AddressedTo (P : Platform) (merchant : Merchant) (found : Except JsError (Option Merchant))
    (job : OutboundWebhookJobData) : Prop where
  own : ∀ url secret, merchant.webhookUrl = some url → merchant.webhookSecret = some secret → (∃ answer, found = .ok answer) →
    job.targetUrl = url ∧ job.secret = secret
  shared : ∀ err, found = .error err → job.targetUrl = resolvedUrl P none ∧ job.secret = resolvedSecret P none

theorem addressed_to {merchant : Merchant} {found : Except JsError (Option Merchant)} {job : OutboundWebhookJobData}
    (truly : ∀ answer, found = .ok answer → answer = some merchant)
    (url : job.targetUrl = resolvedUrl P (webhookConfigOf found).1) (secret : job.secret = resolvedSecret P (webhookConfigOf found).2) :
    AddressedTo P merchant found job := by
  constructor
  · rintro ownUrl ownSecret setUrl setSecret ⟨answer, rfl⟩
    rw [url, secret, truly answer rfl, webhookConfigOf, setUrl, setSecret]
    exact ⟨rfl, rfl⟩
  · rintro err rfl
    exact ⟨url, secret⟩

/-- Whether the enqueue of a dispatch is struck, to wherever the lookup of the merchant has led it. -/
def enqueueStruck (P : Platform) (env : Nat → Op → Env) (event : OutboundEventType) (data : PaymentIntentData) (id : Uuid)
    (seen : History Op.Answer) (w : World) : Bool :=
  (env (seen.length + 1) (notice P event data (merchantAt P env id seen w))).fails

/-- A dispatch for a merchant adds one job, addressed as the lookup of the merchant
allows, unless the enqueue itself is struck. -/
theorem dispatch_addresses (P : Platform) (env : Nat → Op → Env) (event : OutboundEventType) (data : PaymentIntentData)
    (seen : History Op.Answer) (w : World) {merchant : Merchant} (stored : w.db.merchants.find merchant.id = some merchant) :
    let o := Async.play (perform P) env (dispatchPaymentEvent P event data (some merchant.id) none none) seen w
    (enqueueStruck P env event data merchant.id seen w = true → o.world = w) ∧
      (enqueueStruck P env event data merchant.id seen w = false → o.value = .ok () ∧ ∃ job,
        o.world.queue = w.queue ++ [job] ∧ job.payload.event = event ∧ job.payload.data = data ∧
          AddressedTo P merchant (merchantAt P env merchant.id seen w) job) := by
  intro o
  unfold enqueueStruck
  generalize looked : merchantAt P env merchant.id seen w = found
  have truly : ∀ answer, found = .ok answer → answer = some merchant := by
    rintro answer rfl
    obtain ⟨_, ran⟩ := perform_query_ok looked
    have told := (Prod.mk.inj (Except.ok.inj ran)).1
    exact told.symm.trans stored
  constructor
  · intro struck
    have lost : o = _ := play_dispatch_lost looked struck
    rw [lost]
  · intro spared
    have sent : o = _ := play_dispatch_sent looked spared
    rw [sent]
    exact ⟨rfl, _, rfl, rfl, rfl, addressed_to truly rfl rfl⟩

/-- Every event that is dispatched for a merchant is enqueued unless the enqueue itself
is struck: to the endpoint of the merchant with the merchant's secret, and to the shared
one if the lookup of the merchant fails. So is every event about a merchant's intent in
every run of the service. -/
theorem events_addressed (P : Platform) :
    (∀ env event data seen w merchant, w.db.merchants.find merchant.id = some merchant →
      let o := Async.play (perform P) env (dispatchPaymentEvent P event data (some merchant.id) none none) seen w
      (enqueueStruck P env event data merchant.id seen w = true → o.world = w) ∧
        (enqueueStruck P env event data merchant.id seen w = false → o.value = .ok () ∧ ∃ job,
          o.world.queue = w.queue ++ [job] ∧ job.payload.event = event ∧ job.payload.data = data ∧
            AddressedTo P merchant (merchantAt P env merchant.id seen w) job)) ∧
      ∀ world s, Reach (payments P) (fun _ _ => True) world s → ∀ job ∈ s.world.queue, job ∈ world.queue ∨
        ∃ intent merchant found i event data answer later earlier, world.db.intents.find job.intentId = some intent ∧
          world.db.merchants.find intent.merchantId = some merchant ∧ AddressedTo P merchant found job ∧
          own i s.log = later ++ ⟨.enqueue event data job.targetUrl job.secret, answer⟩ ::
            ⟨.query (.findMerchant merchant.id), found⟩ :: earlier := by
  refine ⟨fun env event data seen w merchant stored => dispatch_addresses P env event data seen w stored, ?_⟩
  intro world s reach job queued
  rcases jobs_enqueued reach queued with old | ⟨i, event, data, member, about⟩
  · exact Or.inl old
  right
  have start : ∀ request, ((payments P).start request).Obeys ((fun _ => Addressed P) request)
      ((fun _ _ _ => True) request) [] := payments_addressed P
  have follows := reach.follows start (List.getElem?_eq_getElem (reach.log_thread member))
  obtain ⟨later, seen, split⟩ := List.append_of_mem (mem_own.mpr member)
  rw [split] at follows
  obtain ⟨earlier, entry, row, found, looked, shown, shows, names, url, secret⟩ := follows.suffix.1.enqueued
  subst looked
  have inLog : ∀ entry, entry ∈ (⟨.query (.findMerchant row.merchantId), found⟩ :: earlier : History Op.Answer) → (i, entry) ∈ s.log := by
    intro entry inside
    refine mem_own.mp ?_
    rw [split]
    exact List.mem_append_right _ (List.mem_cons_of_mem _ inside)
  have known := (truly_run reach (inLog entry (List.mem_cons_of_mem _ shown))).intent row shows
  obtain ⟨intent, stored, same⟩ := Option.map_eq_some_iff.mp known
  obtain ⟨merchant, listed, owner⟩ := world.db.intentMerchant intent (Table.find_some.mp stored).1
  have owns : merchant.id = row.merchantId := by
    have merchantId := congrArg PaymentIntent.merchantId same
    exact owner.trans merchantId
  have held : world.db.merchants.find row.merchantId = some merchant := by
    rw [← owns]
    exact Table.find_mem listed
  have truly : ∀ answer, found = .ok answer → answer = some merchant := by
    rintro answer rfl
    exact ((truly_run reach (inLog _ List.mem_cons_self)).merchant _ _ rfl).trans held
  refine ⟨intent, merchant, found, i, event, data, .ok (), later, earlier, ?_, ?_, addressed_to truly url secret, ?_⟩
  · rw [about, names]
    exact stored
  · rw [← owner]
    exact Table.find_mem listed
  · rw [split, owns]

end

/-- A merchant with an endpoint and a secret of its own. -/
def configuredMerchant : Merchant :=
  { sampleMerchant with
    webhookUrl := some "https://api.acme.com/webhooks/paybridge"
    webhookSecret := some "whsec_custom_secret_key_9988" }

def configuredWorld : World where
  db := .withoutEvents ⟨[configuredMerchant], List.nodup_singleton _⟩ Table.empty fun _ member => absurd member List.not_mem_nil
  queue := []

/-- A dispatch for the configured merchant, in an environment. -/
def sampleDispatch (env : Nat → Op → Env) : Outcome Op.Answer World (Except JsError Unit) :=
  Async.play (perform plainPlatform) env (dispatchPaymentEvent plainPlatform .paymentSucceeded (sampleIntent .captured).eventData
    (some configuredMerchant.id) none none) [] configuredWorld

/-- Only the lookup of the merchant is struck. -/
def lookupStruck : Nat → Op → Env := fun n _ => { calmEnv with fails := n = 0 }

theorem events_addressed_sample : (∃ job, (sampleDispatch fun _ _ => calmEnv).world.queue = [job] ∧
      job.targetUrl = "https://api.acme.com/webhooks/paybridge" ∧ job.secret = "whsec_custom_secret_key_9988") ∧
    ∃ job, (sampleDispatch lookupStruck).world.queue = [job] ∧ job.targetUrl = "http://localhost:4000/webhook" := by
  have stored : configuredWorld.db.merchants.find configuredMerchant.id = some configuredMerchant :=
    Table.find_mem (List.mem_singleton_self _)
  have addresses := fun env => ((events_addressed plainPlatform).1 env .paymentSucceeded (sampleIntent .captured).eventData []
    configuredWorld configuredMerchant stored).2
  constructor
  · obtain ⟨_, job, queued, _, _, addressed⟩ := addresses (fun _ _ => calmEnv) rfl
    exact ⟨job, queued, addressed.own _ _ rfl rfl ⟨_, rfl⟩⟩
  · obtain ⟨_, job, queued, _, _, addressed⟩ := addresses lookupStruck rfl
    exact ⟨job, queued, (addressed.shared _ rfl).1⟩

/-- A configured merchant's event is sent to the shared endpoint when the lookup of the merchant fails. -/
theorem lookup_failure_shared : ¬ ∀ (P : Platform) (env : Nat → Op → Env) (event : OutboundEventType) (data : PaymentIntentData)
    (seen : History Op.Answer) (w : World) (merchant : Merchant) (url secret : String),
    w.db.merchants.find merchant.id = some merchant → merchant.webhookUrl = some url → merchant.webhookSecret = some secret →
      let o := Async.play (perform P) env (dispatchPaymentEvent P event data (some merchant.id) none none) seen w
      ∀ job, o.world.queue = w.queue ++ [job] → job.targetUrl = url ∧ job.secret = secret := by
  intro always
  have shared : (sampleDispatch lookupStruck).world.queue.map OutboundWebhookJobData.targetUrl = ["http://localhost:4000/webhook"] := by
    decide +kernel
  obtain ⟨job, queued, url⟩ := List.map_eq_singleton_iff.mp shared
  have own := always plainPlatform lookupStruck .paymentSucceeded (sampleIntent .captured).eventData [] configuredWorld
    configuredMerchant _ _ (Table.find_mem (List.mem_singleton_self _)) rfl rfl job queued
  exact absurd (own.1.symm.trans url) (by decide)

end PayBridge
