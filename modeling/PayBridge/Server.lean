import PayBridge.Analytics
import PayBridge.Api
import PayBridge.App
import PayBridge.GatewayTraffic
import PayBridge.Merchants
import PayBridge.ReplayOrigin

namespace PayBridge
open Store Await

/-- `AdminGuard.canActivate`, with the master key of the environment. -/
def adminGuard (devMasterApiKey : Option String) (headers : AuthHeaders) : Except JsError Unit :=
  match headers.apiKey with
  | none => .error missingApiKey
  | some apiKey =>
    if apiKey ≠ devMasterApiKey.getD "pb_test_live_key_998877" then
      .error ⟨.http 401, "Invalid admin API key. This endpoint requires administrator access."⟩
    else .ok ()

/-- The routes of the merchants controller that write. -/
inductive MerchantRoute
  | createMerchant (dto : CreateMerchantDto) (randomHex secretHex : String)
  | updateMerchant (id : String) (dto : UpdateMerchantDto)
  | generateApiKey (id : String) (label : JsValue) (randomHex : String)
  | revokeApiKey (id keyId : String)

def MerchantRoute.request : MerchantRoute → AccountRequest
  | .createMerchant dto randomHex secretHex => .createMerchant dto randomHex secretHex
  | .updateMerchant id dto => .updateMerchant id dto
  | .generateApiKey id label randomHex => .generateApiKey id label randomHex
  | .revokeApiKey id keyId => .revokeApiKey id keyId

/-- A request as it arrives, with its headers, before any guard has looked at them, and a
reconciliation that the scheduler starts: every route behind the API key guard, those of
the administrator that write, and the webhooks. The administrator's listings, the health
checks and the metrics only read and are left out. -/
inductive ServerRequest
  | merchants (headers : AuthHeaders) (route : MerchantRoute)
  | api (headers : AuthHeaders) (idempotencyKey : Option String) (endpoint : Endpoint)
  | getRefunds (headers : AuthHeaders) (paymentIntentId : String)
  | trigger (headers : AuthHeaders)
  | overview (headers : AuthHeaders) (query : AnalyticsQueryDto) (readDate : String → JsDate)
  | webhook (d : Delivery)
  | scheduled

inductive ServerReply
  | account (reply : AccountReply)
  | api (reply : HttpReply ApiBody)
  | refunds (found : IntentRefunds)
  | reconciled (summary : ReconciliationSummary)
  | overview (response : AnalyticsOverviewResponse)
  | webhook (reply : WebhookReply)

/-- What a request awaits in its guard, in an overview, in the interceptor and in its handler. -/
abbrev ServerOp := AccountOp ⊕ (AnalyticsOp ⊕ (KeyOp ApiBody ⊕ Op))

abbrev ServerOp.Answer : ServerOp → Type :=
  Both AccountOp.Answer (Both AnalyticsOp.Answer (Both (@KeyOp.Answer ApiBody) Op.Answer))

abbrev ServerPromise := Async ServerOp ServerOp.Answer JsError

section
variable (P : Platform) (orchestrator : OrchestratorService) (sha256 : String → String) (devMasterApiKey : Option String)

/-- What the route calls, on an orchestrator. -/
def ApiRequest.serve (request : ApiRequest) : Promise ApiBody :=
  match request.endpoint with
  | .createSession dto isAvailable randomHex => do
    let session ← createSession P orchestrator isAvailable randomHex dto request.merchantId
    return .session session
  | .createRefund id dto => do
    let response ← processRefund P id dto request.merchantId
    return .refund response

def servedApi : Routes Op Op.Answer ApiBody World Env ApiRequest where
  perform := perform P
  call request := ⟨request.idempotencyKey, request.endpoint.statusCode, request.serve P orchestrator⟩

def apiKeyGuard (headers : AuthHeaders) : ServerPromise AuthenticatedMerchant := Async.liftLeft (canActivate sha256 headers)

/-- What a handler does on its own, done among what else the server awaits. -/
def served {α : Type} (handler : Promise α) : ServerPromise α := Async.lift (Async.lift (Async.lift handler))

def ServerRequest.handle : ServerRequest → ServerPromise ServerReply
  | .merchants headers route => do
    Async.ofExcept (adminGuard devMasterApiKey headers)
    let reply ← Async.liftLeft (route.request.handle sha256)
    return .account reply
  | .api headers idempotencyKey endpoint => do
    let merchant ← apiKeyGuard sha256 headers
    let reply ← Async.lift (Async.lift (intercept P.processEnv.idempotencyTtlSeconds
      ((servedApi P orchestrator).call ⟨merchant.id, idempotencyKey, endpoint⟩)))
    return .api reply
  | .getRefunds headers paymentIntentId => do
    let merchant ← apiKeyGuard sha256 headers
    let found ← served (getRefundsByIntentId paymentIntentId merchant.id)
    return .refunds found
  | .trigger headers => do
    let _ ← apiKeyGuard sha256 headers
    let summary ← served (reconcileStaleIntents P)
    return .reconciled summary
  | .overview headers query readDate => do
    let merchant ← apiKeyGuard sha256 headers
    let response ← Async.lift (Async.liftLeft (getOverview readDate query (some merchant.id)))
    return .overview response
  | .webhook d => do
    let reply ← served (handleIncomingWebhook P d)
    return .webhook reply
  | .scheduled => do
    let summary ← served (reconcileStaleIntents P)
    return .reconciled summary

end

/-- A real orchestrator serves the routes of the API. -/
theorem servedApi_new (P : Platform) : servedApi P .new = api P := by
  have same : ∀ request : ApiRequest, request.serve P .new = request.handle P := by
    rintro ⟨merchantId, idempotencyKey, endpoint⟩
    cases endpoint <;> rfl
  simp only [servedApi, api, same]

/-- The whole state: the key table of the interceptor, the clock, the database, the
queue, and the API keys. -/
structure ServerWorld where
  api : KeyWorld ApiBody World
  apiKeys : Table ApiKey.id
  emails : api.app.db.merchants.Unique Merchant.email
  hashes : apiKeys.Unique ApiKey.keyHash
  keyMerchant : ∀ apiKey ∈ apiKeys.rows, ∃ merchant ∈ api.app.db.merchants.rows, merchant.id = apiKey.merchantId

def ServerWorld.accounts (w : ServerWorld) : Accounts := ⟨w.api.app.db, w.apiKeys, w.emails, w.hashes, w.keyMerchant⟩

/-- The state with the merchants and their keys as a step on the accounts has left them. -/
def ServerWorld.setAccounts (w : ServerWorld) (a : Accounts) : ServerWorld where
  api := { w.api with app := { w.api.app with db := a.db } }
  apiKeys := a.apiKeys
  emails := a.emails
  hashes := a.hashes
  keyMerchant := a.keyMerchant

/-- The state behind the guard as a step has left it that keeps the merchants. -/
def ServerWorld.setApi (w : ServerWorld) (api : KeyWorld ApiBody World)
    (same : api.app.db.merchants = w.api.app.db.merchants) : ServerWorld where
  api := api
  apiKeys := w.apiKeys
  emails := same ▸ w.emails
  hashes := w.hashes
  keyMerchant := same ▸ w.keyMerchant

structure ServerEnv where
  account : AccountEnv
  api : KeyEnv Env

theorem performKey_app (env : KeyEnv Env) (op : KeyOp ApiBody) (w : KeyWorld ApiBody World) : (performKey env op w).2.app = w.app := by
  cases op with
  | now => rfl
  | findUnique key =>
    simp only [performKey]
    split <;> rfl
  | create key expiresAt =>
    simp only [performKey]
    split
    · rfl
    · split
      · rfl
      · split <;> rfl
  | update key statusCode body =>
    simp only [performKey]
    split
    · rfl
    · split <;> rfl
  | delete key =>
    simp only [performKey]
    split
    · rfl
    · split <;> rfl

theorem performIdempotent_merchants (P : Platform) (env : KeyEnv Env) (op : KeyOp ApiBody ⊕ Op) (w : KeyWorld ApiBody World) :
    (performIdempotent (perform P) env op w).2.app.db.merchants = w.app.db.merchants := by
  cases op with
  | inl op => rw [performIdempotent, performKey_app, KeyWorld.later_app]
  | inr op => exact perform_merchants P env.app op w.app

/-- An overview only reads. -/
theorem performAnalytics_world (env : Env) (op : AnalyticsOp) (w : World) : (performAnalytics env op w).2 = w := by
  cases op with
  | findMany filter =>
    simp only [performAnalytics]
    split
    · rfl
    · split <;> rfl

def performServer (P : Platform) (env : ServerEnv) : (op : ServerOp) → ServerWorld → op.Answer × ServerWorld
  | .inl op, w =>
    ((performAccount P env.account op w.accounts).1, w.setAccounts (performAccount P env.account op w.accounts).2)
  | .inr (.inl op), w =>
    ((performAnalytics env.api.app op w.api.app).1,
      w.setApi { w.api with app := (performAnalytics env.api.app op w.api.app).2 } (by rw [performAnalytics_world]))
  | .inr (.inr op), w =>
    ((performIdempotent (perform P) env.api op w.api).1,
      w.setApi (performIdempotent (perform P) env.api op w.api).2 (performIdempotent_merchants P env.api op w.api))

theorem performServer_overview (P : Platform) (env : ServerEnv) (op : AnalyticsOp) (w : ServerWorld) :
    (performServer P env (.inr (.inl op)) w).2 = w := by
  simp only [performServer, performAnalytics_world]
  rfl

/-- Behind the guards nothing touches the API keys. -/
theorem performServer_keys (P : Platform) (env : ServerEnv) (op : AnalyticsOp ⊕ (KeyOp ApiBody ⊕ Op)) (w : ServerWorld) :
    (performServer P env (.inr op) w).2.apiKeys = w.apiKeys := by
  cases op <;> rfl

/-- Any number of requests of all kinds at once. -/
def server (P : Platform) (orchestrator : OrchestratorService) (sha256 : String → String) (devMasterApiKey : Option String) :
    System ServerOp ServerOp.Answer ServerWorld ServerEnv ServerRequest (Except JsError ServerReply) where
  perform := performServer P
  start request := ExceptT.run (request.handle P orchestrator sha256 devMasterApiKey)

abbrev Server := Pool ServerOp ServerOp.Answer ServerWorld ServerRequest (Except JsError ServerReply)
abbrev ServerStep := Event ServerRequest ServerEnv
abbrev ServerHistory := History ServerOp.Answer

/-- The headers that the API key guard looks at, if the route has it. -/
def ServerRequest.guarded : ServerRequest → Option AuthHeaders
  | .api headers _ _ => some headers
  | .getRefunds headers _ => some headers
  | .trigger headers => some headers
  | .overview headers _ _ => some headers
  | _ => none

def Endpoint.request (merchantId : Uuid) : Endpoint → AppRequest
  | .createSession dto isAvailable randomHex => .createSession dto isAvailable randomHex merchantId
  | .createRefund id dto => .payment (.refund id dto merchantId)

/-- The guard has let a request pass for a merchant: under the hash of the key that it
presents there was an active key of the merchant, which was active itself. -/
inductive Passed (sha256 : String → String) (headers : AuthHeaders) (seen : ServerHistory) (merchantId : Uuid) : Prop
  | found {apiKey : String} {row : ApiKey} {merchant : Merchant} : headers.apiKey = some apiKey → row.isActive = true →
      merchant.isActive = true → merchant.id = merchantId →
      (⟨.inl (.findApiKeyByHash (sha256 apiKey)), .ok (some (row, merchant))⟩ : (op : ServerOp) × ServerOp.Answer op) ∈ seen →
      Passed sha256 headers seen merchantId

/-- What a request is handled as, once its guard has let it pass. -/
inductive Handled (sha256 : String → String) : ServerRequest → ServerHistory → AppRequest → Prop
  | api {headers idempotencyKey endpoint seen merchantId} : Passed sha256 headers seen merchantId →
      Handled sha256 (.api headers idempotencyKey endpoint) seen (endpoint.request merchantId)
  | getRefunds {headers paymentIntentId seen merchantId} : Passed sha256 headers seen merchantId →
      Handled sha256 (.getRefunds headers paymentIntentId) seen (.getRefunds paymentIntentId merchantId)
  | trigger {headers seen merchantId} : Passed sha256 headers seen merchantId →
      Handled sha256 (.trigger headers) seen (.payment .reconcile)
  | webhook {d seen} : Handled sha256 (.webhook d) seen (.payment (.webhook d))
  | scheduled {seen} : Handled sha256 .scheduled seen (.payment .reconcile)

/-- What each request asks along the way. -/
inductive ServerCourse (P : Platform) (sha256 : String → String) (devMasterApiKey : Option String) :
    ServerRequest → ServerHistory → ServerOp → Prop
  | administer {headers route outer op} : adminGuard devMasterApiKey headers = .ok () →
      AccountCourse sha256 route.request outer op →
      ServerCourse P sha256 devMasterApiKey (.merchants headers route) (liftedLeft outer) (.inl op)
  | guard {request headers outer op} : ServerRequest.guarded request = some headers →
      AccountCourse sha256 (.authenticate headers) outer op →
      ServerCourse P sha256 devMasterApiKey request (liftedLeft outer) (.inl op)
  | intercept {headers idempotencyKey endpoint seen merchantId op} : Passed sha256 headers seen merchantId →
      ServerCourse P sha256 devMasterApiKey (.api headers idempotencyKey endpoint) seen (.inr (.inr (.inl op)))
  | analyse {headers query readDate seen merchantId} : Passed sha256 headers seen merchantId →
      ServerCourse P sha256 devMasterApiKey (.overview headers query readDate) seen
        (.inr (.inl (.findMany (query.whereClause readDate (some merchantId)))))
  | handle {request seen handled inner op} : Handled sha256 request seen handled → AppCourse P handled inner op →
      (∀ entry ∈ inner, ⟨.inr (.inr (.inr entry.1)), entry.2⟩ ∈ seen) →
      ServerCourse P sha256 devMasterApiKey request seen (.inr (.inr (.inr op)))

/-- A request that ends well has passed its guard, if it has one. -/
def ServerEnds (sha256 : String → String) (request : ServerRequest) (seen : ServerHistory) :
    Except JsError ServerReply → Prop
  | .ok _ => ∀ headers, request.guarded = some headers → ∃ merchantId, Passed sha256 headers seen merchantId
  | .error _ => True

section
variable {P : Platform} {orchestrator : OrchestratorService} {sha256 : String → String} {devMasterApiKey : Option String}

theorem Passed.later {headers : AuthHeaders} {seen later : ServerHistory} {merchantId : Uuid} (passed : Passed sha256 headers seen merchantId)
    (grown : ∀ entry ∈ seen, entry ∈ later) : Passed sha256 headers later merchantId := by
  obtain ⟨presented, active, enabled, named, found⟩ := passed
  exact .found presented active enabled named (grown _ found)

/-- The guard asks what it asks alone, and returns a merchant for which it lets the request pass. -/
theorem apiKeyGuard_course {request : ServerRequest} {headers : AuthHeaders} (guarded : request.guarded = some headers) :
    Async.Obeys (ServerCourse P sha256 devMasterApiKey request)
      (fun seen merchant => Passed sha256 headers seen merchant.id) (fun _ _ => True) (apiKeyGuard sha256 headers) [] := by
  refine Async.obeys_liftLeft (guard_course sha256 headers) (fun _ _ course => .guard guarded course) ?_ fun _ _ _ => trivial
  rintro seen merchant returned
  cases returned with
  | authenticated presented active enabled => exact .found presented active enabled rfl (by simp)

/-- A handler behind its guard, or without one. -/
theorem handler_course {request : ServerRequest} {earlier : ServerHistory} {α : Type} {handler : Promise α} {handled : AppRequest}
    (course : Async.Obeys (AppCourse P handled) (fun _ _ => True) (fun _ _ => True) handler [])
    (handles : ∀ seen, (∀ entry ∈ earlier, entry ∈ seen) → Handled sha256 request seen handled) :
    Async.Obeys (ServerCourse P sha256 devMasterApiKey request) (fun seen _ => ∀ entry ∈ earlier, entry ∈ seen) (fun _ _ => True)
      (served handler) earlier := by
  refine Async.obeys_lift (Async.obeys_lift_alone (Async.obeys_lift_alone course)) earlier ?_
    (fun _ _ _ entry member => List.mem_append_right _ member) fun _ _ _ => trivial
  rintro seen op ⟨_, _, rfl, rfl, inner, own, rfl, rfl, asks⟩
  refine .handle (handles _ fun entry member => List.mem_append_right _ member) asks fun entry member => ?_
  exact List.mem_append_left _ (mem_lifted_of (mem_lifted_of (mem_lifted_of member)))

/-- What is known of the handlers behind the interceptor: they keep to their courses. -/
def ApiRequest.course (P : Platform) (request : ApiRequest) : HandlerSpec Op Op.Answer ApiBody :=
  ⟨AppCourse P (request.endpoint.request request.merchantId), fun _ _ => True, fun _ _ => True⟩

theorem served_keep (P : Platform) (faithful : orchestrator.Faithful) : (servedApi P orchestrator).Keep (ApiRequest.course P) := by
  rintro ⟨merchantId, idempotencyKey, endpoint⟩
  cases endpoint with
  | createSession dto isAvailable randomHex =>
    exact (Async.obeys_bind _ _ _).mpr (createSession_course P faithful isAvailable randomHex dto merchantId)
  | createRefund id dto =>
    exact (Async.obeys_bind _ _ _).mpr (Async.Obeys.mono (fun _ _ asks => asks) (fun _ _ _ => trivial)
      (fun _ _ _ => trivial) (processRefund_steps P id dto merchantId))

/-- A handler behind the interceptor asks what it has come to by what it has seen. -/
theorem InterceptCourse.handles {Op Body : Type} {Ans : Op → Type} {idempotencyTtlSeconds : Option String}
    {call : IdempotentCall Op Ans Body} {spec : HandlerSpec Op Ans Body} {seen : KeyHistory Body Ans} {op : Op}
    (course : InterceptCourse idempotencyTtlSeconds call spec seen (.inr op)) :
    ∃ inner, spec.asks inner op ∧ ∀ entry ∈ inner, (⟨.inr entry.1, entry.2⟩ : KeyEntry Body Ans) ∈ seen := by
  cases course with
  | @free inner _ _ asks => exact ⟨inner, asks, fun entry member => List.mem_map.mpr ⟨entry, member, rfl⟩⟩
  | @handle _ inner _ _ _ handling asks => exact ⟨inner, asks, fun _ => handling.seen⟩

theorem intercepted_course (faithful : orchestrator.Faithful) {headers : AuthHeaders} {idempotencyKey : Option String}
    {endpoint : Endpoint} {earlier : ServerHistory} {merchantId : Uuid} (passed : Passed sha256 headers earlier merchantId) :
    Async.Obeys (ServerCourse P sha256 devMasterApiKey (.api headers idempotencyKey endpoint))
      (fun seen _ => ∀ entry ∈ earlier, entry ∈ seen) (fun _ _ => True)
      (Async.lift (Async.lift (intercept P.processEnv.idempotencyTtlSeconds
        ((servedApi P orchestrator).call ⟨merchantId, idempotencyKey, endpoint⟩)))) earlier := by
  have alone := intercept_course P.processEnv.idempotencyTtlSeconds (served_keep P faithful ⟨merchantId, idempotencyKey, endpoint⟩)
  refine Async.obeys_lift (Async.obeys_lift_alone alone) earlier ?_ (fun _ _ _ entry member => List.mem_append_right _ member)
    fun _ _ _ => trivial
  rintro _ _ ⟨seen, op, rfl, rfl, course⟩
  have kept : Passed sha256 headers (lifted (lifted seen) ++ earlier) merchantId :=
    passed.later fun entry member => List.mem_append_right _ member
  cases op with
  | inl op => exact .intercept kept
  | inr op =>
    obtain ⟨inner, asks, inside⟩ := course.handles
    refine .handle (.api kept) asks fun entry member => ?_
    exact List.mem_append_left _ (mem_lifted_of (mem_lifted_of (inside entry member)))

/-- An overview reads the payments of the merchant that its guard has let pass. -/
theorem overview_course {headers : AuthHeaders} {query : AnalyticsQueryDto} {readDate : String → JsDate}
    {earlier : ServerHistory} {merchantId : Uuid} (passed : Passed sha256 headers earlier merchantId) :
    Async.Obeys (ServerCourse P sha256 devMasterApiKey (.overview headers query readDate))
      (fun seen _ => ∀ entry ∈ earlier, entry ∈ seen) (fun _ _ => True)
      (Async.lift (Async.liftLeft (getOverview readDate query (some merchantId)))) earlier := by
  have asks : Async.Obeys (fun _ op => op = AnalyticsOp.findMany (query.whereClause readDate (some merchantId)))
      (fun _ _ => True) (fun _ _ => True) (getOverview readDate query (some merchantId)) [] := by
    refine (Async.obeys_bind _ _ _).mpr ((Async.obeys_request _ _ _).mpr ⟨rfl, ?_⟩)
    rintro (err | found)
    · trivial
    · exact trivial
  have alone : Async.Obeys
      (fun (_ : History (Both AnalyticsOp.Answer (Both (@KeyOp.Answer ApiBody) Op.Answer))) op =>
        op = .inl (.findMany (query.whereClause readDate (some merchantId))))
      (fun _ _ => True) (fun _ _ => True) (Async.liftLeft (getOverview readDate query (some merchantId))) [] :=
    Async.obeys_liftLeft asks (fun _ _ same => congrArg Sum.inl same) (fun _ _ _ => trivial) fun _ _ _ => trivial
  refine Async.obeys_lift alone earlier ?_ (fun _ _ _ entry member => List.mem_append_right _ member) fun _ _ _ => trivial
  rintro seen op rfl
  exact .analyse (passed.later fun entry member => List.mem_append_right _ member)

theorem server_course (faithful : orchestrator.Faithful) (request : ServerRequest) :
    ((server P orchestrator sha256 devMasterApiKey).start request).Obeys (ServerCourse P sha256 devMasterApiKey request)
      (ServerEnds sha256 request) [] := by
  have course : Async.Obeys (ServerCourse P sha256 devMasterApiKey request)
      (fun seen _ => ∀ headers, request.guarded = some headers → ∃ merchantId, Passed sha256 headers seen merchantId)
      (fun _ _ => True) (request.handle P orchestrator sha256 devMasterApiKey) [] := by
    have sweep : Async.Obeys (AppCourse P (.payment .reconcile)) (fun _ _ => True) (fun _ _ => True) (reconcileStaleIntents P) [] :=
      reconcileStaleIntents_sweep P
    cases request with
    | merchants headers route =>
      refine (Async.obeys_bind _ _ _).mpr ((Async.obeys_ofExcept _ _).mpr ?_)
      cases admitted : adminGuard devMasterApiKey headers with
      | error err => trivial
      | ok _ =>
        refine (Async.obeys_bind _ _ _).mpr (Async.obeys_liftLeft (account_course sha256 route.request) ?_ ?_ fun _ _ _ => trivial)
        · exact fun _ _ course => .administer admitted course
        · exact fun _ _ _ _ none => by cases none
    | api headers idempotencyKey endpoint =>
      refine (Async.obeys_bind _ _ _).mpr (Async.Obeys.mono (fun _ _ asks => asks) ?_ (fun _ _ _ => trivial) (apiKeyGuard_course rfl))
      intro earlier merchant passed
      refine (Async.obeys_bind _ _ _).mpr (Async.Obeys.mono (fun _ _ asks => asks) ?_ (fun _ _ _ => trivial)
        (intercepted_course faithful passed))
      rintro seen reply grown _ ⟨⟩
      exact ⟨_, passed.later grown⟩
    | getRefunds headers paymentIntentId =>
      refine (Async.obeys_bind _ _ _).mpr (Async.Obeys.mono (fun _ _ asks => asks) ?_ (fun _ _ _ => trivial) (apiKeyGuard_course rfl))
      intro earlier merchant passed
      refine (Async.obeys_bind _ _ _).mpr (Async.Obeys.mono (fun _ _ asks => asks) ?_ (fun _ _ _ => trivial)
        (handler_course (getRefunds_course P paymentIntentId merchant.id) fun _ grown => .getRefunds (passed.later grown)))
      rintro seen reply grown _ ⟨⟩
      exact ⟨_, passed.later grown⟩
    | trigger headers =>
      refine (Async.obeys_bind _ _ _).mpr (Async.Obeys.mono (fun _ _ asks => asks) ?_ (fun _ _ _ => trivial) (apiKeyGuard_course rfl))
      intro earlier merchant passed
      refine (Async.obeys_bind _ _ _).mpr (Async.Obeys.mono (fun _ _ asks => asks) ?_ (fun _ _ _ => trivial)
        (handler_course sweep fun _ grown => .trigger (passed.later grown)))
      rintro seen reply grown _ ⟨⟩
      exact ⟨_, passed.later grown⟩
    | overview headers query readDate =>
      refine (Async.obeys_bind _ _ _).mpr (Async.Obeys.mono (fun _ _ asks => asks) ?_ (fun _ _ _ => trivial) (apiKeyGuard_course rfl))
      intro earlier merchant passed
      refine (Async.obeys_bind _ _ _).mpr (Async.Obeys.mono (fun _ _ asks => asks) ?_ (fun _ _ _ => trivial) (overview_course passed))
      rintro seen reply grown _ ⟨⟩
      exact ⟨_, passed.later grown⟩
    | webhook d =>
      have handler : Async.Obeys (AppCourse P (.payment (.webhook d))) (fun _ _ => True) (fun _ _ => True)
          (handleIncomingWebhook P d) [] :=
        (handleIncomingWebhook_steps P d).mono (fun _ _ asks => asks) (fun _ _ _ => trivial) fun _ _ _ => trivial
      exact (Async.obeys_bind _ _ _).mpr ((handler_course handler fun _ _ => .webhook).mono (fun _ _ asks => asks)
        (fun _ _ _ _ none => by cases none) fun _ _ _ => trivial)
    | scheduled =>
      exact (Async.obeys_bind _ _ _).mpr ((handler_course sweep fun _ _ => .scheduled).mono
        (fun _ _ asks => asks) (fun _ _ _ _ none => by cases none) fun _ _ _ => trivial)
  refine Prog.Obeys.mono (fun _ _ asks => asks) ?_ course
  rintro seen (err | reply) ended
  · trivial
  · exact ended

end

end PayBridge
