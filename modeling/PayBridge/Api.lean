import PayBridge.Checkout
import PayBridge.KeyService

namespace PayBridge
open Store Await

/-- The routes behind the interceptor. The state of the circuits and the random
bytes are what a checkout meets when it runs. -/
inductive Endpoint
  | createSession (dto : CreateCheckoutSessionDto) (isAvailable : GatewayProvider → Bool) (randomHex : String)
  | createRefund (id : String) (dto : CreateRefundDto)

/-- A request as the API key guard lets it pass, with the merchant it found. -/
structure ApiRequest where
  merchantId : Uuid
  idempotencyKey : Option String
  endpoint : Endpoint

inductive ApiBody
  | session (session : CheckoutSession)
  | refund (response : RefundResponse)
  deriving DecidableEq

/-- `@HttpCode` of the route. -/
def Endpoint.statusCode : Endpoint → Nat
  | .createSession _ _ _ => 201
  | .createRefund _ _ => 200

def ApiRequest.handle (P : Platform) (request : ApiRequest) : Promise ApiBody :=
  match request.endpoint with
  | .createSession dto isAvailable randomHex => do
    let session ← createSession P .new isAvailable randomHex dto request.merchantId
    return .session session
  | .createRefund id dto => do
    let response ← processRefund P id dto request.merchantId
    return .refund response

def api (P : Platform) : Routes Op Op.Answer ApiBody World Env ApiRequest where
  perform := perform P
  call request := ⟨request.idempotencyKey, request.endpoint.statusCode, request.handle P⟩

/-- What is known of the handlers: a refund keeps to its course. -/
def ApiRequest.spec (P : Platform) (request : ApiRequest) : HandlerSpec Op Op.Answer ApiBody :=
  match request.endpoint with
  | .createSession _ _ _ => anyHandler
  | .createRefund id dto => ⟨RefundCourse P id dto request.merchantId, fun _ _ => True, fun _ _ => True⟩

theorem api_keep (P : Platform) : (api P).Keep (ApiRequest.spec P) := by
  intro request
  obtain ⟨merchantId, idempotencyKey, endpoint⟩ := request
  cases endpoint with
  | createSession dto isAvailable randomHex =>
    exact (api P).keep_any ⟨merchantId, idempotencyKey, .createSession dto isAvailable randomHex⟩
  | createRefund id dto =>
    exact (Async.obeys_bind _ _ _).mpr (Async.Obeys.mono (fun _ _ asks => asks) (fun _ _ _ => trivial)
      (fun _ _ _ => trivial) (processRefund_course P id dto merchantId))

/-- What is known of the handlers when they return: a refund shows what it has had
recorded, and no checkout gets as far. -/
def ApiRequest.returning (P : Platform) (request : ApiRequest) : HandlerSpec Op Op.Answer ApiBody where
  asks _ _ := True
  returns seen body := match request.endpoint with
    | .createSession _ _ _ => False
    | .createRefund id dto => ∃ response, body = .refund response ∧ RefundReturned P id dto request.merchantId seen response
  throws _ _ := True

/-- A checkout on a real orchestrator asks the time and throws. -/
theorem createSession_throws (P : Platform) (isAvailable : GatewayProvider → Bool) (randomHex : String)
    (dto : CreateCheckoutSessionDto) (merchantId : Uuid) : Async.Obeys (fun _ _ => True) (fun _ _ => False) (fun _ _ => True)
      (createSession P .new isAvailable randomHex dto merchantId) [] := by
  unfold createSession OrchestratorService.new
  exact (Async.obeys_bind _ _ _).mpr ((Async.obeys_request _ _ _).mpr ⟨trivial, fun _ => trivial⟩)

theorem api_returning (P : Platform) : (api P).Keep (ApiRequest.returning P) := by
  rintro ⟨merchantId, idempotencyKey, endpoint⟩
  cases endpoint with
  | createSession dto isAvailable randomHex =>
    exact (Async.obeys_bind _ _ _).mpr (Async.Obeys.mono (fun _ _ _ => trivial) (fun _ _ never => never.elim)
      (fun _ _ _ => trivial) (createSession_throws P isAvailable randomHex dto merchantId))
  | createRefund id dto =>
    exact (Async.obeys_bind _ _ _).mpr (Async.Obeys.mono (fun _ _ _ => trivial) (fun _ response ended => ⟨response, rfl, ended.2⟩)
      (fun _ _ _ => trivial) (processRefund_steps P id dto merchantId))

/-- Any number of requests to the API at once. -/
def apiSystem (P : Platform) := idempotent P.processEnv.idempotencyTtlSeconds (api P)

abbrev ApiService := KeyService Op Op.Answer ApiBody World ApiRequest
abbrev ApiStep := KeyStep Env ApiRequest

/-- Whose request it is, and to what: the checkout, or the refunds of a path id. -/
structure Scope where
  merchantId : Uuid
  refundOf : Option String
  deriving DecidableEq

def ApiRequest.scope (request : ApiRequest) : Scope where
  merchantId := request.merchantId
  refundOf := match request.endpoint with
    | .createSession _ _ _ => none
    | .createRefund id _ => some id

/-- A step of the API that meets no failure. -/
def calmApi : KeyEnv Env := ⟨0, false, "", calmEnv⟩

end PayBridge
