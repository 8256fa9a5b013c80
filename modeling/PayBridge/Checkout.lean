import PayBridge.Routing
import PayBridge.System

namespace PayBridge
open Store Await

/-- A checkout request as validation lets it pass; an optional field may be `null`. -/
structure CreateCheckoutSessionDto where
  amount : ℚ
  currency : String
  customerEmail : String
  gateway : JsOptional GatewayProvider
  routingStrategy : JsOptional RoutingStrategy

structure CheckoutSession where
  intentId : Uuid
  reference : String
  gateway : GatewayProvider
  clientSecret : String
  deriving DecidableEq

/-- The internal order id: the time and random bytes. -/
def orderReference (now : Timestamp) (randomHex : String) : String := s!"ORD-{now}-{randomHex}"

def CreateCheckoutSessionDto.route (P : Platform) (isAvailable : GatewayProvider → Bool)
    (dto : CreateCheckoutSessionDto) : RoutingResult :=
  resolveRoute P isAvailable ⟨dto.amount, dto.currency, dto.gateway.toOption, dto.routingStrategy.toOption⟩

/-- The row `createSession` has stored for an executed call. -/
def CreateCheckoutSessionDto.newIntent (P : Platform) (dto : CreateCheckoutSessionDto) (reference : String)
    (merchantId : Uuid) (execution : FallbackExecution) : NewIntent where
  reference := reference
  amount := dto.amount
  currency := P.toUpperCase dto.currency
  gateway := execution.gateway
  customerEmail := dto.customerEmail
  gatewayPaymentId := execution.result.gatewayPaymentId
  merchantId := merchantId
  status := .pending

/-- `createSession`, against an orchestrator object; calling a field that
holds `undefined` throws. -/
def createSession (P : Platform) (orchestrator : OrchestratorService) (isAvailable : GatewayProvider → Bool)
    (randomHex : String) (dto : CreateCheckoutSessionDto) (merchantId : Uuid) : Promise CheckoutSession := do
  let now ← dateNow
  let reference := orderReference now randomHex
  let routingResult := dto.route P isAvailable
  match orchestrator.safeCreateIntentWithFallback with
  | none => throw ⟨.typeError, "this.orchestrator.safeCreateIntentWithFallback is not a function"⟩
  | some safeCreateIntentWithFallback =>
    let execution ← safeCreateIntentWithFallback routingResult.candidates dto.amount dto.currency reference
    let paymentIntent ← query (.createIntent (dto.newIntent P reference merchantId execution))
    return ⟨paymentIntent.id, paymentIntent.reference, execution.gateway, execution.result.clientSecret⟩

section
variable (P : Platform) (env : Op → Env) (isAvailable : GatewayProvider → Bool) (randomHex : String)
variable (dto : CreateCheckoutSessionDto) (merchantId : Uuid) (w : World)

/-- Whether a gateway accepts the call of this checkout, through its circuit breaker. -/
def Accepts (gateway : GatewayProvider) (result : PaymentIntentResult) : Prop :=
  ((safeCreateIntent gateway dto.amount dto.currency (orderReference (env .now).now randomHex)).run
    (perform P) env w).value = .ok result

/-- Checkout with failover: the first gateway of the chain to accept is the
one stored; if none accepts, checkout throws and stores nothing. -/
def FailsOver (o : Outcome Op.Answer World (Except JsError CheckoutSession)) : Prop :=
  (∀ before gateway after result, (dto.route P isAvailable).candidates = before ++ gateway :: after →
    (∀ earlier ∈ before, ∀ other, ¬ Accepts P env randomHex dto w earlier other) →
    Accepts P env randomHex dto w gateway result →
    ∃ session row, o.value = .ok session ∧ o.world.db.intents.rows = w.db.intents.rows ++ [row] ∧
      row.status = .pending ∧ row.merchantId = merchantId ∧ row.gateway = gateway ∧
      row.gatewayPaymentId = some result.gatewayPaymentId) ∧
  ((∀ gateway ∈ (dto.route P isAvailable).candidates, ∀ result, ¬ Accepts P env randomHex dto w gateway result) →
    (∃ err, o.value = .error err) ∧ o.world.db = w.db)

/-- On a real orchestrator every checkout throws before it reaches a gateway or the database. -/
theorem createSession_new :
    (createSession P .new isAvailable randomHex dto merchantId).run (perform P) env w =
      ⟨.error ⟨.typeError, "this.orchestrator.safeCreateIntentWithFallback is not a function"⟩, w,
        [⟨.now, (env .now).now⟩]⟩ := by
  unfold createSession OrchestratorService.new dateNow
  simp only [Async.run_bind, Async.run_request, Async.run_throw]
  rfl

end

/-- Some candidate accepts exactly when there is a first one that does. -/
theorem first_accepts {P : Platform} {env : Op → Env} {randomHex : String} {dto : CreateCheckoutSessionDto}
    {w : World} {candidates : List GatewayProvider}
    (some : ∃ gateway ∈ candidates, ∃ result, Accepts P env randomHex dto w gateway result) :
    ∃ before gateway after result, candidates = before ++ gateway :: after ∧
      (∀ earlier ∈ before, ∀ other, ¬ Accepts P env randomHex dto w earlier other) ∧
      Accepts P env randomHex dto w gateway result := by
  induction candidates with
  | nil =>
    obtain ⟨gateway, member, _⟩ := some
    cases member
  | cons head rest ih =>
    by_cases taken : ∃ result, Accepts P env randomHex dto w head result
    · obtain ⟨result, accepts⟩ := taken
      exact ⟨[], head, rest, result, rfl, by simp, accepts⟩
    · have later : ∃ gateway ∈ rest, ∃ result, Accepts P env randomHex dto w gateway result := by
        obtain ⟨gateway, member, result, accepts⟩ := some
        rcases List.mem_cons.mp member with rfl | inside
        · exact absurd ⟨result, accepts⟩ taken
        · exact ⟨gateway, inside, result, accepts⟩
      obtain ⟨before, gateway, after, result, rfl, none, accepts⟩ := ih later
      refine ⟨head :: before, gateway, after, result, rfl, ?_, accepts⟩
      intro earlier member other refused
      rcases List.mem_cons.mp member with rfl | inside
      · exact taken ⟨other, refused⟩
      · exact none earlier inside other refused

/-- Checkout fails over as promised if and only if there is no gateway to fail
over to: no candidate accepts. -/
theorem checkout_fails_over_iff (P : Platform) (env : Op → Env) (isAvailable : GatewayProvider → Bool)
    (randomHex : String) (dto : CreateCheckoutSessionDto) (merchantId : Uuid) (w : World) :
    FailsOver P env isAvailable randomHex dto merchantId w
        ((createSession P .new isAvailable randomHex dto merchantId).run (perform P) env w) ↔
      ∀ gateway ∈ (dto.route P isAvailable).candidates, ∀ result, ¬ Accepts P env randomHex dto w gateway result := by
  rw [createSession_new]
  constructor
  · rintro ⟨first, _⟩ gateway member result accepts
    obtain ⟨before, chosen, after, reported, split, none, accepted⟩ := first_accepts ⟨gateway, member, result, accepts⟩
    obtain ⟨session, row, returned, _⟩ := first before chosen after reported split none accepted
    cases returned
  · intro nobody
    refine ⟨?_, fun _ => ⟨⟨_, rfl⟩, rfl⟩⟩
    intro before gateway after result split _ accepts
    exact absurd accepts (nobody gateway (by rw [split]; simp) result)

/-- A checkout in dollars at a service all of whose gateways answer. -/
def sampleCheckout : CreateCheckoutSessionDto := ⟨100, "USD", "customer@example.com", .undefined, .undefined⟩

/-- Where every gateway accepts the call, checkout still throws and stores nothing. -/
theorem checkout_never_called : ¬ ∀ (P : Platform) (env : Op → Env) (isAvailable : GatewayProvider → Bool)
    (randomHex : String) (dto : CreateCheckoutSessionDto) (merchantId : Uuid) (w : World),
    FailsOver P env isAvailable randomHex dto merchantId w
      ((createSession P .new isAvailable randomHex dto merchantId).run (perform P) env w) := by
  intro always
  obtain ⟨first, _⟩ := always plainPlatform (fun _ => calmEnv) (fun _ => true) "a1b2c3d4" sampleCheckout sampleMerchant.id
    ⟨sampleDatabase .captured, []⟩
  obtain ⟨session, row, returned, _⟩ := first [] .stripe [.paymob] calmEnv.created (by decide +kernel) (by simp) rfl
  rw [createSession_new] at returned
  cases returned

end PayBridge
