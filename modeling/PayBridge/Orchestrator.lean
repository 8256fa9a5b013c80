import PayBridge.Effects

namespace PayBridge
open Store Await

/-- The body of an inbound request, by what `JSON.parse` makes of its bytes. -/
inductive RawBody
  | absent
  | malformed
  | json (payload : Json)

/-- `verifyWebhookSignature` of the provider; none of them reads the body yet. -/
def verifyWebhookSignature (provider : GatewayProvider) (_payload : RawBody) (signature : String) : Bool :=
  match provider with
  | .stripe => signature = "valid-stripe-signature"
  | .paymob => signature = "valid-paymob-hmac"
  | .fawry => signature = "valid-fawry-signature"

/-- The registered strategies. A provider is identified with its gateway. -/
def providers : List (String × GatewayProvider) :=
  [("STRIPE", .stripe), ("PAYMOB", .paymob), ("FAWRY", .fawry)]

def getProvider (gateway : String) : Except JsError GatewayProvider :=
  match providers.lookup gateway with
  | some provider => .ok provider
  | none => .error ⟨.http 500, s!"Gateway {gateway} is not currently supported"⟩

theorem getProvider_text (gateway : GatewayProvider) : getProvider gateway.text = .ok gateway := by
  cases gateway <;> decide +kernel

def fetchPaymentStatus (gateway : GatewayProvider) (gatewayPaymentId : String) : Promise GatewayPaymentStatus := do
  let provider ← Async.ofExcept (getProvider gateway.text)
  Async.request (.fetchPaymentStatus provider gatewayPaymentId) fun answer => answer

def orchestratorRefund (gateway : GatewayProvider) (gatewayPaymentId : String) (amount : ℚ) (currency : String)
    (reason : JsOptional String) : Promise RefundResult := do
  let provider ← Async.ofExcept (getProvider gateway.text)
  Async.request (.refund provider gatewayPaymentId amount currency reason) fun answer => answer

/-- `CircuitBreakerService.fire` of the provider's `createIntent`: an open
breaker is reported as an unavailable gateway. -/
def circuitBreakerFire (gateway provider : GatewayProvider) (amount : ℚ) (currency reference : String) :
    Promise PaymentIntentResult :=
  Async.request (.fireCreateIntent provider amount currency reference) fun answer => match answer with
    | .ok result => .ok result
    | .error .opened => .error ⟨.http 500, s!"Payment Gateway ({gateway.text}) is currently unavailable. Please try another payment method."⟩
    | .error (.failed err) => .error err

def safeCreateIntent (gateway : GatewayProvider) (amount : ℚ) (currency reference : String) :
    Promise PaymentIntentResult := do
  let provider ← Async.ofExcept (getProvider gateway.text)
  circuitBreakerFire gateway provider amount currency reference

/-- What `createSession` reads of a call with failover. -/
structure FallbackExecution where
  result : PaymentIntentResult
  gateway : GatewayProvider
  deriving DecidableEq

/-- The orchestrator as an object: the class declares the failover method as a
field and assigns it nowhere, so that a real instance holds `undefined`. -/
structure OrchestratorService where
  safeCreateIntentWithFallback :
    Option (List GatewayProvider → ℚ → String → String → Promise FallbackExecution)

/-- `new OrchestratorService(...)`. -/
def OrchestratorService.new : OrchestratorService := ⟨none⟩

@[simp] theorem fetchPaymentStatus_eq (gateway : GatewayProvider) (gatewayPaymentId : String) :
    fetchPaymentStatus gateway gatewayPaymentId =
      Async.request (.fetchPaymentStatus gateway gatewayPaymentId) fun answer => answer := by
  unfold fetchPaymentStatus
  rw [getProvider_text]
  rfl

@[simp] theorem orchestratorRefund_eq (gateway : GatewayProvider) (gatewayPaymentId : String) (amount : ℚ)
    (currency : String) (reason : JsOptional String) :
    orchestratorRefund gateway gatewayPaymentId amount currency reason =
      Async.request (.refund gateway gatewayPaymentId amount currency reason) fun answer => answer := by
  unfold orchestratorRefund
  rw [getProvider_text]
  rfl

@[simp] theorem safeCreateIntent_eq (gateway : GatewayProvider) (amount : ℚ) (currency reference : String) :
    safeCreateIntent gateway amount currency reference = circuitBreakerFire gateway gateway amount currency reference := by
  unfold safeCreateIntent
  rw [getProvider_text]
  rfl

end PayBridge
