import PayBridge.Await.Split
import PayBridge.Orchestrator

namespace PayBridge
open Await

/-- What a breaker has been through: calls that it has run or turned away, and
the ends of those it has run, in the order it has run them. -/
inductive BreakerEvent
  | ran (now : Timestamp)
  | rejected (now : Timestamp)
  | settled (n : Nat) (answer : Except BreakerError PaymentIntentResult) (now : Timestamp)
  deriving DecidableEq

def BreakerEvent.isRan : BreakerEvent → Bool
  | .ran _ => true
  | _ => false

structure BreakerOptions where
  timeout : Nat
  errorThresholdPercentage : Nat
  volumeThreshold : Nat
  resetTimeout : Nat
  deriving DecidableEq

/-- The `CircuitBreaker` class of `opossum`. What an instance does depends on its
options, on what it has been through and on the time. -/
structure Opossum where
  admits : BreakerOptions → List BreakerEvent → Timestamp → Bool
  opened : BreakerOptions → List BreakerEvent → Timestamp → Bool
  halfOpen : BreakerOptions → List BreakerEvent → Timestamp → Bool

/-- An instance. Its action is the `createIntent` of a provider. -/
structure CircuitBreaker where
  action : GatewayProvider
  options : BreakerOptions
  history : List BreakerEvent
  deriving DecidableEq

inductive BreakerStatus
  | opened
  | halfOpen
  | closed
  deriving DecidableEq

/-- The map from gateways to breakers. -/
structure CircuitBreakerService where
  breakers : GatewayProvider → Option CircuitBreaker

/-- The calls of a provider that no breaker stands before. -/
inductive DirectCall
  | fetchPaymentStatus (provider : GatewayProvider) (gatewayPaymentId : String)
  | refund (provider : GatewayProvider) (gatewayPaymentId : String) (amount : ℚ) (currency : String) (reason : JsOptional String)
  deriving DecidableEq

abbrev DirectCall.op : DirectCall → Op
  | .fetchPaymentStatus provider gatewayPaymentId => .fetchPaymentStatus provider gatewayPaymentId
  | .refund provider gatewayPaymentId amount currency reason => .refund provider gatewayPaymentId amount currency reason

/-- What a call comes to at once, and what the end of one that has called its
provider comes to. -/
inductive CallReply
  | invoked (op : Op)
  | rejected (err : JsError)
  | created (result : Except JsError PaymentIntentResult)
  | answered (call : DirectCall) (answer : call.op.Answer)
  | idle

/-- The error of a call that an open breaker has turned away. -/
def unavailable (gateway : GatewayProvider) : JsError :=
  ⟨.http 500, s!"Payment Gateway ({gateway.text}) is currently unavailable. Please try another payment method."⟩

/-- What `fire` makes of the end of its call. -/
def fireResult (gateway : GatewayProvider) : Except BreakerError PaymentIntentResult → Except JsError PaymentIntentResult
  | .ok result => .ok result
  | .error .opened => .error (unavailable gateway)
  | .error (.failed err) => .error err

namespace CircuitBreaker

/-- A call that the breaker has run and that has not ended. -/
def running (breaker : CircuitBreaker) (n : Nat) : Bool :=
  n < breaker.history.countP BreakerEvent.isRan &&
  breaker.history.all fun event => match event with
    | .settled m _ _ => m ≠ n
    | _ => true

def goesOn (breaker : CircuitBreaker) (event : BreakerEvent) : CircuitBreaker :=
  { breaker with history := breaker.history ++ [event] }

end CircuitBreaker

namespace CircuitBreakerService

def new : CircuitBreakerService := ⟨fun _ => none⟩

def breakerOptions : BreakerOptions := ⟨5000, 50, 10, 30000⟩

def set (service : CircuitBreakerService) (gateway : GatewayProvider) (breaker : CircuitBreaker) : CircuitBreakerService :=
  ⟨Function.update service.breakers gateway (some breaker)⟩

def getBreaker (service : CircuitBreakerService) (gateway action : GatewayProvider) : CircuitBreaker × CircuitBreakerService :=
  match service.breakers gateway with
  | some breaker => (breaker, service)
  | none => (⟨action, breakerOptions, []⟩, service.set gateway ⟨action, breakerOptions, []⟩)

def fire (O : Opossum) (service : CircuitBreakerService) (gateway action : GatewayProvider) (amount : ℚ)
    (currency reference : String) (now : Timestamp) : CircuitBreakerService × CallReply :=
  let (breaker, service) := service.getBreaker gateway action
  if O.admits breaker.options breaker.history now then
    (service.set gateway (breaker.goesOn (.ran now)), .invoked (.fireCreateIntent breaker.action amount currency reference))
  else (service.set gateway (breaker.goesOn (.rejected now)), .rejected (unavailable gateway))

def isAvailable (O : Opossum) (service : CircuitBreakerService) (gateway : GatewayProvider) (now : Timestamp) : Bool :=
  match service.breakers gateway with
  | none => true
  | some breaker => !O.opened breaker.options breaker.history now

def getBreakerStatus (O : Opossum) (service : CircuitBreakerService) (gateway : GatewayProvider) (now : Timestamp) : BreakerStatus :=
  match service.breakers gateway with
  | none => .closed
  | some breaker =>
    if O.opened breaker.options breaker.history now then .opened
    else if O.halfOpen breaker.options breaker.history now then .halfOpen
    else .closed

end CircuitBreakerService

/-- The breakers, and the calls of providers under way that go past them, by the
gateway they were made for. -/
structure Orchestration where
  circuitBreaker : CircuitBreakerService
  direct : GatewayProvider → List DirectCall

/-- The calls of the orchestrator, and the ends of calls of providers. -/
inductive CallStep
  | safeCreateIntent (gateway : GatewayProvider) (amount : ℚ) (currency reference : String) (now : Timestamp)
  | fetchPaymentStatus (gateway : GatewayProvider) (gatewayPaymentId : String) (now : Timestamp)
  | refund (gateway : GatewayProvider) (gatewayPaymentId : String) (amount : ℚ) (currency : String) (reason : JsOptional String)
      (now : Timestamp)
  | settle (gateway : GatewayProvider) (n : Nat) (answer : Except BreakerError PaymentIntentResult) (now : Timestamp)
  | answer (gateway : GatewayProvider) (call : DirectCall) (answer : call.op.Answer) (now : Timestamp)

def CallStep.gateway : CallStep → GatewayProvider
  | .safeCreateIntent gateway _ _ _ _ => gateway
  | .fetchPaymentStatus gateway _ _ => gateway
  | .refund gateway _ _ _ _ _ => gateway
  | .settle gateway _ _ _ => gateway
  | .answer gateway _ _ _ => gateway

def CallStep.now : CallStep → Timestamp
  | .safeCreateIntent _ _ _ _ now => now
  | .fetchPaymentStatus _ _ now => now
  | .refund _ _ _ _ _ now => now
  | .settle _ _ _ now => now
  | .answer _ _ _ now => now

namespace Orchestration

def new : Orchestration := ⟨.new, fun _ => []⟩

/-- A call that goes to the provider of its gateway directly. -/
def callDirectly (s : Orchestration) (gateway : GatewayProvider) (call : GatewayProvider → DirectCall) : Orchestration × CallReply :=
  match getProvider gateway.text with
  | .error err => (s, .rejected err)
  | .ok provider =>
    ({ s with direct := Function.update s.direct gateway (s.direct gateway ++ [call provider]) }, .invoked (call provider).op)

def step (O : Opossum) (s : Orchestration) : CallStep → Orchestration × CallReply
  | .safeCreateIntent gateway amount currency reference now =>
    match getProvider gateway.text with
    | .error err => (s, .rejected err)
    | .ok provider =>
      let (service, reply) := s.circuitBreaker.fire O gateway provider amount currency reference now
      ({ s with circuitBreaker := service }, reply)
  | .fetchPaymentStatus gateway gatewayPaymentId _ =>
    s.callDirectly gateway fun provider => .fetchPaymentStatus provider gatewayPaymentId
  | .refund gateway gatewayPaymentId amount currency reason _ =>
    s.callDirectly gateway fun provider => .refund provider gatewayPaymentId amount currency reason
  | .settle gateway n answer now =>
    match s.circuitBreaker.breakers gateway with
    | none => (s, .idle)
    | some breaker =>
      if breaker.running n then
        ({ s with circuitBreaker := s.circuitBreaker.set gateway (breaker.goesOn (.settled n answer now)) },
          .created (fireResult gateway answer))
      else (s, .idle)
  | .answer gateway call answer _ =>
    if call ∈ s.direct gateway then
      ({ s with direct := Function.update s.direct gateway ((s.direct gateway).erase call) }, .answered call answer)
    else (s, .idle)

end Orchestration

/-- The orchestrator with its breakers. Calls may overlap. -/
def orchestration (O : Opossum) : Machine Orchestration CallStep CallReply := ⟨Orchestration.step O⟩

end PayBridge
