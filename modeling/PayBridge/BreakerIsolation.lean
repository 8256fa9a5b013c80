import PayBridge.CircuitBreaker

namespace PayBridge
open Await

/-- What the orchestrator keeps for one gateway. -/
structure GatewayState where
  breaker : Option CircuitBreaker
  direct : List DirectCall

def Orchestration.part (gateway : GatewayProvider) (s : Orchestration) : GatewayState :=
  ⟨s.circuitBreaker.breakers gateway, s.direct gateway⟩

/-- The breaker that a call is fired through: the stored one, whose action is the
one it was made with, or else a new one. -/
def usedBreaker (stored : Option CircuitBreaker) (action : GatewayProvider) : CircuitBreaker :=
  stored.getD ⟨action, CircuitBreakerService.breakerOptions, []⟩

/-- All that a step does to its own gateway, and its reply. -/
inductive GatewayDoes (O : Opossum) (state : GatewayState) : CallStep → GatewayState → CallReply → Prop
  | ran {gateway amount currency reference now} :
      O.admits (usedBreaker state.breaker gateway).options (usedBreaker state.breaker gateway).history now = true →
      GatewayDoes O state (.safeCreateIntent gateway amount currency reference now)
        ⟨some ((usedBreaker state.breaker gateway).goesOn (.ran now)), state.direct⟩
        (.invoked (.fireCreateIntent (usedBreaker state.breaker gateway).action amount currency reference))
  | rejected {gateway amount currency reference now} :
      O.admits (usedBreaker state.breaker gateway).options (usedBreaker state.breaker gateway).history now = false →
      GatewayDoes O state (.safeCreateIntent gateway amount currency reference now)
        ⟨some ((usedBreaker state.breaker gateway).goesOn (.rejected now)), state.direct⟩ (.rejected (unavailable gateway))
  | asked {gateway gatewayPaymentId now} : GatewayDoes O state (.fetchPaymentStatus gateway gatewayPaymentId now)
      ⟨state.breaker, state.direct ++ [.fetchPaymentStatus gateway gatewayPaymentId]⟩
      (.invoked (.fetchPaymentStatus gateway gatewayPaymentId))
  | paidBack {gateway gatewayPaymentId amount currency reason now} :
      GatewayDoes O state (.refund gateway gatewayPaymentId amount currency reason now)
        ⟨state.breaker, state.direct ++ [.refund gateway gatewayPaymentId amount currency reason]⟩
        (.invoked (.refund gateway gatewayPaymentId amount currency reason))
  | settled {gateway breaker n answer now} : state.breaker = some breaker → breaker.running n = true →
      GatewayDoes O state (.settle gateway n answer now) ⟨some (breaker.goesOn (.settled n answer now)), state.direct⟩
        (.created (fireResult gateway answer))
  | unsettled {gateway n answer now} : (∀ breaker, state.breaker = some breaker → breaker.running n = false) →
      GatewayDoes O state (.settle gateway n answer now) state .idle
  | answered {gateway call answer now} : call ∈ state.direct →
      GatewayDoes O state (.answer gateway call answer now) ⟨state.breaker, state.direct.erase call⟩ (.answered call answer)
  | unanswered {gateway call answer now} : call ∉ state.direct →
      GatewayDoes O state (.answer gateway call answer now) state .idle

theorem GatewayDoes.unique {O : Opossum} {state after after' : GatewayState} {event : CallStep} {reply reply' : CallReply}
    (does : GatewayDoes O state event after reply) (does' : GatewayDoes O state event after' reply') :
    after = after' ∧ reply = reply' := by
  cases does with
  | ran admits =>
    cases does' with
    | ran => exact ⟨rfl, rfl⟩
    | rejected refuses => cases refuses.symm.trans admits
  | rejected refuses =>
    cases does' with
    | ran admits => cases refuses.symm.trans admits
    | rejected => exact ⟨rfl, rfl⟩
  | asked => cases does'; exact ⟨rfl, rfl⟩
  | paidBack => cases does'; exact ⟨rfl, rfl⟩
  | settled stored running =>
    cases does' with
    | settled stored' =>
      cases stored.symm.trans stored'
      exact ⟨rfl, rfl⟩
    | unsettled ended => cases (ended _ stored).symm.trans running
  | unsettled ended =>
    cases does' with
    | settled stored running => cases (ended _ stored).symm.trans running
    | unsettled => exact ⟨rfl, rfl⟩
  | answered underWay =>
    cases does' with
    | answered => exact ⟨rfl, rfl⟩
    | unanswered ended => exact absurd underWay ended
  | unanswered ended =>
    cases does' with
    | answered underWay => exact absurd underWay ended
    | unanswered => exact ⟨rfl, rfl⟩

namespace CircuitBreakerService

@[simp] theorem set_self (service : CircuitBreakerService) (gateway : GatewayProvider) (breaker : CircuitBreaker) :
    (service.set gateway breaker).breakers gateway = some breaker :=
  Function.update_self ..

theorem set_other (service : CircuitBreakerService) {gateway other : GatewayProvider} (breaker : CircuitBreaker)
    (different : other ≠ gateway) : (service.set gateway breaker).breakers other = service.breakers other :=
  Function.update_of_ne different ..

@[simp] theorem set_set (service : CircuitBreakerService) (gateway : GatewayProvider) (first second : CircuitBreaker) :
    (service.set gateway first).set gateway second = service.set gateway second :=
  congrArg mk (Function.update_idem ..)

theorem fire_eq (O : Opossum) (service : CircuitBreakerService) (gateway action : GatewayProvider) (amount : ℚ)
    (currency reference : String) (now : Timestamp) :
    service.fire O gateway action amount currency reference now =
      let breaker := usedBreaker (service.breakers gateway) action
      if O.admits breaker.options breaker.history now then
        (service.set gateway (breaker.goesOn (.ran now)), .invoked (.fireCreateIntent breaker.action amount currency reference))
      else (service.set gateway (breaker.goesOn (.rejected now)), .rejected (unavailable gateway)) := by
  unfold fire getBreaker usedBreaker
  cases service.breakers gateway with
  | some breaker => rfl
  | none => simp only [Option.getD_none, set_set]

end CircuitBreakerService

namespace Orchestration

theorem callDirectly_eq (s : Orchestration) (gateway : GatewayProvider) (call : GatewayProvider → DirectCall) :
    s.callDirectly gateway call =
      ({ s with direct := Function.update s.direct gateway (s.direct gateway ++ [call gateway]) }, .invoked (call gateway).op) := by
  simp only [callDirectly, getProvider_text]

theorem step_does (O : Opossum) (s : Orchestration) (event : CallStep) :
    GatewayDoes O (s.part event.gateway) event ((s.step O event).1.part event.gateway) (s.step O event).2 := by
  cases event with
  | safeCreateIntent gateway amount currency reference now =>
    simp only [CallStep.gateway, step, getProvider_text, CircuitBreakerService.fire_eq]
    split
    · next admits =>
      simp only [part, CircuitBreakerService.set_self]
      exact .ran admits
    · next refuses =>
      simp only [part, CircuitBreakerService.set_self]
      exact .rejected (Bool.eq_false_iff.mpr refuses)
  | fetchPaymentStatus gateway gatewayPaymentId now =>
    simp only [CallStep.gateway, step, callDirectly_eq, part, Function.update_self]
    exact .asked
  | refund gateway gatewayPaymentId amount currency reason now =>
    simp only [CallStep.gateway, step, callDirectly_eq, part, Function.update_self]
    exact .paidBack
  | settle gateway n answer now =>
    simp only [CallStep.gateway, step]
    split
    · next none =>
      refine .unsettled fun breaker stored => ?_
      cases none.symm.trans stored
    · next breaker stored =>
      split
      · next running =>
        simp only [part, CircuitBreakerService.set_self]
        exact .settled stored running
      · next ended =>
        refine .unsettled fun other same => ?_
        cases stored.symm.trans same
        exact Bool.eq_false_iff.mpr ended
  | answer gateway call answer now =>
    simp only [CallStep.gateway, step]
    split
    · next underWay =>
      simp only [part, Function.update_self]
      exact .answered underWay
    · next ended => exact .unanswered ended

theorem step_replies (O : Opossum) (s : Orchestration) (event : CallStep) :
    ∃ state, GatewayDoes O (s.part event.gateway) event state (s.step O event).2 :=
  ⟨_, s.step_does O event⟩

theorem step_others (O : Opossum) (s : Orchestration) (event : CallStep) {gateway : GatewayProvider}
    (different : gateway ≠ event.gateway) : (s.step O event).1.part gateway = s.part gateway := by
  cases event with
  | safeCreateIntent own amount currency reference now =>
    have elsewhere : gateway ≠ own := different
    simp only [step, getProvider_text, CircuitBreakerService.fire_eq]
    split <;> simp only [part, CircuitBreakerService.set_other _ _ elsewhere]
  | fetchPaymentStatus own gatewayPaymentId now =>
    have elsewhere : gateway ≠ own := different
    simp only [step, callDirectly_eq, part, Function.update_of_ne elsewhere]
  | refund own gatewayPaymentId amount currency reason now =>
    have elsewhere : gateway ≠ own := different
    simp only [step, callDirectly_eq, part, Function.update_of_ne elsewhere]
  | settle own n answer now =>
    have elsewhere : gateway ≠ own := different
    simp only [step]
    split
    · rfl
    · split
      · simp only [part, CircuitBreakerService.set_other _ _ elsewhere]
      · rfl
  | answer own call answer now =>
    have elsewhere : gateway ≠ own := different
    simp only [step]
    split
    · simp only [part, Function.update_of_ne elsewhere]
    · rfl

end Orchestration

/-- An orchestrator that keeps the same for every gateway. -/
def GatewayState.everywhere (state : GatewayState) : Orchestration :=
  ⟨⟨fun _ => state.breaker⟩, fun _ => state.direct⟩

/-- A gateway by itself: it moves by its own steps, as it does in any orchestrator. -/
def gatewayAlone (O : Opossum) : Machine GatewayState CallStep CallReply :=
  ⟨fun state event => ((Orchestration.step O state.everywhere event).1.part event.gateway,
    (Orchestration.step O state.everywhere event).2)⟩

/-- The orchestrator is its gateways side by side. -/
theorem orchestration_splits (O : Opossum) : Splits (orchestration O) (gatewayAlone O) CallStep.gateway Orchestration.part := by
  have alone : ∀ (s : Orchestration) event, GatewayDoes O (s.part event.gateway) event
      ((gatewayAlone O).step (s.part event.gateway) event).1 ((gatewayAlone O).step (s.part event.gateway) event).2 :=
    fun s event => Orchestration.step_does O (s.part event.gateway).everywhere event
  constructor
  · intro s event
    exact ((s.step_does O event).unique (alone s event)).1
  · intro s event
    exact ((s.step_does O event).unique (alone s event)).2
  · intro s event gateway different
    exact s.step_others O event different

/-- Every breaker runs the provider that is registered under its own gateway. -/
def Registered (s : Orchestration) : Prop :=
  ∀ gateway breaker, s.circuitBreaker.breakers gateway = some breaker → getProvider gateway.text = .ok breaker.action

/-- A call is fired through a breaker of its own gateway's provider, whichever
call has made that breaker. -/
theorem Registered.used {s : Orchestration} (registered : Registered s) (gateway : GatewayProvider) :
    getProvider gateway.text = .ok (usedBreaker (s.circuitBreaker.breakers gateway) gateway).action := by
  unfold usedBreaker
  cases found : s.circuitBreaker.breakers gateway with
  | none => exact getProvider_text gateway
  | some breaker => exact registered gateway breaker found

theorem registered_step (O : Opossum) (s : Orchestration) (event : CallStep) (registered : Registered s) :
    Registered (s.step O event).1 := by
  intro gateway breaker found
  by_cases own : gateway = event.gateway
  · subst own
    have before : ∀ stored, (s.part event.gateway).breaker = some stored → getProvider event.gateway.text = .ok stored.action :=
      registered event.gateway
    have used := registered.used event.gateway
    have does := s.step_does O event
    have after : ((s.step O event).1.part event.gateway).breaker = some breaker := found
    generalize (s.step O event).1.part event.gateway = state, (s.step O event).2 = reply at does after
    cases does with
    | ran => cases after; exact used
    | rejected => cases after; exact used
    | asked => exact before breaker after
    | paidBack => exact before breaker after
    | @settled _ kept _ _ _ stored =>
      cases after
      exact before kept stored
    | unsettled => exact before breaker after
    | answered => exact before breaker after
    | unanswered => exact before breaker after
  · have others := (GatewayState.mk.inj (s.step_others O event own)).1
    exact registered gateway breaker (others.symm.trans found)

theorem registered_run (O : Opossum) (events : List CallStep) : Registered ((orchestration O).run .new events) := by
  refine (orchestration O).keeps (I := Registered) (fun s event => registered_step O s event) ?_ events
  intro gateway breaker found
  cases found

/-- A call either runs what its own gateway's provider is asked for by this very
call, or is turned away. -/
theorem Registered.fired (O : Opossum) {s : Orchestration} (registered : Registered s) (gateway : GatewayProvider) (amount : ℚ)
    (currency reference : String) (now : Timestamp) :
    (∃ provider, getProvider gateway.text = .ok provider ∧
      (s.step O (.safeCreateIntent gateway amount currency reference now)).2 =
        .invoked (.fireCreateIntent provider amount currency reference)) ∨
      (s.step O (.safeCreateIntent gateway amount currency reference now)).2 = .rejected (unavailable gateway) := by
  obtain ⟨state, does⟩ := s.step_replies O (.safeCreateIntent gateway amount currency reference now)
  generalize (s.step O (.safeCreateIntent gateway amount currency reference now)).2 = reply at does ⊢
  cases does with
  | ran => exact Or.inl ⟨_, registered.used gateway, rfl⟩
  | rejected => exact Or.inr rfl

/-- The call as the rest of the model has it: one request, which a call turned
away answers with an open breaker. -/
theorem safeCreateIntent_request (gateway : GatewayProvider) (amount : ℚ) (currency reference : String) :
    safeCreateIntent gateway amount currency reference =
        Async.request (.fireCreateIntent gateway amount currency reference) (fireResult gateway) ∧
      fireResult gateway (.error .opened) = .error (unavailable gateway) := by
  refine ⟨?_, rfl⟩
  rw [safeCreateIntent_eq, circuitBreakerFire]
  congr 1
  funext answer
  rcases answer with (_ | _) | _ <;> rfl

/-- In every run, a call for a gateway runs its provider's `createIntent` with its
own arguments or is turned away, and the breaker of a gateway, what is told of it
and what its next call comes to go by the steps for that gateway alone. -/
theorem breakers_isolated (O : Opossum) (events : List CallStep) :
    (∀ gateway amount currency reference now reply,
      (.safeCreateIntent gateway amount currency reference now, reply) ∈ (orchestration O).replies .new events →
        (∃ provider, getProvider gateway.text = .ok provider ∧
          reply = .invoked (.fireCreateIntent provider amount currency reference)) ∨
        reply = .rejected (unavailable gateway)) ∧
    ∀ gateway events',
      (events.filter fun event => event.gateway = gateway) = (events'.filter fun event => event.gateway = gateway) →
        (∀ now, ((orchestration O).run .new events).circuitBreaker.isAvailable O gateway now =
            ((orchestration O).run .new events').circuitBreaker.isAvailable O gateway now ∧
          ((orchestration O).run .new events).circuitBreaker.getBreakerStatus O gateway now =
            ((orchestration O).run .new events').circuitBreaker.getBreakerStatus O gateway now) ∧
        ∀ next, next.gateway = gateway →
          (((orchestration O).run .new events).step O next).2 = (((orchestration O).run .new events').step O next).2 := by
  constructor
  · intro gateway amount currency reference now reply member
    obtain ⟨before, rest, -, replied⟩ := (orchestration O).mem_replies.mp member
    rw [replied]
    exact (registered_run O before).fired O gateway amount currency reference now
  · intro gateway events' same
    have part := (orchestration_splits O).run_congr Orchestration.new same
    have breaker := (GatewayState.mk.inj part).1
    refine ⟨fun now => ⟨?_, ?_⟩, ?_⟩
    · simp only [CircuitBreakerService.isAvailable, breaker]
    · simp only [CircuitBreakerService.getBreakerStatus, breaker]
    · rintro next rfl
      exact (orchestration_splits O).reply_congr Orchestration.new same

/-- When a call that a breaker has run has failed. -/
def BreakerEvent.failedAt : BreakerEvent → Option Timestamp
  | .settled _ (.error _) now => some now
  | _ => none

/-- Enough calls, and too many of them failed. -/
def BreakerOptions.trips (options : BreakerOptions) (history : List BreakerEvent) : Bool :=
  options.volumeThreshold ≤ history.countP BreakerEvent.isRan &&
  options.errorThresholdPercentage * history.countP BreakerEvent.isRan < 100 * (history.filterMap BreakerEvent.failedAt).length

/-- Until the reset timeout has passed since the last failure. -/
def BreakerOptions.rests (options : BreakerOptions) (history : List BreakerEvent) (now : Timestamp) : Bool :=
  options.trips history && (history.filterMap BreakerEvent.failedAt).getLast?.any fun failed => now < failed + options.resetTimeout

/-- A breaker that trips and recovers as its options have it. -/
def Opossum.byThreshold : Opossum where
  admits options history now := !options.rests history now
  opened options history now := options.rests history now
  halfOpen options history now := options.trips history && !options.rests history now

/-- Ten calls for Stripe, all of which fail. -/
def outage : List CallStep :=
  (List.range 10).flatMap fun n =>
    [.safeCreateIntent .stripe 100 "USD" "order" 0, .settle .stripe n (.error (.failed ⟨.other, "down"⟩)) 0]

/-- The outage of a gateway leaves another one as it has been. -/
theorem breakers_isolated_sample :
    ((orchestration .byThreshold).run .new outage).circuitBreaker.getBreakerStatus .byThreshold .paymob 0 =
      Orchestration.new.circuitBreaker.getBreakerStatus .byThreshold .paymob 0 :=
  (((breakers_isolated .byThreshold outage).2 .paymob [] rfl).1 0).2

end PayBridge
