import PayBridge.BreakerIsolation

namespace PayBridge
open Await

/-- How a call of a provider has ended: whether it has succeeded. -/
def BreakerEvent.outcome : BreakerEvent → List Bool
  | .settled _ answer _ => [answer.isOk]
  | _ => []

/-- The ends of calls that the breaker of a gateway has counted. -/
def CircuitBreakerService.counted (service : CircuitBreakerService) (gateway : GatewayProvider) : List Bool :=
  match service.breakers gateway with
  | none => []
  | some breaker => breaker.history.flatMap BreakerEvent.outcome

def DirectCall.succeeded : (call : DirectCall) → call.op.Answer → Bool
  | .fetchPaymentStatus _ _, answer => Except.isOk answer
  | .refund _ _ _ _ _, answer => Except.isOk answer

/-- The end of a call that the breaker has run, as a reply tells it. -/
def CallReply.guarded : CallReply → List Bool
  | .created result => [result.isOk]
  | _ => []

/-- The end of any call of a provider, as a reply tells it. -/
def CallReply.ended : CallReply → List Bool
  | .created result => [result.isOk]
  | .answered call answer => [call.succeeded answer]
  | _ => []

/-- The entries of a run that are about a gateway. -/
def ofGateway (gateway : GatewayProvider) (note : CallReply → List Bool) (entry : CallStep × CallReply) : List Bool :=
  if entry.1.gateway = gateway then note entry.2 else []

/-- Fail-fast over a run: no call of an open gateway runs its provider, and the
breaker of a gateway has counted every call of its provider that has ended. -/
structure Covered (O : Opossum) (events : List CallStep) : Prop where
  failsFast : ∀ before event rest op, events = before ++ event :: rest →
    ((orchestration O).run .new before).circuitBreaker.getBreakerStatus O event.gateway event.now = .opened →
      (((orchestration O).run .new before).step O event).2 ≠ .invoked op
  counted : ∀ before rest gateway, events = before ++ rest →
    ((orchestration O).replies .new before).flatMap (ofGateway gateway CallReply.ended) =
      ((orchestration O).run .new before).circuitBreaker.counted gateway

/-- A call of a provider that goes past a breaker which is open, or one that has
gone past it and ends. -/
def Bypasses (O : Opossum) (s : Orchestration) : CallStep → Prop
  | .fetchPaymentStatus gateway _ now => s.circuitBreaker.getBreakerStatus O gateway now = .opened
  | .refund gateway _ _ _ _ now => s.circuitBreaker.getBreakerStatus O gateway now = .opened
  | .answer gateway call _ _ => call ∈ s.direct gateway
  | _ => False

/-- A breaker that is open turns every call away. -/
def Opossum.FailsFast (O : Opossum) : Prop :=
  ∀ options history now, O.opened options history now = true → O.admits options history now = false

theorem CallReply.guarded_sublist (reply : CallReply) : reply.guarded.Sublist reply.ended := by
  cases reply with
  | created result => exact List.Sublist.refl _
  | answered call answer => exact List.nil_sublist _
  | invoked op => exact List.nil_sublist _
  | rejected err => exact List.nil_sublist _
  | idle => exact List.nil_sublist _

theorem fireResult_isOk (gateway : GatewayProvider) (answer : Except BreakerError PaymentIntentResult) :
    (fireResult gateway answer).isOk = answer.isOk := by
  rcases answer with (_ | _) | _ <;> rfl

/-- The ends of calls that a stored breaker has counted. -/
theorem counted_used (service : CircuitBreakerService) (gateway : GatewayProvider) (event : BreakerEvent) :
    ((usedBreaker (service.breakers gateway) gateway).goesOn event).history.flatMap BreakerEvent.outcome =
      service.counted gateway ++ event.outcome := by
  unfold usedBreaker CircuitBreakerService.counted
  cases service.breakers gateway with
  | none => simp only [Option.getD_none, CircuitBreaker.goesOn, List.nil_append, List.flatMap_singleton]
  | some breaker => simp only [Option.getD_some, CircuitBreaker.goesOn, List.flatMap_append, List.flatMap_singleton]

/-- A breaker counts the ends of the calls it has run, and nothing else. -/
theorem counted_step (O : Opossum) (gateway : GatewayProvider) (s : Orchestration) (event : CallStep) :
    (s.step O event).1.circuitBreaker.counted gateway =
      s.circuitBreaker.counted gateway ++ ofGateway gateway CallReply.guarded (event, (s.step O event).2) := by
  by_cases own : event.gateway = gateway
  · subst own
    have used := counted_used s.circuitBreaker event.gateway
    have does := s.step_does O event
    have after : (s.step O event).1.circuitBreaker.breakers event.gateway = ((s.step O event).1.part event.gateway).breaker := rfl
    rw [ofGateway, if_pos rfl, CircuitBreakerService.counted, after]
    generalize (s.step O event).1.part event.gateway = state, (s.step O event).2 = reply at does ⊢
    cases does with
    | ran => exact used _
    | rejected => exact used _
    | asked => exact (List.append_nil _).symm
    | paidBack => exact (List.append_nil _).symm
    | @settled gateway breaker n answer now stored =>
      have counted := used (.settled n answer now)
      have same : usedBreaker (s.circuitBreaker.breakers gateway) gateway = breaker := by
        rw [usedBreaker, show s.circuitBreaker.breakers gateway = some breaker from stored, Option.getD_some]
      simp only [CallStep.gateway, same] at counted ⊢
      rw [CallReply.guarded, fireResult_isOk]
      exact counted
    | unsettled => exact (List.append_nil _).symm
    | answered => exact (List.append_nil _).symm
    | unanswered => exact (List.append_nil _).symm
  · have breaker := (GatewayState.mk.inj (s.step_others O event (Ne.symm own))).1
    rw [ofGateway, if_neg own, List.append_nil, CircuitBreakerService.counted, breaker, CircuitBreakerService.counted]

theorem counted_run (O : Opossum) (gateway : GatewayProvider) (events : List CallStep) :
    ((orchestration O).run .new events).circuitBreaker.counted gateway =
      ((orchestration O).replies .new events).flatMap (ofGateway gateway CallReply.guarded) := by
  exact (orchestration O).record_run (fun s => s.circuitBreaker.counted gateway) (ofGateway gateway CallReply.guarded)
    (counted_step O gateway) .new events

/-- All ends are counted where every end is that of a call the breaker has run. -/
theorem ends_counted_iff (O : Opossum) (gateway : GatewayProvider) (events : List CallStep) :
    ((orchestration O).replies .new events).flatMap (ofGateway gateway CallReply.ended) =
        ((orchestration O).run .new events).circuitBreaker.counted gateway ↔
      ∀ entry ∈ (orchestration O).replies .new events, entry.1.gateway = gateway → entry.2.guarded = entry.2.ended := by
  have part : ∀ entry, (ofGateway gateway CallReply.guarded entry).Sublist (ofGateway gateway CallReply.ended entry) := by
    intro entry
    unfold ofGateway
    split
    · exact entry.2.guarded_sublist
    · exact List.Sublist.refl _
  rw [counted_run, eq_comm, flatMap_eq_iff part]
  refine forall₂_congr fun entry _ => ?_
  unfold ofGateway
  by_cases own : entry.1.gateway = gateway
  · rw [if_pos own, if_pos own]
    exact ⟨fun same _ => same, fun same => same own⟩
  · rw [if_neg own, if_neg own]
    exact ⟨fun _ of => absurd of own, fun _ => rfl⟩

theorem CircuitBreakerService.getBreakerStatus_opened {O : Opossum} {service : CircuitBreakerService} {gateway : GatewayProvider}
    {now : Timestamp} (isOpen : service.getBreakerStatus O gateway now = .opened) :
    ∃ breaker, service.breakers gateway = some breaker ∧ O.opened breaker.options breaker.history now = true := by
  unfold getBreakerStatus at isOpen
  cases found : service.breakers gateway with
  | none => simp only [found, reduceCtorEq] at isOpen
  | some breaker =>
    refine ⟨breaker, rfl, ?_⟩
    by_contra closed
    by_cases testing : O.halfOpen breaker.options breaker.history now = true
    · simp only [found, closed, testing, if_true, if_false, reduceCtorEq] at isOpen
    · simp only [found, closed, testing, if_false, reduceCtorEq] at isOpen

namespace Orchestration

/-- Nothing gets through to a provider whose breaker is open but what goes past it. -/
theorem turned_away {O : Opossum} (failsFast : O.FailsFast) {s : Orchestration} {event : CallStep}
    (isOpen : s.circuitBreaker.getBreakerStatus O event.gateway event.now = .opened) (guarded : ¬ Bypasses O s event) (op : Op) :
    (s.step O event).2 ≠ .invoked op := by
  obtain ⟨breaker, found, opened⟩ := CircuitBreakerService.getBreakerStatus_opened isOpen
  have stored : (s.part event.gateway).breaker = some breaker := found
  have rejects : O.admits breaker.options breaker.history event.now = false := failsFast _ _ _ opened
  obtain ⟨state, does⟩ := s.step_replies O event
  generalize (s.step O event).2 = reply at does ⊢
  cases does with
  | ran admits =>
    rw [stored, usedBreaker, Option.getD_some] at admits
    cases rejects.symm.trans admits
  | asked => exact absurd isOpen guarded
  | paidBack => exact absurd isOpen guarded
  | rejected => exact CallReply.noConfusion
  | settled => exact CallReply.noConfusion
  | unsettled => exact CallReply.noConfusion
  | answered => exact CallReply.noConfusion
  | unanswered => exact CallReply.noConfusion

/-- What does not go past a breaker ends, if it ends, in the breaker. -/
theorem guarded_eq_ended {O : Opossum} {s : Orchestration} {event : CallStep} (guarded : ¬ Bypasses O s event) :
    (s.step O event).2.guarded = (s.step O event).2.ended := by
  obtain ⟨state, does⟩ := s.step_replies O event
  generalize (s.step O event).2 = reply at does ⊢
  cases does with
  | answered underWay => exact absurd underWay guarded
  | ran => rfl
  | rejected => rfl
  | asked => rfl
  | paidBack => rfl
  | settled => rfl
  | unsettled => rfl
  | unanswered => rfl

end Orchestration

/-- Fail-fast covers a run exactly when no call of it goes past a breaker: none to
a gateway whose breaker is open, and none that comes to its end. -/
theorem covered_iff (O : Opossum) (failsFast : O.FailsFast) (events : List CallStep) :
    Covered O events ↔
      ∀ before event rest, events = before ++ event :: rest → ¬ Bypasses O ((orchestration O).run .new before) event := by
  constructor
  · intro covered before event rest split bypass
    cases event with
    | safeCreateIntent gateway amount currency reference now => exact bypass
    | fetchPaymentStatus gateway gatewayPaymentId now =>
      refine covered.failsFast before _ rest (.fetchPaymentStatus gateway gatewayPaymentId) split bypass ?_
      rw [Orchestration.step, Orchestration.callDirectly_eq]
    | refund gateway gatewayPaymentId amount currency reason now =>
      refine covered.failsFast before _ rest (.refund gateway gatewayPaymentId amount currency reason) split bypass ?_
      rw [Orchestration.step, Orchestration.callDirectly_eq]
    | settle gateway n answer now => exact bypass
    | answer gateway call answer now =>
      have counted := covered.counted (before ++ [.answer gateway call answer now]) rest gateway (by rw [split, List.append_assoc]; rfl)
      have replied : (.answer gateway call answer now, .answered call answer) ∈
          (orchestration O).replies .new (before ++ [.answer gateway call answer now]) := by
        refine (orchestration O).mem_replies.mpr ⟨before, [], rfl, ?_⟩
        have underWay : call ∈ ((orchestration O).run .new before).direct gateway := bypass
        simp only [orchestration, Orchestration.step] at underWay ⊢
        rw [if_pos underWay]
      have same := (ends_counted_iff O gateway _).mp counted _ replied rfl
      cases same
  · intro guarded
    constructor
    · intro before event rest op split isOpen
      exact Orchestration.turned_away failsFast isOpen (guarded before event rest split) op
    · rintro before rest gateway rfl
      rw [ends_counted_iff]
      rintro ⟨event, reply⟩ member -
      obtain ⟨earlier, later, split, rfl⟩ := (orchestration O).mem_replies.mp member
      exact Orchestration.guarded_eq_ended (guarded earlier event (later ++ rest) (by rw [split, List.append_assoc]; rfl))

theorem byThreshold_failsFast : Opossum.byThreshold.FailsFast := by
  intro options history now opened
  have resting : options.rests history now = true := opened
  simp only [Opossum.byThreshold, resting, Bool.not_true]

/-- The outage alone is covered, up to its last call. -/
theorem covered_sample : Covered .byThreshold outage := by
  refine (covered_iff .byThreshold byThreshold_failsFast outage).mpr ?_
  intro before event rest split bypass
  have member : event ∈ outage := by rw [split]; exact List.mem_append_right _ (List.mem_cons_self ..)
  obtain ⟨n, -, here⟩ := List.mem_flatMap.mp member
  rcases List.mem_cons.mp here with rfl | ended
  · exact bypass
  · cases List.mem_singleton.mp ended
    exact bypass

/-- After the outage, Stripe is still asked for the status of a payment. -/
theorem status_call_bypasses : ¬ Covered .byThreshold (outage ++ [.fetchPaymentStatus .stripe "pi_1" 0]) := by
  intro covered
  refine covered.failsFast outage _ [] (.fetchPaymentStatus .stripe "pi_1") rfl ?_ ?_
  · decide +kernel
  · rw [Orchestration.step, Orchestration.callDirectly_eq]

end PayBridge
