import PayBridge.Await.Series
import PayBridge.RefundRace

namespace PayBridge
open Store Await Numeric

/-- A refund that a provider was asked for and has answered. -/
structure ProviderRefund where
  amount : ℚ
  result : RefundResult
  deriving DecidableEq

/-- The refunds that providers have answered along a history, newest first. -/
def answeredRefunds (seen : History Op.Answer) : List ProviderRefund :=
  seen.filterMap fun entry => match entry with
    | ⟨.refund _ _ amount _ _, .ok result⟩ => some ⟨amount, result⟩
    | _ => none

theorem answeredRefunds_append (later earlier : History Op.Answer) :
    answeredRefunds (later ++ earlier) = answeredRefunds later ++ answeredRefunds earlier :=
  List.filterMap_append

/-- The arguments of `processRefund`. -/
structure RefundRequest where
  paymentIntentId : String
  dto : CreateRefundDto
  merchantId : Uuid

/-- The intent that a request names. -/
abbrev RefundRequest.names (P : Platform) (request : RefundRequest) (id : Uuid) : Prop :=
  P.readUuid request.paymentIntentId = some id

abbrev RefundRequest.plan (P : Platform) (request : RefundRequest) (found : Option IntentWithRefunds) : Except JsError RefundPlan :=
  refundPlan P request.paymentIntentId request.dto request.merchantId found

/-- Calls of `processRefund`. -/
def refundCalls (P : Platform) : System Op Op.Answer World Env RefundRequest (Except JsError RefundResponse) where
  perform := perform P
  start request := ExceptT.run (processRefund P request.paymentIntentId request.dto request.merchantId)

section
variable (P : Platform) (env : Nat → Op → Env) (request : RefundRequest) (w : World)

/-- The intent is read, and the checks let the request pass. -/
def RefundAccepted (plan : RefundPlan) : Prop :=
  (env 0 (.query (.findIntent request.paymentIntentId))).fails = false ∧
    ∃ id, request.names P id ∧ request.plan P (w.db.shown id) = .ok plan

/-- The provider answers the call of a plan. -/
def RefundAnswered (plan : RefundPlan) (refundResult : RefundResult) : Prop :=
  (env 1 (plan.call request.dto)).fails = false ∧ (env 1 (plan.call request.dto)).refund = refundResult

/-- The transaction of an answered plan commits. -/
def RefundRecorded (plan : RefundPlan) (refundResult : RefundResult) (row : Refund) (db : Database) : Prop :=
  let op := plan.record request.dto refundResult
  perform P (env 2 op) op w = (.ok row, { w with db })

/-- All the ways in which a refund call made alone ends: with what answer, in
which world, and with which refunds answered by the provider. -/
inductive RefundEnds : Except JsError RefundResponse → World → List ProviderRefund → Prop
  | unread {err} : (env 0 (.query (.findIntent request.paymentIntentId))).fails = true ∨ (∀ id, ¬ request.names P id) →
      RefundEnds (.error err) w []
  | rejected {id err} : request.names P id → request.plan P (w.db.shown id) = .error err → RefundEnds (.error err) w []
  | declined {plan err} : RefundAccepted P env request w plan → (env 1 (plan.call request.dto)).fails = true →
      RefundEnds (.error err) w []
  | unrecorded {plan refundResult err} : RefundAccepted P env request w plan → RefundAnswered env request plan refundResult →
      (∀ row db, ¬ RefundRecorded P env request w plan refundResult row db) →
      RefundEnds (.error err) w [⟨plan.requestedAmount, refundResult⟩]
  | unreported {plan refundResult row db err n url secret} : RefundAccepted P env request w plan →
      RefundAnswered env request plan refundResult → RefundRecorded P env request w plan refundResult row db →
      (env n (.enqueue .paymentRefunded (plan.eventData request.dto refundResult row) url secret)).fails = true →
      RefundEnds (.error err) { w with db } [⟨plan.requestedAmount, refundResult⟩]
  | returned {plan refundResult row db job} : RefundAccepted P env request w plan → RefundAnswered env request plan refundResult →
      RefundRecorded P env request w plan refundResult row db → job.payload.event = .paymentRefunded →
      job.payload.data = plan.eventData request.dto refundResult row →
      RefundEnds (.ok (plan.response row)) ⟨db, w.queue ++ [job]⟩ [⟨plan.requestedAmount, refundResult⟩]

variable {P env request w}

/-- What reading the intent of a text answers. -/
theorem read_intent {text : String} {id : Uuid} (met : Env) (spared : met.fails = false) (named : P.readUuid text = some id) :
    perform P met (.query (.findIntent text)) w = (.ok (w.db.shown id), w) := by
  have ran : Query.exec P met (.findIntent text) w.db = .ok (w.db.shown id, w.db) := by
    simp only [Query.exec, readId_ok.mpr named, Database.shown]
    rfl
  simp only [perform, spared, Bool.false_eq_true, if_false, ran]

theorem read_nothing {text : String} (met : Env) (lost : met.fails = true ∨ ∀ id, P.readUuid text ≠ some id) :
    ∃ err, perform P met (.query (.findIntent text)) w = (.error err, w) := by
  by_cases fails : met.fails = true
  · simp only [perform, fails, if_true]
    exact ⟨_, rfl⟩
  · have unnamed : P.readId text = .error .invalidArgument := by
      unfold Platform.readId
      rw [Option.eq_none_iff_forall_ne_some.mpr (lost.resolve_left fails)]
    have ran : Query.exec P met (.findIntent text) w.db = .error .invalidArgument := by
      simp only [Query.exec, unnamed]
      rfl
    simp only [perform, fails, Bool.false_eq_true, if_false, ran]
    exact ⟨_, rfl⟩

/-- A query leaves the queue as it is. -/
theorem perform_query_queue (met : Env) (q : Query) : (perform P met (.query q) w).2.queue = w.queue := by
  simp only [perform]
  split
  · rfl
  · split <;> rfl

/-- What follows a recorded refund: its report, which may be lost. -/
theorem report_ends {plan : RefundPlan} {refundResult : RefundResult} {row : Refund} {db : Database}
    (accepted : RefundAccepted P env request w plan) (answered : RefundAnswered env request plan refundResult)
    (recorded : RefundRecorded P env request w plan refundResult row db) {seen : History Op.Answer}
    (one : answeredRefunds seen = [⟨plan.requestedAmount, refundResult⟩]) :
    let o := Async.play (perform P) env
      (do
        dispatchPaymentEvent P .paymentRefunded (plan.eventData request.dto refundResult row)
          (some plan.intent.merchantId) none none
        return plan.response row : Promise RefundResponse) seen { w with db }
    RefundEnds P env request w o.value o.world (answeredRefunds o.log) := by
  intro o
  generalize looked : merchantAt P env plan.intent.merchantId seen { w with db } = found
  let op := notice P .paymentRefunded (plan.eventData request.dto refundResult row) found
  have still : ∀ answer, answeredRefunds (⟨op, answer⟩ :: ⟨.query (.findMerchant plan.intent.merchantId), found⟩ :: seen) =
      [⟨plan.requestedAmount, refundResult⟩] := by
    intro answer
    rw [← one]
    exact (List.filterMap_cons_none rfl).trans (List.filterMap_cons_none rfl)
  cases struck : (env (seen.length + 1) op).fails with
  | true =>
    have lost := play_dispatch_lost looked struck
    have ended : o = _ := Async.play_bind_error (congrArg Outcome.value lost)
    rw [ended, lost, still]
    exact .unreported accepted answered recorded struck
  | false =>
    have sent := play_dispatch_sent looked struck
    have ended : o = _ := Async.play_bind_ok (congrArg Outcome.value sent)
    rw [ended, sent, Async.play_pure, still]
    exact .returned accepted answered recorded rfl rfl

/-- What follows the answer of the provider. -/
theorem record_ends {plan : RefundPlan} {refundResult : RefundResult} (accepted : RefundAccepted P env request w plan)
    (answered : RefundAnswered env request plan refundResult) {seen : History Op.Answer} (place : seen.length = 2)
    (one : answeredRefunds seen = [⟨plan.requestedAmount, refundResult⟩]) :
    let o := Async.play (perform P) env
      (do
        let newRefund ← query (.recordRefund (plan.newRefund request.dto refundResult) (plan.marksRefunded refundResult))
        dispatchPaymentEvent P .paymentRefunded (plan.eventData request.dto refundResult newRefund)
          (some plan.intent.merchantId) none none
        return plan.response newRefund : Promise RefundResponse) seen w
    RefundEnds P env request w o.value o.world (answeredRefunds o.log) := by
  intro o
  have ran : o = Async.play (perform P) env _ seen w := rfl
  let op := plan.record request.dto refundResult
  have still : ∀ answer, answeredRefunds (⟨op, answer⟩ :: seen) = [⟨plan.requestedAmount, refundResult⟩] := by
    intro answer
    rw [← one]
    exact List.filterMap_cons_none rfl
  rcases did : perform P (env 2 op) op w with ⟨err | row, after⟩
  · have placed : perform P (env seen.length op) op w = (.error err, after) := by rw [place, did]
    have same : after = w := by
      have kept := perform_query_error (congrArg Prod.fst did)
      rw [did] at kept
      exact kept
    have refused : ∀ row db, ¬ RefundRecorded P env request w plan refundResult row db := by
      intro row db recorded
      cases (congrArg Prod.fst did).symm.trans (congrArg Prod.fst recorded)
    rw [query, Async.play_bind_request placed] at ran
    rw [ran, still, same]
    exact .unrecorded accepted answered refused
  · have queue := perform_query_queue (P := P) (w := w) (env 2 op)
      (.recordRefund (plan.newRefund request.dto refundResult) (plan.marksRefunded refundResult))
    rw [did] at queue
    have same : after = { w with db := after.db } := by
      cases after
      cases queue
      rfl
    rw [same] at did
    have placed : perform P (env seen.length op) op w = (.ok row, { w with db := after.db }) := by rw [place, did]
    rw [query, Async.play_bind_request placed] at ran
    rw [ran]
    exact report_ends accepted answered did (still (.ok row))

/-- A refund call made alone ends in one of these ways. -/
theorem refundCalls_ends (P : Platform) (env : Nat → Op → Env) (request : RefundRequest) (w : World) :
    let o := (refundCalls P).alone request env w
    RefundEnds P env request w o.value o.world (answeredRefunds o.log) := by
  generalize made : (refundCalls P).alone request env w = o
  have ran : Async.play (perform P) env (processRefund P request.paymentIntentId request.dto request.merchantId) [] w = o := made
  unfold processRefund query at ran
  by_cases lost : (env 0 (.query (.findIntent request.paymentIntentId))).fails = true ∨ ∀ id, ¬ request.names P id
  · obtain ⟨err, read⟩ := read_nothing (w := w) _ lost
    rw [Async.play_bind_request read] at ran
    subst ran
    exact .unread lost
  obtain ⟨spared, named⟩ := not_or.mp lost
  obtain ⟨id, named⟩ := not_forall_not.mp named
  rw [Async.play_bind_request (read_intent _ (Bool.eq_false_iff.mpr spared) named)] at ran
  dsimp only at ran
  cases checked : request.plan P (w.db.shown id) with
  | error err =>
    rw [RefundRequest.plan] at checked
    rw [checked, Async.play_bind_error rfl] at ran
    subst ran
    exact .rejected named checked
  | ok plan =>
    have accepted : RefundAccepted P env request w plan := ⟨Bool.eq_false_iff.mpr spared, id, named, checked⟩
    rw [RefundRequest.plan] at checked
    rw [checked, Async.play_bind_ok rfl] at ran
    simp only [Async.play_ofExcept, orchestratorRefund_eq] at ran
    cases asked : (env 1 (plan.call request.dto)).fails with
    | true =>
      have struck : perform P (env 1 (plan.call request.dto)) (plan.call request.dto) w =
          (.error ⟨.other, (env 1 (plan.call request.dto)).message⟩, w) := by
        simp only [perform, asked, if_true]
      rw [Async.play_bind_request struck] at ran
      subst ran
      exact .declined accepted asked
    | false =>
      have answered : perform P (env 1 (plan.call request.dto)) (plan.call request.dto) w =
          (.ok (env 1 (plan.call request.dto)).refund, w) := by
        simp only [perform, asked, Bool.false_eq_true, if_false]
      rw [Async.play_bind_request answered] at ran
      subst ran
      exact record_ends accepted ⟨asked, rfl⟩ rfl rfl

theorem RefundAccepted.unique {plan other : RefundPlan} (accepted : RefundAccepted P env request w plan)
    (again : RefundAccepted P env request w other) : other = plan := by
  obtain ⟨_, _, named, checked⟩ := accepted
  obtain ⟨_, _, same, checkedAgain⟩ := again
  cases named.symm.trans same
  exact Except.ok.inj (checkedAgain.symm.trans checked)

/-- What a call made alone does to the tables and at the provider: it records
the refund that the provider has answered, loses it, or does nothing at all. -/
inductive RefundDoes (P : Platform) (env : Nat → Op → Env) (request : RefundRequest) (w : World) :
    World → List ProviderRefund → Prop
  | recorded {plan refundResult row db queue} : RefundAccepted P env request w plan →
      RefundAnswered env request plan refundResult → RefundRecorded P env request w plan refundResult row db →
      RefundDoes P env request w ⟨db, queue⟩ [⟨plan.requestedAmount, refundResult⟩]
  | lost {plan refundResult} : RefundAccepted P env request w plan → RefundAnswered env request plan refundResult →
      (∀ row db, ¬ RefundRecorded P env request w plan refundResult row db) →
      RefundDoes P env request w w [⟨plan.requestedAmount, refundResult⟩]
  | nothing : (∀ plan refundResult, RefundAccepted P env request w plan → ¬ RefundAnswered env request plan refundResult) →
      RefundDoes P env request w w []

theorem RefundEnds.does {value : Except JsError RefundResponse} {after : World} {answered : List ProviderRefund}
    (ends : RefundEnds P env request w value after answered) : RefundDoes P env request w after answered := by
  cases ends with
  | unread lost =>
    refine .nothing fun plan refundResult accepted _ => ?_
    rcases lost with struck | unnamed
    · cases struck.symm.trans accepted.1
    · obtain ⟨_, id, named, _⟩ := accepted
      exact unnamed id named
  | @rejected id err named checked =>
    refine .nothing fun plan refundResult accepted _ => ?_
    obtain ⟨_, _, same, accepted⟩ := accepted
    cases named.symm.trans same
    cases checked.symm.trans accepted
  | declined accepted struck =>
    refine .nothing fun plan refundResult again answered => ?_
    cases accepted.unique again
    cases struck.symm.trans answered.1
  | unrecorded accepted answered refused => exact .lost accepted answered refused
  | unreported accepted answered recorded _ => exact .recorded accepted answered recorded
  | returned accepted answered recorded _ _ => exact .recorded accepted answered recorded

theorem refundCalls_does (P : Platform) (env : Nat → Op → Env) (request : RefundRequest) (w : World) :
    RefundDoes P env request w ((refundCalls P).alone request env w).world
      (answeredRefunds ((refundCalls P).alone request env w).log) :=
  (refundCalls_ends P env request w).does

/-- A plan is made from the intent as it is stored, with its refunds. -/
theorem RefundAccepted.stored {plan : RefundPlan} {id : Uuid} (accepted : RefundAccepted P env request w plan) (named : request.names P id) :
    plan.intent.id = id ∧ w.db.intents.find id = some plan.intent ∧
      request.plan P (some ⟨plan.intent, w.db.refundsOf id⟩) = .ok plan := by
  obtain ⟨_, _, same, checked⟩ := accepted
  cases named.symm.trans same
  obtain ⟨refunds, shown, _⟩ := refundPlan_ok checked
  obtain ⟨intent, found, made⟩ := Option.map_eq_some_iff.mp shown
  cases made
  rw [shown] at checked
  exact ⟨Table.find_key found, found, checked⟩

/-- The transaction of a plan commits if and only if it is not struck, finds a
new id and an amount that the column can hold. -/
theorem recorded_iff {plan : RefundPlan} {refundResult : RefundResult} (accepted : RefundAccepted P env request w plan) :
    (∃ row db, RefundRecorded P env request w plan refundResult row db) ↔
      (env 2 (plan.record request.dto refundResult)).fails = false ∧
        w.db.refunds.find (env 2 (plan.record request.dto refundResult)).id = none ∧
        ∃ amount, Decimal.ofNumber plan.requestedAmount = some amount := by
  let op := plan.record request.dto refundResult
  let data := plan.newRefund request.dto refundResult
  constructor
  · rintro ⟨row, db, recorded⟩
    obtain ⟨spared, ran⟩ := perform_query_ok (congrArg Prod.fst recorded)
    obtain ⟨amount, _, stored, _⟩ := recordRefundTx_ok ran
    refine ⟨spared, Option.eq_none_iff_forall_ne_some.mpr fun old held => ?_, amount, stored⟩
    have refused : recordRefundTx (env 2 op).id data (plan.marksRefunded refundResult) w.db = .error .uniqueConstraint :=
      recordRefundTx_duplicate stored held
    cases refused.symm.trans ran
  · rintro ⟨spared, fresh, amount, stored⟩
    have settled := accepted
    obtain ⟨_, id, named, _⟩ := settled
    obtain ⟨same, known, _⟩ := accepted.stored named
    subst same
    have held : Decimal.ofNumber data.amount = some amount := stored
    have found : w.db.intents.find data.paymentIntentId = some plan.intent := known
    obtain ⟨row, db, ran⟩ := recordRefundTx_fresh held fresh found (plan.marksRefunded refundResult)
    refine ⟨row, db, ?_⟩
    simp only [RefundRecorded, perform, spared, Bool.false_eq_true, if_false, Query.exec]
    rw [ran]

/-- What a recorded refund adds to the tables. -/
structure RefundRecordedAs (plan : RefundPlan) (refundResult : RefundResult) (row : Refund) (before after : Database) : Prop where
  amount : Decimal.ofNumber plan.requestedAmount = some row.amount
  status : row.status = refundResult.status
  gatewayRefundId : row.gatewayRefundId = some refundResult.gatewayRefundId
  refunds : ∀ id, after.refundsOf id = before.refundsOf id ++ if plan.intent.id = id then [row] else []
  intents : ∀ id, after.intents.find id = if id = plan.intent.id ∧ plan.marksRefunded refundResult = true
    then (before.intents.find id).map fun intent => { intent with status := .refunded } else before.intents.find id

theorem RefundRecorded.tables {plan : RefundPlan} {refundResult : RefundResult} {row : Refund} {db : Database}
    (recorded : RefundRecorded P env request w plan refundResult row db) : RefundRecordedAs plan refundResult row w.db db := by
  obtain ⟨_, ran⟩ := perform_query_ok (congrArg Prod.fst recorded)
  rw [recorded] at ran
  obtain ⟨amount, intent, stored, named, _, rows, _, _, intents⟩ := recordRefundTx_ok ran
  subst named
  refine ⟨stored, rfl, rfl, Database.refundsOf_append rows, ?_⟩
  intro id
  rw [intents]
  cases marks : plan.marksRefunded refundResult with
  | false => simp
  | true =>
    simp only [if_true, and_true]
    exact Database.setStatus_find w.db plan.intent.id .refunded id

end

/-- The figures of a plan in exact arithmetic, in cents: something is left, and
no more than that is asked for. -/
theorem refundPlan_cents {P : Platform} (exact : P.arithmetic = .exact) {request : RefundRequest} {plan : RefundPlan}
    {intent : PaymentIntent} {refunds : List Refund} (checked : request.plan P (some ⟨intent, refunds⟩) = .ok plan) :
    let sofar := storedCents RefundStatus.isSucceeded refunds
    let left := intent.amount.cents - sofar
    plan.totalAmount = intent.amount.cents / 100 ∧ plan.remainingBalance = left / 100 ∧
      plan.requestedAmount = request.dto.requestedAmount (left / 100) ∧
      0 < plan.requestedAmount ∧ plan.requestedAmount ≤ left / 100 ∧
      plan.totalRefundedAfter = (sofar + mathRound (plan.requestedAmount * 100) : ℤ) / 100 ∧
      plan.remainingAfter = left / 100 - plan.requestedAmount := by
  intro refunded left
  obtain ⟨_, shown, _, _, _, total, sofar, remaining, requested, positive, within, after, rest⟩ := refundPlan_ok checked
  cases shown
  rw [exact] at sofar remaining after rest
  have total : plan.totalAmount = plan.intent.amount.cents / 100 := total
  have sofar : plan.totalRefundedSoFar = refunded / 100 := by rw [sofar, totalRefunded_exact, storedTotal_cents]
  have whole : WholeCents ((left : ℚ) / 100) := ⟨left, rfl⟩
  have difference : plan.totalAmount - plan.totalRefundedSoFar = (left : ℚ) / 100 := by
    rw [total, sofar]
    push_cast [left]
    ring
  rw [Arithmetic.exact_sub, difference, roundCents_wholeCents whole] at remaining
  rw [remaining] at requested within rest
  have scaled : (plan.totalRefundedSoFar + plan.requestedAmount) * 100 = refunded + plan.requestedAmount * 100 := by
    rw [sofar]
    ring
  rw [Arithmetic.exact_add, roundCents_exact, scaled, mathRound_add] at after
  rw [Arithmetic.exact_sub, max_eq_right (sub_nonneg.mpr within)] at rest
  exact ⟨total, remaining, requested, positive, within, after, rest⟩

end PayBridge
