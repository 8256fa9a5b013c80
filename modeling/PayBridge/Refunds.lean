import PayBridge.OutboundWebhooks
import PayBridge.Orchestrator

namespace PayBridge
open Store Await Numeric

structure CreateRefundDto where
  amount : JsOptional ℚ
  reason : JsOptional String
  deriving DecidableEq

/-- A refund request that has passed every check, with the figures it was
checked against, and those that it comes to. -/
structure RefundPlan where
  intent : PaymentIntent
  gatewayPaymentId : String
  totalAmount : ℚ
  totalRefundedSoFar : ℚ
  remainingBalance : ℚ
  requestedAmount : ℚ
  totalRefundedAfter : ℚ
  remainingAfter : ℚ
  deriving DecidableEq

structure RefundResponse where
  refundId : Uuid
  paymentIntentId : Uuid
  amount : ℚ
  currency : String
  status : RefundStatus
  gatewayRefundId : Option String
  remainingBalance : ℚ
  isFullyRefunded : Bool
  deriving DecidableEq

/-- What `processRefund` reads: the intent with its refunds. -/
def Database.shown (db : Database) (id : Uuid) : Option IntentWithRefunds :=
  (db.intents.find id).map fun intent => ⟨intent, db.refundsOf id⟩

def RefundStatus.isSucceeded (status : RefundStatus) : Bool := status = .succeeded

/-- `totalRefundedSoFar`: the stored refunds that count against the balance, added up. -/
def totalRefunded (A : Arithmetic) (refunds : List Refund) : ℚ :=
  A.sum ((refunds.filter fun r => r.status.isSucceeded).map fun r => r.amount.toNumber)

/-- `dto.amount !== undefined ? Number(dto.amount) : remainingBalance`; a `null`
passes validation and becomes zero. -/
def CreateRefundDto.requestedAmount (dto : CreateRefundDto) (remainingBalance : ℚ) : ℚ :=
  match dto.amount with
  | .undefined => remainingBalance
  | .null => 0
  | .value amount => amount

/-- The checks of `processRefund` on the row it has read. -/
def refundPlan (P : Platform) (paymentIntentId : String) (dto : CreateRefundDto) (merchantId : Uuid)
    (found : Option IntentWithRefunds) : Except JsError RefundPlan :=
  match found with
  | none => .error ⟨.http 404, s!"Payment intent {paymentIntentId} was not found."⟩
  | some ⟨intent, refunds⟩ =>
    if intent.merchantId ≠ merchantId then
      .error ⟨.http 404, s!"Payment intent {paymentIntentId} was not found."⟩
    else if intent.status ≠ .captured then
      .error ⟨.http 400, s!"Cannot refund payment intent with status \"{intent.status.text}\". Only CAPTURED payments can be refunded."⟩
    else match intent.gatewayPaymentId with
    | none => .error ⟨.http 400, "Cannot refund payment intent without a valid gatewayPaymentId."⟩
    | some gatewayPaymentId =>
      if gatewayPaymentId = "" then
        .error ⟨.http 400, "Cannot refund payment intent without a valid gatewayPaymentId."⟩
      else
        let totalAmount := intent.amount.toNumber
        let totalRefundedSoFar := totalRefunded P.arithmetic refunds
        let remainingBalance := roundCents P.arithmetic (P.arithmetic.sub totalAmount totalRefundedSoFar)
        let requestedAmount := dto.requestedAmount remainingBalance
        if remainingBalance ≤ 0 then
          .error ⟨.http 400, s!"Payment intent {paymentIntentId} has already been fully refunded."⟩
        else if requestedAmount ≤ 0 then
          .error ⟨.http 400, "Refund amount must be greater than 0."⟩
        else if remainingBalance < requestedAmount then
          .error ⟨.http 400, s!"Requested refund amount ({numberText requestedAmount} {intent.currency}) exceeds remaining balance ({numberText remainingBalance} {intent.currency})."⟩
        else .ok ⟨intent, gatewayPaymentId, totalAmount, totalRefundedSoFar, remainingBalance, requestedAmount,
          roundCents P.arithmetic (P.arithmetic.add totalRefundedSoFar requestedAmount),
          max 0 (P.arithmetic.sub remainingBalance requestedAmount)⟩

namespace RefundPlan

def isFullyRefunded (plan : RefundPlan) : Bool :=
  plan.totalAmount ≤ plan.totalRefundedAfter

def newRefund (plan : RefundPlan) (dto : CreateRefundDto) (refundResult : RefundResult) : NewRefund :=
  ⟨plan.intent.id, plan.requestedAmount, dto.reason.toOption, refundResult.status, refundResult.gatewayRefundId⟩

/-- The condition under which the transaction also sets the status. -/
def marksRefunded (plan : RefundPlan) (refundResult : RefundResult) : Bool :=
  plan.isFullyRefunded && refundResult.status = .succeeded

def eventData (plan : RefundPlan) (dto : CreateRefundDto) (refundResult : RefundResult) (newRefund : Refund) :
    PaymentIntentData where
  id := plan.intent.id
  reference := plan.intent.reference
  amount := plan.intent.amount.toNumber
  currency := plan.intent.currency
  status := if plan.isFullyRefunded then .refunded else .captured
  gateway := plan.intent.gateway
  customerEmail := plan.intent.customerEmail
  gatewayPaymentId := plan.intent.gatewayPaymentId
  refund := some ⟨newRefund.id, plan.requestedAmount, dto.reason, refundResult.gatewayRefundId,
    refundResult.status, plan.remainingAfter⟩

def response (plan : RefundPlan) (newRefund : Refund) : RefundResponse where
  refundId := newRefund.id
  paymentIntentId := plan.intent.id
  amount := plan.requestedAmount
  currency := plan.intent.currency
  status := newRefund.status
  gatewayRefundId := newRefund.gatewayRefundId
  remainingBalance := plan.remainingAfter
  isFullyRefunded := plan.isFullyRefunded

/-- The call of the provider that goes with a plan. -/
abbrev call (plan : RefundPlan) (dto : CreateRefundDto) : Op :=
  .refund plan.intent.gateway plan.gatewayPaymentId plan.requestedAmount plan.intent.currency dto.reason

/-- The transaction that goes with a plan and the answer of the provider. -/
abbrev record (plan : RefundPlan) (dto : CreateRefundDto) (refundResult : RefundResult) : Op :=
  .query (.recordRefund (plan.newRefund dto refundResult) (plan.marksRefunded refundResult))

end RefundPlan

def processRefund (P : Platform) (paymentIntentId : String) (dto : CreateRefundDto) (merchantId : Uuid) :
    Promise RefundResponse := do
  let found ← query (.findIntent paymentIntentId)
  let plan ← Async.ofExcept (refundPlan P paymentIntentId dto merchantId found)
  let refundResult ← orchestratorRefund plan.intent.gateway plan.gatewayPaymentId plan.requestedAmount
    plan.intent.currency dto.reason
  let newRefund ← query (.recordRefund (plan.newRefund dto refundResult) (plan.marksRefunded refundResult))
  dispatchPaymentEvent P .paymentRefunded (plan.eventData dto refundResult newRefund)
    (some plan.intent.merchantId) none none
  return plan.response newRefund

structure IntentRefunds where
  paymentIntentId : Uuid
  reference : String
  totalAmount : ℚ
  currency : String
  status : PaymentStatus
  refunds : List Refund

/-- The check of `getRefundsByIntentId` on the row it has read. -/
def ownRefunds (paymentIntentId : String) (merchantId : Uuid) (found : Option IntentWithRefunds) :
    Except JsError IntentRefunds :=
  match found with
  | none => .error ⟨.http 404, s!"Payment intent {paymentIntentId} was not found."⟩
  | some ⟨intent, refunds⟩ =>
    if intent.merchantId ≠ merchantId then
      .error ⟨.http 404, s!"Payment intent {paymentIntentId} was not found."⟩
    else .ok ⟨intent.id, intent.reference, intent.amount.toNumber, intent.currency, intent.status, refunds⟩

def getRefundsByIntentId (paymentIntentId : String) (merchantId : Uuid) : Promise IntentRefunds := do
  let found ← query (.findIntent paymentIntentId)
  Async.ofExcept (ownRefunds paymentIntentId merchantId found)

/-- What the checks guarantee of an accepted request. -/
theorem refundPlan_ok {P : Platform} {paymentIntentId : String} {dto : CreateRefundDto} {merchantId : Uuid}
    {found : Option IntentWithRefunds} {plan : RefundPlan}
    (accepted : refundPlan P paymentIntentId dto merchantId found = .ok plan) :
    ∃ refunds, found = some ⟨plan.intent, refunds⟩ ∧ plan.intent.merchantId = merchantId ∧
      plan.intent.status = .captured ∧ plan.intent.gatewayPaymentId = some plan.gatewayPaymentId ∧
      plan.totalAmount = plan.intent.amount.toNumber ∧ plan.totalRefundedSoFar = totalRefunded P.arithmetic refunds ∧
      plan.remainingBalance = roundCents P.arithmetic (P.arithmetic.sub plan.totalAmount plan.totalRefundedSoFar) ∧
      plan.requestedAmount = dto.requestedAmount plan.remainingBalance ∧
      0 < plan.requestedAmount ∧ plan.requestedAmount ≤ plan.remainingBalance ∧
      plan.totalRefundedAfter = roundCents P.arithmetic (P.arithmetic.add plan.totalRefundedSoFar plan.requestedAmount) ∧
      plan.remainingAfter = max 0 (P.arithmetic.sub plan.remainingBalance plan.requestedAmount) := by
  unfold refundPlan at accepted
  split at accepted
  · cases accepted
  · next intent refunds =>
    split at accepted
    · cases accepted
    · next owned =>
      split at accepted
      · cases accepted
      · next captured =>
        split at accepted
        · cases accepted
        · next gatewayPaymentId named =>
          split at accepted
          · cases accepted
          · simp only at accepted
            split at accepted
            · cases accepted
            · split at accepted
              · cases accepted
              · next positive =>
                split at accepted
                · cases accepted
                · next within =>
                  cases accepted
                  exact ⟨refunds, rfl, not_not.mp owned, not_not.mp captured, named, rfl, rfl, rfl, rfl,
                    not_le.mp positive, not_lt.mp within, rfl, rfl⟩

/-- Where a refund request stands after what it has seen: it reads the
intent, asks the provider for the planned amount, records what it was
answered, and only then reports. Every operation carries the plan that was
made from the row read first. -/
inductive RefundCourse (P : Platform) (paymentIntentId : String) (dto : CreateRefundDto) (merchantId : Uuid) :
    History Op.Answer → Op → Prop
  | read : RefundCourse P paymentIntentId dto merchantId [] (.query (.findIntent paymentIntentId))
  | ask {found} {plan : RefundPlan} : refundPlan P paymentIntentId dto merchantId found = .ok plan →
      RefundCourse P paymentIntentId dto merchantId [⟨.query (.findIntent paymentIntentId), .ok found⟩]
        (.refund plan.intent.gateway plan.gatewayPaymentId plan.requestedAmount plan.intent.currency dto.reason)
  | record {found} {plan : RefundPlan} {refundResult : RefundResult} : refundPlan P paymentIntentId dto merchantId found = .ok plan →
      RefundCourse P paymentIntentId dto merchantId
        [⟨.refund plan.intent.gateway plan.gatewayPaymentId plan.requestedAmount plan.intent.currency dto.reason,
            .ok refundResult⟩, ⟨.query (.findIntent paymentIntentId), .ok found⟩]
        (.query (.recordRefund (plan.newRefund dto refundResult) (plan.marksRefunded refundResult)))
  | report {seen op} {plan : RefundPlan} {refundResult : RefundResult} {newRefund : Refund} :
      ⟨.query (.recordRefund (plan.newRefund dto refundResult) (plan.marksRefunded refundResult)), .ok newRefund⟩ ∈ seen →
      ((∃ id, op = .query (.findMerchant id)) ∨
        ∃ url secret, op = .enqueue .paymentRefunded (plan.eventData dto refundResult newRefund) url secret) →
      RefundCourse P paymentIntentId dto merchantId seen op

/-- A refund request does not end between an accepted check and the answer of
the provider, nor between a provider's answer and the record of it. -/
def RefundSettled (P : Platform) (paymentIntentId : String) (dto : CreateRefundDto) (merchantId : Uuid)
    (seen : History Op.Answer) : Prop :=
  (∀ found plan, seen = [⟨.query (.findIntent paymentIntentId), .ok found⟩] →
    refundPlan P paymentIntentId dto merchantId found ≠ .ok plan) ∧
  ∀ gateway gatewayPaymentId amount currency reason refundResult earlier,
    seen ≠ ⟨.refund gateway gatewayPaymentId amount currency reason, .ok refundResult⟩ :: earlier

theorem RefundSettled.of_thrown {P : Platform} {paymentIntentId : String} {dto : CreateRefundDto} {merchantId : Uuid}
    {op : Op} {answer : op.Answer} {earlier : History Op.Answer}
    (notRead : ∀ found, (⟨op, answer⟩ : (op : Op) × op.Answer) ≠ ⟨.query (.findIntent paymentIntentId), .ok found⟩)
    (notAsked : ∀ gateway gatewayPaymentId amount currency reason refundResult,
      (⟨op, answer⟩ : (op : Op) × op.Answer) ≠ ⟨.refund gateway gatewayPaymentId amount currency reason, .ok refundResult⟩) :
    RefundSettled P paymentIntentId dto merchantId (⟨op, answer⟩ :: earlier) := by
  constructor
  · intro found plan same
    exact absurd (List.cons.inj same).1 (notRead found)
  · intro gateway gatewayPaymentId amount currency reason refundResult rest same
    exact notAsked _ _ _ _ _ _ (List.cons.inj same).1

/-- All that a refund request has seen when it asks for something: the intent it
has read, then the answer of the provider to its plan, the row it has recorded,
and the merchant of the intent, to whom it reports last. -/
inductive RefundSteps (P : Platform) (paymentIntentId : String) (dto : CreateRefundDto) (merchantId : Uuid) :
    History Op.Answer → Op → Prop
  | read : RefundSteps P paymentIntentId dto merchantId [] (.query (.findIntent paymentIntentId))
  | ask {found} {plan : RefundPlan} : refundPlan P paymentIntentId dto merchantId found = .ok plan →
      RefundSteps P paymentIntentId dto merchantId [⟨.query (.findIntent paymentIntentId), .ok found⟩] (plan.call dto)
  | record {found} {plan : RefundPlan} {refundResult : RefundResult} : refundPlan P paymentIntentId dto merchantId found = .ok plan →
      RefundSteps P paymentIntentId dto merchantId
        [⟨plan.call dto, .ok refundResult⟩, ⟨.query (.findIntent paymentIntentId), .ok found⟩] (plan.record dto refundResult)
  | lookup {found} {plan : RefundPlan} {refundResult : RefundResult} {newRefund : Refund} :
      refundPlan P paymentIntentId dto merchantId found = .ok plan →
      RefundSteps P paymentIntentId dto merchantId
        [⟨plan.record dto refundResult, .ok newRefund⟩, ⟨plan.call dto, .ok refundResult⟩,
          ⟨.query (.findIntent paymentIntentId), .ok found⟩] (.query (.findMerchant plan.intent.merchantId))
  | report {found} {plan : RefundPlan} {refundResult : RefundResult} {newRefund : Refund} {merchant} :
      refundPlan P paymentIntentId dto merchantId found = .ok plan →
      RefundSteps P paymentIntentId dto merchantId
        [⟨.query (.findMerchant plan.intent.merchantId), merchant⟩, ⟨plan.record dto refundResult, .ok newRefund⟩,
          ⟨plan.call dto, .ok refundResult⟩, ⟨.query (.findIntent paymentIntentId), .ok found⟩]
        (notice P .paymentRefunded (plan.eventData dto refundResult newRefund) merchant)

/-- What a refund request has seen when it returns: its plan was accepted by the
provider, and recorded as the response shows it. -/
inductive RefundReturned (P : Platform) (paymentIntentId : String) (dto : CreateRefundDto) (merchantId : Uuid) (seen : History Op.Answer) :
    RefundResponse → Prop
  | recorded {found} {plan : RefundPlan} {refundResult : RefundResult} {newRefund : Refund} :
      refundPlan P paymentIntentId dto merchantId found = .ok plan → ⟨.query (.findIntent paymentIntentId), .ok found⟩ ∈ seen →
      ⟨plan.call dto, .ok refundResult⟩ ∈ seen → ⟨plan.record dto refundResult, .ok newRefund⟩ ∈ seen →
      RefundReturned P paymentIntentId dto merchantId seen (plan.response newRefund)

theorem processRefund_steps (P : Platform) (paymentIntentId : String) (dto : CreateRefundDto) (merchantId : Uuid) :
    Async.Obeys (RefundSteps P paymentIntentId dto merchantId)
      (fun seen response => RefundSettled P paymentIntentId dto merchantId seen ∧ RefundReturned P paymentIntentId dto merchantId seen response)
      (fun seen _ => RefundSettled P paymentIntentId dto merchantId seen)
      (processRefund P paymentIntentId dto merchantId) [] := by
  unfold processRefund
  refine (Async.obeys_bind _ _ _).mpr ((Async.obeys_request _ _ _).mpr ⟨.read, ?_⟩)
  rintro (err | found)
  · exact .of_thrown (by simp) (by simp)
  refine (Async.obeys_bind _ _ _).mpr ((Async.obeys_ofExcept _ _).mpr ?_)
  cases accepted : refundPlan P paymentIntentId dto merchantId found with
  | error err =>
    refine ⟨?_, by simp⟩
    intro found' plan same
    simp only [List.cons.injEq, Sigma.mk.injEq, heq_eq_eq, Except.ok.injEq, true_and, and_true] at same
    rw [← same, accepted]
    exact fun impossible => by cases impossible
  | ok plan =>
    simp only [orchestratorRefund_eq]
    refine (Async.obeys_bind _ _ _).mpr ((Async.obeys_request _ _ _).mpr ⟨.ask accepted, ?_⟩)
    rintro (err | refundResult)
    · exact .of_thrown (by simp) (by simp)
    refine (Async.obeys_bind _ _ _).mpr ((Async.obeys_request _ _ _).mpr ⟨.record accepted, ?_⟩)
    rintro (err | newRefund)
    · exact .of_thrown (by simp) (by simp)
    refine (Async.obeys_bind _ _ _).mpr (obeys_dispatch_own _ _ _ _ _ (.lookup accepted) fun merchant => ?_)
    refine ⟨.report accepted, ⟨.of_thrown (by simp) (by simp), ?_⟩, fun _ => .of_thrown (by simp) (by simp)⟩
    exact @RefundReturned.recorded _ _ _ _ _ found plan refundResult newRefund accepted (by simp) (by simp) (by simp)

theorem RefundSteps.course {P : Platform} {paymentIntentId : String} {dto : CreateRefundDto} {merchantId : Uuid}
    {seen : History Op.Answer} {op : Op} (steps : RefundSteps P paymentIntentId dto merchantId seen op) :
    RefundCourse P paymentIntentId dto merchantId seen op := by
  cases steps with
  | read => exact .read
  | ask accepted => exact .ask accepted
  | record accepted => exact .record accepted
  | lookup _ => exact .report (List.mem_cons_self ..) (Or.inl ⟨_, rfl⟩)
  | report _ => exact .report (List.mem_cons_of_mem _ (List.mem_cons_self ..)) (Or.inr ⟨_, _, rfl⟩)

theorem processRefund_course (P : Platform) (paymentIntentId : String) (dto : CreateRefundDto) (merchantId : Uuid) :
    Async.Obeys (RefundCourse P paymentIntentId dto merchantId)
      (fun seen _ => RefundSettled P paymentIntentId dto merchantId seen)
      (fun seen _ => RefundSettled P paymentIntentId dto merchantId seen)
      (processRefund P paymentIntentId dto merchantId) [] :=
  (processRefund_steps P paymentIntentId dto merchantId).mono (fun _ _ steps => steps.course) (fun _ _ ended => ended.1)
    fun _ _ settled => settled

section
variable (counts : RefundStatus → Bool)

/-- The cents of the refunds that are counted. -/
def storedCents (refunds : List Refund) : ℤ :=
  ((refunds.filter fun r => counts r.status).map fun r => r.amount.cents).sum

/-- The stored amounts of the refunds that are counted. -/
def storedTotal (refunds : List Refund) : ℚ :=
  ((refunds.filter fun r => counts r.status).map fun r => r.amount.toNumber).sum

@[simp] theorem storedCents_nil : storedCents counts [] = 0 := rfl

theorem storedCents_append (refunds : List Refund) (row : Refund) :
    storedCents counts (refunds ++ [row]) = storedCents counts refunds + if counts row.status then row.amount.cents else 0 := by
  unfold storedCents
  by_cases counted : counts row.status <;> simp [counted]

theorem storedTotal_append (refunds : List Refund) (row : Refund) :
    storedTotal counts (refunds ++ [row]) = storedTotal counts refunds + if counts row.status then row.amount.toNumber else 0 := by
  unfold storedTotal
  by_cases counted : counts row.status <;> simp [counted]

theorem storedTotal_cents (refunds : List Refund) : storedTotal counts refunds = storedCents counts refunds / 100 := by
  induction refunds using List.reverseRecOn with
  | nil => norm_num [storedTotal]
  | append_singleton refunds row ih =>
    rw [storedCents_append]
    rw [storedTotal_append, ih]
    split
    · rw [Decimal.toNumber]
      push_cast
      ring
    · simp

end

/-- In exact arithmetic the code adds up what is stored. -/
theorem totalRefunded_exact (refunds : List Refund) :
    totalRefunded .exact refunds = storedTotal RefundStatus.isSucceeded refunds := Arithmetic.exact_sum _

end PayBridge
