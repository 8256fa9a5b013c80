import PayBridge.RefundRun

namespace PayBridge
open Store Await Numeric

/-- Nothing touches an intent or its refunds. -/
def Untouched (id : Uuid) (before after : World) : Prop :=
  after.db.intents.find id = before.db.intents.find id ∧ after.db.refundsOf id = before.db.refundsOf id

/-- Every stored refund counts. -/
def everyRefund : RefundStatus → Bool := fun _ => true

/-- A refund call by the owner of an intent, with no amount or one from a cent
on, that meets no failure and is answered SUCCEEDED. -/
structure OwnerCall (P : Platform) (row : PaymentIntent) (request : RefundRequest) (env : Nat → Op → Env) (w : World) : Prop where
  named : request.names P row.id
  owner : request.merchantId = row.merchantId
  least : ∀ amount, request.dto.amount = .value amount → 1 / 100 ≤ amount
  calm : ∀ n op, (env n op).fails = false
  succeeds : ∀ n gateway gatewayPaymentId amount currency reason,
    (env n (.refund gateway gatewayPaymentId amount currency reason)).refund.status = .succeeded
  fresh : ∀ n refund markRefunded, w.db.refunds.find (env n (.query (.recordRefund refund markRefunded))).id = none

/-- The refunds of an intent add up: to no more than its amount, and it is
REFUNDED exactly when they have used the amount up, CAPTURED otherwise. -/
structure AddsUp (row : PaymentIntent) (w : World) : Prop where
  within : storedTotal everyRefund (w.db.refundsOf row.id) ≤ row.amount.toNumber
  status : ∃ now, w.db.intents.find row.id = some now ∧ now.status =
    if storedTotal everyRefund (w.db.refundsOf row.id) = row.amount.toNumber then .refunded else .captured

/-- An intent of which some cents are refunded. -/
def PaymentIntent.refundedBy (row : PaymentIntent) (cents : ℤ) : PaymentIntent :=
  { row with status := if cents = row.amount.cents then .refunded else .captured }

/-- The invariant of refund calls that are all answered SUCCEEDED, in cents. -/
structure AddingUp (row : PaymentIntent) (w : World) : Prop where
  intent : w.db.intents.find row.id = some (row.refundedBy (storedCents everyRefund (w.db.refundsOf row.id)))
  succeeded : ∀ refund ∈ w.db.refundsOf row.id, refund.status = .succeeded
  nonneg : 0 ≤ storedCents everyRefund (w.db.refundsOf row.id)
  within : storedCents everyRefund (w.db.refundsOf row.id) ≤ row.amount.cents

section
variable {P : Platform} {row : PaymentIntent} {request : RefundRequest} {env : Nat → Op → Env} {w : World}

theorem AddingUp.addsUp (adding : AddingUp row w) : AddsUp row w := by
  have cents := storedTotal_cents everyRefund (w.db.refundsOf row.id)
  have exact : storedTotal everyRefund (w.db.refundsOf row.id) = row.amount.toNumber ↔
      storedCents everyRefund (w.db.refundsOf row.id) = row.amount.cents := by
    rw [cents, Decimal.toNumber, div_left_inj' (by norm_num)]
    exact Int.cast_inj
  refine ⟨?_, _, adding.intent, ?_⟩
  · rw [cents, Decimal.toNumber]
    have within : (storedCents everyRefund (w.db.refundsOf row.id) : ℚ) ≤ row.amount.cents := by exact_mod_cast adding.within
    linarith
  · simp only [PaymentIntent.refundedBy, exact]

/-- Where every refund has succeeded, all of them count against the balance. -/
theorem storedCents_succeeded {refunds : List Refund} (succeeded : ∀ refund ∈ refunds, refund.status = .succeeded) :
    storedCents RefundStatus.isSucceeded refunds = storedCents everyRefund refunds := by
  unfold storedCents
  congr 2
  refine List.filter_congr fun refund member => ?_
  rw [succeeded refund member]
  rfl

theorem AddingUp.counted (adding : AddingUp row w) :
    storedCents RefundStatus.isSucceeded (w.db.refundsOf row.id) = storedCents everyRefund (w.db.refundsOf row.id) :=
  storedCents_succeeded adding.succeeded

theorem AddingUp.drifts {after : World} (adding : AddingUp row w) (untouched : Untouched row.id w after) :
    AddingUp row after := by
  obtain ⟨intent, refunds⟩ := untouched
  constructor
  · rw [intent, refunds]
    exact adding.intent
  · rw [refunds]
    exact adding.succeeded
  · rw [refunds]
    exact adding.nonneg
  · rw [refunds]
    exact adding.within

/-- The cents that a request for up to whole cents is stored with. -/
theorem stored_cents {amount : ℚ} {stored : Decimal} {left : ℤ} (least : 1 / 100 ≤ amount) (within : amount ≤ left / 100)
    (held : Decimal.ofNumber amount = some stored) :
    stored.cents = mathRound (amount * 100) ∧ 1 ≤ stored.cents ∧ stored.cents ≤ left := by
  have cents := Decimal.ofNumber_some (by linarith) held
  have lower : 1 ≤ mathRound (amount * 100) := le_mathRound (by push_cast; linarith)
  have upper : mathRound (amount * 100) ≤ left := mathRound_le (by linarith)
  omega

/-- Whether a plan counts as a full refund, by the cents that will be stored. -/
theorem isFullyRefunded_cents {plan : RefundPlan} {total after : ℤ} (amount : plan.totalAmount = total / 100)
    (refunded : plan.totalRefundedAfter = after / 100) : plan.isFullyRefunded = true ↔ total ≤ after := by
  simp only [RefundPlan.isFullyRefunded, decide_eq_true_eq, amount, refunded]
  rw [div_le_div_iff_of_pos_right (by norm_num)]
  exact Int.cast_le

/-- What an owner's call that goes through does to the intent. -/
structure RefundedCents (row : PaymentIntent) (request : RefundRequest) (cents : ℤ) (before after : World) : Prop where
  refunds : ∃ refund, after.db.refundsOf row.id = before.db.refundsOf row.id ++ [refund] ∧
    refund.status = .succeeded ∧ refund.amount.cents = cents
  positive : 1 ≤ cents
  within : storedCents everyRefund (before.db.refundsOf row.id) + cents ≤ row.amount.cents
  full : request.dto.amount = .undefined → storedCents everyRefund (before.db.refundsOf row.id) + cents = row.amount.cents
  intent : after.db.intents.find row.id = some (row.refundedBy (storedCents everyRefund (before.db.refundsOf row.id) + cents))

/-- The figures of an accepted call of the owner. -/
structure OwnerPlan (row : PaymentIntent) (request : RefundRequest) (w : World) (plan : RefundPlan) : Prop where
  intent : plan.intent = row.refundedBy (storedCents everyRefund (w.db.refundsOf row.id))
  total : plan.totalAmount = row.amount.cents / 100
  after : plan.totalRefundedAfter =
    (storedCents everyRefund (w.db.refundsOf row.id) + mathRound (plan.requestedAmount * 100) : ℤ) / 100
  least : 1 / 100 ≤ plan.requestedAmount
  within : plan.requestedAmount ≤ (row.amount.cents - storedCents everyRefund (w.db.refundsOf row.id) : ℤ) / 100
  full : request.dto.amount = .undefined →
    plan.requestedAmount = (row.amount.cents - storedCents everyRefund (w.db.refundsOf row.id) : ℤ) / 100

theorem AddingUp.plan (exact : P.arithmetic = .exact) {plan : RefundPlan} (adding : AddingUp row w) (call : OwnerCall P row request env w)
    (accepted : RefundAccepted P env request w plan) : OwnerPlan row request w plan := by
  obtain ⟨_, known, checked⟩ := accepted.stored call.named
  have intent : plan.intent = row.refundedBy (storedCents everyRefund (w.db.refundsOf row.id)) :=
    Option.some.inj (known.symm.trans adding.intent)
  obtain ⟨total, _, requested, positive, within, after, _⟩ := refundPlan_cents exact checked
  have same : plan.intent.amount = row.amount := by rw [intent]; rfl
  rw [adding.counted] at after requested within
  rw [same] at total requested within
  refine ⟨intent, total, after, ?_, within, ?_⟩
  · unfold CreateRefundDto.requestedAmount at requested
    split at requested
    · rw [requested] at positive ⊢
      have some : (0 : ℚ) < (row.amount.cents - storedCents everyRefund (w.db.refundsOf row.id) : ℤ) := by linarith
      have cent : 0 < row.amount.cents - storedCents everyRefund (w.db.refundsOf row.id) := by exact_mod_cast some
      have least : (1 : ℚ) ≤ (row.amount.cents - storedCents everyRefund (w.db.refundsOf row.id) : ℤ) := by exact_mod_cast cent
      linarith
    · rw [requested] at positive
      exact absurd positive (lt_irrefl _)
    · next amount given =>
      rw [requested]
      exact call.least amount given
  · intro absent
    rw [requested, CreateRefundDto.requestedAmount, absent]

/-- The refund that an accepted call of the owner has recorded. -/
theorem AddingUp.recorded {plan : RefundPlan} {refundResult : RefundResult} {refund : Refund} {db : Database}
    (adding : AddingUp row w) (figures : OwnerPlan row request w plan) (succeeded : refundResult.status = .succeeded)
    (recorded : RefundRecordedAs plan refundResult refund w.db db) (queue : List OutboundWebhookJobData) :
    RefundedCents row request refund.amount.cents w ⟨db, queue⟩ := by
  obtain ⟨cents, least, within⟩ := stored_cents figures.least figures.within recorded.amount
  have own : plan.intent.id = row.id := by rw [figures.intent]; rfl
  have full := isFullyRefunded_cents figures.total figures.after
  refine ⟨⟨refund, ?_, recorded.status.trans succeeded, rfl⟩, least, by omega, ?_, ?_⟩
  · have added := recorded.refunds row.id
    rw [if_pos own] at added
    exact added
  · intro absent
    have scaled : plan.requestedAmount * 100 = (row.amount.cents - storedCents everyRefund (w.db.refundsOf row.id) : ℤ) := by
      rw [figures.full absent]
      ring
    rw [scaled, mathRound_intCast] at cents
    omega
  · have stands := recorded.intents row.id
    have marks : plan.marksRefunded refundResult = true ↔
        storedCents everyRefund (w.db.refundsOf row.id) + refund.amount.cents = row.amount.cents := by
      have settles : plan.marksRefunded refundResult = plan.isFullyRefunded := by
        simp only [RefundPlan.marksRefunded, succeeded, decide_true, Bool.and_true]
      rw [settles, full, ← cents]
      omega
    simp only [own, marks, true_and, adding.intent, Option.map_some] at stands
    refine stands.trans ?_
    have unspent : storedCents everyRefund (w.db.refundsOf row.id) ≠ row.amount.cents := by omega
    split
    · next spent => simp only [PaymentIntent.refundedBy, spent, if_true]
    · next short => simp only [PaymentIntent.refundedBy, short, unspent, if_false]

/-- An owner's call either is turned down and changes nothing, or goes through. -/
theorem AddingUp.call_cases (exact : P.arithmetic = .exact) (adding : AddingUp row w) (call : OwnerCall P row request env w) :
    let o := (refundCalls P).alone request env w
    (∃ err, o.value = .error err ∧ o.world = w ∧ ∀ plan, ¬ RefundAccepted P env request w plan) ∨
      ∃ response cents, o.value = .ok response ∧ RefundedCents row request cents w o.world := by
  intro o
  have ends : RefundEnds P env request w o.value o.world (answeredRefunds o.log) := refundCalls_ends P env request w
  generalize o.value = value, o.world = after, answeredRefunds o.log = answered at ends ⊢
  cases ends with
  | unread lost =>
    rcases lost with struck | unnamed
    · cases (call.calm _ _).symm.trans struck
    · exact absurd call.named (unnamed _)
  | @rejected id err named checked =>
    left
    refine ⟨_, rfl, rfl, ?_⟩
    rintro plan ⟨_, _, same, accepted⟩
    cases named.symm.trans same
    cases checked.symm.trans accepted
  | declined _ struck => cases (call.calm _ _).symm.trans struck
  | unrecorded accepted answered refused =>
    have figures := adding.plan exact call accepted
    have below : row.amount.cents - storedCents everyRefund (w.db.refundsOf row.id) ≤ row.amount.cents := by
      have nonneg := adding.nonneg
      omega
    have least := figures.least
    obtain ⟨row, db, recorded⟩ := (recorded_iff accepted).mpr
      ⟨call.calm _ _, call.fresh _ _ _, Decimal.ofNumber_below row.amount (by linarith) figures.within below⟩
    exact absurd recorded (refused row db)
  | unreported _ _ _ struck => cases (call.calm _ _).symm.trans struck
  | @returned plan refundResult refund db job accepted answered recorded _ _ =>
    right
    have succeeded : refundResult.status = .succeeded := by
      rw [← answered.2]
      exact call.succeeds _ _ _ _ _ _
    exact ⟨_, _, rfl, adding.recorded (adding.plan exact call accepted) succeeded recorded.tables _⟩

theorem AddingUp.refunded {cents : ℤ} {after : World} (adding : AddingUp row w)
    (refunded : RefundedCents row request cents w after) : AddingUp row after := by
  obtain ⟨refund, refunds, succeeded, amount⟩ := refunded.refunds
  have grown : storedCents everyRefund (after.db.refundsOf row.id) =
      storedCents everyRefund (w.db.refundsOf row.id) + cents := by
    rw [refunds, storedCents_append, amount]
    rfl
  have nonneg := adding.nonneg
  have positive := refunded.positive
  have within := refunded.within
  refine ⟨?_, ?_, by omega, by omega⟩
  · rw [grown]
    exact refunded.intent
  · intro r member
    rw [refunds] at member
    rcases List.mem_append.mp member with old | new
    · exact adding.succeeded r old
    · rw [List.mem_singleton.mp new]
      exact succeeded

theorem AddingUp.call (exact : P.arithmetic = .exact) (adding : AddingUp row w) (call : OwnerCall P row request env w) :
    AddingUp row ((refundCalls P).alone request env w).world := by
  rcases adding.call_cases exact call with ⟨_, _, same, _⟩ | ⟨_, _, _, refunded⟩
  · rw [same]
    exact adding
  · exact adding.refunded refunded

/-- The checks let the owner refund all that is left, when something is. -/
theorem refundPlan_full (exact : P.arithmetic = .exact) {intent : PaymentIntent} {refunds : List Refund} {gatewayPaymentId : String}
    (owner : intent.merchantId = request.merchantId) (captured : intent.status = .captured)
    (paid : intent.gatewayPaymentId = some gatewayPaymentId) (named : gatewayPaymentId ≠ "")
    (absent : request.dto.amount = .undefined)
    (left : storedCents RefundStatus.isSucceeded refunds < intent.amount.cents) :
    ∃ plan, request.plan P (some ⟨intent, refunds⟩) = .ok plan := by
  have balance : intent.amount.toNumber - totalRefunded .exact refunds =
      (intent.amount.cents - storedCents RefundStatus.isSucceeded refunds : ℤ) / 100 := by
    rw [totalRefunded_exact, storedTotal_cents, Decimal.toNumber]
    push_cast
    ring
  have whole : WholeCents (intent.amount.toNumber - totalRefunded .exact refunds) := ⟨_, balance⟩
  have positive : 0 < roundCents .exact (intent.amount.toNumber - totalRefunded .exact refunds) := by
    rw [roundCents_wholeCents whole, balance]
    have some : (0 : ℚ) < (intent.amount.cents - storedCents RefundStatus.isSucceeded refunds : ℤ) := by
      exact_mod_cast Int.sub_pos_of_lt left
    linarith
  unfold RefundRequest.plan refundPlan
  simp only [exact, Arithmetic.exact_sub, owner, captured, paid, named, CreateRefundDto.requestedAmount, absent, not_le.mpr positive, lt_irrefl,
    ne_eq, not_true, if_false]
  exact ⟨_, rfl⟩

/-- A captured intent without refunds adds up. -/
theorem AddingUp.start (stored : w.db.intents.find row.id = some row) (captured : row.status = .captured)
    (positive : 0 < row.amount.cents) (unrefunded : w.db.refundsOf row.id = []) : AddingUp row w := by
  have unspent : (0 : ℤ) ≠ row.amount.cents := by omega
  constructor
  · rw [unrefunded, stored, PaymentIntent.refundedBy, storedCents_nil, if_neg unspent, ← captured]
  · rw [unrefunded]
    exact fun _ member => absurd member (List.not_mem_nil)
  · rw [unrefunded, storedCents_nil]
  · rw [unrefunded, storedCents_nil]
    omega

/-- While an intent is CAPTURED, a call for all that is left of it is accepted. -/
theorem AddingUp.accepts_rest (exact : P.arithmetic = .exact) {now : PaymentIntent} {gatewayPaymentId : String} (adding : AddingUp row w)
    (call : OwnerCall P row request env w) (paid : row.gatewayPaymentId = some gatewayPaymentId) (named : gatewayPaymentId ≠ "")
    (absent : request.dto.amount = .undefined) (found : w.db.intents.find row.id = some now) (standing : now.status = .captured) :
    ∃ plan, RefundAccepted P env request w plan := by
  have same : now = row.refundedBy (storedCents everyRefund (w.db.refundsOf row.id)) :=
    Option.some.inj (found.symm.trans adding.intent)
  have unspent : storedCents everyRefund (w.db.refundsOf row.id) ≠ row.amount.cents := by
    intro spent
    rw [same, PaymentIntent.refundedBy, if_pos spent] at standing
    cases standing
  have within := adding.within
  have left : storedCents RefundStatus.isSucceeded (w.db.refundsOf row.id) < now.amount.cents := by
    rw [adding.counted, same]
    show _ < row.amount.cents
    omega
  have owned : now.merchantId = request.merchantId := by rw [same, call.owner]; rfl
  have known : now.gatewayPaymentId = some gatewayPaymentId := by rw [same, ← paid]; rfl
  obtain ⟨plan, checked⟩ := refundPlan_full exact owned standing known named absent left
  exact ⟨plan, call.calm _ _, row.id, call.named, by rw [Database.shown, found]; exact checked⟩

/-- What a call for all that is left does. -/
theorem RefundedCents.rest {cents : ℤ} {after : World} (refunded : RefundedCents row request cents w after)
    (absent : request.dto.amount = .undefined) :
    (∃ refund, after.db.refundsOf row.id = w.db.refundsOf row.id ++ [refund] ∧
      refund.amount.toNumber = row.amount.toNumber - storedTotal everyRefund (w.db.refundsOf row.id)) ∧
      after.db.intents.find row.id = some { row with status := .refunded } := by
  obtain ⟨refund, refunds, _, amount⟩ := refunded.refunds
  have rest := refunded.full absent
  refine ⟨⟨refund, refunds, ?_⟩, ?_⟩
  · rw [storedTotal_cents, Decimal.toNumber, Decimal.toNumber, amount, ← rest]
    push_cast
    ring
  · rw [refunded.intent, rest, PaymentIntent.refundedBy, if_pos rfl]

/-- In exact arithmetic, refunds of a captured intent by its owner, made one after the
other and all answered SUCCEEDED, add up after every call. A call that is turned down changes
nothing, and a call without an amount refunds all that is left. -/
theorem refunds_add_up {seen : History Op.Answer} {after : World} (exact : P.arithmetic = .exact) (stored : w.db.intents.find row.id = some row)
    (captured : row.status = .captured) (positive : 0 < row.amount.toNumber)
    (paid : ∃ gatewayPaymentId, row.gatewayPaymentId = some gatewayPaymentId ∧ gatewayPaymentId ≠ "")
    (unrefunded : w.db.refundsOf row.id = [])
    (series : Series (refundCalls P) (Untouched row.id) (OwnerCall P row) w seen after) :
    AddsUp row after ∧ ∀ request env, OwnerCall P row request env after →
      let o := (refundCalls P).alone request env after
      (∀ err, o.value = .error err → o.world = after) ∧
      ∀ now, request.dto.amount = .undefined → after.db.intents.find row.id = some now → now.status = .captured →
        ∃ response refund, o.value = .ok response ∧ o.world.db.refundsOf row.id = after.db.refundsOf row.id ++ [refund] ∧
          refund.amount.toNumber = row.amount.toNumber - storedTotal everyRefund (after.db.refundsOf row.id) ∧
          o.world.db.intents.find row.id = some { now with status := .refunded } := by
  have cents : 0 < row.amount.cents := by
    have some : (0 : ℚ) < row.amount.cents := by
      rw [Decimal.toNumber] at positive
      linarith
    exact_mod_cast some
  have adding : AddingUp row after :=
    series.keeps (I := fun _ world => AddingUp row world) (.start stored captured cents unrefunded)
      (fun _ _ _ adding untouched => adding.drifts untouched) fun _ _ _ _ adding met => adding.call exact met
  refine ⟨adding.addsUp, fun request env call => ⟨?_, ?_⟩⟩
  · intro err thrown
    rcases adding.call_cases exact call with ⟨_, _, same, _⟩ | ⟨_, _, returned, _⟩
    · exact same
    · cases thrown.symm.trans returned
  · intro now absent found standing
    have same : now = row.refundedBy (storedCents everyRefund (after.db.refundsOf row.id)) :=
      Option.some.inj (found.symm.trans adding.intent)
    obtain ⟨gatewayPaymentId, paid, named⟩ := paid
    obtain ⟨plan, accepted⟩ := adding.accepts_rest exact call paid named absent found standing
    rcases adding.call_cases exact call with ⟨_, _, _, turnedDown⟩ | ⟨response, cents, returned, refunded⟩
    · exact absurd accepted (turnedDown plan)
    · obtain ⟨⟨refund, refunds, amount⟩, settled⟩ := refunded.rest absent
      refine ⟨response, refund, returned, refunds, amount, ?_⟩
      rw [settled, same]
      rfl

end

/-- A refund of the sample intent by its owner. -/
def ownerRefund (amount : JsOptional ℚ) : RefundRequest :=
  ⟨(sampleIntent .captured).id.text, ⟨amount, .undefined⟩, sampleMerchant.id⟩

/-- The sample intent after a refund of a third, which is stored as 33.33. -/
def thirdRefunded : World :=
  ((refundCalls plainPlatform).alone (ownerRefund (.value (100 / 3))) (fun _ _ => calmEnv) ⟨sampleDatabase .captured, []⟩).world

/-- A calm step under another generated id. -/
def laterEnv : Env := { calmEnv with id := ⟨"e4b2d6f8-1c30-4e79-9bad-2f4a6c8e0b13"⟩ }

theorem sampleIntent_read : plainPlatform.readUuid (sampleIntent .captured).id.text = some (sampleIntent .captured).id := by
  decide +kernel

theorem ownerRefund_names (amount : JsOptional ℚ) : (ownerRefund amount).names doublePlatform (sampleIntent .captured).id := by
  show doublePlatform.readUuid (sampleIntent .captured).id.text = _
  decide +kernel

/-- In doubles too the balance of the sample intent is all of its amount. -/
theorem ownerRefund_balance {amount : JsOptional ℚ} {env : Nat → Op → Env} {plan : RefundPlan}
    (accepted : RefundAccepted doublePlatform env (ownerRefund amount) ⟨sampleDatabase .captured, []⟩ plan) :
    plan.remainingBalance = plan.totalAmount -
      storedTotal RefundStatus.isSucceeded ((sampleDatabase .captured).refundsOf (sampleIntent .captured).id) := by
  obtain ⟨_, known, checked⟩ := accepted.stored (ownerRefund_names amount)
  obtain ⟨_, shown, _, _, _, total, sofar, remaining, _⟩ := refundPlan_ok checked
  cases shown
  have same : plan.intent = sampleIntent .captured :=
    Option.some.inj (known.symm.trans (Table.find_mem (List.mem_singleton_self (sampleIntent .captured))))
  rw [remaining, sofar, total, same]
  decide +kernel

theorem ownerRefund_call {amount : JsOptional ℚ} {met : Env} {w : World} (calm : met.fails = false)
    (succeeds : met.refund.status = .succeeded) (fresh : w.db.refunds.find met.id = none)
    (least : ∀ asked, amount = .value asked → 1 / 100 ≤ asked) :
    OwnerCall plainPlatform (sampleIntent .captured) (ownerRefund amount) (fun _ _ => met) w where
  named := sampleIntent_read
  owner := rfl
  least := least
  calm := fun _ _ => calm
  succeeds := fun _ _ _ _ _ _ => succeeds
  fresh := fun _ _ _ => fresh

/-- After a third of 100.00, the rest is 66.67. -/
theorem refunds_add_up_sample : AddsUp (sampleIntent .captured) thirdRefunded ∧
    let o := (refundCalls plainPlatform).alone (ownerRefund .undefined) (fun _ _ => laterEnv) thirdRefunded
    ∃ response refund, o.value = .ok response ∧ o.world.db.refundsOf (sampleIntent .captured).id =
      thirdRefunded.db.refundsOf (sampleIntent .captured).id ++ [refund] ∧ refund.amount.toNumber = 6667 / 100 := by
  have third : OwnerCall plainPlatform (sampleIntent .captured) (ownerRefund (.value (100 / 3))) (fun _ _ => calmEnv)
      ⟨sampleDatabase .captured, []⟩ := by
    refine ownerRefund_call rfl rfl rfl ?_
    intro asked same
    cases same
    norm_num
  have rest : OwnerCall plainPlatform (sampleIntent .captured) (ownerRefund .undefined) (fun _ _ => laterEnv) thirdRefunded := by
    refine ownerRefund_call rfl rfl (by decide +kernel) ?_
    intro asked same
    cases same
  obtain ⟨adds, later⟩ := refunds_add_up (P := plainPlatform) (w := ⟨sampleDatabase .captured, []⟩)
    rfl (Table.find_mem (List.mem_singleton_self _)) rfl (by decide +kernel) ⟨_, rfl, by decide⟩ rfl
    (Series.call _ _ Series.start third)
  obtain ⟨response, refund, returned, refunds, amount, _⟩ := (later _ _ rest).2
    (sampleIntent .captured) rfl (by decide +kernel) rfl
  have sofar : storedTotal everyRefund (thirdRefunded.db.refundsOf (sampleIntent .captured).id) = 3333 / 100 := by decide +kernel
  refine ⟨adds, response, refund, returned, refunds, ?_⟩
  rw [amount]
  show (sampleIntent .captured).amount.toNumber -
    storedTotal everyRefund (thirdRefunded.db.refundsOf (sampleIntent .captured).id) = _
  rw [sofar]
  norm_num [sampleIntent, Decimal.toNumber]

end PayBridge
