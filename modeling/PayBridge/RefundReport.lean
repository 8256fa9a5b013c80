import PayBridge.RefundAmounts

namespace PayBridge
open Store Await

/-- A response and an event agree with the tables about an intent. -/
structure ReportsStored (id : Uuid) (response : RefundResponse) (payload : PaymentEventPayload) (answered : List ProviderRefund)
    (db : Database) : Prop where
  status : ∃ now, db.intents.find id = some now ∧ (response.isFullyRefunded = true ↔ now.status = .refunded) ∧
    payload.data.status = now.status
  balance : ∃ now, db.intents.find id = some now ∧
    response.remainingBalance = now.amount.toNumber - storedTotal RefundStatus.isSucceeded (db.refundsOf id)
  eventBalance : ∃ now refund, db.intents.find id = some now ∧ payload.data.refund = some refund ∧
    refund.remainingBalance = now.amount.toNumber - storedTotal RefundStatus.isSucceeded (db.refundsOf id)
  rejected : payload.event = .paymentRefunded → ∀ asked ∈ answered, asked.result.status ≠ .failed

/-- The provider answers SUCCEEDED if it answers, and the amount given, if there
is one, is of whole cents. -/
def SettledExactly (P : Platform) (env : Nat → Op → Env) (request : RefundRequest) (w : World) : Prop :=
  (∀ plan refundResult, RefundAccepted P env request w plan → RefundAnswered env request plan refundResult →
    refundResult.status = .succeeded) ∧ request.dto.wholeCents

section
variable {P : Platform} {request : RefundRequest} {env : Nat → Op → Env} {w : World} {id : Uuid}
variable {plan : RefundPlan} {refundResult : RefundResult} {row : Refund} {db : Database}

/-- The intent as a recorded refund leaves it. -/
theorem RefundRecordedAs.intent (recorded : RefundRecordedAs plan refundResult row w.db db)
    (known : w.db.intents.find plan.intent.id = some plan.intent) (captured : plan.intent.status = .captured) :
    ∃ now, db.intents.find plan.intent.id = some now ∧ now.amount = plan.intent.amount ∧
      now.status = if plan.marksRefunded refundResult then .refunded else .captured := by
  have stands := recorded.intents plan.intent.id
  rw [known] at stands
  cases marks : plan.marksRefunded refundResult with
  | true =>
    rw [if_pos ⟨rfl, marks⟩] at stands
    exact ⟨_, stands, rfl, rfl⟩
  | false =>
    rw [if_neg fun both => Bool.false_ne_true (marks.symm.trans both.2)] at stands
    exact ⟨_, stands, rfl, captured⟩

/-- What is reported to be left is left, if and only if the refund has succeeded
and is stored as it was asked for. -/
theorem RefundRecordedAs.balance_iff (exact : P.arithmetic = .exact) (recorded : RefundRecordedAs plan refundResult row w.db db)
    (checked : request.plan P (some ⟨plan.intent, w.db.refundsOf plan.intent.id⟩) = .ok plan) :
    plan.remainingAfter = plan.intent.amount.toNumber - storedTotal RefundStatus.isSucceeded (db.refundsOf plan.intent.id) ↔
      refundResult.status = .succeeded ∧ request.dto.wholeCents := by
  obtain ⟨_, _, _, _, _, _, left⟩ := refundPlan_cents exact checked
  have refunds := recorded.refunds plan.intent.id
  rw [if_pos rfl] at refunds
  rw [left, refunds, storedTotal_cents, storedCents_append, Decimal.toNumber, recorded.status,
    ← requested_wholeCents checked, ← Decimal.ofNumber_exact recorded.amount, Decimal.toNumber]
  by_cases succeeded : refundResult.status = .succeeded
  · have counted : RefundStatus.succeeded.isSucceeded = true := rfl
    rw [succeeded, if_pos counted]
    push_cast
    constructor
    · intro same
      exact ⟨rfl, by linarith⟩
    · rintro ⟨_, same⟩
      linarith
  · have uncounted : refundResult.status.isSucceeded = false := decide_eq_false succeeded
    rw [uncounted, if_neg Bool.false_ne_true]
    push_cast
    constructor
    · intro same
      linarith
    · exact fun both => absurd both.1 succeeded

/-- A refund that returns has reported what it has stored, if and only if the
provider has answered SUCCEEDED and the amount was of whole cents. -/
theorem RefundRecordedAs.reports_iff (exact : P.arithmetic = .exact) {payload : PaymentEventPayload} (recorded : RefundRecordedAs plan refundResult row w.db db)
    (known : w.db.intents.find plan.intent.id = some plan.intent)
    (checked : request.plan P (some ⟨plan.intent, w.db.refundsOf plan.intent.id⟩) = .ok plan)
    (data : payload.data = plan.eventData request.dto refundResult row) :
    ReportsStored plan.intent.id (plan.response row) payload [⟨plan.requestedAmount, refundResult⟩] db ↔
      refundResult.status = .succeeded ∧ request.dto.wholeCents := by
  obtain ⟨_, _, _, captured, _⟩ := refundPlan_ok checked
  obtain ⟨now, found, amount, status⟩ := recorded.intent known captured
  have balance := recorded.balance_iff exact checked
  rw [← amount] at balance
  constructor
  · intro reports
    obtain ⟨other, same, left⟩ := reports.balance
    cases found.symm.trans same
    exact balance.mp left
  · rintro ⟨succeeded, whole⟩
    have settles : plan.marksRefunded refundResult = plan.isFullyRefunded := by
      simp only [RefundPlan.marksRefunded, succeeded, decide_true, Bool.and_true]
    rw [settles] at status
    have left := balance.mpr ⟨succeeded, whole⟩
    refine ⟨⟨now, found, ?_, ?_⟩, ⟨now, found, left⟩, ⟨now, _, found, congrArg PaymentIntentData.refund data, left⟩, ?_⟩
    · rw [status]
      show plan.isFullyRefunded = true ↔ _
      cases plan.isFullyRefunded <;> simp
    · rw [data, status]
      rfl
    · intro _ asked member rejected
      rw [List.mem_singleton.mp member] at rejected
      cases succeeded.symm.trans rejected

/-- In exact arithmetic, a refund call that throws puts no event into the queue. One that returns
puts in one, and its response and its event agree with what it has stored if and
only if the provider has answered SUCCEEDED and the amount is of whole cents. -/
theorem refund_reports (P : Platform) (exact : P.arithmetic = .exact) (env : Nat → Op → Env) (request : RefundRequest) (w : World) (id : Uuid)
    (named : request.names P id) :
    let o := (refundCalls P).alone request env w
    (∀ err, o.value = .error err → o.world.queue = w.queue) ∧
      ∀ response, o.value = .ok response → ∃ job, o.world.queue = w.queue ++ [job] ∧
        (ReportsStored id response job.payload (answeredRefunds o.log) o.world.db ↔ SettledExactly P env request w) := by
  intro o
  have ends : RefundEnds P env request w o.value o.world (answeredRefunds o.log) := refundCalls_ends P env request w
  generalize o.value = value, o.world = after, answeredRefunds o.log = answered at ends ⊢
  constructor
  · rintro err rfl
    cases ends <;> rfl
  · rintro response rfl
    cases ends with
    | @returned plan refundResult row db job accepted asked recorded _ data =>
      refine ⟨job, rfl, ?_⟩
      obtain ⟨own, known, checked⟩ := accepted.stored named
      subst own
      have settled : SettledExactly P env request w ↔ refundResult.status = .succeeded ∧ request.dto.wholeCents := by
        unfold SettledExactly
        refine and_congr_left' ⟨fun all => all plan refundResult accepted asked, ?_⟩
        intro succeeded other otherResult again answeredAgain
        cases accepted.unique again
        cases asked.2.symm.trans answeredAgain.2
        exact succeeded
      rw [settled]
      exact recorded.tables.reports_iff exact known checked data

end

theorem toOption_eq_some {ε α : Type} {e : Except ε α} {a : α} : e.toOption = some a ↔ e = .ok a := by
  cases e <;> simp [Except.toOption]

/-- The provider takes a refund, which is still to be settled. -/
def pendingAnswer : Env := { calmEnv with refund := { calmEnv.refund with status := .pending } }

/-- A calm refund of 60.00 is reported as it is stored. -/
theorem refund_reports_sample :
    let o := (refundCalls plainPlatform).alone (ownerRefund (.value 60)) (fun _ _ => calmEnv) ⟨sampleDatabase .captured, []⟩
    ∃ response job, o.value = .ok response ∧ o.world.queue = [job] ∧
      ReportsStored (sampleIntent .captured).id response job.payload (answeredRefunds o.log) o.world.db := by
  intro o
  have answered : o.value.toOption.isSome = true := by decide +kernel
  obtain ⟨response, answered⟩ := Option.isSome_iff_exists.mp answered
  have returned := toOption_eq_some.mp answered
  obtain ⟨_, reports⟩ := refund_reports plainPlatform rfl (fun _ _ => calmEnv) (ownerRefund (.value 60))
    ⟨sampleDatabase .captured, []⟩ (sampleIntent .captured).id sampleIntent_read
  obtain ⟨job, queued, agrees⟩ := reports response returned
  refine ⟨response, job, returned, queued, agrees.mpr ⟨?_, ?_⟩⟩
  · intro plan refundResult _ answered
    rw [← answered.2]
    rfl
  · rintro _ ⟨⟩
    exact ⟨6000, by norm_num⟩

/-- A full refund that is pending is reported as REFUNDED, and is stored as CAPTURED. -/
theorem pending_reported : ¬ ∀ (P : Platform) (env : Nat → Op → Env) (request : RefundRequest) (w : World) (id : Uuid),
    P.arithmetic = .exact → request.names P id →
      let o := (refundCalls P).alone request env w
      ∀ response, o.value = .ok response → ∃ job, o.world.queue = w.queue ++ [job] ∧
        ReportsStored id response job.payload (answeredRefunds o.log) o.world.db := by
  intro always
  let o := (refundCalls plainPlatform).alone (ownerRefund .undefined) (fun _ _ => pendingAnswer) ⟨sampleDatabase .captured, []⟩
  have reported : o.value.toOption.map RefundResponse.isFullyRefunded = some true := by decide +kernel
  have stored : (o.world.db.intents.find (sampleIntent .captured).id).map PaymentIntent.status = some .captured := by
    decide +kernel
  obtain ⟨response, returned, full⟩ := Option.map_eq_some_iff.mp reported
  obtain ⟨job, _, reports⟩ := always plainPlatform (fun _ _ => pendingAnswer) (ownerRefund .undefined)
    ⟨sampleDatabase .captured, []⟩ (sampleIntent .captured).id rfl sampleIntent_read response (toOption_eq_some.mp returned)
  obtain ⟨now, found, flag, _⟩ := reports.status
  have captured : some now.status = some PaymentStatus.captured :=
    (congrArg (Option.map PaymentIntent.status) found).symm.trans stored
  cases (Option.some.inj captured).symm.trans (flag.mp full)

end PayBridge
