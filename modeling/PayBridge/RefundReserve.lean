import PayBridge.RefundSeries

namespace PayBridge
open Store Await

/-- The provider has not rejected the refund. -/
def RefundStatus.stands (status : RefundStatus) : Bool := status ≠ .failed

def RefundStatus.isPending (status : RefundStatus) : Bool := status = .pending

/-- The transaction of an answered plan is not struck, and is given a new id. -/
def RecordSpared (env : Nat → Op → Env) (request : RefundRequest) (w : World) (plan : RefundPlan)
    (refundResult : RefundResult) : Prop :=
  (env 2 (plan.record request.dto refundResult)).fails = false ∧
    w.db.refunds.find (env 2 (plan.record request.dto refundResult)).id = none

/-- A refund of the intent that is accepted, not rejected by the provider and
recorded, leaves what its PENDING refunds need of what the SUCCEEDED ones have left. -/
def LeavesPending (P : Platform) (id : Uuid) (request : RefundRequest) (env : Nat → Op → Env) (w : World) : Prop :=
  ∀ plan refundResult amount, RefundAccepted P env request w plan → RefundAnswered env request plan refundResult →
    refundResult.status ≠ .failed → RecordSpared env request w plan refundResult →
    Decimal.ofNumber plan.requestedAmount = some amount →
      amount.toNumber + storedTotal RefundStatus.isPending (w.db.refundsOf id) ≤
        plan.totalAmount - storedTotal RefundStatus.isSucceeded (w.db.refundsOf id)

theorem storedCents_stands (refunds : List Refund) : storedCents RefundStatus.stands refunds =
    storedCents RefundStatus.isSucceeded refunds + storedCents RefundStatus.isPending refunds := by
  induction refunds using List.reverseRecOn with
  | nil => rfl
  | append_singleton refunds row ih =>
    simp only [storedCents_append, ih]
    cases row.status <;> simp [RefundStatus.stands, RefundStatus.isSucceeded, RefundStatus.isPending] <;> omega

/-- The invariant of any refund calls on an intent: its amount stays, and the
refunds not rejected are within it. -/
structure Reserved (row : PaymentIntent) (w : World) : Prop where
  intent : ∃ now, w.db.intents.find row.id = some now ∧ now.amount = row.amount
  within : storedCents RefundStatus.stands (w.db.refundsOf row.id) ≤ row.amount.cents

section
variable {P : Platform} {row : PaymentIntent} {request : RefundRequest} {env : Nat → Op → Env} {w : World}

/-- The refunds not rejected are within the intent's amount. -/
theorem storedTotal_within {counts : RefundStatus → Bool} {refunds : List Refund} {amount : Decimal} :
    storedTotal counts refunds ≤ amount.toNumber ↔ storedCents counts refunds ≤ amount.cents := by
  rw [storedTotal_cents, Decimal.toNumber, div_le_div_iff_of_pos_right (by norm_num)]
  exact Int.cast_le

/-- What a refund leaves of its intent's amount, and what it leaves in cents. -/
theorem leaves_pending {plan : RefundPlan} {intent : PaymentIntent} {refunds : List Refund} (amount : Decimal)
    (checked : request.plan P (some ⟨intent, refunds⟩) = .ok plan) :
    amount.toNumber + storedTotal RefundStatus.isPending refunds ≤
        plan.totalAmount - storedTotal RefundStatus.isSucceeded refunds ↔
      storedCents RefundStatus.stands refunds + amount.cents ≤ intent.amount.cents := by
  obtain ⟨_, shown, _, _, _, total, _⟩ := refundPlan_ok checked
  cases shown
  have split := storedCents_stands refunds
  rw [total, storedTotal_cents, storedTotal_cents, Decimal.toNumber, Decimal.toNumber, ← add_div, ← sub_div,
    div_le_div_iff_of_pos_right (by norm_num)]
  constructor
  · intro leaves
    have cents : amount.cents + storedCents RefundStatus.isPending refunds ≤
        plan.intent.amount.cents - storedCents RefundStatus.isSucceeded refunds := by exact_mod_cast leaves
    omega
  · intro within
    have cents : amount.cents + storedCents RefundStatus.isPending refunds ≤
        plan.intent.amount.cents - storedCents RefundStatus.isSucceeded refunds := by omega
    exact_mod_cast cents

/-- A recorded refund leaves the intent its amount. -/
theorem RefundRecordedAs.amount_kept {plan : RefundPlan} {refundResult : RefundResult} {refund : Refund} {before after : Database}
    (recorded : RefundRecordedAs plan refundResult refund before after) {id : Uuid} {now : PaymentIntent}
    (found : before.intents.find id = some now) : ∃ later, after.intents.find id = some later ∧ later.amount = now.amount := by
  have stands := recorded.intents id
  rw [found] at stands
  split at stands
  · exact ⟨_, stands, rfl⟩
  · exact ⟨_, stands, rfl⟩

/-- What a recorded refund makes of the refunds not rejected. -/
theorem Reserved.after_record {plan : RefundPlan} {refundResult : RefundResult} {refund : Refund} {after : Database}
    (reserved : Reserved row w) (own : plan.intent.id = row.id)
    (recorded : RefundRecordedAs plan refundResult refund w.db after) :
    storedCents RefundStatus.stands (after.refundsOf row.id) ≤ row.amount.cents ↔ (refundResult.status ≠ .failed →
      storedCents RefundStatus.stands (w.db.refundsOf row.id) + refund.amount.cents ≤ row.amount.cents) := by
  have refunds := recorded.refunds row.id
  rw [if_pos own] at refunds
  have grown := storedCents_append RefundStatus.stands (w.db.refundsOf row.id) refund
  rw [← refunds, recorded.status] at grown
  have within := reserved.within
  by_cases rejected : refundResult.status = .failed
  · have skipped : refundResult.status.stands = false := by rw [rejected]; rfl
    have same : storedCents RefundStatus.stands (after.refundsOf row.id) =
        storedCents RefundStatus.stands (w.db.refundsOf row.id) := by
      rw [grown, skipped]
      simp
    rw [same]
    exact iff_of_true within fun standing => absurd rejected standing
  · have counted : refundResult.status.stands = true := decide_eq_true rejected
    rw [grown, counted, if_pos rfl]
    exact ⟨fun total _ => total, fun leaves => leaves rejected⟩

/-- A call keeps the refunds within the amount if and only if it leaves what
the PENDING ones need. -/
theorem Reserved.call_iff (reserved : Reserved row w) (named : request.names P row.id) :
    storedCents RefundStatus.stands (((refundCalls P).alone request env w).world.db.refundsOf row.id) ≤ row.amount.cents ↔
      LeavesPending P row.id request env w := by
  have balance : ∀ (plan : RefundPlan) (amount : Decimal), RefundAccepted P env request w plan →
      (amount.toNumber + storedTotal RefundStatus.isPending (w.db.refundsOf row.id) ≤
          plan.totalAmount - storedTotal RefundStatus.isSucceeded (w.db.refundsOf row.id) ↔
        storedCents RefundStatus.stands (w.db.refundsOf row.id) + amount.cents ≤ row.amount.cents) := by
    intro plan amount accepted
    obtain ⟨_, known, checked⟩ := accepted.stored named
    obtain ⟨now, found, same⟩ := reserved.intent
    cases known.symm.trans found
    rw [← same]
    exact leaves_pending amount checked
  have settled : ∀ plan refundResult, RefundAccepted P env request w plan → RefundAnswered env request plan refundResult →
      (∀ row db, ¬ RefundRecorded P env request w plan refundResult row db) → LeavesPending P row.id request env w := by
    intro plan refundResult accepted answered refused other otherResult amount again answeredAgain _ spared held
    cases accepted.unique again
    cases answered.2.symm.trans answeredAgain.2
    obtain ⟨refund, db, recorded⟩ := (recorded_iff accepted).mpr ⟨spared.1, spared.2, amount, held⟩
    exact absurd recorded (refused refund db)
  have does := refundCalls_does P env request w
  generalize ((refundCalls P).alone request env w).world = after,
    answeredRefunds ((refundCalls P).alone request env w).log = answers at does ⊢
  cases does with
  | @recorded plan refundResult refund db queue accepted answered recorded =>
    have tables := recorded.tables
    refine (reserved.after_record (accepted.stored named).1 tables).trans ?_
    constructor
    · intro leaves other otherResult amount again answeredAgain standing _ held
      cases accepted.unique again
      cases answered.2.symm.trans answeredAgain.2
      cases tables.amount.symm.trans held
      exact (balance plan _ accepted).mpr (leaves standing)
    · intro leaves standing
      obtain ⟨spared, fresh, _⟩ := (recorded_iff accepted).mp ⟨_, _, recorded⟩
      exact (balance plan _ accepted).mp (leaves plan refundResult _ accepted answered standing ⟨spared, fresh⟩ tables.amount)
  | lost accepted answered refused => exact iff_of_true reserved.within (settled _ _ accepted answered refused)
  | nothing none =>
    exact iff_of_true reserved.within fun plan refundResult _ accepted answered => absurd answered (none plan refundResult accepted)

theorem Reserved.call (reserved : Reserved row w) (named : request.names P row.id) (leaves : LeavesPending P row.id request env w) :
    Reserved row ((refundCalls P).alone request env w).world := by
  refine ⟨?_, (reserved.call_iff named).mpr leaves⟩
  obtain ⟨now, found, amount⟩ := reserved.intent
  have does := refundCalls_does P env request w
  generalize ((refundCalls P).alone request env w).world = after,
    answeredRefunds ((refundCalls P).alone request env w).log = answers at does ⊢
  cases does with
  | recorded _ _ recorded =>
    obtain ⟨later, stands, kept⟩ := recorded.tables.amount_kept found
    exact ⟨later, stands, kept.trans amount⟩
  | lost _ _ _ => exact ⟨now, found, amount⟩
  | nothing _ => exact ⟨now, found, amount⟩

theorem Reserved.drifts {after : World} (reserved : Reserved row w) (untouched : Untouched row.id w after) :
    Reserved row after := by
  obtain ⟨intent, refunds⟩ := untouched
  constructor
  · rw [intent]
    exact reserved.intent
  · rw [refunds]
    exact reserved.within

/-- A call that computes the balance to the cent leaves enough while no refund is PENDING. -/
theorem leavesPending_of_none {id : Uuid} (named : request.names P id)
    (exact : ∀ plan, RefundAccepted P env request w plan →
      plan.remainingBalance = plan.totalAmount - storedTotal RefundStatus.isSucceeded (w.db.refundsOf id))
    (settled : storedCents RefundStatus.isPending (w.db.refundsOf id) = 0) : LeavesPending P id request env w := by
  intro plan refundResult amount accepted _ _ _ held
  obtain ⟨_, _, checked⟩ := accepted.stored named
  obtain ⟨_, shown, _, _, _, total, _, _, _, positive, within, _⟩ := refundPlan_ok checked
  cases shown
  rw [exact plan accepted, total, storedTotal_cents, Decimal.toNumber] at within
  have cents := Decimal.ofNumber_some positive.le held
  have below : mathRound (plan.requestedAmount * 100) ≤
      plan.intent.amount.cents - storedCents RefundStatus.isSucceeded (w.db.refundsOf id) := by
    refine mathRound_le ?_
    push_cast
    linarith
  have split := storedCents_stands (w.db.refundsOf id)
  exact (leaves_pending amount checked).mpr (by omega)

/-- A refund call on an intent that leaves what its PENDING refunds need. -/
def PendingCovered (P : Platform) (id : Uuid) (request : RefundRequest) (env : Nat → Op → Env) (w : World) : Prop :=
  request.names P id ∧ LeavesPending P id request env w

/-- Refund calls one after the other, whatever the provider answers, keep the
refunds it has not rejected within the intent's amount as long as each leaves
what the PENDING ones need; the first call that does not, breaks it. -/
theorem refunds_reserved {seen : History Op.Answer} {after : World} (stored : w.db.intents.find row.id = some row)
    (within : storedTotal RefundStatus.stands (w.db.refundsOf row.id) ≤ row.amount.toNumber)
    (series : Series (refundCalls P) (Untouched row.id) (PendingCovered P row.id) w seen after) :
    storedTotal RefundStatus.stands (after.db.refundsOf row.id) ≤ row.amount.toNumber ∧
      ∀ request env, request.names P row.id →
        (storedTotal RefundStatus.stands (((refundCalls P).alone request env after).world.db.refundsOf row.id) ≤
            row.amount.toNumber ↔ LeavesPending P row.id request env after) := by
  have reserved : Reserved row after :=
    series.keeps (I := fun _ world => Reserved row world) ⟨⟨row, stored, rfl⟩, storedTotal_within.mp within⟩
      (fun _ _ _ reserved untouched => reserved.drifts untouched) fun _ _ _ _ reserved met => reserved.call met.1 met.2
  refine ⟨storedTotal_within.mpr reserved.within, fun request env named => ?_⟩
  rw [storedTotal_within]
  exact reserved.call_iff named

end

/-- The provider accepts the refund and settles it later. -/
def pendingEnv : Env := { calmEnv with refund := ⟨"re_stripe_1755000000002", .pending⟩ }

/-- The sample intent after a PENDING refund of 60.00. -/
def sixtyPending : World :=
  ((refundCalls doublePlatform).alone (ownerRefund (.value 60)) (fun _ _ => pendingEnv) ⟨sampleDatabase .captured, []⟩).world

/-- After 60.00 PENDING, another refund of all 100.00 goes through. -/
theorem sixtyPending_exceeded : 100 <
    storedTotal RefundStatus.stands (((refundCalls doublePlatform).alone (ownerRefund .undefined) (fun _ _ => laterEnv)
      sixtyPending).world.db.refundsOf (sampleIntent .captured).id) := by
  decide +kernel

theorem sampleIntent_amount : (sampleIntent .captured).amount.toNumber = 100 := by
  norm_num [sampleIntent, Decimal.toNumber]

theorem refunds_reserved_sample : storedTotal RefundStatus.stands (sixtyPending.db.refundsOf (sampleIntent .captured).id) ≤ 100 ∧
    ¬ LeavesPending doublePlatform (sampleIntent .captured).id (ownerRefund .undefined) (fun _ _ => laterEnv) sixtyPending := by
  have covered : PendingCovered doublePlatform (sampleIntent .captured).id (ownerRefund (.value 60)) (fun _ _ => pendingEnv)
      ⟨sampleDatabase .captured, []⟩ :=
    ⟨ownerRefund_names _, leavesPending_of_none (ownerRefund_names _) (fun _ => ownerRefund_balance) rfl⟩
  obtain ⟨within, next⟩ := refunds_reserved (Table.find_mem (List.mem_singleton_self _)) (by decide +kernel)
    (Series.call _ _ Series.start covered)
  rw [sampleIntent_amount] at within
  refine ⟨within, fun leaves => ?_⟩
  have below := (next (ownerRefund .undefined) (fun _ _ => laterEnv) (ownerRefund_names _)).mpr leaves
  rw [sampleIntent_amount] at below
  exact absurd sixtyPending_exceeded (not_lt.mpr below)

/-- A PENDING refund of 60.00 does not keep the next call from refunding all 100.00. -/
theorem pending_not_reserved : ¬ ∀ (P : Platform) (row : PaymentIntent) (w : World) (seen : History Op.Answer) (after : World),
    w.db.intents.find row.id = some row → row.status = .captured → w.db.refundsOf row.id = [] →
    Series (refundCalls P) (Untouched row.id) (fun request _ _ => request.names P row.id) w seen after →
      storedTotal RefundStatus.stands (after.db.refundsOf row.id) ≤ row.amount.toNumber := by
  intro always
  have first : Series (refundCalls doublePlatform) (Untouched (sampleIntent .captured).id)
      (fun request _ _ => request.names doublePlatform (sampleIntent .captured).id) ⟨sampleDatabase .captured, []⟩ _ sixtyPending :=
    Series.call (ownerRefund (.value 60)) (fun _ _ => pendingEnv) Series.start (ownerRefund_names _)
  have second := Series.call (ownerRefund .undefined) (fun _ _ => laterEnv) first (ownerRefund_names _)
  have below := always doublePlatform (sampleIntent .captured) ⟨sampleDatabase .captured, []⟩ _ _
    (Table.find_mem (List.mem_singleton_self _)) rfl rfl second
  rw [sampleIntent_amount] at below
  exact absurd sixtyPending_exceeded (not_lt.mpr below)

end PayBridge
