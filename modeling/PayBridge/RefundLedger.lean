import PayBridge.RefundReserve

namespace PayBridge
open Store Await

/-- The refunds of some statuses that a provider has answered, newest first, are
those with a row: the same ids and statuses, one for one. -/
def LedgerMatches (counts : RefundStatus → Bool) (answered : List ProviderRefund) (refunds : List Refund) : Prop :=
  (refunds.filter fun r => counts r.status).map (fun r => (r.gatewayRefundId, r.status)) =
    (answered.reverse.filter fun a => counts a.result.status).map fun a => (some a.result.gatewayRefundId, a.result.status)

instance (counts : RefundStatus → Bool) (answered : List ProviderRefund) (refunds : List Refund) :
    Decidable (LedgerMatches counts answered refunds) :=
  inferInstanceAs (Decidable (_ = _))

section
variable {counts : RefundStatus → Bool} {answered : List ProviderRefund} {refunds : List Refund}

theorem LedgerMatches.recorded (same : LedgerMatches counts answered refunds) (asked : ProviderRefund) {row : Refund}
    (status : row.status = asked.result.status) (named : row.gatewayRefundId = some asked.result.gatewayRefundId) :
    LedgerMatches counts (asked :: answered) (refunds ++ [row]) := by
  unfold LedgerMatches at same ⊢
  rw [List.reverse_cons, List.filter_append, List.filter_append, List.map_append, List.map_append, same]
  congr 1
  by_cases counted : counts asked.result.status = true
  · simp [status, named, counted]
  · simp [status, counted]

/-- A refund without a row goes unnoticed only if its status does not count. -/
theorem LedgerMatches.lost_iff (same : LedgerMatches counts answered refunds) (asked : ProviderRefund) :
    LedgerMatches counts (asked :: answered) refunds ↔ counts asked.result.status = false := by
  unfold LedgerMatches at same ⊢
  rw [List.reverse_cons, List.filter_append, List.map_append, same]
  cases counted : counts asked.result.status with
  | false => simp [counted]
  | true => simp [counted]

end

/-- If the provider answers a refund with a status that counts, its transaction
goes through: it is not struck, and finds a new id and a storable amount. A call to
the provider that throws counts as not accepted, whatever the provider has done. -/
def RecordsAnswered (counts : RefundStatus → Bool) (P : Platform) (env : Nat → Op → Env) (request : RefundRequest)
    (w : World) : Prop :=
  ∀ plan refundResult, RefundAccepted P env request w plan → RefundAnswered env request plan refundResult →
    counts refundResult.status = true →
      RecordSpared env request w plan refundResult ∧ ∃ amount, Decimal.ofNumber plan.requestedAmount = some amount

section
variable {counts : RefundStatus → Bool} {P : Platform} {env : Nat → Op → Env} {request : RefundRequest} {w : World} {id : Uuid}
variable {answered : List ProviderRefund}

/-- A call keeps the rows in line with the provider if and only if it records
what the provider has answered. -/
theorem LedgerMatches.call_iff (same : LedgerMatches counts answered (w.db.refundsOf id)) (named : request.names P id) :
    LedgerMatches counts (answeredRefunds ((refundCalls P).alone request env w).log ++ answered)
      (((refundCalls P).alone request env w).world.db.refundsOf id) ↔ RecordsAnswered counts P env request w := by
  have does := refundCalls_does P env request w
  generalize ((refundCalls P).alone request env w).world = after,
    answeredRefunds ((refundCalls P).alone request env w).log = new at does ⊢
  cases does with
  | @recorded plan refundResult row db queue accepted asked recorded =>
    have tables := recorded.tables
    have refunds := tables.refunds id
    rw [if_pos (accepted.stored named).1] at refunds
    refine iff_of_true ?_ ?_
    · show LedgerMatches counts (⟨plan.requestedAmount, refundResult⟩ :: answered) (db.refundsOf id)
      rw [refunds]
      exact same.recorded ⟨plan.requestedAmount, refundResult⟩ tables.status tables.gatewayRefundId
    · intro other otherResult again answeredAgain _
      cases accepted.unique again
      cases asked.2.symm.trans answeredAgain.2
      obtain ⟨spared, fresh, stored⟩ := (recorded_iff accepted).mp ⟨_, _, recorded⟩
      exact ⟨⟨spared, fresh⟩, stored⟩
  | @lost plan refundResult accepted asked refused =>
    refine (same.lost_iff ⟨plan.requestedAmount, refundResult⟩).trans ?_
    constructor
    · intro uncounted other otherResult again answeredAgain counted
      cases accepted.unique again
      cases asked.2.symm.trans answeredAgain.2
      cases uncounted.symm.trans counted
    · intro records
      by_contra counted
      obtain ⟨spared, stored⟩ := records plan refundResult accepted asked (by simpa using counted)
      obtain ⟨row, db, recorded⟩ := (recorded_iff accepted).mpr ⟨spared.1, spared.2, stored⟩
      exact refused row db recorded
  | nothing none =>
    exact iff_of_true same fun plan refundResult accepted asked => absurd asked (none plan refundResult accepted)

/-- A call on an intent that records what the provider answers. -/
def CallRecords (counts : RefundStatus → Bool) (P : Platform) (id : Uuid) (request : RefundRequest) (env : Nat → Op → Env)
    (w : World) : Prop :=
  request.names P id ∧ RecordsAnswered counts P env request w

/-- Whatever fails, the refunds of an intent that the provider has accepted are
those with a row, as long as every call records what the provider answers; the
first call that does not, breaks it. -/
theorem refunds_recorded {seen : History Op.Answer} {after : World}
    (start : LedgerMatches counts answered (w.db.refundsOf id))
    (series : Series (refundCalls P) (Untouched id) (CallRecords counts P id) w seen after) :
    LedgerMatches counts (answeredRefunds seen ++ answered) (after.db.refundsOf id) ∧
      ∀ request env, request.names P id →
        let o := (refundCalls P).alone request env after
        (LedgerMatches counts (answeredRefunds (o.log ++ seen) ++ answered) (o.world.db.refundsOf id) ↔
          RecordsAnswered counts P env request after) := by
  have ledger : LedgerMatches counts (answeredRefunds seen ++ answered) (after.db.refundsOf id) := by
    refine series.keeps (I := fun (seen : History Op.Answer) (world : World) =>
      LedgerMatches counts (answeredRefunds seen ++ answered) (world.db.refundsOf id)) start ?_ ?_
    · intro seen before later same untouched
      rw [untouched.2]
      exact same
    · intro seen before request env same met
      rw [answeredRefunds_append, List.append_assoc]
      exact (same.call_iff met.1).mpr met.2
  refine ⟨ledger, ?_⟩
  intro request env named o
  rw [answeredRefunds_append, List.append_assoc]
  exact ledger.call_iff named

end

/-- Only the transaction of the refund is struck. -/
def recordStruck : Nat → Op → Env := fun n _ => { calmEnv with fails := n = 2 }

theorem ledger_empty (counts : RefundStatus → Bool) :
    LedgerMatches counts [] ((sampleDatabase .captured).refundsOf (sampleIntent .captured).id) := rfl

/-- A refund whose transaction is struck is at the provider and in no row. -/
theorem recordStruck_lost (counts : RefundStatus → Bool) (counted : counts .succeeded = true) :
    let o := (refundCalls plainPlatform).alone (ownerRefund .undefined) recordStruck ⟨sampleDatabase .captured, []⟩
    ¬ LedgerMatches counts (answeredRefunds o.log) (o.world.db.refundsOf (sampleIntent .captured).id) := by
  intro o same
  have answered : answeredRefunds o.log = [⟨100, calmEnv.refund⟩] := by decide +kernel
  have unrecorded : o.world.db.refundsOf (sampleIntent .captured).id = [] := by decide +kernel
  rw [answered, unrecorded] at same
  have lost := ((ledger_empty counts).lost_iff ⟨100, calmEnv.refund⟩).mp same
  cases lost.symm.trans counted

/-- A calm refund of 60.00 is recorded; a refund of the rest whose transaction is struck, is not. -/
theorem refunds_recorded_sample :
    let o := (refundCalls plainPlatform).alone (ownerRefund (.value 60)) (fun _ _ => calmEnv) ⟨sampleDatabase .captured, []⟩
    LedgerMatches RefundStatus.stands (answeredRefunds o.log) (o.world.db.refundsOf (sampleIntent .captured).id) ∧
      ¬ RecordsAnswered RefundStatus.stands plainPlatform recordStruck (ownerRefund .undefined) o.world := by
  intro o
  have records : RecordsAnswered RefundStatus.stands plainPlatform (fun _ _ => calmEnv) (ownerRefund (.value 60))
      ⟨sampleDatabase .captured, []⟩ :=
    ((ledger_empty RefundStatus.stands).call_iff sampleIntent_read).mp (by decide +kernel)
  obtain ⟨same, next⟩ := refunds_recorded (ledger_empty RefundStatus.stands)
    (Series.call _ _ Series.start ⟨sampleIntent_read, records⟩)
  rw [List.append_nil, List.append_nil] at same
  refine ⟨same, fun records => ?_⟩
  have again := (next (ownerRefund .undefined) recordStruck sampleIntent_read).mpr records
  exact absurd again (by decide +kernel)

/-- The provider has refunded, and no row says so. -/
theorem refund_lost : ¬ ∀ (P : Platform) (env : Nat → Op → Env) (request : RefundRequest) (w : World) (id : Uuid),
    request.names P id → LedgerMatches RefundStatus.stands [] (w.db.refundsOf id) →
      let o := (refundCalls P).alone request env w
      LedgerMatches RefundStatus.stands (answeredRefunds o.log) (o.world.db.refundsOf id) := by
  intro always
  exact recordStruck_lost RefundStatus.stands rfl (always plainPlatform recordStruck (ownerRefund .undefined)
    ⟨sampleDatabase .captured, []⟩ (sampleIntent .captured).id sampleIntent_read (ledger_empty RefundStatus.stands))

end PayBridge
