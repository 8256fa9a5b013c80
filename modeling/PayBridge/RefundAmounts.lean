import PayBridge.RefundLedger

namespace PayBridge
open Store Await

/-- What providers have been asked to refund, of the refunds they have answered. -/
def askedTotal (answered : List ProviderRefund) : ℚ := (answered.map fun asked => asked.amount).sum

theorem askedTotal_cons (asked : ProviderRefund) (answered : List ProviderRefund) :
    askedTotal (asked :: answered) = asked.amount + askedTotal answered := by
  rw [askedTotal, List.map_cons, List.sum_cons]
  rfl

/-- No amount is given, or one of whole cents. -/
def CreateRefundDto.wholeCents (dto : CreateRefundDto) : Prop := ∀ amount, dto.amount = .value amount → WholeCents amount

/-- A call on an intent, with no amount or one of whole cents, that computes the
balance to the cent, is answered SUCCEEDED if it is answered, and then recorded. -/
structure ExactCall (P : Platform) (id : Uuid) (request : RefundRequest) (env : Nat → Op → Env) (w : World) : Prop where
  named : request.names P id
  whole : request.dto.wholeCents
  exact : ∀ plan, RefundAccepted P env request w plan →
    plan.remainingBalance = plan.totalAmount - storedTotal RefundStatus.isSucceeded (w.db.refundsOf id)
  succeeds : ∀ plan refundResult, RefundAccepted P env request w plan → RefundAnswered env request plan refundResult →
    refundResult.status = .succeeded
  spared : ∀ plan refundResult, RefundAccepted P env request w plan → RefundAnswered env request plan refundResult →
    RecordSpared env request w plan refundResult

/-- The invariant of such calls: the rows hold what the provider was asked for. -/
structure ExactLedger (row : PaymentIntent) (answered : List ProviderRefund) (w : World) : Prop where
  intent : ∃ now, w.db.intents.find row.id = some now ∧ now.amount = row.amount
  succeeded : ∀ refund ∈ w.db.refundsOf row.id, refund.status = .succeeded
  nonneg : 0 ≤ storedCents everyRefund (w.db.refundsOf row.id)
  within : storedCents everyRefund (w.db.refundsOf row.id) ≤ row.amount.cents
  same : storedTotal everyRefund (w.db.refundsOf row.id) = askedTotal answered

theorem halfCent_not_whole : ¬ WholeCents (6667 / 200) := by
  rintro ⟨n, same⟩
  have double : (6667 : ℚ) = (2 * n : ℤ) := by
    push_cast
    linarith
  have even : (6667 : ℤ) = 2 * n := by exact_mod_cast double
  omega

section
variable {P : Platform} {row : PaymentIntent} {request : RefundRequest} {env : Nat → Op → Env} {w : World}
variable {answered : List ProviderRefund}

/-- An accepted amount is of whole cents if and only if the one given is. -/
theorem requested_wholeCents {plan : RefundPlan} {intent : PaymentIntent} {refunds : List Refund}
    (checked : request.plan P (some ⟨intent, refunds⟩) = .ok plan) : WholeCents plan.requestedAmount ↔ request.dto.wholeCents := by
  obtain ⟨_, _, _, _, _, _, _, remaining, requested, positive, _⟩ := refundPlan_ok checked
  unfold CreateRefundDto.wholeCents
  cases given : request.dto.amount with
  | undefined =>
    rw [requested, CreateRefundDto.requestedAmount, given]
    refine iff_of_true ?_ fun amount impossible => by cases impossible
    rw [remaining]
    exact wholeCents_roundCents ..
  | null =>
    rw [requested, CreateRefundDto.requestedAmount, given] at positive
    exact absurd positive (lt_irrefl _)
  | value amount =>
    rw [requested, CreateRefundDto.requestedAmount, given]
    constructor
    · intro whole other same
      cases same
      exact whole
    · exact fun whole => whole amount rfl

/-- A refund of whole cents is stored as it was asked for. -/
theorem ExactLedger.recorded {plan : RefundPlan} {refundResult : RefundResult} {refund : Refund} {db : Database}
    {queue : List OutboundWebhookJobData} (exact : ExactLedger row answered w) (own : plan.intent.id = row.id)
    (whole : WholeCents plan.requestedAmount) (positive : 0 < plan.requestedAmount)
    (within : plan.requestedAmount ≤ (row.amount.cents - storedCents everyRefund (w.db.refundsOf row.id) : ℤ) / 100)
    (succeeded : refundResult.status = .succeeded) (recorded : RefundRecordedAs plan refundResult refund w.db db) :
    ExactLedger row (⟨plan.requestedAmount, refundResult⟩ :: answered) ⟨db, queue⟩ := by
  have refunds := recorded.refunds row.id
  rw [if_pos own] at refunds
  have asked : (refund.amount.cents : ℚ) / 100 = plan.requestedAmount := (Decimal.ofNumber_exact recorded.amount).mpr whole
  have grown : storedCents everyRefund (db.refundsOf row.id) =
      storedCents everyRefund (w.db.refundsOf row.id) + refund.amount.cents := by
    rw [refunds, storedCents_append]
    rfl
  have some : 0 ≤ refund.amount.cents := by
    have nonneg : (0 : ℚ) ≤ refund.amount.cents := by linarith
    exact_mod_cast nonneg
  have most : refund.amount.cents ≤ row.amount.cents - storedCents everyRefund (w.db.refundsOf row.id) := by
    have upper : (refund.amount.cents : ℚ) ≤ (row.amount.cents - storedCents everyRefund (w.db.refundsOf row.id) : ℤ) := by linarith
    exact_mod_cast upper
  have nonneg := exact.nonneg
  constructor
  · obtain ⟨now, found, amount⟩ := exact.intent
    rw [recorded.intents, found]
    split
    · exact ⟨_, rfl, amount⟩
    · exact ⟨now, rfl, amount⟩
  · intro r member
    rw [refunds] at member
    rcases List.mem_append.mp member with old | new
    · exact exact.succeeded r old
    · rw [List.mem_singleton.mp new, recorded.status]
      exact succeeded
  · show 0 ≤ storedCents everyRefund (db.refundsOf row.id)
    omega
  · show storedCents everyRefund (db.refundsOf row.id) ≤ row.amount.cents
    omega
  · have same := exact.same
    rw [storedTotal_cents] at same ⊢
    rw [grown, askedTotal_cons, ← same, ← asked]
    push_cast
    ring

theorem ExactLedger.drifts {after : World} (exact : ExactLedger row answered w) (untouched : Untouched row.id w after) :
    ExactLedger row answered after := by
  obtain ⟨intent, refunds⟩ := untouched
  constructor
  · rw [intent]
    exact exact.intent
  · rw [refunds]
    exact exact.succeeded
  · rw [refunds]
    exact exact.nonneg
  · rw [refunds]
    exact exact.within
  · rw [refunds]
    exact exact.same

theorem ExactLedger.call (exact : ExactLedger row answered w) (call : ExactCall P row.id request env w) :
    ExactLedger row (answeredRefunds ((refundCalls P).alone request env w).log ++ answered)
      ((refundCalls P).alone request env w).world := by
  have figures : ∀ plan, RefundAccepted P env request w plan → plan.intent.id = row.id ∧ WholeCents plan.requestedAmount ∧
      0 < plan.requestedAmount ∧
      plan.requestedAmount ≤ (row.amount.cents - storedCents everyRefund (w.db.refundsOf row.id) : ℤ) / 100 := by
    intro plan accepted
    obtain ⟨own, known, checked⟩ := accepted.stored call.named
    obtain ⟨now, found, amount⟩ := exact.intent
    cases known.symm.trans found
    obtain ⟨_, _, _, _, _, total, _, _, _, positive, within, _⟩ := refundPlan_ok checked
    rw [call.exact plan accepted, total, storedTotal_cents, storedCents_succeeded exact.succeeded, Decimal.toNumber, amount,
      ← sub_div] at within
    exact ⟨own, (requested_wholeCents checked).mpr call.whole, positive, by exact_mod_cast within⟩
  have does := refundCalls_does P env request w
  generalize ((refundCalls P).alone request env w).world = after,
    answeredRefunds ((refundCalls P).alone request env w).log = new at does ⊢
  cases does with
  | @recorded plan refundResult refund db queue accepted asked recorded =>
    obtain ⟨own, whole, positive, within⟩ := figures plan accepted
    exact exact.recorded own whole positive within (call.succeeds plan refundResult accepted asked) recorded.tables
  | @lost plan refundResult accepted asked refused =>
    obtain ⟨_, _, positive, within⟩ := figures plan accepted
    have below : row.amount.cents - storedCents everyRefund (w.db.refundsOf row.id) ≤ row.amount.cents := by
      have nonneg := exact.nonneg
      omega
    have spared := call.spared plan refundResult accepted asked
    obtain ⟨refund, db, recorded⟩ := (recorded_iff accepted).mpr
      ⟨spared.1, spared.2, Decimal.ofNumber_below row.amount (le_of_lt positive) within below⟩
    exact absurd recorded (refused refund db)
  | nothing _ => exact exact

/-- The row that a call adds holds what the provider was asked for, if and only
if the amount given is of whole cents. -/
theorem refund_amount_iff {id : Uuid} {refund : Refund} {asked : ProviderRefund} (named : request.names P id)
    (added : ((refundCalls P).alone request env w).world.db.refundsOf id = w.db.refundsOf id ++ [refund])
    (answered : asked ∈ answeredRefunds ((refundCalls P).alone request env w).log) :
    asked.amount = refund.amount.toNumber ↔ request.dto.wholeCents := by
  have does := refundCalls_does P env request w
  generalize ((refundCalls P).alone request env w).world = after,
    answeredRefunds ((refundCalls P).alone request env w).log = new at does added answered
  cases does with
  | @recorded plan refundResult row db queue accepted _ recorded =>
    obtain ⟨own, _, checked⟩ := accepted.stored named
    have refunds := recorded.tables.refunds id
    rw [if_pos own] at refunds
    have same : refund = row := List.singleton_inj.mp (List.append_cancel_left (added.symm.trans refunds))
    rw [List.mem_singleton.mp answered, same, eq_comm]
    exact (Decimal.ofNumber_exact recorded.tables.amount).trans (requested_wholeCents checked)
  | lost _ _ _ => exact absurd added (by simp)
  | nothing _ => exact absurd added (by simp)

/-- In a series of calls without an amount or with one of whole cents, with the
balance computed to the cent, all answered SUCCEEDED and recorded, the rows hold what the provider was asked for,
and no more than the amount of the intent. A row and the call of the provider it
records agree if and only if the amount given is of whole cents. -/
theorem refunds_agree {seen : History Op.Answer} {after : World} (stored : w.db.intents.find row.id = some row)
    (nonneg : 0 ≤ row.amount.toNumber) (unrefunded : w.db.refundsOf row.id = [])
    (series : Series (refundCalls P) (Untouched row.id) (ExactCall P row.id) w seen after) :
    (storedTotal everyRefund (after.db.refundsOf row.id) = askedTotal (answeredRefunds seen) ∧
      askedTotal (answeredRefunds seen) ≤ row.amount.toNumber) ∧
      ∀ request env now id, request.names P id →
        let o := (refundCalls P).alone request env now
        ∀ refund, o.world.db.refundsOf id = now.db.refundsOf id ++ [refund] → ∀ asked ∈ answeredRefunds o.log,
          (asked.amount = refund.amount.toNumber ↔ request.dto.wholeCents) := by
  have cents : 0 ≤ row.amount.cents := by
    have some : (0 : ℚ) ≤ row.amount.cents := by
      rw [Decimal.toNumber] at nonneg
      linarith
    exact_mod_cast some
  have fresh : ExactLedger row (answeredRefunds []) w := by
    constructor
    · exact ⟨row, stored, rfl⟩
    · rw [unrefunded]
      exact fun _ member => absurd member (List.not_mem_nil)
    · rw [unrefunded, storedCents_nil]
    · rw [unrefunded, storedCents_nil]
      exact cents
    · rw [unrefunded]
      rfl
  have exact : ExactLedger row (answeredRefunds seen) after := by
    refine series.keeps (I := fun (seen : History Op.Answer) (world : World) => ExactLedger row (answeredRefunds seen) world)
      fresh (fun _ _ _ exact untouched => exact.drifts untouched) ?_
    intro seen before request env exact met
    rw [answeredRefunds_append]
    exact exact.call met
  refine ⟨⟨exact.same, ?_⟩, fun request env now id named refund added asked answered => ?_⟩
  · rw [← exact.same, storedTotal_cents, Decimal.toNumber]
    have within : (storedCents everyRefund (after.db.refundsOf row.id) : ℚ) ≤ row.amount.cents := by exact_mod_cast exact.within
    linarith
  · exact refund_amount_iff named added answered

end

/-- A refund of 60.00, and then one of 33.335 that is stored as 33.34. -/
theorem refunds_agree_sample :
    let o := (refundCalls doublePlatform).alone (ownerRefund (.value 60)) (fun _ _ => calmEnv) ⟨sampleDatabase .captured, []⟩
    storedTotal everyRefund (o.world.db.refundsOf (sampleIntent .captured).id) = askedTotal (answeredRefunds o.log) ∧
      let next := (refundCalls doublePlatform).alone (ownerRefund (.value (6667 / 200))) (fun _ _ => laterEnv) o.world
      ∀ refund, next.world.db.refundsOf (sampleIntent .captured).id =
          o.world.db.refundsOf (sampleIntent .captured).id ++ [refund] →
        ∀ asked ∈ answeredRefunds next.log, asked.amount ≠ refund.amount.toNumber := by
  intro o
  have whole : (ownerRefund (.value 60)).dto.wholeCents := by
    rintro _ ⟨⟩
    exact ⟨6000, by norm_num⟩
  have exact : ExactCall doublePlatform (sampleIntent .captured).id (ownerRefund (.value 60)) (fun _ _ => calmEnv)
      ⟨sampleDatabase .captured, []⟩ := by
    refine ⟨ownerRefund_names _, whole, fun _ => ownerRefund_balance, ?_, fun _ _ _ _ => ⟨rfl, rfl⟩⟩
    intro plan refundResult _ answered
    rw [← answered.2]
    rfl
  obtain ⟨⟨same, _⟩, each⟩ := refunds_agree (P := doublePlatform) (w := ⟨sampleDatabase .captured, []⟩)
    (Table.find_mem (List.mem_singleton_self _)) (by decide +kernel) rfl (Series.call _ _ Series.start exact)
  rw [List.append_nil] at same
  refine ⟨same, fun refund added asked answered equal => ?_⟩
  have whole := (each _ _ _ _ (ownerRefund_names _) refund added asked answered).mp equal
  exact halfCent_not_whole (whole _ rfl)

/-- 33.335 is asked of the provider, and 33.34 is stored. -/
theorem refund_amounts_differ : ¬ ∀ (P : Platform) (env : Nat → Op → Env) (request : RefundRequest) (w : World) (id : Uuid),
    request.names P id → (∀ amount, request.dto.amount = .value amount → 1 / 100 ≤ amount) →
      let o := (refundCalls P).alone request env w
      ∀ refund, o.world.db.refundsOf id = w.db.refundsOf id ++ [refund] → ∀ asked ∈ answeredRefunds o.log,
        asked.amount = refund.amount.toNumber := by
  intro always
  let o := (refundCalls doublePlatform).alone (ownerRefund (.value (6667 / 200))) (fun _ _ => calmEnv) ⟨sampleDatabase .captured, []⟩
  have rows : (o.world.db.refundsOf (sampleIntent .captured).id).map (fun refund => refund.amount.cents) = [3334] := by
    decide +kernel
  have answered : answeredRefunds o.log = [⟨6667 / 200, calmEnv.refund⟩] := by decide +kernel
  obtain ⟨refund, added, cents⟩ := List.map_eq_singleton_iff.mp rows
  have asked : (⟨6667 / 200, calmEnv.refund⟩ : ProviderRefund) ∈ answeredRefunds o.log := by
    rw [answered]
    exact List.mem_singleton_self _
  have least : ∀ amount, (ownerRefund (.value (6667 / 200))).dto.amount = .value amount → 1 / 100 ≤ amount := by
    rintro _ ⟨⟩
    norm_num
  have equal := always doublePlatform (fun _ _ => calmEnv) (ownerRefund (.value (6667 / 200))) ⟨sampleDatabase .captured, []⟩
    (sampleIntent .captured).id (ownerRefund_names _) least refund added _ asked
  rw [Decimal.toNumber, cents] at equal
  norm_num at equal

end PayBridge
