import Mathlib.Algebra.Order.BigOperators.Group.List
import PayBridge.System

namespace PayBridge
open Store Await

/-- The amount a request has had accepted and has not recorded yet, by the
operation it waits for. -/
def amountAt : Option Op → ℚ
  | some (.refund _ _ amount _ _) => amount
  | some (.query (.recordRefund data _)) => data.amount
  | _ => 0

/-- The part of it that the provider has been asked for. -/
def recordingAt : Option Op → ℚ
  | some (.query (.recordRefund data _)) => data.amount
  | _ => 0

/-- What an entry of the log asks a provider to refund. -/
def askedAmount : (op : Op) × op.Answer → ℚ
  | ⟨.refund _ _ amount _ _, _⟩ => amount
  | _ => 0

/-- The amounts in progress, over all requests. -/
def pending (s : Service) : ℚ := (s.threads.map fun t => amountAt t.prog.waiting).sum

def recording (s : Service) : ℚ := (s.threads.map fun t => recordingAt t.prog.waiting).sum

/-- The sum of the amounts the providers were asked to refund. -/
def asked (s : Service) : ℚ := (s.log.map fun entry => askedAmount entry.2).sum

/-- The sum of the succeeded refunds stored for an intent. -/
def refundedOf (db : Database) (id : Uuid) : ℚ := storedTotal RefundStatus.isSucceeded (db.refundsOf id)

/-- The balance and the new total of a plan are those of the stored refunds, to the cent. -/
def RefundPlan.ExactToTheCent (plan : RefundPlan) (refunds : List Refund) : Prop :=
  plan.remainingBalance = plan.totalAmount - storedTotal RefundStatus.isSucceeded refunds ∧
    plan.totalRefundedAfter = storedTotal RefundStatus.isSucceeded refunds + plan.requestedAmount

instance (plan : RefundPlan) (refunds : List Refund) : Decidable (plan.ExactToTheCent refunds) :=
  inferInstanceAs (Decidable (_ ∧ _))

/-- Calls of `processRefund` on one intent, with an amount of whole cents or none. -/
def RefundCall (P : Platform) (id : Uuid) (request : Request) : Prop :=
  ∃ text dto merchantId, request = .refund text dto merchantId ∧ P.readUuid text = some id ∧
    ∀ amount, dto.amount = .value amount → WholeCents amount

/-- The provider answers SUCCEEDED, and the transaction goes through under a new id. -/
def Succeeds (s : Service) (i : Nat) (env : Env) : Prop :=
  match s.threads[i]?.bind fun t => t.prog.waiting with
  | some (.refund _ _ _ _ _) => env.fails = false ∧ env.refund.status = .succeeded
  | some (.query (.recordRefund _ _)) => env.fails = false ∧ s.world.db.refunds.find env.id = none
  | _ => True

/-- The step keeps to refund calls on one intent that meet no failure on their way. -/
def RefundsOnly (P : Platform) (id : Uuid) (s : Service) : Step → Prop
  | .spawn request => RefundCall P id request
  | .advance i env => Succeeds s i env

/-- If the request reads the balance and is accepted, its figures are exact to the
cent, and with others in progress it leaves something of the balance after all of them. -/
def RestLeft (P : Platform) (id : Uuid) (s : Service) (i : Nat) : Prop :=
  match s.threads[i]? with
  | some ⟨.refund text dto merchantId, prog⟩ =>
    match prog.waiting, refundPlan P text dto merchantId (s.world.db.shown id) with
    | some (.query (.findIntent _)), .ok plan =>
      plan.ExactToTheCent (s.world.db.refundsOf id) ∧
        (pending s = 0 ∨ plan.requestedAmount + pending s < plan.remainingBalance)
    | _, _ => True
  | _ => True

def LeavesRest (P : Platform) (id : Uuid) (s : Service) : Step → Prop
  | .spawn _ => True
  | .advance i _ => RestLeft P id s i

instance (s : Service) (i : Nat) (env : Env) : Decidable (Succeeds s i env) := by
  unfold Succeeds
  split <;> infer_instance

instance (P : Platform) (id : Uuid) (s : Service) (i : Nat) : Decidable (RestLeft P id s i) := by
  unfold RestLeft
  split
  · split <;> infer_instance
  · infer_instance

instance (P : Platform) (id : Uuid) (s : Service) (i : Nat) (env : Env) : Decidable (RefundsOnly P id s (.advance i env)) :=
  inferInstanceAs (Decidable (Succeeds s i env))

instance (P : Platform) (id : Uuid) (s : Service) (i : Nat) (env : Env) : Decidable (LeavesRest P id s (.advance i env)) :=
  inferInstanceAs (Decidable (RestLeft P id s i))

/-- What refunds on an intent must never break: neither the stored refunds nor
the amounts asked of the provider exceed its amount, and once every call has
ended it is REFUNDED exactly when they have used the amount up. -/
def BalanceKept (id : Uuid) (amount : ℚ) (s : Service) : Prop :=
  refundedOf s.world.db id ≤ amount ∧ asked s ≤ amount ∧
    ((∀ t ∈ s.threads, t.prog.waiting = none) →
      ∃ row, s.world.db.intents.find id = some row ∧ asked s = refundedOf s.world.db id ∧
        (row.status = .refunded ↔ refundedOf s.world.db id = amount))

/-- The plan a refund request is carrying out after what it has seen: it has
been accepted and its refund is not recorded yet. -/
inductive Carries (P : Platform) (text : String) (dto : CreateRefundDto) (merchantId : Uuid) (plan : RefundPlan) :
    History Op.Answer → Prop
  | asking {found} : refundPlan P text dto merchantId found = .ok plan →
      Carries P text dto merchantId plan [⟨.query (.findIntent text), .ok found⟩]
  | recording {found refundResult} : refundPlan P text dto merchantId found = .ok plan →
      Carries P text dto merchantId plan
        [⟨.refund plan.intent.gateway plan.gatewayPaymentId plan.requestedAmount plan.intent.currency dto.reason,
            .ok refundResult⟩, ⟨.query (.findIntent text), .ok found⟩]

/-- Where a refund request stands, by what it has seen and waits for. -/
inductive RefundStage (P : Platform) (text : String) (dto : CreateRefundDto) (merchantId : Uuid) :
    History Op.Answer → Option Op → Prop
  | idle {seen waiting} : (∀ plan, ¬ Carries P text dto merchantId plan seen) → amountAt waiting = 0 →
      recordingAt waiting = 0 → RefundStage P text dto merchantId seen waiting
  | asking {found} {plan : RefundPlan} : refundPlan P text dto merchantId found = .ok plan →
      RefundStage P text dto merchantId [⟨.query (.findIntent text), .ok found⟩]
        (some (.refund plan.intent.gateway plan.gatewayPaymentId plan.requestedAmount plan.intent.currency dto.reason))
  | recording {found refundResult} {plan : RefundPlan} : refundPlan P text dto merchantId found = .ok plan →
      RefundStage P text dto merchantId
        [⟨.refund plan.intent.gateway plan.gatewayPaymentId plan.requestedAmount plan.intent.currency dto.reason,
            .ok refundResult⟩, ⟨.query (.findIntent text), .ok found⟩]
        (some (.query (.recordRefund (plan.newRefund dto refundResult) (plan.marksRefunded refundResult))))

theorem Carries.not_long {P : Platform} {text : String} {dto : CreateRefundDto} {merchantId : Uuid} {plan : RefundPlan}
    {seen : History Op.Answer} (carries : Carries P text dto merchantId plan seen) {data : NewRefund} {marks : Bool}
    {answer : Except JsError Refund} : (⟨.query (.recordRefund data marks), answer⟩ : (op : Op) × op.Answer) ∉ seen := by
  cases carries <;> simp

/-- A plan was made from the row read first. -/
theorem Carries.read {P : Platform} {text : String} {dto : CreateRefundDto} {merchantId : Uuid} {plan : RefundPlan}
    {seen : History Op.Answer} (carries : Carries P text dto merchantId plan seen) :
    ∃ found, refundPlan P text dto merchantId found = .ok plan ∧
      seen.getLast? = some ⟨.query (.findIntent text), .ok found⟩ := by
  cases carries with
  | asking accepted => exact ⟨_, accepted, rfl⟩
  | recording accepted => exact ⟨_, accepted, rfl⟩

/-- What was read first makes no other plan. -/
theorem Carries.plan_eq {P : Platform} {text : String} {dto : CreateRefundDto} {merchantId : Uuid} {plan other : RefundPlan}
    {seen : History Op.Answer} {found : Option IntentWithRefunds} (carries : Carries P text dto merchantId other seen)
    (read : seen.getLast? = some ⟨.query (.findIntent text), .ok found⟩)
    (accepted : refundPlan P text dto merchantId found = .ok plan) : other = plan := by
  obtain ⟨shown, made, first⟩ := carries.read
  cases read.symm.trans first
  exact Except.ok.inj (made.symm.trans accepted)

/-- A request on its course stands where its plan puts it. -/
theorem refundStage {P : Platform} {text : String} {dto : CreateRefundDto} {merchantId : Uuid} {seen : History Op.Answer}
    {prog : Prog Op Op.Answer (Except JsError Reply)}
    (obeys : prog.Obeys (RefundCourse P text dto merchantId) (fun seen _ => RefundSettled P text dto merchantId seen) seen) :
    RefundStage P text dto merchantId seen prog.waiting := by
  cases prog with
  | done reply =>
    have settled : RefundSettled P text dto merchantId seen := obeys
    refine .idle ?_ rfl rfl
    intro plan carries
    cases carries with
    | asking accepted => exact settled.1 _ plan rfl accepted
    | recording accepted => exact settled.2 _ _ _ _ _ _ _ rfl
  | await op next =>
    have course : RefundCourse P text dto merchantId seen op := obeys.1
    cases course with
    | read =>
      refine .idle ?_ rfl rfl
      intro plan carries
      cases carries
    | ask accepted => exact .asking accepted
    | record accepted => exact .recording accepted
    | report recorded shape =>
      refine .idle (fun plan carries => carries.not_long recorded) ?_ ?_
      · rcases shape with ⟨id, rfl⟩ | ⟨url, secret, rfl⟩ <;> rfl
      · rcases shape with ⟨id, rfl⟩ | ⟨url, secret, rfl⟩ <;> rfl

/-- What the balance knows of a plan in progress: it was made from an earlier
state of the balance, and if the amounts in progress use the balance up, it
is the plan that knows it. -/
structure Planned (id : Uuid) (amount refunded inProgress : ℚ) (plan : RefundPlan) : Prop where
  positive : 0 < plan.requestedAmount
  whole : WholeCents plan.requestedAmount
  named : plan.intent.id = id
  total : plan.totalAmount = amount
  snapshot : plan.totalRefundedAfter ≤ refunded + plan.requestedAmount
  last : refunded + inProgress = amount → amount ≤ plan.totalRefundedAfter

theorem Planned.isFullyRefunded {id : Uuid} {amount refunded inProgress : ℚ} {plan : RefundPlan}
    (planned : Planned id amount refunded inProgress plan) :
    plan.isFullyRefunded = true ↔ amount ≤ plan.totalRefundedAfter := by
  simp only [RefundPlan.isFullyRefunded, decide_eq_true_eq, planned.total]

theorem sum_map_set {α : Type} {l : List α} {i : Nat} {old : α} (stands : l[i]? = some old) (f : α → ℚ) (new : α) :
    ((l.set i new).map f).sum = (l.map f).sum - f old + f new := by
  obtain ⟨inside, value⟩ := List.getElem?_eq_some_iff.mp stands
  have bound : i < (l.map f).length := by simpa using inside
  rw [List.map_set, List.sum_set', dif_pos bound, List.getElem_map, value]
  ring

/-- The invariant of the refunds on an intent over an amount. -/
structure Balanced (P : Platform) (id : Uuid) (amount : ℚ) (s : Service) : Prop where
  status : ∃ row, s.world.db.intents.find id = some row ∧ row.amount.toNumber = amount ∧
    (row.status = .refunded ↔ refundedOf s.world.db id = amount)
  nonneg : 0 ≤ refundedOf s.world.db id
  within : refundedOf s.world.db id + pending s ≤ amount
  asked : asked s = refundedOf s.world.db id + recording s
  plans : ∀ i t text dto merchantId plan, s.threads[i]? = some t → t.request = .refund text dto merchantId →
    Carries P text dto merchantId plan (own i s.log) → Planned id amount (refundedOf s.world.db id) (pending s) plan
  succeeded : ∀ i gateway gatewayPaymentId sum currency reason refundResult,
    (i, ⟨.refund gateway gatewayPaymentId sum currency reason, .ok refundResult⟩) ∈ s.log → refundResult.status = .succeeded

/-- Every request is a refund call on the intent, and stands where its plan puts it. -/
def Staged (P : Platform) (id : Uuid) (s : Service) : Prop :=
  ∀ i t, s.threads[i]? = some t → ∃ text dto merchantId, t.request = .refund text dto merchantId ∧
    P.readUuid text = some id ∧ (∀ amount, dto.amount = .value amount → WholeCents amount) ∧
    RefundStage P text dto merchantId (own i s.log) t.prog.waiting

theorem staged {P : Platform} {meets : Service → Step → Prop} {world : World} {id : Uuid} {s : Service}
    (only : ∀ s request, meets s (.spawn request) → RefundCall P id request)
    (reach : Reach (payments P) meets world s) : Staged P id s := by
  have calls : ∀ (i : Nat) (t : Thread Op Op.Answer Request (Except JsError Reply)), s.threads[i]? = some t →
      RefundCall P id t.request := by
    induction reach using service_steps with
    | initial => intro i t atI; simp [Pool.initial] at atI
    | spawn s request before met ih _ =>
      intro i t atI
      rcases Pool.spawn_thread (payments P) atI with old | ⟨_, rfl⟩
      · exact ih i t old
      · exact only s request met
    | advance s i env request op next answer w before met stands course did ih _ =>
      intro j t atJ
      rcases Pool.set_thread atJ with ⟨rfl, rfl⟩ | ⟨_, old⟩
      · have before := ih _ _ stands
        exact before
      · exact ih j t old
  intro i t atI
  obtain ⟨text, dto, merchantId, same, named, whole⟩ := calls i t atI
  have obeys := reach.obeys (payments_course P) atI
  rw [same] at obeys
  exact ⟨text, dto, merchantId, same, named, whole, refundStage (Prog.Obeys.mono (fun _ _ asks => asks)
    (fun _ _ ends => ends) obeys)⟩

/-- What a request carries is what it has in progress. -/
theorem RefundStage.amountAt {P : Platform} {text : String} {dto : CreateRefundDto} {merchantId : Uuid} {plan : RefundPlan}
    {seen : History Op.Answer} {waiting : Option Op} (stage : RefundStage P text dto merchantId seen waiting)
    (carries : Carries P text dto merchantId plan seen) : amountAt waiting = plan.requestedAmount := by
  obtain ⟨found, made, first⟩ := carries.read
  cases stage with
  | idle none _ _ => exact absurd carries (none plan)
  | asking accepted =>
    cases first
    cases accepted.symm.trans made
    rfl
  | recording accepted =>
    cases first
    cases accepted.symm.trans made
    rfl

theorem RefundStage.idle_amounts {P : Platform} {text : String} {dto : CreateRefundDto} {merchantId : Uuid}
    {seen : History Op.Answer} {waiting : Option Op} (stage : RefundStage P text dto merchantId seen waiting)
    (nothing : ∀ plan, ¬ Carries P text dto merchantId plan seen) :
    PayBridge.amountAt waiting = 0 ∧ recordingAt waiting = 0 := by
  cases stage with
  | idle _ zero unrecorded => exact ⟨zero, unrecorded⟩
  | asking accepted => exact absurd (.asking accepted) (nothing _)
  | recording accepted => exact absurd (.recording accepted) (nothing _)

/-- An accepted request stands at its call of the provider. -/
theorem RefundStage.asks {P : Platform} {text : String} {dto : CreateRefundDto} {merchantId : Uuid} {plan : RefundPlan}
    {found : Option IntentWithRefunds} {waiting : Option Op} (accepted : refundPlan P text dto merchantId found = .ok plan)
    (stage : RefundStage P text dto merchantId [⟨.query (.findIntent text), .ok found⟩] waiting) :
    waiting = some (.refund plan.intent.gateway plan.gatewayPaymentId plan.requestedAmount plan.intent.currency dto.reason) := by
  cases stage with
  | idle none _ _ => exact absurd (.asking accepted) (none plan)
  | asking same =>
    cases accepted.symm.trans same
    rfl

/-- A request that has its provider's answer stands at the record of it. -/
theorem RefundStage.records {P : Platform} {text : String} {dto : CreateRefundDto} {merchantId : Uuid} {plan : RefundPlan}
    {found : Option IntentWithRefunds} {refundResult : RefundResult} {waiting : Option Op}
    (accepted : refundPlan P text dto merchantId found = .ok plan)
    (stage : RefundStage P text dto merchantId
      [⟨.refund plan.intent.gateway plan.gatewayPaymentId plan.requestedAmount plan.intent.currency dto.reason,
        .ok refundResult⟩, ⟨.query (.findIntent text), .ok found⟩] waiting) :
    waiting = some (.query (.recordRefund (plan.newRefund dto refundResult) (plan.marksRefunded refundResult))) := by
  have carries : Carries P text dto merchantId plan
      [⟨.refund plan.intent.gateway plan.gatewayPaymentId plan.requestedAmount plan.intent.currency dto.reason,
        .ok refundResult⟩, ⟨.query (.findIntent text), .ok found⟩] := .recording accepted
  generalize same : ([⟨.refund plan.intent.gateway plan.gatewayPaymentId plan.requestedAmount plan.intent.currency dto.reason,
        .ok refundResult⟩, ⟨.query (.findIntent text), .ok found⟩] : History Op.Answer) = seen at stage carries
  cases stage with
  | idle none _ _ => exact absurd carries (none plan)
  | asking _ => cases congrArg List.length same
  | recording made =>
    cases congrArg List.getLast? same
    cases accepted.symm.trans made
    cases same
    rfl

section
variable {P : Platform} {id : Uuid} {amount : ℚ} {s : Service}

theorem Balanced.amountAt_nonneg (balanced : Balanced P id amount s) (staged : Staged P id s) :
    ∀ t ∈ s.threads, 0 ≤ amountAt t.prog.waiting := by
  intro t member
  obtain ⟨i, atI⟩ := List.mem_iff_getElem?.mp member
  obtain ⟨text, dto, merchantId, same, _, _, stage⟩ := staged i t atI
  by_cases carrying : ∃ plan, Carries P text dto merchantId plan (own i s.log)
  · obtain ⟨plan, carries⟩ := carrying
    rw [stage.amountAt carries]
    exact (balanced.plans i t text dto merchantId plan atI same carries).positive.le
  · generalize own i s.log = seen, t.prog.waiting = waiting at stage carrying
    cases stage with
    | idle _ zero _ => exact zero.ge
    | asking accepted => exact absurd ⟨_, .asking accepted⟩ carrying
    | recording accepted => exact absurd ⟨_, .recording accepted⟩ carrying

theorem Balanced.pending_nonneg (balanced : Balanced P id amount s) (staged : Staged P id s) : 0 ≤ pending s := by
  refine List.sum_nonneg fun x member => ?_
  obtain ⟨t, inside, rfl⟩ := List.mem_map.mp member
  exact balanced.amountAt_nonneg staged t inside

theorem Balanced.le_pending (balanced : Balanced P id amount s) (staged : Staged P id s)
    {t : Thread Op Op.Answer Request (Except JsError Reply)} (member : t ∈ s.threads) :
    amountAt t.prog.waiting ≤ pending s := by
  refine List.single_le_sum (fun x inside => ?_) _ (List.mem_map_of_mem member)
  obtain ⟨u, within, rfl⟩ := List.mem_map.mp inside
  exact balanced.amountAt_nonneg staged u within

/-- Nobody carries a plan while nothing is in progress. -/
theorem Balanced.nobody (balanced : Balanced P id amount s) (staged : Staged P id s) (none : pending s = 0)
    {i : Nat} {t : Thread Op Op.Answer Request (Except JsError Reply)} (atI : s.threads[i]? = some t)
    {text : String} {dto : CreateRefundDto} {merchantId : Uuid} {plan : RefundPlan}
    (same : t.request = .refund text dto merchantId) : ¬ Carries P text dto merchantId plan (own i s.log) := by
  intro carries
  obtain ⟨text', dto', merchantId', same', _, _, stage⟩ := staged i t atI
  cases same'.symm.trans same
  have below := balanced.le_pending staged (List.mem_of_getElem? atI)
  have positive := (balanced.plans i t text dto merchantId plan atI same carries).positive
  rw [stage.amountAt carries, none] at below
  linarith

/-- The balance after one operation of one request, put together from what
the operation does to each part of it. -/
theorem Balanced.advance (balanced : Balanced P id amount s) (staged : Staged P id s) {i : Nat} {request : Request}
    {op : Op} {next : op.Answer → Prog Op Op.Answer (Except JsError Reply)} {answer : op.Answer} {w : World}
    {inProgress : ℚ} (stands : s.threads[i]? = some ⟨request, .await op next⟩)
    (moves : inProgress = pending s - amountAt (some op) + amountAt (next answer).waiting)
    (status : ∃ row, w.db.intents.find id = some row ∧ row.amount.toNumber = amount ∧
      (row.status = .refunded ↔ refundedOf w.db id = amount))
    (grows : refundedOf s.world.db id ≤ refundedOf w.db id)
    (within : refundedOf w.db id + inProgress ≤ amount)
    (accounts : askedAmount ⟨op, answer⟩ + refundedOf s.world.db id + recordingAt (some op) =
      refundedOf w.db id + recordingAt (next answer).waiting)
    (others : pending s = 0 ∨ refundedOf w.db id + inProgress = refundedOf s.world.db id + pending s ∨
      refundedOf w.db id + inProgress < amount)
    (mine : ∀ text dto merchantId plan, request = .refund text dto merchantId →
      Carries P text dto merchantId plan (⟨op, answer⟩ :: own i s.log) →
      Planned id amount (refundedOf w.db id) inProgress plan)
    (answered : ∀ gateway gatewayPaymentId sum currency reason refundResult,
      (⟨op, answer⟩ : (op : Op) × op.Answer) = ⟨.refund gateway gatewayPaymentId sum currency reason, .ok refundResult⟩ →
      refundResult.status = .succeeded) :
    Balanced P id amount ⟨w, s.threads.set i ⟨request, next answer⟩, (i, ⟨op, answer⟩) :: s.log⟩ := by
  have pendingAfter : pending ⟨w, s.threads.set i ⟨request, next answer⟩, (i, ⟨op, answer⟩) :: s.log⟩ = inProgress := by
    rw [moves]
    exact sum_map_set stands (fun t => amountAt t.prog.waiting) _
  have recordingAfter : recording ⟨w, s.threads.set i ⟨request, next answer⟩, (i, ⟨op, answer⟩) :: s.log⟩ =
      recording s - recordingAt (some op) + recordingAt (next answer).waiting :=
    sum_map_set stands (fun t => recordingAt t.prog.waiting) _
  refine ⟨status, balanced.nonneg.trans grows, ?_, ?_, ?_, ?_⟩
  · rw [pendingAfter]
    exact within
  · have before := balanced.asked
    rw [recordingAfter]
    simp only [PayBridge.asked, List.map_cons, List.sum_cons] at before ⊢
    linarith
  · intro j t text dto merchantId plan atJ same carries
    rw [pendingAfter]
    rcases Pool.set_thread atJ with ⟨rfl, rfl⟩ | ⟨other, old⟩
    · rw [own_cons_self] at carries
      exact mine text dto merchantId plan same carries
    · rw [own_cons_ne (Ne.symm other)] at carries
      have planned := balanced.plans j t text dto merchantId plan old same carries
      refine ⟨planned.positive, planned.whole, planned.named, planned.total, by linarith [planned.snapshot], fun full => ?_⟩
      rcases others with none | unchanged | below
      · exact absurd carries (balanced.nobody staged none old same)
      · exact planned.last (unchanged.symm.trans full)
      · exact absurd full below.ne
  · intro j gateway gatewayPaymentId sum currency reason refundResult member
    rcases List.mem_cons.mp member with new | old
    · exact answered _ _ _ _ _ _ (congrArg Prod.snd new).symm
    · exact balanced.succeeded _ _ _ _ _ _ _ old

/-- An operation that leaves its request with no plan to carry out. -/
theorem Balanced.steady (balanced : Balanced P id amount s) (staged : Staged P id s) {i : Nat} {text : String}
    {dto : CreateRefundDto} {merchantId : Uuid} {op : Op}
    {next : op.Answer → Prog Op Op.Answer (Except JsError Reply)} {answer : op.Answer} {w : World}
    (stands : s.threads[i]? = some ⟨.refund text dto merchantId, .await op next⟩) (same : w.db = s.world.db)
    (free : amountAt (some op) = 0 ∧ recordingAt (some op) = 0 ∧ askedAmount ⟨op, answer⟩ = 0)
    (silent : ∀ gateway gatewayPaymentId sum currency reason, op ≠ .refund gateway gatewayPaymentId sum currency reason)
    (nothing : ∀ plan, ¬ Carries P text dto merchantId plan (⟨op, answer⟩ :: own i s.log))
    (stageAfter : RefundStage P text dto merchantId (⟨op, answer⟩ :: own i s.log) (next answer).waiting) :
    Balanced P id amount ⟨w, s.threads.set i ⟨.refund text dto merchantId, next answer⟩, (i, ⟨op, answer⟩) :: s.log⟩ := by
  obtain ⟨quiet, unrecorded, unasked⟩ := free
  obtain ⟨quietAfter, unrecordedAfter⟩ := stageAfter.idle_amounts nothing
  have moves : pending s = pending s - amountAt (some op) + amountAt (next answer).waiting := by
    rw [quiet, quietAfter]; ring
  refine balanced.advance staged stands moves ?_ ?_ ?_ ?_ ?_ ?_ ?_
  · rw [same]; exact balanced.status
  · rw [same]
  · rw [same]; exact balanced.within
  · rw [same, unasked, unrecorded, unrecordedAfter]; ring
  · rw [same]; exact Or.inr (Or.inl rfl)
  · intro text' dto' merchantId' plan asks carries
    cases asks
    exact absurd carries (nothing plan)
  · intro gateway gatewayPaymentId sum currency reason refundResult entry
    exact absurd (congrArg Sigma.fst entry) (silent _ _ _ _ _)

/-- What a plan made from the present balance knows of it. -/
theorem refundPlan_present {db : Database} {row : PaymentIntent} {text : String} {dto : CreateRefundDto}
    {merchantId : Uuid} {plan : RefundPlan} (found : db.intents.find id = some row)
    (charged : row.amount.toNumber = amount) (whole : ∀ amount, dto.amount = .value amount → WholeCents amount)
    (accepted : refundPlan P text dto merchantId (db.shown id) = .ok plan) (exact : plan.ExactToTheCent (db.refundsOf id)) :
    0 < plan.requestedAmount ∧ WholeCents plan.requestedAmount ∧ plan.totalRefundedAfter = refundedOf db id + plan.requestedAmount ∧
      plan.intent.id = id ∧ plan.totalAmount = amount ∧ plan.remainingBalance = amount - refundedOf db id ∧
      plan.requestedAmount ≤ plan.remainingBalance := by
  obtain ⟨refunds, shown, _, _, _, total, _, remaining, requested, positive, within, _⟩ := refundPlan_ok accepted
  rw [Database.shown, found] at shown
  cases shown
  have key : plan.intent.id = id := Table.find_key found
  have charged : plan.totalAmount = amount := total.trans charged
  refine ⟨positive, ?_, exact.2, key, charged, charged ▸ exact.1, within⟩
  rw [requested]
  unfold CreateRefundDto.requestedAmount
  split
  · rw [remaining]; exact wholeCents_roundCents ..
  · exact WholeCents.zero
  · next asked given => exact whole asked given

/-- A request accepted on the present balance takes its amount in progress. -/
theorem Balanced.accept (balanced : Balanced P id amount s) (staged : Staged P id s) {i : Nat} {text : String}
    {dto : CreateRefundDto} {merchantId : Uuid} {plan : RefundPlan}
    {next : (Op.query (.findIntent text)).Answer → Prog Op Op.Answer (Except JsError Reply)} {w : World}
    (stands : s.threads[i]? = some ⟨.refund text dto merchantId, .await (.query (.findIntent text)) next⟩)
    (same : w.db = s.world.db) (whole : ∀ amount, dto.amount = .value amount → WholeCents amount)
    (first : own i s.log = [])
    (accepted : refundPlan P text dto merchantId (s.world.db.shown id) = .ok plan)
    (exact : plan.ExactToTheCent (s.world.db.refundsOf id))
    (leaves : pending s = 0 ∨ plan.requestedAmount + pending s < plan.remainingBalance)
    (asks : amountAt (next (.ok (s.world.db.shown id))).waiting =
      plan.requestedAmount)
    (unasked : recordingAt (next (.ok (s.world.db.shown id))).waiting = 0) :
    Balanced P id amount ⟨w, s.threads.set i ⟨.refund text dto merchantId,
      next (.ok (s.world.db.shown id))⟩,
      (i, ⟨.query (.findIntent text), .ok (s.world.db.shown id)⟩) ::
        s.log⟩ := by
  obtain ⟨row, found, charged, refundedIff⟩ := balanced.status
  obtain ⟨positive, wholeAmount, after, key, total, balance, within⟩ := refundPlan_present found charged whole accepted exact
  have moves : pending s + plan.requestedAmount = pending s - amountAt (some (.query (.findIntent text))) +
      amountAt (next (.ok (s.world.db.shown id))).waiting := by
    rw [asks]
    simp only [amountAt]
    ring
  refine balanced.advance staged stands moves ?_ ?_ ?_ ?_ ?_ ?_ ?_
  · rw [same]; exact ⟨row, found, charged, refundedIff⟩
  · rw [same]
  · rw [same]
    rcases leaves with none | rest
    · rw [none]; linarith
    · linarith
  · rw [same, unasked]
    simp only [askedAmount, recordingAt]
    ring
  · rw [same]
    rcases leaves with none | rest
    · exact Or.inl none
    · exact Or.inr (Or.inr (by linarith))
  · intro text' dto' merchantId' plan' request carries
    cases request
    cases carries.plan_eq (by rw [first]; rfl) accepted
    refine ⟨positive, wholeAmount, key, total, ?_, ?_⟩
    · rw [after, same]
    · rw [after, same]
      intro full
      rcases leaves with none | rest
      · rw [none] at full; linarith
      · linarith
  · intro gateway gatewayPaymentId sum currency reason refundResult entry
    cases congrArg Sigma.fst entry

/-- The provider's answer leaves the amount in progress, now to be recorded. -/
theorem Balanced.ask (balanced : Balanced P id amount s) (staged : Staged P id s) {i : Nat} {text : String}
    {dto : CreateRefundDto} {merchantId : Uuid} {plan : RefundPlan} {found : Option IntentWithRefunds}
    {refundResult : RefundResult} {gateway : GatewayProvider} {gatewayPaymentId currency : String}
    {reason : JsOptional String}
    {next : (Op.refund gateway gatewayPaymentId plan.requestedAmount currency reason).Answer →
      Prog Op Op.Answer (Except JsError Reply)}
    (stands : s.threads[i]? = some ⟨.refund text dto merchantId,
      .await (.refund gateway gatewayPaymentId plan.requestedAmount currency reason) next⟩)
    (first : own i s.log = [⟨.query (.findIntent text), .ok found⟩])
    (accepted : refundPlan P text dto merchantId found = .ok plan) (succeeded : refundResult.status = .succeeded)
    (records : amountAt (next (.ok refundResult)).waiting = plan.requestedAmount ∧
      recordingAt (next (.ok refundResult)).waiting = plan.requestedAmount) :
    Balanced P id amount ⟨s.world, s.threads.set i ⟨.refund text dto merchantId, next (.ok refundResult)⟩,
      (i, ⟨.refund gateway gatewayPaymentId plan.requestedAmount currency reason, .ok refundResult⟩) :: s.log⟩ := by
  have carried : Carries P text dto merchantId plan (own i s.log) := by
    rw [first]
    exact .asking accepted
  have planned := balanced.plans i _ text dto merchantId plan stands rfl carried
  have moves : pending s = pending s - amountAt (some (.refund gateway gatewayPaymentId plan.requestedAmount currency reason)) +
      amountAt (next (.ok refundResult)).waiting := by
    rw [records.1]
    simp only [amountAt]
    ring
  refine balanced.advance staged stands moves balanced.status le_rfl balanced.within ?_ (Or.inr (Or.inl rfl)) ?_ ?_
  · rw [records.2]
    simp only [askedAmount, recordingAt]
    ring
  · intro text' dto' merchantId' plan' request carries
    cases request
    cases carries.plan_eq (by rw [first]; rfl) accepted
    exact planned
  · intro _ _ _ _ _ other entry
    cases entry
    exact succeeded

/-- The amount of a plan in progress is stored as it is. -/
theorem Balanced.fits (balanced : Balanced P id amount s) {plan : RefundPlan}
    (planned : Planned id amount (refundedOf s.world.db id) (pending s) plan) (inside : plan.requestedAmount ≤ pending s) :
    ∃ stored, Decimal.ofNumber plan.requestedAmount = some stored ∧ stored.toNumber = plan.requestedAmount := by
  obtain ⟨row, _, charged, _⟩ := balanced.status
  have upper : plan.requestedAmount ≤ row.amount.toNumber := by
    rw [charged]
    linarith [balanced.within, balanced.nonneg]
  exact Decimal.ofNumber_wholeCents planned.whole planned.positive.le upper

/-- Marked or not, the intent is REFUNDED after a recorded refund exactly when
its amount has been used up. -/
theorem Balanced.marked (balanced : Balanced P id amount s) {plan : RefundPlan} {db : Database} {marks : Bool}
    (planned : Planned id amount (refundedOf s.world.db id) (pending s) plan) (inside : plan.requestedAmount ≤ pending s)
    (marksIff : marks = true ↔ amount ≤ plan.totalRefundedAfter)
    (intents : db.intents = if marks then (s.world.db.setStatus id .refunded).intents else s.world.db.intents) :
    ∃ row, db.intents.find id = some row ∧ row.amount.toNumber = amount ∧
      (row.status = .refunded ↔ refundedOf s.world.db id + plan.requestedAmount = amount) := by
  obtain ⟨intent, found, charged, refundedIff⟩ := balanced.status
  have within := balanced.within
  by_cases marked : marks = true
  · -- the last refund: what was stored when it read and its amount use up the balance
    have full : amount ≤ plan.totalRefundedAfter := marksIff.mp marked
    have snapshot := planned.snapshot
    refine ⟨{ intent with status := .refunded }, ?_, charged, ?_⟩
    · simp only [intents, if_pos marked]
      rw [Database.setStatus_find, if_pos rfl, found]
      rfl
    · simp only [true_iff]
      linarith
  · have rest : plan.totalRefundedAfter < amount := by
      by_contra full
      exact marked (marksIff.mpr (not_lt.mp full))
    have below : refundedOf s.world.db id + pending s < amount := by
      rcases within.lt_or_eq with below | full
      · exact below
      · exact absurd (planned.last full) (not_le.mpr rest)
    refine ⟨intent, ?_, charged, ?_⟩
    · simp only [intents, if_neg marked]
      exact found
    · have unmarked : ¬ intent.status = .refunded := by
        intro refunded
        have full := refundedIff.mp refunded
        linarith [planned.positive]
      constructor
      · intro refunded
        exact absurd refunded unmarked
      · intro full
        linarith

/-- A recorded refund goes from the amounts in progress to the stored ones,
and the intent becomes REFUNDED with the last of them. -/
theorem Balanced.record (balanced : Balanced P id amount s) (staged : Staged P id s) {i : Nat} {text : String}
    {dto : CreateRefundDto} {merchantId : Uuid} {plan : RefundPlan} {refundResult : RefundResult} {row : Refund}
    {stored : Decimal} {db : Database}
    {next : (Op.query (.recordRefund (plan.newRefund dto refundResult) (plan.marksRefunded refundResult))).Answer →
      Prog Op Op.Answer (Except JsError Reply)}
    (stands : s.threads[i]? = some ⟨.refund text dto merchantId,
      .await (.query (.recordRefund (plan.newRefund dto refundResult) (plan.marksRefunded refundResult))) next⟩)
    (carries : Carries P text dto merchantId plan (own i s.log)) (succeeded : refundResult.status = .succeeded)
    (amountIs : Decimal.ofNumber plan.requestedAmount = some stored)
    (rowIs : row.paymentIntentId = id ∧ row.amount = stored ∧ row.status = .succeeded)
    (rows : db.refunds.rows = s.world.db.refunds.rows ++ [row])
    (intents : db.intents = if plan.marksRefunded refundResult then (s.world.db.setStatus id .refunded).intents
      else s.world.db.intents)
    (idle : amountAt (next (.ok row)).waiting = 0 ∧ recordingAt (next (.ok row)).waiting = 0) :
    Balanced P id amount ⟨{ s.world with db }, s.threads.set i ⟨.refund text dto merchantId, next (.ok row)⟩,
      (i, ⟨.query (.recordRefund (plan.newRefund dto refundResult) (plan.marksRefunded refundResult)), .ok row⟩) :: s.log⟩ := by
  have planned := balanced.plans i _ text dto merchantId plan stands rfl carries
  have inside : plan.requestedAmount ≤ pending s :=
    balanced.le_pending staged (List.mem_of_getElem? stands)
  have added : refundedOf db id = refundedOf s.world.db id + plan.requestedAmount := by
    obtain ⟨kept, same, exactly⟩ := balanced.fits planned inside
    cases amountIs.symm.trans same
    have counted : row.status.isSucceeded = true := by simp only [RefundStatus.isSucceeded, rowIs.2.2, decide_true]
    rw [refundedOf, Database.refundsOf_append rows, if_pos rowIs.1, storedTotal_append, if_pos counted, rowIs.2.1, exactly]
    rfl
  have marks : plan.marksRefunded refundResult = true ↔ amount ≤ plan.totalRefundedAfter := by
    rw [← planned.isFullyRefunded]
    simp [RefundPlan.marksRefunded, succeeded]
  have moves : pending s - plan.requestedAmount = pending s -
      amountAt (some (.query (.recordRefund (plan.newRefund dto refundResult) (plan.marksRefunded refundResult)))) +
      amountAt (next (.ok row)).waiting := by
    rw [idle.1]
    simp only [amountAt, RefundPlan.newRefund]
    ring
  have within := balanced.within
  refine balanced.advance staged stands moves ?_ ?_ ?_ ?_ ?_ ?_ ?_
  · rw [added]
    exact balanced.marked planned inside marks intents
  · linarith [planned.positive]
  · linarith
  · rw [idle.2]
    simp only [askedAmount, recordingAt, RefundPlan.newRefund, added]
    ring
  · exact Or.inr (Or.inl (by linarith))
  · intro text' dto' merchantId' plan' _ impossible
    exact absurd (List.mem_cons_self ..) impossible.not_long
  · intro gateway gatewayPaymentId sum currency reason other entry
    cases congrArg Sigma.fst entry

/-- The transaction of a planned refund is not refused: its id is new and its
amount fits the column. -/
theorem Balanced.goes_through (balanced : Balanced P id amount s) (staged : Staged P id s) {i : Nat} {env : Env}
    {t : Thread Op Op.Answer Request (Except JsError Reply)} {dto : CreateRefundDto} {plan : RefundPlan}
    (stands : s.threads[i]? = some t) (planned : Planned id amount (refundedOf s.world.db id) (pending s) plan)
    (carried : amountAt t.prog.waiting = plan.requestedAmount) (fresh : s.world.db.refunds.find env.id = none)
    (refundResult : RefundResult) :
    ∃ pair, Query.exec P env (.recordRefund (plan.newRefund dto refundResult) (plan.marksRefunded refundResult)) s.world.db =
      .ok pair := by
  obtain ⟨row, found, _, _⟩ := balanced.status
  have below : plan.requestedAmount ≤ pending s := by
    rw [← carried]
    exact balanced.le_pending staged (List.mem_of_getElem? stands)
  obtain ⟨stored, amountIs, _⟩ := balanced.fits planned below
  have known : s.world.db.intents.find plan.intent.id = some row := by
    rw [planned.named]
    exact found
  generalize dataIs : plan.newRefund dto refundResult = data
  have sameAmount : Decimal.ofNumber data.amount = some stored := by rw [← dataIs]; exact amountIs
  have sameIntent : s.world.db.intents.find data.paymentIntentId = some row := by rw [← dataIs]; exact known
  obtain ⟨refund, db, ran⟩ := recordRefundTx_fresh sameAmount fresh sameIntent (plan.marksRefunded refundResult)
  exact ⟨_, ran⟩

/-- A call that reads the intent puts an amount in progress if its checks let it pass. -/
theorem Balanced.read (balanced : Balanced P id amount s) (staged : Staged P id s) {i : Nat} {env : Env} {text : String}
    {dto : CreateRefundDto} {merchantId : Uuid} {w : World} {answer : (Op.query (.findIntent text)).Answer}
    {next : (Op.query (.findIntent text)).Answer → Prog Op Op.Answer (Except JsError Reply)}
    (stands : s.threads[i]? = some ⟨.refund text dto merchantId, .await (.query (.findIntent text)) next⟩)
    (named : P.readUuid text = some id) (whole : ∀ amount, dto.amount = .value amount → WholeCents amount) (first : own i s.log = [])
    (stageAfter : RefundStage P text dto merchantId [⟨.query (.findIntent text), answer⟩] (next answer).waiting)
    (did : Performed P env s.world (.query (.findIntent text)) answer w) (leaves : LeavesRest P id s (.advance i env)) :
    Balanced P id amount ⟨w, s.threads.set i ⟨.refund text dto merchantId, next answer⟩,
      (i, ⟨.query (.findIntent text), answer⟩) :: s.log⟩ := by
  have stage : RefundStage P text dto merchantId (⟨.query (.findIntent text), answer⟩ :: own i s.log) (next answer).waiting := by
    rw [first]
    exact stageAfter
  cases did with
  | @refused _ cause why =>
    refine balanced.steady staged stands rfl ⟨rfl, rfl, rfl⟩ (by simp) ?_ stage
    intro plan carries
    rw [first] at carries
    obtain ⟨_, _, shown⟩ := carries.read
    cases shown
  | readIntent read =>
    cases named.symm.trans read
    cases accepted : refundPlan P text dto merchantId (s.world.db.shown id) with
    | error err =>
      refine balanced.steady staged stands rfl ⟨rfl, rfl, rfl⟩ (by simp) ?_ stage
      intro plan carries
      rw [first] at carries
      obtain ⟨_, made, shown⟩ := carries.read
      cases shown
      cases accepted.symm.trans made
    | ok plan =>
      have rest : plan.ExactToTheCent (s.world.db.refundsOf id) ∧
          (pending s = 0 ∨ plan.requestedAmount + pending s < plan.remainingBalance) := by
        simpa only [LeavesRest, RestLeft, stands, Prog.waiting, accepted] using leaves
      have asks := stageAfter.asks accepted
      refine balanced.accept staged stands rfl whole first accepted rest.1 rest.2 ?_ ?_
      · exact congrArg amountAt asks
      · exact congrArg recordingAt asks

/-- The transaction of an accepted refund goes through, and moves its amount to the stored ones. -/
theorem Balanced.recorded (balanced : Balanced P id amount s) (staged : Staged P id s) {i : Nat} {env : Env} {text : String}
    {dto : CreateRefundDto} {merchantId : Uuid} {plan : RefundPlan} {found : Option IntentWithRefunds}
    {refundResult : RefundResult} {w : World}
    {answer : (Op.query (.recordRefund (plan.newRefund dto refundResult) (plan.marksRefunded refundResult))).Answer}
    {next : (Op.query (.recordRefund (plan.newRefund dto refundResult) (plan.marksRefunded refundResult))).Answer →
      Prog Op Op.Answer (Except JsError Reply)}
    (stands : s.threads[i]? = some ⟨.refund text dto merchantId,
      .await (.query (.recordRefund (plan.newRefund dto refundResult) (plan.marksRefunded refundResult))) next⟩)
    (first : own i s.log =
      [⟨.refund plan.intent.gateway plan.gatewayPaymentId plan.requestedAmount plan.intent.currency dto.reason, .ok refundResult⟩,
        ⟨.query (.findIntent text), .ok found⟩])
    (accepted : refundPlan P text dto merchantId found = .ok plan)
    (stageAfter : RefundStage P text dto merchantId
      (⟨.query (.recordRefund (plan.newRefund dto refundResult) (plan.marksRefunded refundResult)), answer⟩ :: own i s.log)
      (next answer).waiting)
    (did : Performed P env s.world (.query (.recordRefund (plan.newRefund dto refundResult) (plan.marksRefunded refundResult))) answer w)
    (calm : env.fails = false ∧ s.world.db.refunds.find env.id = none) :
    Balanced P id amount ⟨w, s.threads.set i ⟨.refund text dto merchantId, next answer⟩,
      (i, ⟨.query (.recordRefund (plan.newRefund dto refundResult) (plan.marksRefunded refundResult)), answer⟩) :: s.log⟩ := by
  have carries : Carries P text dto merchantId plan (own i s.log) := by
    rw [first]
    exact .recording accepted
  have planned := balanced.plans i _ text dto merchantId plan stands rfl carries
  have answered : (⟨.refund plan.intent.gateway plan.gatewayPaymentId plan.requestedAmount plan.intent.currency dto.reason,
      .ok refundResult⟩ : (op : Op) × op.Answer) ∈ own i s.log := by
    rw [first]
    exact List.mem_cons_self ..
  have succeeded := balanced.succeeded _ _ _ _ _ _ _ (mem_own.mp answered)
  have idle := stageAfter.idle_amounts fun _ impossible => impossible.not_long (by rw [first]; exact List.mem_cons_self ..)
  cases did with
  | refused why =>
    obtain ⟨pair, ran⟩ := balanced.goes_through staged stands planned rfl calm.2 refundResult
    rcases why with ⟨struck, _⟩ | ⟨_, refused⟩
    · rw [calm.1] at struck
      cases struck
    · rw [ran] at refused
      cases refused
  | @refunded _ _ stored _ row _ spared amountIs rowIs known rows events intents =>
    refine balanced.record staged stands carries succeeded amountIs ?_ rows ?_ idle
    · rw [rowIs]
      exact ⟨planned.named, rfl, succeeded⟩
    · rw [← planned.named]
      exact intents

/-- Every operation of a refund call keeps the balance. -/
theorem Balanced.step (balanced : Balanced P id amount s) (staged : Staged P id s) {i : Nat} {env : Env} {text : String}
    {dto : CreateRefundDto} {merchantId : Uuid} {op : Op}
    {next : op.Answer → Prog Op Op.Answer (Except JsError Reply)} {answer : op.Answer} {w : World}
    (stands : s.threads[i]? = some ⟨.refund text dto merchantId, .await op next⟩) (named : P.readUuid text = some id)
    (whole : ∀ amount, dto.amount = .value amount → WholeCents amount)
    (stageAfter : RefundStage P text dto merchantId (⟨op, answer⟩ :: own i s.log) (next answer).waiting)
    (course : RefundCourse P text dto merchantId (own i s.log) op) (did : Performed P env s.world op answer w)
    (met : RefundsOnly P id s (.advance i env) ∧ LeavesRest P id s (.advance i env)) :
    Balanced P id amount ⟨w, s.threads.set i ⟨.refund text dto merchantId, next answer⟩, (i, ⟨op, answer⟩) :: s.log⟩ := by
  generalize first : own i s.log = seen at course
  cases course with
  | read =>
    rw [first] at stageAfter
    exact balanced.read staged stands named whole first stageAfter did met.2
  | @ask found plan accepted =>
    have calm : env.fails = false ∧ env.refund.status = .succeeded := by
      simpa [RefundsOnly, Succeeds, stands, Prog.waiting] using met.1
    cases did with
    | paidBack answered =>
      rw [calm.1, if_neg (by simp)] at answered
      cases answered
      rw [first] at stageAfter
      have records := stageAfter.records accepted
      refine balanced.ask staged stands first accepted calm.2 ⟨?_, ?_⟩
      · exact congrArg amountAt records
      · exact congrArg recordingAt records
  | @record found plan refundResult accepted =>
    have calm : env.fails = false ∧ s.world.db.refunds.find env.id = none := by
      simpa [RefundsOnly, Succeeds, stands, Prog.waiting] using met.1
    exact balanced.recorded staged stands first accepted stageAfter did calm
  | @report _ _ plan refundResult newRefund recorded shape =>
    have nothing : ∀ plan, ¬ Carries P text dto merchantId plan (⟨op, answer⟩ :: own i s.log) := by
      intro plan carries
      rw [first] at carries
      exact carries.not_long (List.mem_cons_of_mem _ recorded)
    rcases shape with ⟨id, rfl⟩ | ⟨url, secret, rfl⟩
    · have same : w.db = s.world.db := by cases did <;> rfl
      exact balanced.steady staged stands same ⟨rfl, rfl, rfl⟩ (by simp) nothing stageAfter
    · have same : w.db = s.world.db := by cases did <;> rfl
      exact balanced.steady staged stands same ⟨rfl, rfl, rfl⟩ (by simp) nothing stageAfter

end

/-- Nothing has been refunded before the first request. -/
theorem Balanced.initial {P : Platform} {id : Uuid} {intent : PaymentIntent} {db : Database} (queue : List OutboundWebhookJobData)
    (found : db.intents.find id = some intent) (captured : intent.status = .captured) (positive : 0 < intent.amount.toNumber)
    (none : db.refundsOf id = []) : Balanced P id intent.amount.toNumber (.initial ⟨db, queue⟩) := by
  have nothing : refundedOf db id = 0 := by simp [refundedOf, none, storedTotal]
  refine ⟨⟨intent, found, rfl, ?_⟩, nothing.ge, ?_, ?_, ?_, ?_⟩
  · simp only [Pool.initial, nothing, captured]
    constructor
    · intro impossible
      cases impossible
    · intro empty
      exact absurd empty positive.ne
  · simp only [Pool.initial, nothing, pending, List.map_nil, List.sum_nil, add_zero]
    exact positive.le
  · simp [Pool.initial, nothing, PayBridge.asked, recording]
  · intro i t text dto merchantId plan atI
    simp [Pool.initial] at atI
  · intro i gateway gatewayPaymentId sum currency reason refundResult member
    cases member

/-- A request that arrives has not asked for anything yet. -/
theorem Balanced.spawn {P : Platform} {id : Uuid} {amount : ℚ} {s : Service} {request : Request} (balanced : Balanced P id amount s)
    (call : RefundCall P id request) (fresh : own s.threads.length s.log = []) :
    Balanced P id amount { s with threads := s.threads ++ [⟨request, (payments P).start request⟩] } := by
  obtain ⟨text, dto, merchantId, rfl, _⟩ := call
  have waits : ((payments P).start (.refund text dto merchantId)).waiting = some (.query (.findIntent text)) := rfl
  have samePending : pending { s with threads := s.threads ++ [⟨.refund text dto merchantId, (payments P).start (.refund text dto merchantId)⟩] } =
      pending s := by
    simp [pending, waits, amountAt]
  have sameRecording : recording { s with threads := s.threads ++ [⟨.refund text dto merchantId, (payments P).start (.refund text dto merchantId)⟩] } =
      recording s := by
    simp [recording, waits, recordingAt]
  refine ⟨balanced.status, balanced.nonneg, ?_, ?_, ?_, balanced.succeeded⟩
  · rw [samePending]
    exact balanced.within
  · rw [sameRecording]
    exact balanced.asked
  · intro i t text' dto' merchantId' plan atI same carries
    rw [samePending]
    rcases Pool.spawn_thread (payments P) atI with old | ⟨rfl, rfl⟩
    · exact balanced.plans i t text' dto' merchantId' plan old same carries
    · rw [fresh] at carries
      cases carries

/-- The balance holds in every state that refund calls on one intent reach. -/
theorem balanced {P : Platform} {id : Uuid} {intent : PaymentIntent} {db : Database}
    {queue : List OutboundWebhookJobData} {s : Service} (found : db.intents.find id = some intent)
    (captured : intent.status = .captured) (positive : 0 < intent.amount.toNumber) (none : db.refundsOf id = [])
    (reach : Reach (payments P) (fun s step => RefundsOnly P id s step ∧ LeavesRest P id s step) ⟨db, queue⟩ s) :
    Balanced P id intent.amount.toNumber s := by
  have only : ∀ s request, (fun s step => RefundsOnly P id s step ∧ LeavesRest P id s step) s (.spawn request) →
      RefundCall P id request := fun _ _ met => met.1
  induction reach using service_steps with
  | initial => exact .initial queue found captured positive none
  | spawn s request before met ih _ => exact ih.spawn met.1 before.own_fresh
  | advance s i env request op next answer w before met stands course did ih after =>
    obtain ⟨text, dto, merchantId, asks, named, whole, stage⟩ := staged only before i _ stands
    cases asks
    have inside : (s.threads.set i ⟨.refund text dto merchantId, next answer⟩)[i]? =
        some ⟨.refund text dto merchantId, next answer⟩ := by
      obtain ⟨bound, _⟩ := List.getElem?_eq_some_iff.mp stands
      simp [bound]
    obtain ⟨_, _, _, same, _, _, stageAfter⟩ := staged only after i _ inside
    cases same
    rw [own_cons_self] at stageAfter
    exact ih.step (staged only before) stands named whole stageAfter course did met

/-- Nothing is in progress once every request has ended. -/
theorem pending_ended {s : Service} (ended : ∀ t ∈ s.threads, t.prog.waiting = none) : pending s = 0 ∧ recording s = 0 := by
  constructor
  · refine List.sum_eq_zero fun x member => ?_
    obtain ⟨t, inside, rfl⟩ := List.mem_map.mp member
    rw [ended t inside]
    rfl
  · refine List.sum_eq_zero fun x member => ?_
    obtain ⟨t, inside, rfl⟩ := List.mem_map.mp member
    rw [ended t inside]
    rfl

theorem Balanced.recording_le {P : Platform} {id : Uuid} {amount : ℚ} {s : Service} (balanced : Balanced P id amount s)
    (staged : Staged P id s) : recording s ≤ pending s := by
  refine List.sum_le_sum fun t member => ?_
  have positive := balanced.amountAt_nonneg staged t member
  generalize t.prog.waiting = waiting at positive ⊢
  unfold amountAt recordingAt at *
  split
  · rfl
  · exact positive

/-- Refund calls on a captured intent, in any number and interleaving, never
refund more than its amount, and leave it REFUNDED exactly when they have used
the amount up, if the figures of every accepted request are exact to the cent and
those accepted while others are in progress leave something of the balance after
all of them. -/
theorem refunds_balance {P : Platform} {id : Uuid} {intent : PaymentIntent} {db : Database}
    {queue : List OutboundWebhookJobData} {s : Service} (found : db.intents.find id = some intent)
    (captured : intent.status = .captured) (positive : 0 < intent.amount.toNumber) (none : db.refundsOf id = [])
    (reach : Reach (payments P) (fun s step => RefundsOnly P id s step ∧ LeavesRest P id s step) ⟨db, queue⟩ s) :
    BalanceKept id intent.amount.toNumber s := by
  have only : ∀ s request, (fun s step => RefundsOnly P id s step ∧ LeavesRest P id s step) s (.spawn request) →
      RefundCall P id request := fun _ _ met => met.1
  have holds := balanced found captured positive none reach
  have here := staged only reach
  have within := holds.within
  have total := holds.asked
  refine ⟨?_, ?_, ?_⟩
  · linarith [holds.pending_nonneg here]
  · linarith [holds.recording_le here]
  · intro ended
    obtain ⟨_, unrecorded⟩ := pending_ended ended
    obtain ⟨row, known, _, refundedIff⟩ := holds.status
    exact ⟨row, known, by linarith, refundedIff⟩

/-- A full refund of the sample intent. -/
def fullRefund : Request :=
  .refund (sampleIntent .captured).id.text ⟨.undefined, .undefined⟩ sampleMerchant.id

theorem fullRefund_call : RefundCall doublePlatform (sampleIntent .captured).id fullRefund := by
  refine ⟨_, _, _, rfl, by decide +kernel, ?_⟩
  intro amount given
  cases given

theorem refunds_balance_sample : BalanceKept (sampleIntent .captured).id (sampleIntent .captured).amount.toNumber
    ((Pool.initial ⟨sampleDatabase .captured, []⟩).run (payments doublePlatform)
      [.spawn fullRefund, .advance 0 calmEnv, .advance 0 calmEnv, .advance 0 calmEnv, .spawn fullRefund,
        .advance 1 calmEnv]) := by
  have found : (sampleDatabase .captured).intents.find (sampleIntent .captured).id = some (sampleIntent .captured) := by
    decide +kernel
  have none : (sampleDatabase .captured).refundsOf (sampleIntent .captured).id = [] := by decide +kernel
  refine refunds_balance found rfl (by decide +kernel) none (.run .start ?_)
  exact ⟨⟨fullRefund_call, trivial⟩, by decide +kernel, by decide +kernel, by decide +kernel,
    ⟨fullRefund_call, trivial⟩, by decide +kernel, trivial⟩

/-- Two calls that read the same balance both ask the provider for all of it. -/
theorem two_full_refunds : ¬ ∀ (P : Platform) (id : Uuid) (intent : PaymentIntent) (db : Database)
    (queue : List OutboundWebhookJobData) (s : Service), db.intents.find id = some intent →
    intent.status = .captured → 0 < intent.amount.toNumber → db.refundsOf id = [] →
    Reach (payments P) (RefundsOnly P id) ⟨db, queue⟩ s → BalanceKept id intent.amount.toNumber s := by
  intro always
  let events : List Step :=
    [.spawn fullRefund, .spawn fullRefund, .advance 0 calmEnv, .advance 1 calmEnv, .advance 0 calmEnv, .advance 1 calmEnv]
  have found : (sampleDatabase .captured).intents.find (sampleIntent .captured).id = some (sampleIntent .captured) := by
    decide +kernel
  have none : (sampleDatabase .captured).refundsOf (sampleIntent .captured).id = [] := by decide +kernel
  have met : (Pool.initial ⟨sampleDatabase .captured, []⟩).Meets (payments doublePlatform)
      (RefundsOnly doublePlatform (sampleIntent .captured).id) events := by
    exact ⟨fullRefund_call, fullRefund_call, by decide +kernel, by decide +kernel, by decide +kernel,
      by decide +kernel, trivial⟩
  have kept := always doublePlatform _ _ _ [] _ found rfl (by decide +kernel) none (.run .start met)
  have exceeds : ¬ asked ((Pool.initial ⟨sampleDatabase .captured, []⟩).run (payments doublePlatform) events) ≤
      (sampleIntent .captured).amount.toNumber := by
    decide +kernel
  exact exceeds kept.2.1

end PayBridge
