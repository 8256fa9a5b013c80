import PayBridge.Await.Twin
import PayBridge.ReconcileRun
import PayBridge.TenantView

namespace PayBridge
open Store Await

/-- The route behind the API key guard; the merchant of the key is not passed on. -/
def triggerReconciliation (P : Platform) (_merchantId : Uuid) : Promise ReconciliationSummary := reconcileStaleIntents P

/-- The tables without the payments of other merchants. -/
def Database.alone (db : Database) (m : Uuid) : Database where
  merchants := db.merchants
  intents := db.intents.filter fun intent => intent.merchantId = m
  events := db.events.filter fun event => db.owns m event.paymentIntentId
  refunds := db.refunds.filter fun refund => db.owns m refund.paymentIntentId
  intentMerchant intent member := db.intentMerchant intent (List.mem_filter.mp member).1
  eventIntent event member := by
    obtain ⟨intent, stored, named, owned⟩ := Database.owns_iff.mp (List.mem_filter.mp member).2
    exact ⟨intent, List.mem_filter.mpr ⟨stored, by simpa using owned⟩, named⟩
  refundIntent refund member := by
    obtain ⟨intent, stored, named, owned⟩ := Database.owns_iff.mp (List.mem_filter.mp member).2
    exact ⟨intent, List.mem_filter.mpr ⟨stored, by simpa using owned⟩, named⟩

/-- The outcome of a trigger in an environment that gives each step of a run what it meets. -/
abbrev triggered (P : Platform) (env : Nat → Env) (m : Uuid) (w : World) :
    Outcome Op.Answer World (Except JsError ReconciliationSummary) :=
  Async.play (perform P) (fun n _ => env n) (triggerReconciliation P m) [] w

/-- A merchant that triggers a reconciliation sees the same in both worlds, and
changes no intent of another merchant in either. -/
structure TriggerIsolated (P : Platform) (env : Nat → Env) (m : Uuid) (left right : World) : Prop where
  same : (triggered P env m left).value = (triggered P env m right).value
  left : ((triggered P env m left).world.db.others m).intents = (left.db.others m).intents
  right : ((triggered P env m right).world.db.others m).intents = (right.db.others m).intents

/-- No other merchant has an intent that the run scans, if it comes to the scan. -/
def QuietFor (P : Platform) (env : Nat → Env) (m : Uuid) (db : Database) : Prop :=
  ∀ cutoff, cutoffDate P (env 0).now = some cutoff → (env 1).fails = false →
    ∀ intent ∈ db.staleIntents cutoff, intent.merchantId = m

/-- How two worlds that agree on a merchant's intents stand in a sweep over some of them. -/
structure Sweeping (m : Uuid) (ids : List Uuid) (left right l r : World) : Prop where
  intents : (l.db.view m).intents = (r.db.view m).intents
  owned : ∀ id ∈ ids, l.db.owns m id = true
  leftOthers : (l.db.others m).intents = (left.db.others m).intents
  rightOthers : (r.db.others m).intents = (right.db.others m).intents

section
variable {P : Platform} {env : Nat → Env} {m : Uuid} {ids : List Uuid} {left right : World}

/-- A write of a scanned intent goes alike in both worlds. -/
theorem update_twins {id : Uuid} (status : PaymentStatus) (scanned : id ∈ ids) :
    Async.Twins (perform P) env (Sweeping m ids left right) Eq (query (.updateIntent id status))
      (query (.updateIntent id status)) := by
  refine Async.Twins.request fun e l r stand => ?_
  cases fails : e.fails with
  | true =>
    simp only [perform, fails, if_true]
    exact ⟨.thrown _, stand⟩
  | false =>
    have mine := stand.owned id scanned
    obtain ⟨intent, member, named, owned⟩ := Database.owns_iff.mp mine
    have found : l.db.intents.find id = some intent := Table.find_some.mpr ⟨member, named⟩
    have also : r.db.owns m id = true := (Database.owns_agree stand.intents).symm.trans mine
    simp only [perform, fails, Bool.false_eq_true, if_false, Query.exec, paymentIntentUpdate_known found,
      paymentIntentUpdate_known (Database.find_agree stand.intents found owned)]
    refine ⟨.returned rfl, ?_, ?_, ?_, ?_⟩
    · exact (Database.setStatus_own ..).trans ((congrArg _ stand.intents).trans (Database.setStatus_own ..).symm)
    · exact fun j listed => (Database.owns_setStatus ..).trans (stand.owned j listed)
    · exact (Database.setStatus_others mine).trans stand.leftOthers
    · exact (Database.setStatus_others also).trans stand.rightOthers

/-- A notice goes alike in both worlds, whatever endpoint the merchant has there. -/
theorem dispatch_twins (event : OutboundEventType) (data : PaymentIntentData) (merchantId : Option Uuid) :
    Async.Twins (perform P) env (Sweeping m ids left right) (fun _ _ => True)
      (dispatchPaymentEvent P event data merchantId none none) (dispatchPaymentEvent P event data merchantId none none) := by
  have config : Async.Twins (perform P) env (Sweeping m ids left right) (fun _ _ => True)
      (merchantWebhookConfig merchantId none none) (merchantWebhookConfig merchantId none none) := by
    cases merchantId with
    | none => exact .pure trivial
    | some id =>
      refine Async.Twins.tryCatch (Async.Twins.bind (V := fun _ _ => True) (Async.Twins.request fun e l r stand => ?_) ?_)
        fun _ => .pure trivial
      · cases fails : e.fails with
        | true =>
          simp only [perform, fails, if_true]
          exact ⟨.thrown _, stand⟩
        | false =>
          simp only [perform, fails, Bool.false_eq_true, if_false, Query.exec]
          exact ⟨.returned trivial, stand⟩
      · intro there here _
        cases there <;> cases here <;> exact .pure trivial
  unfold dispatchPaymentEvent
  refine config.bind fun there here _ => Async.Twins.request fun e l r stand => ?_
  cases fails : e.fails with
  | true =>
    simp only [perform, fails, if_true]
    exact ⟨.thrown _, stand⟩
  | false =>
    simp only [perform, fails, Bool.false_eq_true, if_false]
    exact ⟨.returned trivial, stand.intents, stand.owned, stand.leftOthers, stand.rightOthers⟩

theorem now_twins : Async.Twins (perform P) env (Sweeping m ids left right) Eq dateNow dateNow :=
  Async.Twins.request fun _ _ _ stand => ⟨.returned rfl, stand⟩

/-- A write of a scanned intent and its notice. -/
theorem settle_twins {id : Uuid} (status : PaymentStatus) (event : OutboundEventType) (counted : ReconciliationSummary)
    (scanned : id ∈ ids) :
    Async.Twins (perform P) env (Sweeping m ids left right) Eq
      (do
        let updated ← query (.updateIntent id status)
        dispatchPaymentEvent P event updated.eventData (some updated.merchantId) none none
        return counted : Promise ReconciliationSummary)
      (do
        let updated ← query (.updateIntent id status)
        dispatchPaymentEvent P event updated.eventData (some updated.merchantId) none none
        return counted) := by
  refine (update_twins status scanned).bind fun updated _ same => ?_
  subst same
  exact Async.Twins.bind (dispatch_twins _ _ _) fun _ _ _ => .pure rfl

/-- A round over a scanned intent of the merchant goes alike in both worlds. -/
theorem round_twins (intent : PaymentIntent) (scanned : intent.id ∈ ids) (summary : ReconciliationSummary) :
    Async.Twins (perform P) env (Sweeping m ids left right) Eq (reconcileIntent P intent summary)
      (reconcileIntent P intent summary) := by
  unfold reconcileIntent
  refine Async.Twins.tryCatch ?_ fun _ => .pure rfl
  split
  · unfold reconcileAbandoned
    refine now_twins.bind fun now _ same => ?_
    subst same
    simp only
    split
    · exact (update_twins .failed scanned).bind fun _ _ _ => .pure rfl
    · exact .pure rfl
  · unfold reconcileKnown
    simp only [fetchPaymentStatus_eq]
    refine Async.Twins.bind (V := Eq) (Async.Twins.request fun e l r stand => ?_) fun providerStatus _ same => ?_
    · cases fails : e.fails with
      | true =>
        simp only [perform, fails, if_true]
        exact ⟨.thrown _, stand⟩
      | false =>
        simp only [perform, fails, Bool.false_eq_true, if_false]
        exact ⟨.returned rfl, stand⟩
    · subst same
      cases providerStatus with
      | captured => exact settle_twins .captured .paymentSucceeded _ scanned
      | failed => exact settle_twins .failed .paymentFailed _ scanned
      | _ => exact .pure rfl

variable (P env) in
/-- The loop over intents of the merchant goes alike in both worlds. -/
theorem loop_twins (rows : List PaymentIntent) (scanned : ∀ intent ∈ rows, intent.id ∈ ids) (summary : ReconciliationSummary) :
    Async.Twins (perform P) env (Sweeping m ids left right) Eq (reconcileAll P rows summary) (reconcileAll P rows summary) := by
  induction rows generalizing summary with
  | nil => exact .pure rfl
  | cons intent rest ih =>
    refine (round_twins intent (scanned intent (List.mem_cons_self ..)) summary).bind fun counted _ same => ?_
    subst same
    exact ih (fun i member => scanned i (List.mem_cons_of_mem _ member)) counted

/-- A trigger comes to its scan, or fails alike on every world and leaves it. -/
theorem triggered_cases (P : Platform) (env : Nat → Env) (m : Uuid) :
    (∃ cutoff, cutoffDate P (env 0).now = some cutoff ∧ (env 1).fails = false) ∨
      ∃ err, ∀ w, (triggered P env m w).value = .error err ∧ (triggered P env m w).world = w := by
  have clock : ∀ w seen, Async.play (perform P) (fun n _ => env n) dateNow seen w =
      ⟨.ok (env seen.length).now, w, ⟨.now, (env seen.length).now⟩ :: seen⟩ := fun _ _ => rfl
  cases cut : cutoffDate P (env 0).now with
  | none =>
    refine Or.inr ⟨⟨.rangeError, "Invalid time value"⟩, fun w => ?_⟩
    unfold cutoffDate at cut
    simp only [triggered, triggerReconciliation, reconcileStaleIntents, Async.play_bind, clock, List.length_nil, cut]
    exact ⟨rfl, rfl⟩
  | some cutoff =>
    cases fails : (env 1).fails with
    | false => exact Or.inl ⟨cutoff, rfl, rfl⟩
    | true =>
      refine Or.inr ⟨DbError.unavailable.thrown (env 1).message, fun w => ?_⟩
      have struck : perform P (env 1) (.query (.findStaleIntents cutoff)) w =
          (.error (DbError.unavailable.thrown (env 1).message), w) := by
        simp only [perform, fails, if_true]
      unfold cutoffDate at cut
      simp only [triggered, triggerReconciliation, reconcileStaleIntents, Async.play_bind, clock, List.length_nil, cut,
        query, Async.play_request, List.length_singleton, struck]
      exact ⟨trivial, trivial⟩

/-- The stale intents of a quiet world are the stale ones among the merchant's own. -/
theorem staleIntents_quiet {db : Database} {cutoff : Timestamp}
    (quiet : ∀ intent ∈ db.staleIntents cutoff, intent.merchantId = m) :
    db.staleIntents cutoff =
      (db.view m).intents.filter fun intent => intent.status = .pending ∧ intent.createdAt ≤ cutoff := by
  have all : db.staleIntents cutoff = (db.staleIntents cutoff).filter fun intent => intent.merchantId = m :=
    (List.filter_eq_self.mpr fun intent member => by simpa using quiet intent member).symm
  rw [all]
  simp only [Database.staleIntents, Database.view, List.filter_filter]
  exact List.filter_congr fun intent _ => Bool.and_comm _ _

/-- In quiet worlds that agree on its intents a merchant's trigger is isolated. -/
theorem trigger_isolated (same : (left.db.view m).intents = (right.db.view m).intents)
    (quietLeft : QuietFor P env m left.db) (quietRight : QuietFor P env m right.db) : TriggerIsolated P env m left right := by
  rcases triggered_cases P env m with ⟨cutoff, cut, spared⟩ | ⟨err, failed⟩
  · have stale : left.db.staleIntents cutoff = right.db.staleIntents cutoff := by
      rw [staleIntents_quiet (quietLeft cutoff cut spared), staleIntents_quiet (quietRight cutoff cut spared), same]
    have start : Sweeping m ((left.db.staleIntents cutoff).map PaymentIntent.id) left right left right := by
      refine ⟨same, fun id listed => ?_, rfl, rfl⟩
      obtain ⟨intent, member, rfl⟩ := List.mem_map.mp listed
      exact Database.owns_iff.mpr
        ⟨intent, (List.mem_filter.mp member).1, rfl, quietLeft cutoff cut spared intent member⟩
    obtain ⟨together, _, stand⟩ := loop_twins P env (left.db.staleIntents cutoff)
      (fun intent member => List.mem_map_of_mem member) ⟨(left.db.staleIntents cutoff).length, 0, 0, 0, [], (env 2).now⟩
      [⟨.now, (env 2).now⟩, ⟨.query (.findStaleIntents cutoff), .ok (left.db.staleIntents cutoff)⟩, ⟨.now, (env 0).now⟩]
      _ left right rfl start
    have ranLeft := play_reconcile P (fun n _ => env n) left cut spared
    have ranRight := play_reconcile P (fun n _ => env n) right cut spared
    rw [← stale] at ranRight
    refine ⟨?_, ?_, ?_⟩
    · exact (congrArg Outcome.value ranLeft).trans (together.eq.trans (congrArg Outcome.value ranRight).symm)
    · exact (congrArg (fun o : Outcome _ _ _ => (o.world.db.others m).intents) ranLeft).trans stand.leftOthers
    · exact (congrArg (fun o : Outcome _ _ _ => (o.world.db.others m).intents) ranRight).trans stand.rightOthers
  · obtain ⟨thrown, stood⟩ := failed left
    obtain ⟨thrown', stood'⟩ := failed right
    exact ⟨thrown.trans thrown'.symm, by rw [stood], by rw [stood']⟩

/-- The loop never changes the count of scanned intents, and never throws. -/
theorem loop_scanned (P : Platform) (rows : List PaymentIntent) (summary : ReconciliationSummary) (seen : History Op.Answer) :
    Async.Obeys (fun _ _ => True) (fun _ counted => counted.scanned = summary.scanned) (fun _ _ => False)
      (reconcileAll P rows summary) seen := by
  refine obeys_reconcileAll P (fun intent _ counted start same => ?_) rfl
  exact (reconcileIntent_course P intent start counted).mono (fun _ _ _ => trivial) (fun _ _ kept => kept.2.trans same)
    fun _ _ never => never

/-- A trigger that comes to its scan reports how many stale intents there are. -/
theorem triggered_scanned (P : Platform) (env : Nat → Env) (m : Uuid) (w : World) {cutoff : Timestamp}
    (cut : cutoffDate P (env 0).now = some cutoff) (spared : (env 1).fails = false) :
    ∃ summary, (triggered P env m w).value = .ok summary ∧ summary.scanned = (w.db.staleIntents cutoff).length := by
  have ran := play_reconcile P (fun n _ => env n) w cut spared
  obtain ⟨_, ended⟩ := (loop_scanned P (w.db.staleIntents cutoff)
    ⟨(w.db.staleIntents cutoff).length, 0, 0, 0, [], (env 2).now⟩
    [⟨.now, (env 2).now⟩, ⟨.query (.findStaleIntents cutoff), .ok (w.db.staleIntents cutoff)⟩,
      ⟨.now, (env 0).now⟩]).kept (perform P) (fun n _ => env n) (I := fun _ _ => True) (fun _ _ _ _ _ => trivial) w trivial
  rw [← ran] at ended
  have value : (triggered P env m w).value = (Async.play (perform P) (fun n _ => env n) (reconcileStaleIntents P) [] w).value := rfl
  cases outcome : (triggered P env m w).value with
  | ok summary =>
    rw [← value, outcome] at ended
    exact ⟨summary, rfl, ended⟩
  | error err =>
    rw [← value, outcome] at ended
    exact ended.elim

/-- Beside a quiet world that agrees on its intents, a merchant's trigger is
isolated only in quiet worlds: the count of scanned intents tells. -/
theorem quiet_of_isolated (same : (left.db.view m).intents = (right.db.view m).intents)
    (quietRight : QuietFor P env m right.db) (isolated : TriggerIsolated P env m left right) : QuietFor P env m left.db := by
  intro cutoff cut spared
  obtain ⟨summary, value, scanned⟩ := triggered_scanned P env m left cut spared
  obtain ⟨summary', value', scanned'⟩ := triggered_scanned P env m right cut spared
  have counts : (left.db.staleIntents cutoff).length = (right.db.staleIntents cutoff).length := by
    have alike := isolated.same
    rw [value, value', Except.ok.injEq] at alike
    rw [← scanned, alike, scanned']
  have own : right.db.staleIntents cutoff = (left.db.staleIntents cutoff).filter fun intent => intent.merchantId = m := by
    rw [staleIntents_quiet (quietRight cutoff cut spared), ← same]
    simp only [Database.staleIntents, Database.view, List.filter_filter]
    exact List.filter_congr fun intent _ => Bool.and_comm _ _
  rw [own] at counts
  intro intent member
  exact of_decide_eq_true (List.length_filter_eq_length_iff.mp counts.symm intent member)

theorem trigger_isolated_beside (same : (left.db.view m).intents = (right.db.view m).intents)
    (quietRight : QuietFor P env m right.db) : TriggerIsolated P env m left right ↔ QuietFor P env m left.db :=
  ⟨quiet_of_isolated same quietRight, fun quietLeft => trigger_isolated same quietLeft quietRight⟩

end

/-- What a merchant's trigger shows and changes is independent of the payments
of other merchants exactly when none of theirs is scanned. -/
theorem trigger_isolated_iff (P : Platform) (env : Nat → Env) (m : Uuid) :
    (∀ left right : World, (left.db.view m).intents = (right.db.view m).intents → QuietFor P env m right.db →
      (TriggerIsolated P env m left right ↔ QuietFor P env m left.db)) ∧
    ∀ w : World, TriggerIsolated P env m w ⟨w.db.alone m, w.queue⟩ ↔ QuietFor P env m w.db := by
  have beside : ∀ left right : World, (left.db.view m).intents = (right.db.view m).intents → QuietFor P env m right.db →
      (TriggerIsolated P env m left right ↔ QuietFor P env m left.db) :=
    fun _ _ same quiet => trigger_isolated_beside same quiet
  refine ⟨beside, fun w => beside w ⟨w.db.alone m, w.queue⟩ ?_ ?_⟩
  · simp only [Database.view, Database.alone, Table.filter, List.filter_filter, Bool.and_self]
  · intro cutoff _ _ intent member
    simpa using (List.mem_filter.mp (List.mem_filter.mp member).1).2

/-- Where nothing of the stranger is stale, the merchant's trigger is isolated. -/
theorem trigger_isolated_sample :
    TriggerIsolated plainPlatform (fun _ => calmEnv) sampleMerchant.id ⟨withStranger .pending .captured, []⟩
      ⟨sampleDatabase .pending, []⟩ := by
  have cut : cutoffDate plainPlatform calmEnv.now = some 99100000 := by decide +kernel
  have stale : ∀ intent ∈ (withStranger .pending .captured).staleIntents 99100000, intent.merchantId = sampleMerchant.id := by
    decide +kernel
  have alone : ∀ intent ∈ (sampleDatabase .pending).staleIntents 99100000, intent.merchantId = sampleMerchant.id := by
    decide +kernel
  refine ((trigger_isolated_iff plainPlatform (fun _ => calmEnv) sampleMerchant.id).1 ⟨withStranger .pending .captured, []⟩
    ⟨sampleDatabase .pending, []⟩ (by decide +kernel) fun cutoff cut' _ => ?_).mpr fun cutoff cut' _ => ?_
  · cases cut.symm.trans cut'
    exact alone
  · cases cut.symm.trans cut'
    exact stale

/-- A trigger of the merchant captures the stale intent of a stranger. -/
theorem trigger_changes_stranger :
    ¬ ∀ (P : Platform) (env : Nat → Env) (m : Uuid) (left right : World),
      (left.db.view m).intents = (right.db.view m).intents → TriggerIsolated P env m left right := by
  intro always
  have isolated := always plainPlatform (fun _ => calmEnv) sampleMerchant.id ⟨withStranger .captured .pending, []⟩
    ⟨sampleDatabase .captured, []⟩ (by decide +kernel)
  have before : ((withStranger .captured .pending).others sampleMerchant.id).intents.map PaymentIntent.status = [.pending] := by
    decide +kernel
  have after : ((triggered plainPlatform (fun _ => calmEnv) sampleMerchant.id
      ⟨withStranger .captured .pending, []⟩).world.db.others sampleMerchant.id).intents.map PaymentIntent.status =
        [.captured] := by decide +kernel
  rw [isolated.left, before] at after
  cases after

end PayBridge
