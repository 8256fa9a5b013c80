import PayBridge.Analytics
import PayBridge.TenantView

namespace PayBridge
open Store Await

/-- Two runs of one call of a merchant: they answer, ask and send the same, leave
the merchant the same rows and everyone else the rows they had. -/
structure Indistinct {Op α : Type} {Ans : Op → Type} (m : Uuid) (left right : World)
    (l r : Outcome Ans World (Except JsError α)) : Prop where
  value : l.value = r.value
  asked : l.log.map Sigma.fst = r.log.map Sigma.fst
  sent : ∃ jobs, l.world.queue = left.queue ++ jobs ∧ r.world.queue = right.queue ++ jobs
  view : l.world.db.view m = r.world.db.view m
  leftOthers : l.world.db.others m = left.db.others m
  rightOthers : r.world.db.others m = right.db.others m

/-- No id generated for a refund in a run is that of a refund of someone else. -/
def FreshIds (env : Nat → Op → Env) (m : Uuid) (db : Database) : Prop :=
  ∀ n data markRefunded, ∀ refund ∈ (db.others m).refunds, refund.id ≠ (env n (.query (.recordRefund data markRefunded))).id

/-- What a lookup has found is not the merchant's. -/
def Hidden (m : Uuid) (found : Option IntentWithRefunds) : Prop :=
  ∀ shown, found = some shown → shown.intent.merchantId ≠ m

/-- What the lookups say of an id that names no intent of the merchant. -/
def notFound (paymentIntentId : String) : JsError := ⟨.http 404, s!"Payment intent {paymentIntentId} was not found."⟩

section
variable {α : Type} {P : Platform} {m : Uuid} {left right : World}

theorem Indistinct.still {Op : Type} {Ans : Op → Type} {l r : Outcome Ans World (Except JsError α)}
    (same : left.db.view m = right.db.view m) (value : l.value = r.value)
    (asked : l.log.map Sigma.fst = r.log.map Sigma.fst) (stoodLeft : l.world = left) (stoodRight : r.world = right) :
    Indistinct m left right l r where
  value := value
  asked := asked
  sent := ⟨[], by rw [stoodLeft, List.append_nil], by rw [stoodRight, List.append_nil]⟩
  view := by rw [stoodLeft, stoodRight, same]
  leftOthers := by rw [stoodLeft]
  rightOthers := by rw [stoodRight]

/-- A lookup by a global id fails alike, or shows the same row, or shows each
world a row that is not the merchant's, if any. -/
theorem findIntent_agree (same : left.db.view m = right.db.view m) (env : Env) (text : String) :
    (∃ err, perform P env (.query (.findIntent text)) left = (.error err, left) ∧
      perform P env (.query (.findIntent text)) right = (.error err, right)) ∨
    ∃ id, perform P env (.query (.findIntent text)) left = (.ok (left.db.shown id), left) ∧
      perform P env (.query (.findIntent text)) right = (.ok (right.db.shown id), right) ∧
      (left.db.shown id = right.db.shown id ∨ Hidden m (left.db.shown id) ∧ Hidden m (right.db.shown id)) := by
  cases fails : env.fails with
  | true =>
    refine Or.inl ⟨DbError.unavailable.thrown env.message, ?_, ?_⟩ <;> simp only [perform, fails, if_true]
  | false =>
    cases named : P.readId text with
    | error err =>
      refine Or.inl ⟨err.thrown env.message, ?_, ?_⟩
      · simp only [perform, fails, Bool.false_eq_true, if_false, Query.exec, named, bind, Except.bind]
      · simp only [perform, fails, Bool.false_eq_true, if_false, Query.exec, named, bind, Except.bind]
    | ok id =>
      have read : ∀ w : World, perform P env (.query (.findIntent text)) w = (.ok (w.db.shown id), w) := by
        intro w
        simp only [perform, fails, Bool.false_eq_true, if_false, Query.exec, named, bind, Except.bind]
        rfl
      refine Or.inr ⟨id, read left, read right, ?_⟩
      by_cases hidden : Hidden m (left.db.shown id)
      · by_cases hidden' : Hidden m (right.db.shown id)
        · exact Or.inr ⟨hidden, hidden'⟩
        · simp only [Hidden, not_forall, not_not] at hidden'
          obtain ⟨⟨intent, refunds⟩, shown, owned⟩ := hidden'
          exact Or.inl ((Database.shown_agree same.symm shown owned).trans shown.symm)
      · simp only [Hidden, not_forall, not_not] at hidden
        obtain ⟨⟨intent, refunds⟩, shown, owned⟩ := hidden
        exact Or.inl (shown.trans (Database.shown_agree same shown owned).symm)

/-- A call that looks up a global id and turns away what is not the merchant's
tells nothing about it. -/
theorem lookup_indistinct {env : Nat → Op → Env} (same : left.db.view m = right.db.view m) (text : String)
    (next : Option IntentWithRefunds → Promise α)
    (refuses : ∀ found, Hidden m found → next found = Async.ofExcept (.error (notFound text)))
    (goes : ∀ id, left.db.shown id = right.db.shown id →
      Indistinct m left right
        (Async.play (perform P) env (next (left.db.shown id))
          [⟨.query (.findIntent text), .ok (left.db.shown id)⟩] left)
        (Async.play (perform P) env (next (left.db.shown id))
          [⟨.query (.findIntent text), .ok (left.db.shown id)⟩] right)) :
    Indistinct m left right
      (Async.play (perform P) env (do let found ← query (.findIntent text); next found : Promise α) [] left)
      (Async.play (perform P) env (do let found ← query (.findIntent text); next found : Promise α) [] right) := by
  have ran : ∀ (w : World) answer, perform P (env 0 (.query (.findIntent text))) (.query (.findIntent text)) w = (answer, w) →
      Async.play (perform P) env (query (.findIntent text)) [] w =
        ⟨answer, w, [⟨.query (.findIntent text), answer⟩]⟩ := by
    intro w answer performed
    simp only [query, Async.play_request, List.length_nil, performed]
  rcases findIntent_agree (P := P) same (env 0 (.query (.findIntent text))) text with
    ⟨err, there, here⟩ | ⟨id, there, here, alike | ⟨hidden, hidden'⟩⟩
  · simp only [Async.play_bind, ran left _ there, ran right _ here]
    exact .still same rfl rfl rfl rfl
  · simp only [Async.play_bind, ran left _ there, ran right _ here]
    rw [← alike]
    exact goes id alike
  · simp only [Async.play_bind, ran left _ there, ran right _ here, refuses _ hidden, refuses _ hidden']
    exact .still same rfl rfl rfl rfl

end

theorem refundPlan_hidden {m : Uuid} {found : Option IntentWithRefunds} (hidden : Hidden m found) (paymentIntentId : String)
    (dto : CreateRefundDto) :
    refundPlan P paymentIntentId dto m found = .error (notFound paymentIntentId) := by
  cases found with
  | none => rfl
  | some shown => exact if_pos (hidden shown rfl)

theorem ownRefunds_hidden {m : Uuid} {found : Option IntentWithRefunds} (hidden : Hidden m found) (paymentIntentId : String) :
    ownRefunds paymentIntentId m found = .error (notFound paymentIntentId) := by
  cases found with
  | none => rfl
  | some shown => exact if_pos (hidden shown rfl)

/-- What `processRefund` does once the request has passed its checks. -/
def executeRefund (P : Platform) (dto : CreateRefundDto) (plan : RefundPlan) : Promise RefundResponse := do
  let refundResult ← orchestratorRefund plan.intent.gateway plan.gatewayPaymentId plan.requestedAmount
    plan.intent.currency dto.reason
  let newRefund ← query (.recordRefund (plan.newRefund dto refundResult) (plan.marksRefunded refundResult))
  dispatchPaymentEvent P .paymentRefunded (plan.eventData dto refundResult newRefund)
    (some plan.intent.merchantId) none none
  return plan.response newRefund

theorem processRefund_eq (P : Platform) (paymentIntentId : String) (dto : CreateRefundDto) (merchantId : Uuid) :
    processRefund P paymentIntentId dto merchantId = (do
      let found ← query (.findIntent paymentIntentId)
      let plan ← Async.ofExcept (refundPlan P paymentIntentId dto merchantId found)
      executeRefund P dto plan) := rfl

/-- What an accepted refund of an intent of a merchant asks: nothing but about the two. -/
inductive RefundAsks (m id : Uuid) : Op → Prop
  | ask {gateway gatewayPaymentId amount currency reason} :
      RefundAsks m id (.refund gateway gatewayPaymentId amount currency reason)
  | record {data : NewRefund} {markRefunded} : data.paymentIntentId = id →
      RefundAsks m id (.query (.recordRefund data markRefunded))
  | lookup : RefundAsks m id (.query (.findMerchant m))
  | notify {event data url secret} : RefundAsks m id (.enqueue event data url secret)

theorem executeRefund_asks (P : Platform) (dto : CreateRefundDto) (plan : RefundPlan) (seen : History Op.Answer) :
    Async.Obeys (fun _ => RefundAsks plan.intent.merchantId plan.intent.id) (fun _ _ => True) (fun _ _ => True)
      (executeRefund P dto plan) seen := by
  unfold executeRefund
  simp only [orchestratorRefund_eq]
  refine (Async.obeys_bind _ _ _).mpr ((Async.obeys_request _ _ _).mpr ⟨.ask, ?_⟩)
  rintro (err | refundResult)
  · trivial
  refine (Async.obeys_bind _ _ _).mpr ((Async.obeys_request _ _ _).mpr ⟨.record rfl, ?_⟩)
  rintro (err | newRefund)
  · trivial
  refine (Async.obeys_bind _ _ _).mpr (obeys_dispatch _ _ _ _ _ _ _ ?_ ?_)
  · rintro id ⟨⟩
    exact .lookup
  · intro later url secret looked
    exact ⟨.notify, trivial, fun _ => trivial⟩

/-- How two worlds that agree for a merchant stand while it refunds an intent of its own. -/
structure Refunding (m id : Uuid) (left right l r : World) : Prop where
  view : l.db.view m = r.db.view m
  owned : l.db.owns m id = true
  sent : ∃ jobs, l.queue = left.queue ++ jobs ∧ r.queue = right.queue ++ jobs
  leftOthers : l.db.others m = left.db.others m
  rightOthers : r.db.others m = right.db.others m

/-- Two queues that have grown alike, and grow by one job more. -/
theorem sent_more {left right l r : List OutboundWebhookJobData} (sent : ∃ jobs, l = left ++ jobs ∧ r = right ++ jobs)
    (job : OutboundWebhookJobData) : ∃ jobs, l ++ [job] = left ++ jobs ∧ r ++ [job] = right ++ jobs := by
  obtain ⟨jobs, rfl, rfl⟩ := sent
  exact ⟨jobs ++ [job], List.append_assoc .., List.append_assoc ..⟩

section
variable {P : Platform} {m id : Uuid} {left right : World} {env : Nat → Op → Env}

/-- Each step of an accepted refund goes alike in both worlds. -/
theorem Refunding.step (freshLeft : FreshIds env m left.db) (freshRight : FreshIds env m right.db) {n : Nat} {op : Op}
    {l r : World} (asks : RefundAsks m id op) (stand : Refunding m id left right l r) :
    (perform P (env n op) op l).1 = (perform P (env n op) op r).1 ∧
      Refunding m id left right (perform P (env n op) op l).2 (perform P (env n op) op r).2 := by
  cases fails : (env n op).fails with
  | true =>
    cases asks <;> simp only [perform, fails, if_true] <;> exact ⟨trivial, stand⟩
  | false =>
    cases asks with
    | ask =>
      simp only [perform, fails, Bool.false_eq_true, if_false]
      exact ⟨trivial, stand⟩
    | lookup =>
      have merchant : l.db.merchants.find m = r.db.merchants.find m := congrArg TenantView.merchant stand.view
      simp only [perform, fails, Bool.false_eq_true, if_false, Query.exec, merchant]
      exact ⟨trivial, stand⟩
    | @notify event data url secret =>
      simp only [perform, fails, Bool.false_eq_true, if_false]
      exact ⟨trivial, stand.view, stand.owned, sent_more stand.sent _, stand.leftOthers, stand.rightOthers⟩
    | @record data markRefunded about =>
      subst about
      have also : r.db.owns m data.paymentIntentId = true := (Database.owns_agree (congrArg TenantView.intents stand.view)).symm.trans stand.owned
      have freshL := fun refund member => freshLeft n data markRefunded refund (stand.leftOthers ▸ member)
      have freshR := fun refund member => freshRight n data markRefunded refund (stand.rightOthers ▸ member)
      rcases Database.recordRefundTx_agree markRefunded stand.view stand.owned freshL freshR with
        ⟨err, ran, ran'⟩ | ⟨row, l', r', ran, ran', after⟩
      · simp only [perform, fails, Bool.false_eq_true, if_false, Query.exec, ran, ran']
        exact ⟨trivial, stand⟩
      · obtain ⟨_, others, owns⟩ := Database.recordRefundTx_view stand.owned ran
        obtain ⟨_, others', _⟩ := Database.recordRefundTx_view also ran'
        simp only [perform, fails, Bool.false_eq_true, if_false, Query.exec, ran, ran']
        exact ⟨trivial, after, (owns _).trans stand.owned, stand.sent, others.trans stand.leftOthers,
          others'.trans stand.rightOthers⟩

theorem processRefund_indistinct (same : left.db.view m = right.db.view m) (freshLeft : FreshIds env m left.db)
    (freshRight : FreshIds env m right.db) (paymentIntentId : String) (dto : CreateRefundDto) :
    Indistinct m left right (Async.play (perform P) env (processRefund P paymentIntentId dto m) [] left)
      (Async.play (perform P) env (processRefund P paymentIntentId dto m) [] right) := by
  rw [processRefund_eq]
  refine lookup_indistinct same paymentIntentId _ (fun found hidden => ?_) fun id alike => ?_
  · rw [refundPlan_hidden hidden]
    rfl
  cases accepted : refundPlan P paymentIntentId dto m (left.db.shown id) with
  | error err => exact .still same rfl rfl rfl rfl
  | ok plan =>
    obtain ⟨refunds, shown, owned, _⟩ := refundPlan_ok accepted
    obtain ⟨stored, found, here⟩ := Option.map_eq_some_iff.mp shown
    cases here
    have mine : left.db.owns m plan.intent.id = true := by
      rw [Table.find_key found]
      exact (Database.owns_found found).mpr owned
    have course := executeRefund_asks P dto plan [⟨.query (.findIntent paymentIntentId), .ok (left.db.shown id)⟩]
    rw [owned] at course
    obtain ⟨value, log, stand⟩ := course.coupled (perform P) env (R := fun _ => Refunding m plan.intent.id left right)
      (fun seen op l r asks stand => Refunding.step freshLeft freshRight asks stand)
      ⟨same, mine, ⟨[], (List.append_nil _).symm, (List.append_nil _).symm⟩, rfl, rfl⟩
    exact ⟨value, congrArg _ log, stand.sent, stand.view, stand.leftOthers, stand.rightOthers⟩

theorem getRefundsByIntentId_indistinct (same : left.db.view m = right.db.view m) (paymentIntentId : String) :
    Indistinct m left right (Async.play (perform P) env (getRefundsByIntentId paymentIntentId m) [] left)
      (Async.play (perform P) env (getRefundsByIntentId paymentIntentId m) [] right) := by
  unfold getRefundsByIntentId
  refine lookup_indistinct same paymentIntentId _ (fun found hidden => ?_) fun id alike => ?_
  · rw [ownRefunds_hidden hidden]
  · exact .still same rfl rfl rfl rfl

end

/-- A search among the intents of a merchant finds what its own rows say. -/
theorem Database.findMany_view (db : Database) (m : Uuid) (filter : IntentFilter) (own : filter.merchantId = some m) :
    db.findMany filter = if filter.gte = some none ∨ filter.lte = some none then .error .invalidArgument
      else .ok (((db.view m).intents.filter filter.admits).map fun intent =>
        ⟨intent, (db.view m).refunds.filter fun refund => refund.paymentIntentId = intent.id⟩) := by
  have narrow : (db.view m).intents.filter filter.admits = db.intents.rows.filter filter.admits := by
    simp only [Database.view, List.filter_filter]
    refine List.filter_congr fun intent _ => ?_
    simp only [IntentFilter.admits, own, Option.all_some]
    by_cases owned : intent.merchantId = m <;> simp [owned]
  unfold findMany
  rw [narrow]
  congr 2
  refine List.map_congr_left fun intent member => ?_
  obtain ⟨stored, admitted⟩ := List.mem_filter.mp member
  have owned : intent.merchantId = m := by
    simp only [IntentFilter.admits, own, Option.all_some, Bool.and_eq_true, decide_eq_true_eq] at admitted
    exact admitted.1.1.1
  rw [Database.refundsOf_view (Database.owns_iff.mpr ⟨intent, stored, rfl, owned⟩)]

/-- Such a search is answered alike wherever the own rows are. -/
theorem findMany_agree {m : Uuid} {left right : World} (same : left.db.view m = right.db.view m) (env : Env)
    (filter : IntentFilter) (own : filter.merchantId = some m) :
    ∃ answer, performAnalytics env (.findMany filter) left = (answer, left) ∧
      performAnalytics env (.findMany filter) right = (answer, right) := by
  have alike : left.db.findMany filter = right.db.findMany filter := by
    rw [left.db.findMany_view m filter own, right.db.findMany_view m filter own, same]
  simp only [performAnalytics, alike]
  split
  · exact ⟨_, rfl, rfl⟩
  · split <;> exact ⟨_, rfl, rfl⟩

theorem getOverview_indistinct {m : Uuid} {left right : World} (same : left.db.view m = right.db.view m)
    (env : Nat → AnalyticsOp → Env) (readDate : String → JsDate) (query : AnalyticsQueryDto) :
    Indistinct m left right (Async.play performAnalytics env (getOverview readDate query (some m)) [] left)
      (Async.play performAnalytics env (getOverview readDate query (some m)) [] right) := by
  obtain ⟨answer, there, here⟩ := findMany_agree same (env 0 (.findMany (query.whereClause readDate (some m))))
    (query.whereClause readDate (some m)) rfl
  unfold getOverview
  simp only [Async.play_bind, Async.play_request, List.length_nil, there, here]
  cases answer with
  | error err => exact .still same rfl rfl rfl rfl
  | ok intents => exact .still same rfl rfl rfl rfl

/-- Whatever other merchants have stored, a merchant's refunds, lists of refunds
and overviews run alike on the same rows of its own, and leave theirs alone. An
id of someone else is one world's answer to an id that the other does not know. -/
theorem tenants_do_not_interfere (P : Platform) (readDate : String → JsDate) (m : Uuid) (left right : World)
    (same : left.db.view m = right.db.view m) (env : Nat → Op → Env) (reads : Nat → AnalyticsOp → Env)
    (freshLeft : FreshIds env m left.db) (freshRight : FreshIds env m right.db) :
    (∀ paymentIntentId dto, Indistinct m left right
      (Async.play (perform P) env (processRefund P paymentIntentId dto m) [] left)
      (Async.play (perform P) env (processRefund P paymentIntentId dto m) [] right)) ∧
    (∀ paymentIntentId, Indistinct m left right
      (Async.play (perform P) env (getRefundsByIntentId paymentIntentId m) [] left)
      (Async.play (perform P) env (getRefundsByIntentId paymentIntentId m) [] right)) ∧
    ∀ query, Indistinct m left right
      (Async.play performAnalytics reads (getOverview readDate query (some m)) [] left)
      (Async.play performAnalytics reads (getOverview readDate query (some m)) [] right) :=
  ⟨processRefund_indistinct same freshLeft freshRight, getRefundsByIntentId_indistinct same,
    getOverview_indistinct same reads readDate⟩

/-- The stranger's intent looks to the merchant as if it were not there. -/
theorem tenants_do_not_interfere_sample :
    (Async.play (perform plainPlatform) (fun _ _ => calmEnv)
      (processRefund plainPlatform (strangerIntent .captured).id.text ⟨.undefined, .undefined⟩ sampleMerchant.id) [] ⟨withStranger .captured .captured, []⟩).value =
    (Async.play (perform plainPlatform) (fun _ _ => calmEnv)
      (processRefund plainPlatform (strangerIntent .captured).id.text ⟨.undefined, .undefined⟩ sampleMerchant.id) []
        ⟨sampleDatabase .captured, []⟩).value := by
  have own : (⟨withStranger .captured .captured, []⟩ : World).db.view sampleMerchant.id =
      (⟨sampleDatabase .captured, []⟩ : World).db.view sampleMerchant.id := by decide +kernel
  have apart : ∀ refund ∈ ((withStranger .captured .captured).others sampleMerchant.id).refunds, refund.id ≠ calmEnv.id := by decide +kernel
  have alone : ∀ refund ∈ ((sampleDatabase .captured).others sampleMerchant.id).refunds, refund.id ≠ calmEnv.id := by
    decide +kernel
  exact ((tenants_do_not_interfere plainPlatform (fun _ => none) sampleMerchant.id _ _ own (fun _ _ => calmEnv)
    (fun _ _ => calmEnv) (fun _ _ _ => apart) (fun _ _ _ => alone)).1 (strangerIntent .captured).id.text ⟨.undefined, .undefined⟩).value

end PayBridge
