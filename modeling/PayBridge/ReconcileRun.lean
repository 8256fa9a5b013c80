import PayBridge.System

namespace PayBridge
open Store Await

/-- The kinds of the jobs in a queue about an intent, in order. -/
def noticesOf (queue : List OutboundWebhookJobData) (id : Uuid) : List OutboundEventType :=
  (queue.filter fun job => job.intentId = id).map fun job => job.payload.event

theorem noticesOf_append (queue : List OutboundWebhookJobData) (job : OutboundWebhookJobData) (id : Uuid) :
    noticesOf (queue ++ [job]) id = noticesOf queue id ++ if job.intentId = id then [job.payload.event] else [] := by
  simp only [noticesOf, List.filter_append, List.map_append]
  congr 1
  by_cases same : job.intentId = id <;> simp [same]

/-- Every update a history shows is of the row it was asked for. -/
def Updates (seen : History Op.Answer) : Prop :=
  ∀ id status row, (⟨.query (.updateIntent id status), .ok row⟩ : (op : Op) × op.Answer) ∈ seen → row.id = id

/-- What one round of the loop asks: nothing but about its own intent. -/
inductive Round (intent : PaymentIntent) : History Op.Answer → Op → Prop
  | now {seen} : Round intent seen .now
  | inquire {seen gatewayPaymentId} : Round intent seen (.fetchPaymentStatus intent.gateway gatewayPaymentId)
  | write {seen status} : Round intent seen (.query (.updateIntent intent.id status))
  | lookup {seen id} : Round intent seen (.query (.findMerchant id))
  | notify {seen status event url secret} {row : PaymentIntent} :
      (⟨.query (.updateIntent intent.id status), .ok row⟩ : (op : Op) × op.Answer) ∈ seen →
      Round intent seen (.enqueue event row.eventData url secret)

/-- A round asks about its own intent, and never throws. -/
theorem reconcileIntent_round (P : Platform) (intent : PaymentIntent) (seen : History Op.Answer)
    (summary : ReconciliationSummary) :
    Async.Obeys (Round intent) (fun _ _ => True) (fun _ _ => False) (reconcileIntent P intent summary) seen := by
  refine (reconcileIntent_course P intent seen summary).mono ?_ (fun _ _ _ => trivial) fun _ _ never => never
  intro later op course
  cases course with
  | now => exact .now
  | abandon _ _ => exact .write
  | inquire => exact .inquire
  | settle _ => exact .write
  | lookup _ => exact .lookup
  | notify _ => exact .notify (List.mem_cons_of_mem _ List.mem_cons_self)

/-- What a round does, which creates no intent. -/
theorem Round.performed {intent : PaymentIntent} {seen : History Op.Answer} {op : Op} (round : Round intent seen op)
    (P : Platform) (env : Env) (w : World) :
    Performed P env w op (perform P env op w).1 (perform P env op w).2 := by
  refine PayBridge.performed P env w ?_
  rintro data rfl
  cases round

/-- What the rounds of other intents keep of an intent. -/
structure KeptApart (id : Uuid) (w : World) (seen : History Op.Answer) (after : World) : Prop where
  updates : Updates seen
  row : after.db.intents.find id = w.db.intents.find id
  notices : noticesOf after.queue id = noticesOf w.queue id

/-- An update answers with the row it was asked for. -/
theorem Updates.performed {seen : History Op.Answer} (updates : Updates seen) (P : Platform) (env : Env) (op : Op) (w : World) :
    Updates (⟨op, (perform P env op w).1⟩ :: seen) := by
  intro id status row member
  rcases List.mem_cons.mp member with same | old
  · obtain ⟨rfl, answered⟩ := Sigma.mk.inj_iff.mp same
    obtain ⟨_, ran⟩ := perform_query_ok (eq_of_heq answered).symm
    obtain ⟨intent, found, rfl, _⟩ := paymentIntentUpdate_ok ran
    have key : intent.id = id := Table.find_key found
    exact key
  · exact updates id status row old

section
variable (P : Platform) (env : Nat → Op → Env) {seen : History Op.Answer} (w : World) {id : Uuid}

/-- A round goes on to an answer. -/
theorem round_returns (intent : PaymentIntent) (summary : ReconciliationSummary) (updates : Updates seen) :
    let o := Async.play (perform P) env (reconcileIntent P intent summary) seen w
    Updates o.log ∧ ∃ counted, o.value = .ok counted := by
  intro o
  obtain ⟨kept, ended⟩ := (reconcileIntent_round P intent seen summary).kept (perform P) env
    (I := fun seen _ => Updates seen) (fun _ op v _ updates => updates.performed P _ op v) w updates
  refine ⟨kept, ?_⟩
  cases value : o.value with
  | ok counted => exact ⟨counted, rfl⟩
  | error err =>
    have same : (Async.play (perform P) env (reconcileIntent P intent summary) seen w).value = .error err := value
    rw [same] at ended
    exact ended.elim

/-- The round of another intent leaves an intent and its notices alone. -/
theorem round_apart (intent : PaymentIntent) (other : intent.id ≠ id) (summary : ReconciliationSummary)
    (updates : Updates seen) :
    KeptApart id w (Async.play (perform P) env (reconcileIntent P intent summary) seen w).log
      (Async.play (perform P) env (reconcileIntent P intent summary) seen w).world := by
  have step : ∀ seen op v, Round intent seen op → KeptApart id w seen v →
      KeptApart id w (⟨op, (perform P (env seen.length op) op v).1⟩ :: seen) (perform P (env seen.length op) op v).2 := by
    intro seen op v round kept
    have honest := kept.updates.performed P (env seen.length op) op v
    have did := round.performed P (env seen.length op) v
    generalize (perform P (env seen.length op) op v).1 = answer at did honest ⊢
    generalize (perform P (env seen.length op) op v).2 = after at did ⊢
    refine ⟨honest, ?_, ?_⟩
    · cases round with
      | write =>
        cases did with
        | refused _ => exact kept.row
        | updated spared known =>
          show (v.db.setStatus intent.id _).intents.find id = _
          rw [Database.setStatus_find, if_neg (Ne.symm other)]
          exact kept.row
      | _ => cases did <;> exact kept.row
    · cases round with
      | @notify _ _ _ _ row wrote =>
        have about : row.id = intent.id := kept.updates _ _ _ wrote
        cases did with
        | unqueued _ => exact kept.notices
        | enqueued _ =>
          have apart : ¬ row.eventData.id = id := fun same => other (about.symm.trans same)
          rw [noticesOf_append, if_neg apart, List.append_nil]
          exact kept.notices
      | _ => cases did <;> exact kept.notices
  exact ((reconcileIntent_round P intent seen summary).kept (perform P) env (I := KeptApart id w) step w
    ⟨updates, rfl, rfl⟩).1

/-- The loop over other intents leaves an intent and its notices alone. -/
theorem loop_apart (rows : List PaymentIntent) (others : ∀ intent ∈ rows, intent.id ≠ id)
    (summary : ReconciliationSummary) (updates : Updates seen) :
    KeptApart id w (Async.play (perform P) env (reconcileAll P rows summary) seen w).log
      (Async.play (perform P) env (reconcileAll P rows summary) seen w).world := by
  induction rows generalizing summary seen w with
  | nil => exact ⟨updates, rfl, rfl⟩
  | cons intent rest ih =>
    obtain ⟨_, counted, returned⟩ := round_returns P env w intent summary updates
    have round := round_apart P env w intent (others intent (List.mem_cons_self ..)) summary updates
    have later := ih (Async.play (perform P) env (reconcileIntent P intent summary) seen w).world
      (fun i member => others i (List.mem_cons_of_mem _ member)) counted round.updates
    simp only [reconcileAll]
    rw [Async.play_bind_ok returned]
    exact ⟨later.updates, later.row.trans round.row, later.notices.trans round.notices⟩

/-- The status an outcome reported by the gateway gives an intent. -/
def GatewayPaymentStatus.settles (outcome : GatewayPaymentStatus) (status : PaymentStatus) : PaymentStatus :=
  match outcome with
  | .captured => .captured
  | .failed => .failed
  | _ => status

/-- The notices an outcome reported by the gateway is worth. -/
def GatewayPaymentStatus.notices : GatewayPaymentStatus → List OutboundEventType
  | .captured => [.paymentSucceeded]
  | .failed => [.paymentFailed]
  | _ => []

/-- No step fails but perhaps inquiries about other payments; about this one the
gateway answers with the outcome. -/
structure Reports (env : Nat → Op → Env) (gateway : GatewayProvider) (gatewayPaymentId : String)
    (outcome : GatewayPaymentStatus) : Prop where
  calm : ∀ n op, (∀ gateway gatewayPaymentId, op ≠ .fetchPaymentStatus gateway gatewayPaymentId) → (env n op).fails = false
  answers : ∀ n, (env n (.fetchPaymentStatus gateway gatewayPaymentId)).fails = false ∧
    (env n (.fetchPaymentStatus gateway gatewayPaymentId)).status = outcome

variable {gatewayPaymentId : String} {outcome : GatewayPaymentStatus} {row : PaymentIntent}

/-- A write of the loop and its notice, where nothing fails. -/
theorem play_settle (seen : History Op.Answer) (status : PaymentStatus) (event : OutboundEventType) (counted : ReconciliationSummary)
    (calm : ∀ n op, (∀ gateway gatewayPaymentId, op ≠ .fetchPaymentStatus gateway gatewayPaymentId) → (env n op).fails = false)
    (stored : w.db.intents.find row.id = some row) :
    let o := Async.play (perform P) env
      (do
        let updated ← query (.updateIntent row.id status)
        dispatchPaymentEvent P event updated.eventData (some updated.merchantId) none none
        return counted : Promise ReconciliationSummary) seen w
    o.value = .ok counted ∧ o.world.db.intents.find row.id = some { row with status } ∧
      noticesOf o.world.queue row.id = noticesOf w.queue row.id ++ [event] := by
  have spared := calm seen.length (.query (.updateIntent row.id status)) fun _ _ same => by cases same
  have wrote : perform P (env seen.length (.query (.updateIntent row.id status))) (.query (.updateIntent row.id status)) w =
      (.ok { row with status }, { w with db := w.db.setStatus row.id status }) := by
    simp only [perform, spared, Bool.false_eq_true, if_false, Query.exec, paymentIntentUpdate_known stored]
  have updated : (Async.play (perform P) env (query (.updateIntent row.id status)) seen w).value = .ok { row with status } := by
    simp only [query, Async.play_request, wrote]
  intro o
  have ran : o = _ := Async.play_bind_ok updated
  simp only [query, Async.play_request, wrote] at ran
  obtain ⟨later, url, secret, _, db, _, sent⟩ := play_dispatch P env event ({ row with status } : PaymentIntent).eventData
    (some row.merchantId) none none (⟨.query (.updateIntent row.id status), .ok { row with status }⟩ :: seen)
    { w with db := w.db.setStatus row.id status }
  obtain ⟨returned, queue⟩ := sent (calm _ _ fun _ _ same => by cases same)
  rw [Async.play_bind_ok returned] at ran
  rw [ran]
  refine ⟨rfl, ?_, ?_⟩
  · rw [Async.play_pure, db]
    show (w.db.setStatus row.id status).intents.find row.id = _
    rw [Database.setStatus_find, if_pos rfl, stored]
    rfl
  · rw [Async.play_pure, queue, noticesOf_append]
    congr 1
    exact if_pos rfl

/-- The round of an intent known to its gateway settles it as reported. -/
theorem round_settles (seen : History Op.Answer) (reports : Reports env row.gateway gatewayPaymentId outcome)
    (known : row.gatewayPaymentId.filter (· ≠ "") = some gatewayPaymentId) (stored : w.db.intents.find row.id = some row)
    (summary : ReconciliationSummary) :
    let o := Async.play (perform P) env (reconcileIntent P row summary) seen w
    o.world.db.intents.find row.id = some { row with status := outcome.settles row.status } ∧
      noticesOf o.world.queue row.id = noticesOf w.queue row.id ++ outcome.notices := by
  obtain ⟨spared, answered⟩ := reports.answers seen.length
  have asked : Async.play (perform P) env (fetchPaymentStatus row.gateway gatewayPaymentId) seen w =
      ⟨.ok outcome, w, ⟨.fetchPaymentStatus row.gateway gatewayPaymentId, .ok outcome⟩ :: seen⟩ := by
    simp only [fetchPaymentStatus_eq, Async.play_request, perform, spared, answered, Bool.false_eq_true, if_false]
  have told : (Async.play (perform P) env (fetchPaymentStatus row.gateway gatewayPaymentId) seen w).value = .ok outcome := by
    rw [asked]
  intro o
  have ran : o = Async.play (perform P) env (reconcileIntent P row summary) seen w := rfl
  simp only [reconcileIntent, known, reconcileKnown, Async.play_tryCatch] at ran
  rw [Async.play_bind_ok told, asked] at ran
  cases outcome with
  | captured =>
    obtain ⟨value, find, notices⟩ := play_settle P env w
      (⟨.fetchPaymentStatus row.gateway gatewayPaymentId, .ok .captured⟩ :: seen) .captured .paymentSucceeded
      { summary with captured := summary.captured + 1 } reports.calm stored
    simp only [value] at ran
    rw [ran]
    exact ⟨find, notices⟩
  | failed =>
    obtain ⟨value, find, notices⟩ := play_settle P env w
      (⟨.fetchPaymentStatus row.gateway gatewayPaymentId, .ok .failed⟩ :: seen) .failed .paymentFailed
      { summary with failed := summary.failed + 1 } reports.calm stored
    simp only [value] at ran
    rw [ran]
    exact ⟨find, notices⟩
  | _ =>
    simp only [Async.play_pure] at ran
    rw [ran]
    exact ⟨stored, (List.append_nil _).symm⟩

/-- The loop settles an intent known to its gateway as reported. -/
theorem loop_settles (seen : History Op.Answer) (reports : Reports env row.gateway gatewayPaymentId outcome)
    (known : row.gatewayPaymentId.filter (· ≠ "") = some gatewayPaymentId) (stored : w.db.intents.find row.id = some row)
    {rows : List PaymentIntent} (distinct : (rows.map PaymentIntent.id).Nodup) (member : row ∈ rows)
    (summary : ReconciliationSummary) (updates : Updates seen) :
    let o := Async.play (perform P) env (reconcileAll P rows summary) seen w
    o.world.db.intents.find row.id = some { row with status := outcome.settles row.status } ∧
      noticesOf o.world.queue row.id = noticesOf w.queue row.id ++ outcome.notices := by
  induction rows generalizing summary seen w with
  | nil => cases member
  | cons intent rest ih =>
    obtain ⟨shown, counted, returned⟩ := round_returns P env w intent summary updates
    obtain ⟨fresh, distinct⟩ := List.nodup_cons.mp distinct
    simp only [reconcileAll]
    rw [Async.play_bind_ok returned]
    rcases List.mem_cons.mp member with rfl | later
    · obtain ⟨find, notices⟩ := round_settles P env w seen reports known stored summary
      have apart : ∀ intent ∈ rest, intent.id ≠ row.id := by
        intro intent inside same
        exact fresh (List.mem_map.mpr ⟨intent, inside, same⟩)
      have kept := loop_apart P env (Async.play (perform P) env (reconcileIntent P row summary) seen w).world rest apart
        counted shown
      exact ⟨kept.row.trans find, kept.notices.trans notices⟩
    · have other : intent.id ≠ row.id := fun same => fresh (List.mem_map.mpr ⟨row, later, same.symm⟩)
      have kept := round_apart P env w intent other summary updates
      have rest := ih _ _ (kept.row.trans stored) distinct later counted shown
      rw [kept.notices] at rest
      exact rest

/-- The time before which a pending intent counts as stale; none is an invalid date. -/
def cutoffDate (P : Platform) (now : Timestamp) : Option Timestamp :=
  (parseInt (P.processEnv.reconciliationThresholdMinutes.getD "15")).bind fun minutes => timeClip (now - minutes * 60 * 1000)

/-- The pending intents that a reconciliation with a cutoff scans. -/
def Database.staleIntents (db : Database) (cutoff : Timestamp) : List PaymentIntent :=
  db.intents.rows.filter fun intent => intent.status = .pending ∧ intent.createdAt ≤ cutoff

/-- A reconciliation that is not struck before the loop runs it over the stale intents. -/
theorem play_reconcile {cutoff : Timestamp} (cut : cutoffDate P (env 0 .now).now = some cutoff)
    (spared : (env 1 (.query (.findStaleIntents cutoff))).fails = false) :
    Async.play (perform P) env (reconcileStaleIntents P) [] w =
      Async.play (perform P) env (reconcileAll P (w.db.staleIntents cutoff)
          ⟨(w.db.staleIntents cutoff).length, 0, 0, 0, [], (env 2 .now).now⟩)
        [⟨.now, (env 2 .now).now⟩, ⟨.query (.findStaleIntents cutoff), .ok (w.db.staleIntents cutoff)⟩,
          ⟨.now, (env 0 .now).now⟩] w := by
  have clock : ∀ seen, Async.play (perform P) env dateNow seen w =
      ⟨.ok (env seen.length .now).now, w, ⟨.now, (env seen.length .now).now⟩ :: seen⟩ := fun _ => rfl
  have ticked : ∀ seen, (Async.play (perform P) env dateNow seen w).value = .ok (env seen.length .now).now := fun _ => rfl
  have scanned : perform P (env 1 (.query (.findStaleIntents cutoff))) (.query (.findStaleIntents cutoff)) w =
      (.ok (w.db.staleIntents cutoff), w) := by
    simp only [perform, spared, Bool.false_eq_true, if_false, Query.exec, Database.staleIntents]
  have scan : Async.play (perform P) env (query (.findStaleIntents cutoff)) [⟨.now, (env 0 .now).now⟩] w =
      ⟨.ok (w.db.staleIntents cutoff), w, [⟨.query (.findStaleIntents cutoff), .ok (w.db.staleIntents cutoff)⟩,
        ⟨.now, (env 0 .now).now⟩]⟩ := by
    simp only [query, Async.play_request, List.length_singleton, scanned]
  have listed : (Async.play (perform P) env (query (.findStaleIntents cutoff)) [⟨.now, (env 0 .now).now⟩] w).value =
      .ok (w.db.staleIntents cutoff) := by rw [scan]
  unfold cutoffDate at cut
  unfold reconcileStaleIntents
  rw [Async.play_bind_ok (ticked []), clock]
  simp only [List.length_nil, cut]
  rw [Async.play_bind_ok listed, scan]
  rw [Async.play_bind_ok (ticked _), clock]
  rfl

end

end PayBridge
