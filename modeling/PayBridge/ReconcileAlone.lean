import PayBridge.Await.Placed
import PayBridge.ReconcileLedger
import PayBridge.Store.Grouping

namespace PayBridge
open Store Await

/-- A summary with what has been counted on top. -/
def ReconciliationSummary.plus (summary counted : ReconciliationSummary) : ReconciliationSummary :=
  { summary with
    captured := summary.captured + counted.captured
    failed := summary.failed + counted.failed
    unchanged := summary.unchanged + counted.unchanged
    errors := summary.errors ++ counted.errors }

def nothingCounted : ReconciliationSummary := ⟨0, 0, 0, 0, [], 0⟩

/-- The round of one intent, alone and in a world of which it is the first to ask. -/
def aloneRound (P : Platform) (steps : Nat → Op → Env) (w : World) (intent : PaymentIntent) :
    Outcome Op.Answer World (Except JsError ReconciliationSummary) :=
  Async.play (perform P) steps (reconcileIntent P intent nothingCounted) [] w

/-- What the round counts: the intent, in one of the four ways. -/
def aloneCount (P : Platform) (steps : Nat → Op → Env) (w : World) (intent : PaymentIntent) : ReconciliationSummary :=
  (aloneRound P steps w intent).value.toOption.getD nothingCounted

/-- The jobs that the round adds to the queue. -/
def aloneJobs (P : Platform) (steps : Nat → Op → Env) (w : World) (intent : PaymentIntent) : List OutboundWebhookJobData :=
  (aloneRound P steps w intent).world.queue.drop w.queue.length

/-- A run of which only the count is different. -/
def counting (summary : ReconciliationSummary) (o : Outcome Op.Answer World (Except JsError ReconciliationSummary)) :
    Outcome Op.Answer World (Except JsError ReconciliationSummary) :=
  ⟨o.value.map summary.plus, o.world, o.log⟩

section
variable {P : Platform} {env : Nat → Op → Env} {intent : PaymentIntent} {seen : History Op.Answer} {w : World}

theorem abandoned_counting (summary : ReconciliationSummary) :
    Async.play (perform P) env (reconcileAbandoned intent summary) seen w =
      counting summary (Async.play (perform P) env (reconcileAbandoned intent nothingCounted) seen w) := by
  have timed : perform P (env seen.length .now) .now w = ((env seen.length .now).now, w) := rfl
  unfold reconcileAbandoned dateNow
  rw [Async.play_bind_request timed, Async.play_bind_request timed]
  dsimp only
  split
  · simp only [query, Async.play_bind, Async.play_request]
    split
    · simp [counting, ReconciliationSummary.plus, nothingCounted, Except.map]
    · rfl
  · simp [counting, ReconciliationSummary.plus, nothingCounted, Except.map]

theorem known_counting (gatewayPaymentId : String) (summary : ReconciliationSummary) :
    Async.play (perform P) env (reconcileKnown P intent gatewayPaymentId summary) seen w =
      counting summary (Async.play (perform P) env (reconcileKnown P intent gatewayPaymentId nothingCounted) seen w) := by
  have settled : ∀ (status : PaymentStatus) (event : OutboundEventType) (counted zero : ReconciliationSummary)
      (seen : History Op.Answer) (w : World), counted = summary.plus zero →
      Async.play (perform P) env
        (do
          let updated ← query (.updateIntent intent.id status)
          dispatchPaymentEvent P event updated.eventData (some updated.merchantId) none none
          return counted : Promise ReconciliationSummary) seen w =
        counting summary (Async.play (perform P) env
          (do
            let updated ← query (.updateIntent intent.id status)
            dispatchPaymentEvent P event updated.eventData (some updated.merchantId) none none
            return zero : Promise ReconciliationSummary) seen w) := by
    intro status event counted zero seen w same
    subst same
    simp only [Async.play_bind]
    split
    · split <;> rfl
    · rfl
  unfold reconcileKnown
  rw [Async.play_bind, Async.play_bind]
  split
  · next reported _ =>
    cases reported with
    | captured => exact settled _ _ _ _ _ _ (by simp [ReconciliationSummary.plus, nothingCounted])
    | failed => exact settled _ _ _ _ _ _ (by simp [ReconciliationSummary.plus, nothingCounted])
    | _ => simp [counting, ReconciliationSummary.plus, nothingCounted, Except.map]
  · rfl

/-- A round counts on top of what has been counted. -/
theorem round_counting (summary : ReconciliationSummary) :
    Async.play (perform P) env (reconcileIntent P intent summary) seen w =
      counting summary (Async.play (perform P) env (reconcileIntent P intent nothingCounted) seen w) := by
  have noted : ∀ o : Outcome Op.Answer World (Except JsError ReconciliationSummary),
      caught intent summary (counting summary o) = counting summary (caught intent nothingCounted o) := by
    rintro ⟨err | counted, after, log⟩
    · simp [caught, counting, Except.map, ReconciliationSummary.plus, nothingCounted]
    · rfl
  rw [play_round, play_round, ← noted]
  cases intent.gatewayPaymentId.filter (· ≠ "") with
  | none => exact congrArg _ (abandoned_counting summary)
  | some gatewayPaymentId => exact congrArg _ (known_counting gatewayPaymentId summary)

/-- Two worlds that are alike for the round of one intent, and two queues that
have grown by the same jobs. -/
structure Likewise (id : Uuid) (before before' : List OutboundWebhookJobData) (left right : World) : Prop where
  merchants : left.db.merchants = right.db.merchants
  row : left.db.intents.find id = right.db.intents.find id
  queue : ∃ jobs, left.queue = before ++ jobs ∧ right.queue = before' ++ jobs

theorem likewise_step {before before' : List OutboundWebhookJobData} (met : Env) {own : History Op.Answer} {op : Op}
    {left right : World} (round : Round intent own op) (alike : Likewise intent.id before before' left right) :
    (perform P met op left).1 = (perform P met op right).1 ∧
      Likewise intent.id before before' (perform P met op left).2 (perform P met op right).2 := by
  cases round with
  | now => exact ⟨rfl, alike⟩
  | inquire => exact ⟨rfl, alike⟩
  | @write status =>
    simp only [perform, Query.exec, paymentIntentUpdate, alike.row]
    by_cases struck : met.fails
    · simp only [if_pos struck]
      exact ⟨trivial, alike⟩
    · simp only [if_neg struck]
      cases found : right.db.intents.find intent.id with
      | none => exact ⟨rfl, alike⟩
      | some row =>
        refine ⟨rfl, alike.merchants, ?_, alike.queue⟩
        simp only [Database.setStatus_find, if_true, alike.row]
  | lookup =>
    simp only [perform, Query.exec, alike.merchants]
    by_cases struck : met.fails
    · simp only [if_pos struck]
      exact ⟨trivial, alike⟩
    · simp only [if_neg struck]
      exact ⟨trivial, alike⟩
  | notify _ =>
    simp only [perform]
    by_cases struck : met.fails
    · simp only [if_pos struck]
      exact ⟨trivial, alike⟩
    · simp only [if_neg struck]
      obtain ⟨jobs, first, second⟩ := alike.queue
      exact ⟨trivial, alike.merchants, alike.row, jobs ++ [_], by rw [first, List.append_assoc], by rw [second, List.append_assoc]⟩

/-- What no round touches: all tables but the statuses of intents. -/
structure Framed (w after : World) : Prop where
  merchants : after.db.merchants = w.db.merchants
  events : after.db.events = w.db.events
  refunds : after.db.refunds = w.db.refunds
  ids : after.db.intents.rows.map PaymentIntent.id = w.db.intents.rows.map PaymentIntent.id

theorem Framed.trans {v after : World} (first : Framed w v) (second : Framed v after) : Framed w after :=
  ⟨second.merchants.trans first.merchants, second.events.trans first.events, second.refunds.trans first.refunds,
    second.ids.trans first.ids⟩

theorem setStatus_framed (w : World) (id : Uuid) (status : PaymentStatus) :
    Framed w { w with db := w.db.setStatus id status } := by
  refine ⟨rfl, rfl, rfl, ?_⟩
  simp only [Database.setStatus, Table.modify, List.map_map]
  refine List.map_congr_left fun intent _ => ?_
  simp only [Function.comp_apply]
  split <;> rfl

theorem round_framed (P : Platform) (env : Nat → Op → Env) (intent : PaymentIntent) (summary : ReconciliationSummary)
    (seen : History Op.Answer) (w : World) :
    Framed w (Async.play (perform P) env (reconcileIntent P intent summary) seen w).world := by
  refine ((reconcileIntent_round P intent seen summary).kept (perform P) env (I := fun _ v => Framed w v) ?_ w
    ⟨rfl, rfl, rfl, rfl⟩).1
  intro seen op v round kept
  have did := round.performed P (env seen.length op) v
  generalize (perform P (env seen.length op) op v).1 = answer at did
  generalize (perform P (env seen.length op) op v).2 = after at did ⊢
  cases round with
  | write =>
    cases did with
    | refused _ => exact kept
    | updated _ _ => exact kept.trans (setStatus_framed v _ _)
  | _ => cases did <;> exact ⟨kept.merchants, kept.events, kept.refunds, kept.ids⟩

/-- The jobs of a round are about its own intent. -/
theorem aloneJobs_about (steps : Nat → Op → Env) :
    ∃ jobs, (aloneRound P steps w intent).world.queue = w.queue ++ jobs ∧ ∀ job ∈ jobs, job.intentId = intent.id := by
  let Own (own : History Op.Answer) (v : World) : Prop :=
    Updates own ∧ ∃ jobs, v.queue = w.queue ++ jobs ∧ ∀ job ∈ jobs, job.intentId = intent.id
  have start : Own [] w := by
    refine ⟨?_, [], (List.append_nil _).symm, fun job member => absurd member List.not_mem_nil⟩
    intro _ _ _ member
    cases member
  have step : ∀ own op v, Round intent own op → Own own v →
      Own (⟨op, (perform P (steps own.length op) op v).1⟩ :: own) (perform P (steps own.length op) op v).2 := by
    rintro own op v round ⟨updates, jobs, queue, about⟩
    refine ⟨updates.performed P _ op v, ?_⟩
    have did := round.performed P (steps own.length op) v
    generalize (perform P (steps own.length op) op v).1 = answer at did
    generalize (perform P (steps own.length op) op v).2 = after at did ⊢
    cases round with
    | @notify _ _ _ _ row wrote =>
      cases did with
      | unqueued _ => exact ⟨jobs, queue, about⟩
      | enqueued _ =>
        refine ⟨jobs ++ [_], by rw [queue, List.append_assoc], ?_⟩
        intro job member
        rcases List.mem_append.mp member with earlier | last
        · exact about job earlier
        · rw [List.mem_singleton.mp last]
          exact updates _ _ _ wrote
    | _ => cases did <;> exact ⟨jobs, queue, about⟩
  exact ((reconcileIntent_round P intent [] nothingCounted).kept (perform P) steps (I := Own) step w start).1.2

theorem aloneRound_returns (P : Platform) (steps : Nat → Op → Env) (w : World) (intent : PaymentIntent) :
    (aloneRound P steps w intent).value = .ok (aloneCount P steps w intent) := by
  have none : Updates ([] : History Op.Answer) := by
    intro _ _ _ member
    cases member
  obtain ⟨_, counted, returned⟩ := round_returns P steps w intent nothingCounted none
  have value : (aloneRound P steps w intent).value = .ok counted := returned
  rw [aloneCount, value]
  rfl

/-- What the round of an intent in a loop has in common with its round alone. -/
structure AsAlone (P : Platform) (steps : Nat → Op → Env) (intent : PaymentIntent) (summary : ReconciliationSummary)
    (seen : History Op.Answer) (w v : World) (o : Outcome Op.Answer World (Except JsError ReconciliationSummary)) : Prop where
  value : o.value = .ok (summary.plus (aloneCount P steps w intent))
  log : o.log = (aloneRound P steps w intent).log ++ seen
  queue : o.world.queue = v.queue ++ aloneJobs P steps w intent
  row : o.world.db.intents.find intent.id = (aloneRound P steps w intent).world.db.intents.find intent.id

/-- The round of an intent comes to what it comes to alone, in any world with
the same merchants and the same row of the intent. -/
theorem round_placed {steps : Nat → Op → Env} {v : World} (merchants : v.db.merchants = w.db.merchants)
    (row : v.db.intents.find intent.id = w.db.intents.find intent.id) (summary : ReconciliationSummary)
    (met : ∀ n op, seen.length + n < (Async.play (perform P) env (reconcileIntent P intent summary) seen v).log.length →
      env (seen.length + n) op = steps n op) :
    AsAlone P steps intent summary seen w v (Async.play (perform P) env (reconcileIntent P intent summary) seen v) := by
  rw [round_counting] at met ⊢
  have alike : Likewise intent.id v.queue w.queue v w := ⟨merchants, row, [], by simp, by simp⟩
  obtain ⟨value, log, after⟩ := (reconcileIntent_round P intent [] nothingCounted).placed
    (R := Likewise intent.id v.queue w.queue) (fun own op left right round alike => likewise_step _ round alike) alike met
  obtain ⟨jobs, first, second⟩ := after.queue
  have added : aloneJobs P steps w intent = jobs := by
    rw [aloneJobs]
    exact (congrArg _ second).trans List.drop_left
  refine ⟨?_, log, first.trans (congrArg _ added.symm), after.row⟩
  simp only [counting]
  rw [value, show (Async.play (perform P) steps (reconcileIntent P intent nothingCounted) [] w).value =
    .ok (aloneCount P steps w intent) from aloneRound_returns P steps w intent]
  rfl

/-- The steps of each round meet what they are given there. -/
def RoundsMeet (P : Platform) (env : Nat → Op → Env) (steps : Uuid → Nat → Op → Env) :
    List PaymentIntent → ReconciliationSummary → History Op.Answer → World → Prop
  | [], _, _, _ => True
  | intent :: rest, summary, seen, w =>
    let o := Async.play (perform P) env (reconcileIntent P intent summary) seen w
    (∀ n op, seen.length + n < o.log.length → env (seen.length + n) op = steps intent.id n op) ∧
      ∀ counted, o.value = .ok counted → RoundsMeet P env steps rest counted o.log o.world

/-- What a loop over intents comes to, intent by intent as if it were alone. -/
structure EachAlone (P : Platform) (steps : Uuid → Nat → Op → Env) (rows : List PaymentIntent)
    (summary : ReconciliationSummary) (seen : History Op.Answer) (w v : World)
    (o : Outcome Op.Answer World (Except JsError ReconciliationSummary)) : Prop where
  value : o.value = .ok (rows.foldl (fun summary intent => summary.plus (aloneCount P (steps intent.id) w intent)) summary)
  log : o.log = (rows.reverse.flatMap fun intent => (aloneRound P (steps intent.id) w intent).log) ++ seen
  queue : o.world.queue = v.queue ++ rows.flatMap fun intent => aloneJobs P (steps intent.id) w intent
  rows : ∀ intent ∈ rows, o.world.db.intents.find intent.id =
    (aloneRound P (steps intent.id) w intent).world.db.intents.find intent.id
  framed : Framed v o.world

theorem loop_placed (P : Platform) (env : Nat → Op → Env) (steps : Uuid → Nat → Op → Env) {rows : List PaymentIntent}
    (distinct : (rows.map PaymentIntent.id).Nodup) {v : World} (merchants : v.db.merchants = w.db.merchants)
    (same : ∀ intent ∈ rows, v.db.intents.find intent.id = w.db.intents.find intent.id) (summary : ReconciliationSummary)
    (updates : Updates seen) (meet : RoundsMeet P env steps rows summary seen v) :
    EachAlone P steps rows summary seen w v (Async.play (perform P) env (reconcileAll P rows summary) seen v) := by
  induction rows generalizing summary seen v with
  | nil => exact ⟨rfl, rfl, (List.append_nil _).symm, fun _ member => absurd member List.not_mem_nil, rfl, rfl, rfl, rfl⟩
  | cons intent rest ih =>
    obtain ⟨fresh, distinct⟩ := List.nodup_cons.mp distinct
    have apart : ∀ other ∈ rest, intent.id ≠ other.id :=
      fun other member same => fresh (List.mem_map.mpr ⟨other, member, same.symm⟩)
    obtain ⟨met, meetRest⟩ := meet
    have round := round_placed merchants (same intent List.mem_cons_self) summary met
    have framed := round_framed P env intent summary seen v
    have kept : ∀ other ∈ rest, KeptApart other.id v (Async.play (perform P) env (reconcileIntent P intent summary) seen v).log
        (Async.play (perform P) env (reconcileIntent P intent summary) seen v).world :=
      fun other member => round_apart P env v intent (apart other member) summary updates
    obtain ⟨shown, _⟩ := round_returns P env v intent summary updates
    rw [reconcileAll, Async.play_bind_ok round.value]
    have meets := meetRest _ round.value
    generalize Async.play (perform P) env (reconcileIntent P intent summary) seen v = o at round framed kept shown meets ⊢
    have still : ∀ other ∈ rest, o.world.db.intents.find other.id = w.db.intents.find other.id :=
      fun other member => (kept other member).row.trans (same other (List.mem_cons_of_mem _ member))
    have loop := ih distinct (framed.merchants.trans merchants) still _ shown meets
    have alone := loop_apart P env o.world rest (fun other member => (apart other member).symm)
      (summary.plus (aloneCount P (steps intent.id) w intent)) shown
    refine ⟨loop.value, ?_, ?_, ?_, framed.trans loop.framed⟩
    · rw [loop.log, round.log, List.reverse_cons, List.flatMap_append, List.flatMap_singleton, List.append_assoc]
    · rw [loop.queue, round.queue, List.flatMap_cons, List.append_assoc]
    · intro each member
      rcases List.mem_cons.mp member with rfl | later
      · exact alone.row.trans round.row
      · exact loop.rows each later

/-- Whatever each round's steps are given, there is an environment in which they meet it. -/
theorem rounds_met (P : Platform) (steps : Uuid → Nat → Op → Env) (rows : List PaymentIntent) (base : Nat → Op → Env)
    (summary : ReconciliationSummary) (seen : History Op.Answer) (w : World) :
    ∃ env : Nat → Op → Env, (∀ n op, n < seen.length → env n op = base n op) ∧ RoundsMeet P env steps rows summary seen w := by
  induction rows generalizing base summary seen w with
  | nil => exact ⟨base, fun _ _ _ => rfl, trivial⟩
  | cons intent rest ih =>
    let first (n : Nat) (op : Op) : Env := if n < seen.length then base n op else steps intent.id (n - seen.length) op
    let o := Async.play (perform P) first (reconcileIntent P intent summary) seen w
    have given : ∀ n op, first (seen.length + n) op = steps intent.id n op := by
      intro n op
      have later : ¬ seen.length + n < seen.length := by omega
      simp only [first, if_neg later, Nat.add_sub_cancel_left]
    cases value : o.value with
    | error err =>
      refine ⟨first, fun n op earlier => if_pos earlier, fun n op _ => given n op, fun counted returned => ?_⟩
      cases value.symm.trans returned
    | ok counted =>
      obtain ⟨new, log⟩ := Async.play_grows (perform P) first (reconcileIntent P intent summary) seen w
      have longer : seen.length ≤ o.log.length := by
        rw [show o.log = new ++ seen from log, List.length_append]
        omega
      obtain ⟨env, kept, meet⟩ := ih first counted o.log o.world
      have ran : Async.play (perform P) env (reconcileIntent P intent summary) seen w = o :=
        (Async.play_congr fun n op _ inside => (kept n op inside).symm).symm
      refine ⟨env, fun n op earlier => (kept n op (by omega)).trans (if_pos earlier), ?_, ?_⟩
      · intro n op inside
        rw [ran] at inside
        rw [kept _ op inside, given]
      · intro other returned
        rw [ran] at returned ⊢
        cases value.symm.trans returned
        exact meet

end

end PayBridge
