import PayBridge.ReconcileRun

namespace PayBridge
open Store Await

/-- The two ways in which reconciliation settles an intent. -/
inductive Settlement
  | captured
  | failed
  deriving DecidableEq

def Settlement.status : Settlement → PaymentStatus
  | .captured => .captured
  | .failed => .failed

/-- How a round of the loop ends for its intent. -/
inductive RoundResult
  | unchanged
  | missed (message : String)
  | settled (settlement : Settlement)
  | unsent (settlement : Settlement) (message : String)
  | abandoned
  deriving DecidableEq

namespace RoundResult

/-- The status after a round, of an intent that had one before. -/
def status (result : RoundResult) (before : PaymentStatus) : PaymentStatus :=
  match result with
  | .unchanged | .missed _ => before
  | .settled settlement | .unsent settlement _ => settlement.status
  | .abandoned => .failed

def notices : RoundResult → List OutboundEventType
  | .settled settlement => [noticeOf settlement.status]
  | _ => []

def error : RoundResult → Option String
  | .missed message | .unsent _ message => some message
  | _ => none

/-- The status that the summary counts the intent under. -/
def counts : RoundResult → Option Settlement
  | .settled settlement => some settlement
  | .abandoned => some .failed
  | _ => none

/-- Whether the status and the notices of the intent go together. -/
def agrees : RoundResult → Bool
  | .unsent _ _ | .abandoned => false
  | _ => true

/-- The summary after the round of an intent. -/
def counted (result : RoundResult) (intent : PaymentIntent) (summary : ReconciliationSummary) : ReconciliationSummary :=
  match result with
  | .unchanged => { summary with unchanged := summary.unchanged + 1 }
  | .settled .captured => { summary with captured := summary.captured + 1 }
  | .settled .failed | .abandoned => { summary with failed := summary.failed + 1 }
  | .missed message | .unsent _ message =>
    { summary with errors := summary.errors ++ [s!"Failed to reconcile intent {intent.id.text}: {message}"] }

end RoundResult

/-- An answer in which a notice is lost: the enqueue fails, or an intent that
has no payment at a gateway is updated, of which nobody is told. -/
def losesNotice : (op : Op) × op.Answer → Bool
  | ⟨.enqueue _ _ _ _, .error _⟩ => true
  | ⟨.query (.updateIntent _ _), .ok updated⟩ => updated.gatewayPaymentId.filter (· ≠ "") = none
  | _ => false

/-- A run whose log is `log`, and was `seen` before, has lost a notice. -/
def LostSince (seen log : History Op.Answer) (lost : Prop) : Prop :=
  ∃ new, log = new ++ seen ∧ ((∃ entry ∈ new, losesNotice entry) ↔ lost)

section
variable {P : Platform} {env : Nat → Op → Env} {w : World} {row : PaymentIntent} {seen : History Op.Answer}
variable {summary counted : ReconciliationSummary}

/-- How the write of a round ends that has a notice to send. -/
inductive SettleEnds (row : PaymentIntent) (settlement : Settlement) (counted : ReconciliationSummary) (w : World)
    (seen : History Op.Answer) : Outcome Op.Answer World (Except JsError ReconciliationSummary) → Prop
  | refused {err log} : LostSince seen log False → SettleEnds row settlement counted w seen ⟨.error err, w, log⟩
  | unsent {err log} : LostSince seen log True →
      SettleEnds row settlement counted w seen ⟨.error err, { w with db := w.db.setStatus row.id settlement.status }, log⟩
  | sent {job log} : job.intentId = row.id → job.payload.event = noticeOf settlement.status → LostSince seen log False →
      SettleEnds row settlement counted w seen
        ⟨.ok counted, ⟨w.db.setStatus row.id settlement.status, w.queue ++ [job]⟩, log⟩

theorem settle_ends (settlement : Settlement) (counted : ReconciliationSummary) (stored : w.db.intents.find row.id = some row)
    (known : row.gatewayPaymentId.filter (· ≠ "") ≠ none) :
    SettleEnds row settlement counted w seen (Async.play (perform P) env
      (do
        let updated ← query (.updateIntent row.id settlement.status)
        dispatchPaymentEvent P (noticeOf settlement.status) updated.eventData (some updated.merchantId) none none
        return counted : Promise ReconciliationSummary) seen w) := by
  let op : Op := .query (.updateIntent row.id settlement.status)
  let updated : PaymentIntent := { row with status := settlement.status }
  let after : World := { w with db := w.db.setStatus row.id settlement.status }
  cases struck : (env seen.length op).fails with
  | true =>
    have refused : perform P (env seen.length op) op w =
        (.error (DbError.unavailable.thrown (env seen.length op).message), w) := by
      simp only [op, perform, struck, if_true]
    rw [query, Async.play_bind_request refused]
    exact .refused ⟨[_], rfl, by simp [losesNotice, op]⟩
  | false =>
    have wrote : perform P (env seen.length op) op w = (.ok updated, after) := by
      simp only [op, perform, struck, Bool.false_eq_true, if_false, Query.exec, paymentIntentUpdate_known stored]
      rfl
    rw [query, Async.play_bind_request wrote]
    dsimp only
    generalize looked : merchantAt P env updated.merchantId (⟨op, .ok updated⟩ :: seen) after = found
    cases struck : (env ((⟨op, .ok updated⟩ :: seen : History Op.Answer).length + 1)
        (notice P (noticeOf settlement.status) updated.eventData found)).fails with
    | true =>
      have lost := play_dispatch_lost looked struck
      rw [Async.play_bind_error (congrArg Outcome.value lost), lost]
      refine .unsent ⟨[_, _, _], rfl, ?_⟩
      simp [losesNotice]
    | false =>
      have sent := play_dispatch_sent looked struck
      rw [Async.play_bind_ok (congrArg Outcome.value sent), sent]
      refine .sent rfl rfl ⟨[_, _, _], rfl, ?_⟩
      simpa [losesNotice, op, updated] using known

/-- What a round does to its intent, to the notices about it and to the summary. -/
structure RoundEnds (row : PaymentIntent) (summary : ReconciliationSummary) (w : World) (seen : History Op.Answer)
    (result : RoundResult) (o : Outcome Op.Answer World (Except JsError ReconciliationSummary)) : Prop where
  value : o.value = .ok (result.counted row summary)
  intent : o.world.db.intents.find row.id = some { row with status := result.status row.status }
  notices : noticesOf o.world.queue row.id = noticesOf w.queue row.id ++ result.notices
  log : LostSince seen o.log (result.agrees = false)

theorem noticesOf_job (queue : List OutboundWebhookJobData) {job : OutboundWebhookJobData} {id : Uuid} (about : job.intentId = id) :
    noticesOf (queue ++ [job]) id = noticesOf queue id ++ [job.payload.event] := by
  rw [noticesOf_append, if_pos about]

theorem setStatus_stored (stored : w.db.intents.find row.id = some row) (status : PaymentStatus) :
    (w.db.setStatus row.id status).intents.find row.id = some { row with status } := by
  rw [Database.setStatus_find, if_pos rfl, stored]
  rfl

/-- What the loop makes of an exception: its text is noted. -/
def caught (row : PaymentIntent) (summary : ReconciliationSummary) (o : Outcome Op.Answer World (Except JsError ReconciliationSummary)) :
    Outcome Op.Answer World (Except JsError ReconciliationSummary) :=
  match o.value with
  | .ok value => ⟨.ok value, o.world, o.log⟩
  | .error error => ⟨.ok { summary with
      errors := summary.errors ++ [s!"Failed to reconcile intent {row.id.text}: {error.message}"] }, o.world, o.log⟩

theorem caught_ok (value : ReconciliationSummary) (log : History Op.Answer) :
    caught row summary ⟨.ok value, w, log⟩ = ⟨.ok value, w, log⟩ := rfl

theorem caught_error (err : JsError) (log : History Op.Answer) :
    caught row summary ⟨.error err, w, log⟩ = ⟨.ok { summary with
      errors := summary.errors ++ [s!"Failed to reconcile intent {row.id.text}: {err.message}"] }, w, log⟩ := rfl

theorem play_round (P : Platform) (env : Nat → Op → Env) (row : PaymentIntent) (summary : ReconciliationSummary)
    (seen : History Op.Answer) (w : World) :
    Async.play (perform P) env (reconcileIntent P row summary) seen w =
      caught row summary (match row.gatewayPaymentId.filter (· ≠ "") with
        | none => Async.play (perform P) env (reconcileAbandoned row summary) seen w
        | some gatewayPaymentId => Async.play (perform P) env (reconcileKnown P row gatewayPaymentId summary) seen w) := by
  have noted : ∀ x : Promise ReconciliationSummary, Async.play (perform P) env
      (tryCatch x fun error => return { summary with
        errors := summary.errors ++ [s!"Failed to reconcile intent {row.id.text}: {error.message}"] }) seen w =
      caught row summary (Async.play (perform P) env x seen w) := by
    intro x
    rw [Async.play_tryCatch, caught]
    cases (Async.play (perform P) env x seen w).value <;> rfl
  unfold reconcileIntent
  rw [noted]
  cases row.gatewayPaymentId.filter (· ≠ "") <;> rfl

/-- The write of a round and its notice, with what the round makes of an exception. -/
theorem SettleEnds.round {settlement : Settlement} {o : Outcome Op.Answer World (Except JsError ReconciliationSummary)}
    {entry : (op : Op) × op.Answer} (stored : w.db.intents.find row.id = some row) (silent : ¬ losesNotice entry)
    (ends : SettleEnds row settlement (RoundResult.counted (.settled settlement) row summary) w (entry :: seen) o) :
    ∃ result, RoundEnds row summary w seen result (caught row summary o) ∧
      (result.error = none → result = .settled settlement) := by
  have since : ∀ {log lost}, LostSince (entry :: seen) log lost → LostSince seen log lost := by
    rintro log lost ⟨new, rfl, loses⟩
    refine ⟨new ++ [entry], by simp, ?_⟩
    rw [← loses]
    simp [or_and_right, exists_or, silent]
  cases ends with
  | @refused err log lost =>
    rw [caught_error]
    exact ⟨.missed err.message, ⟨rfl, stored, (List.append_nil _).symm, by simpa [RoundResult.agrees] using since lost⟩,
      fun none => by cases none⟩
  | @unsent err log lost =>
    rw [caught_error]
    exact ⟨.unsent settlement err.message, ⟨rfl, setStatus_stored stored _, (List.append_nil _).symm,
      by simpa [RoundResult.agrees] using since lost⟩, fun none => by cases none⟩
  | @sent job log about event lost =>
    rw [caught_ok]
    refine ⟨.settled settlement, ⟨rfl, setStatus_stored stored _, ?_, by simpa [RoundResult.agrees] using since lost⟩,
      fun _ => rfl⟩
    rw [noticesOf_job _ about, event]
    rfl

/-- The round of an intent without a payment at a gateway. -/
theorem abandoned_ends (P : Platform) (env : Nat → Op → Env) (summary : ReconciliationSummary) (seen : History Op.Answer)
    (stored : w.db.intents.find row.id = some row) (unknown : row.gatewayPaymentId.filter (· ≠ "") = none) :
    ∃ result, RoundEnds row summary w seen result (Async.play (perform P) env (reconcileIntent P row summary) seen w) := by
  let read : History Op.Answer := ⟨.now, (env seen.length .now).now⟩ :: seen
  let op : Op := .query (.updateIntent row.id .failed)
  have timed : perform P (env seen.length .now) .now w = ((env seen.length .now).now, w) := rfl
  rw [play_round, unknown, reconcileAbandoned, dateNow, Async.play_bind_request timed]
  dsimp only
  by_cases old : row.createdAt < (env seen.length .now).now - 24 * 60 * 60 * 1000
  · rw [if_pos old]
    cases struck : (env read.length op).fails with
    | true =>
      have refused : perform P (env read.length op) op w =
          (.error (DbError.unavailable.thrown (env read.length op).message), w) := by
        simp only [op, perform, struck, if_true]
      rw [query, Async.play_bind_request refused]
      refine ⟨.missed (env read.length op).message, rfl, stored, (List.append_nil _).symm, [_, _], rfl, ?_⟩
      simp [losesNotice, RoundResult.agrees, op]
    | false =>
      have wrote : perform P (env read.length op) op w =
          (.ok { row with status := .failed }, { w with db := w.db.setStatus row.id .failed }) := by
        simp only [op, perform, struck, Bool.false_eq_true, if_false, Query.exec, paymentIntentUpdate_known stored]
      rw [query, Async.play_bind_request wrote]
      refine ⟨.abandoned, rfl, setStatus_stored stored _, (List.append_nil _).symm, [_, _], rfl, ?_⟩
      simpa [losesNotice, RoundResult.agrees, op] using unknown
  · rw [if_neg old]
    refine ⟨.unchanged, rfl, stored, (List.append_nil _).symm, [_], rfl, ?_⟩
    simp [losesNotice, RoundResult.agrees]

/-- The round of an intent that is known to its gateway: without an error, the
intent takes over what the gateway reports. -/
theorem known_ends (P : Platform) (env : Nat → Op → Env) (summary : ReconciliationSummary) (seen : History Op.Answer)
    (stored : w.db.intents.find row.id = some row) {gatewayPaymentId : String}
    (known : row.gatewayPaymentId.filter (· ≠ "") = some gatewayPaymentId) :
    ∃ result, RoundEnds row summary w seen result (Async.play (perform P) env (reconcileIntent P row summary) seen w) ∧
      (result.error = none → result.status row.status =
        (env seen.length (.fetchPaymentStatus row.gateway gatewayPaymentId)).status.settles row.status) := by
  let op : Op := .fetchPaymentStatus row.gateway gatewayPaymentId
  have some : row.gatewayPaymentId.filter (· ≠ "") ≠ none := by
    rw [known]
    exact Option.some_ne_none _
  rw [play_round, known]
  simp only [reconcileKnown, fetchPaymentStatus_eq]
  cases struck : (env seen.length op).fails with
  | true =>
    have refused : perform P (env seen.length op) op w = (.error ⟨.other, (env seen.length op).message⟩, w) := by
      simp only [op, perform, struck, if_true]
    rw [Async.play_bind_request refused]
    refine ⟨.missed (env seen.length op).message, ⟨rfl, stored, (List.append_nil _).symm, [_], rfl, ?_⟩, fun none => by cases none⟩
    simp [losesNotice, RoundResult.agrees, op]
  | false =>
    have answered : perform P (env seen.length op) op w = (.ok (env seen.length op).status, w) := by
      simp only [op, perform, struck, Bool.false_eq_true, if_false]
    rw [Async.play_bind_request answered]
    dsimp only
    change ∃ result : RoundResult, _ ∧ (_ → result.status row.status = (env seen.length op).status.settles row.status)
    generalize (env seen.length op).status = reported
    have silent : ¬ losesNotice (⟨op, .ok reported⟩ : (op : Op) × op.Answer) := by simp [losesNotice, op]
    have idle : LostSince seen (⟨op, .ok reported⟩ :: seen) (RoundResult.unchanged.agrees = false) :=
      ⟨[_], rfl, by simpa [RoundResult.agrees] using silent⟩
    cases reported with
    | captured =>
      obtain ⟨result, ends, settled⟩ := (settle_ends .captured _ stored some).round stored silent
      exact ⟨result, ends, fun none => by rw [settled none]; rfl⟩
    | failed =>
      obtain ⟨result, ends, settled⟩ := (settle_ends .failed _ stored some).round stored silent
      exact ⟨result, ends, fun none => by rw [settled none]; rfl⟩
    | _ => exact ⟨.unchanged, ⟨rfl, stored, (List.append_nil _).symm, idle⟩, fun _ => rfl⟩

theorem round_ends (P : Platform) (env : Nat → Op → Env) (summary : ReconciliationSummary) (seen : History Op.Answer)
    (stored : w.db.intents.find row.id = some row) :
    ∃ result, RoundEnds row summary w seen result (Async.play (perform P) env (reconcileIntent P row summary) seen w) := by
  cases known : row.gatewayPaymentId.filter (· ≠ "") with
  | none => exact abandoned_ends P env summary seen stored known
  | some gatewayPaymentId =>
    obtain ⟨result, ends, _⟩ := known_ends P env summary seen stored known
    exact ⟨result, ends⟩

/-- The summary of the rounds of a loop. -/
def summed (rounds : List (PaymentIntent × RoundResult)) (summary : ReconciliationSummary) : ReconciliationSummary :=
  rounds.foldl (fun counted round => round.2.counted round.1 counted) summary

/-- What the loop does to its intents, to the notices about them and to the summary. -/
structure LoopEnds (rounds : List (PaymentIntent × RoundResult)) (rows : List PaymentIntent) (summary : ReconciliationSummary)
    (w : World) (seen : History Op.Answer) (o : Outcome Op.Answer World (Except JsError ReconciliationSummary)) : Prop where
  rows : rounds.map Prod.fst = rows
  value : o.value = .ok (summed rounds summary)
  intents : ∀ round ∈ rounds,
    o.world.db.intents.find round.1.id = some { round.1 with status := round.2.status round.1.status }
  notices : ∀ round ∈ rounds, noticesOf o.world.queue round.1.id = noticesOf w.queue round.1.id ++ round.2.notices
  log : LostSince seen o.log (∃ round ∈ rounds, round.2.agrees = false)

/-- Every round of the loop ends in its own way, and leaves the other intents alone. -/
theorem loop_ends (P : Platform) (env : Nat → Op → Env) {rows : List PaymentIntent}
    (distinct : (rows.map PaymentIntent.id).Nodup) (stored : ∀ row ∈ rows, w.db.intents.find row.id = some row)
    (summary : ReconciliationSummary) (updates : Updates seen) :
    ∃ rounds, LoopEnds rounds rows summary w seen (Async.play (perform P) env (reconcileAll P rows summary) seen w) := by
  induction rows generalizing summary seen w with
  | nil =>
    refine ⟨[], rfl, rfl, ?_, ?_, [], rfl, by simp⟩
    · exact fun round member => absurd member (List.not_mem_nil)
    · exact fun round member => absurd member (List.not_mem_nil)
  | cons row rest ih =>
    obtain ⟨fresh, distinct⟩ := List.nodup_cons.mp distinct
    obtain ⟨result, round⟩ := round_ends P env summary seen (stored row (List.mem_cons_self ..))
    have apart : ∀ other ∈ rest, row.id ≠ other.id :=
      fun other member same => fresh (List.mem_map.mpr ⟨other, member, same.symm⟩)
    have kept : ∀ other ∈ rest, KeptApart other.id w (Async.play (perform P) env (reconcileIntent P row summary) seen w).log
        (Async.play (perform P) env (reconcileIntent P row summary) seen w).world :=
      fun other member => round_apart P env w row (apart other member) summary updates
    obtain ⟨shown, _⟩ := round_returns P env w row summary updates
    simp only [reconcileAll]
    rw [Async.play_bind_ok round.value]
    generalize Async.play (perform P) env (reconcileIntent P row summary) seen w = o at round kept shown ⊢
    have still : ∀ other ∈ rest, o.world.db.intents.find other.id = some other :=
      fun other member => (kept other member).row.trans (stored other (List.mem_cons_of_mem _ member))
    obtain ⟨rounds, loop⟩ := ih distinct still (result.counted row summary) shown
    have alone := loop_apart P env o.world rest (fun other member => (apart other member).symm) (result.counted row summary) shown
    refine ⟨(row, result) :: rounds, by rw [List.map_cons, loop.rows], loop.value, ?_, ?_, ?_⟩
    · intro each member
      rcases List.mem_cons.mp member with rfl | later
      · exact alone.row.trans round.intent
      · exact loop.intents each later
    · intro each member
      rcases List.mem_cons.mp member with rfl | later
      · exact alone.notices.trans round.notices
      · have listed : each.1 ∈ rest := by
          rw [← loop.rows]
          exact List.mem_map_of_mem later
        rw [loop.notices each later, (kept each.1 listed).notices]
    · obtain ⟨early, first, lostFirst⟩ := round.log
      obtain ⟨late, later, lostLater⟩ := loop.log
      refine ⟨late ++ early, by rw [later, first, List.append_assoc], ?_⟩
      simp only [List.mem_append, List.mem_cons, or_and_right, exists_or, exists_eq_left, lostFirst, lostLater]
      exact or_comm

end

/-- The status of an intent changes exactly with the notices about it: both stay,
or it is settled and the merchant is told so. -/
def GoTogether (intent : PaymentIntent) (before after : World) : Prop :=
  (after.db.intents.find intent.id = some intent ∧ noticesOf after.queue intent.id = noticesOf before.queue intent.id) ∨
    ∃ settlement : Settlement, after.db.intents.find intent.id = some { intent with status := settlement.status } ∧
      noticesOf after.queue intent.id = noticesOf before.queue intent.id ++ [noticeOf settlement.status]

/-- A reconciliation tells of every change it makes, leaves the intents pending
whose errors it lists, and counts the ones it has settled. -/
structure ReconciledExactly (before : World) (stale : List PaymentIntent) (summary : ReconciliationSummary) (after : World) : Prop where
  together : ∀ intent ∈ before.db.intents.rows, GoTogether intent before after
  errors : ∃ reported : List (PaymentIntent × String), summary.errors = reported.map (fun report =>
      s!"Failed to reconcile intent {report.1.id.text}: {report.2}") ∧ (reported.map Prod.fst).Sublist stale ∧
    ∀ report ∈ reported, after.db.intents.find report.1.id = some report.1
  captured : summary.captured =
    stale.countP fun intent => (after.db.intents.find intent.id).map PaymentIntent.status = some .captured
  failed : summary.failed =
    stale.countP fun intent => (after.db.intents.find intent.id).map PaymentIntent.status = some .failed

section
variable {rounds : List (PaymentIntent × RoundResult)}

/-- The errors of a loop, with their intents. -/
def reports (rounds : List (PaymentIntent × RoundResult)) : List (PaymentIntent × String) :=
  rounds.filterMap fun round => round.2.error.map fun message => (round.1, message)

theorem reports_sublist (rounds : List (PaymentIntent × RoundResult)) :
    ((reports rounds).map Prod.fst).Sublist (rounds.map Prod.fst) := by
  unfold reports
  induction rounds with
  | nil => exact List.Sublist.refl _
  | cons round rest ih =>
    cases erred : round.2.error with
    | none =>
      simp only [List.filterMap_cons, erred, Option.map_none, List.map_cons]
      exact ih.cons _
    | some message =>
      simp only [List.filterMap_cons, erred, Option.map_some, List.map_cons]
      exact ih.cons_cons _

theorem summed_errors (rounds : List (PaymentIntent × RoundResult)) (summary : ReconciliationSummary) :
    (summed rounds summary).errors = summary.errors ++ (reports rounds).map (fun report =>
      s!"Failed to reconcile intent {report.1.id.text}: {report.2}") := by
  unfold summed reports
  induction rounds generalizing summary with
  | nil => simp
  | cons round rest ih =>
    obtain ⟨intent, result⟩ := round
    rw [List.foldl_cons, ih]
    rcases result with _ | _ | ⟨_ | _⟩ | _ | _ <;> simp [RoundResult.counted, RoundResult.error]

theorem summed_counts (rounds : List (PaymentIntent × RoundResult)) (summary : ReconciliationSummary) :
    (summed rounds summary).captured = summary.captured + rounds.countP (fun round => round.2.counts = some .captured) ∧
      (summed rounds summary).failed = summary.failed + rounds.countP (fun round => round.2.counts = some .failed) := by
  unfold summed
  induction rounds generalizing summary with
  | nil => simp
  | cons round rest ih =>
    obtain ⟨intent, result⟩ := round
    obtain ⟨captured, failed⟩ := ih (result.counted intent summary)
    rw [List.foldl_cons, captured, failed, List.countP_cons, List.countP_cons]
    rcases result with _ | _ | ⟨_ | _⟩ | _ | _ <;> simp [RoundResult.counted, RoundResult.counts] <;> omega

/-- A round that disagrees settles its intent and tells nobody. -/
theorem RoundResult.disagrees {result : RoundResult} (disagrees : result.agrees = false) (before : PaymentStatus) :
    result.notices = [] ∧ ∃ settlement : Settlement, result.status before = settlement.status := by
  cases result with
  | unsent settlement message => exact ⟨rfl, settlement, rfl⟩
  | abandoned => exact ⟨rfl, .failed, rfl⟩
  | _ => cases disagrees

theorem RoundResult.together {result : RoundResult} (agrees : result.agrees = true) (before : PaymentStatus) :
    (result.status before = before ∧ result.notices = []) ∨
      ∃ settlement : Settlement, result.status before = settlement.status ∧ result.notices = [noticeOf settlement.status] := by
  cases result with
  | settled settlement => exact Or.inr ⟨settlement, rfl, rfl⟩
  | unsent settlement message => cases agrees
  | abandoned => cases agrees
  | _ => exact Or.inl ⟨rfl, rfl⟩

/-- What is counted is settled, where the round agrees. -/
theorem RoundResult.counts_iff {result : RoundResult} (agrees : result.agrees = true) (settlement : Settlement) :
    result.counts = some settlement ↔ result.status .pending = settlement.status := by
  cases result with
  | unsent settlement message => cases agrees
  | abandoned => cases agrees
  | settled done => cases done <;> cases settlement <;> simp [RoundResult.counts, RoundResult.status, Settlement.status]
  | _ => cases settlement <;> simp [RoundResult.counts, RoundResult.status, Settlement.status]

variable {stale : List PaymentIntent} {summary : ReconciliationSummary} {w : World} {seen : History Op.Answer}
variable {o : Outcome Op.Answer World (Except JsError ReconciliationSummary)}

/-- A round that ends in this way has its intent go together with its notices, if and only if it agrees. -/
theorem LoopEnds.together_iff (ends : LoopEnds rounds stale summary w seen o) (pending : ∀ intent ∈ stale, intent.status = .pending)
    {round : PaymentIntent × RoundResult} (member : round ∈ rounds) :
    GoTogether round.1 w o.world ↔ round.2.agrees = true := by
  have listed : round.1 ∈ stale := by
    rw [← ends.rows]
    exact List.mem_map_of_mem member
  have intent := ends.intents round member
  have notices := ends.notices round member
  constructor
  · intro together
    by_contra disagrees
    obtain ⟨silent, settlement, settled⟩ := RoundResult.disagrees (Bool.eq_false_iff.mpr disagrees) round.1.status
    rw [silent, List.append_nil] at notices
    rcases together with ⟨same, _⟩ | ⟨_, _, told⟩
    · have status := congrArg PaymentIntent.status (Option.some.inj (intent.symm.trans same))
      have still : settlement.status = .pending := settled.symm.trans (status.trans (pending _ listed))
      cases settlement <;> cases still
    · exact absurd (notices.symm.trans told) (by simp)
  · intro agrees
    rcases RoundResult.together agrees round.1.status with ⟨still, silent⟩ | ⟨settlement, settled, told⟩
    · rw [still] at intent
      rw [silent, List.append_nil] at notices
      exact Or.inl ⟨intent, notices⟩
    · rw [settled] at intent
      rw [told] at notices
      exact Or.inr ⟨settlement, intent, notices⟩

/-- The intents with a status after the loop are those that are counted under it. -/
theorem LoopEnds.counted (ends : LoopEnds rounds stale summary w seen o) (pending : ∀ intent ∈ stale, intent.status = .pending)
    (agree : ∀ round ∈ rounds, round.2.agrees = true) (settlement : Settlement) :
    (stale.countP fun intent => (o.world.db.intents.find intent.id).map PaymentIntent.status = some settlement.status) =
      rounds.countP fun round => round.2.counts = some settlement := by
  rw [← ends.rows, List.countP_map]
  refine List.countP_congr fun round member => ?_
  have listed : round.1 ∈ stale := by
    rw [← ends.rows]
    exact List.mem_map_of_mem member
  have counts := RoundResult.counts_iff (agree round member) settlement
  simp only [Function.comp_apply, decide_eq_true_eq, ends.intents round member, Option.map_some, Option.some.injEq,
    pending _ listed, counts]

theorem LoopEnds.exact_iff (ends : LoopEnds rounds stale summary w seen o) (pending : ∀ intent ∈ stale, intent.status = .pending)
    (stored : ∀ intent ∈ stale, intent ∈ w.db.intents.rows) (quiet : summary.errors = [] ∧ summary.captured = 0 ∧ summary.failed = 0)
    (others : ∀ intent ∈ w.db.intents.rows, intent ∉ stale → GoTogether intent w o.world) :
    ReconciledExactly w stale (summed rounds summary) o.world ↔ ∀ round ∈ rounds, round.2.agrees = true := by
  have listed : ∀ round ∈ rounds, round.1 ∈ stale := by
    intro round member
    rw [← ends.rows]
    exact List.mem_map_of_mem member
  constructor
  · intro exact round member
    exact (ends.together_iff pending member).mp (exact.together round.1 (stored _ (listed round member)))
  · intro agree
    obtain ⟨captured, failed⟩ := summed_counts rounds summary
    refine ⟨?_, ⟨reports rounds, ?_, ?_, ?_⟩, ?_, ?_⟩
    · intro intent member
      by_cases scanned : intent ∈ stale
      · rw [← ends.rows] at scanned
        obtain ⟨round, handled, same⟩ := List.mem_map.mp scanned
        rw [← same]
        exact (ends.together_iff pending handled).mpr (agree round handled)
      · exact others intent member scanned
    · rw [summed_errors, quiet.1, List.nil_append]
    · rw [← ends.rows]
      exact reports_sublist rounds
    · intro report member
      obtain ⟨round, handled, reported⟩ := List.mem_filterMap.mp member
      obtain ⟨message, erred, made⟩ := Option.map_eq_some_iff.mp reported
      subst made
      have intent := ends.intents round handled
      have agrees := agree round handled
      obtain ⟨row, result⟩ := round
      cases result with
      | missed _ => exact intent
      | unsent _ _ => cases agrees
      | _ => cases erred
    · rw [captured, quiet.2.1, Nat.zero_add]
      exact (ends.counted pending agree .captured).symm
    · rw [failed, quiet.2.2, Nat.zero_add]
      exact (ends.counted pending agree .failed).symm

/-- A reconciliation that is struck before the loop throws, and changes nothing. -/
theorem reconcile_unscanned {P : Platform} {env : Nat → Op → Env} (lost : ∀ cutoff, cutoffDate P (env 0 .now).now = some cutoff →
    (env 1 (.query (.findStaleIntents cutoff))).fails = true) :
    ∃ err log, Async.play (perform P) env (reconcileStaleIntents P) [] w = ⟨.error err, w, log⟩ := by
  have timed : perform P (env 0 .now) .now w = ((env 0 .now).now, w) := rfl
  unfold cutoffDate at lost
  unfold reconcileStaleIntents
  rw [dateNow, Async.play_bind_request timed]
  dsimp only
  cases cut : (parseInt (P.processEnv.reconciliationThresholdMinutes.getD "15")).bind fun minutes =>
      timeClip ((env 0 .now).now - minutes * 60 * 1000) with
  | none => exact ⟨_, _, rfl⟩
  | some cutoff =>
    have struck := lost cutoff cut
    have refused : perform P (env 1 (.query (.findStaleIntents cutoff))) (.query (.findStaleIntents cutoff)) w =
        (.error (DbError.unavailable.thrown (env 1 (.query (.findStaleIntents cutoff))).message), w) := by
      simp only [perform, struck, if_true]
    dsimp only
    rw [query, Async.play_bind_request refused]
    exact ⟨_, _, rfl⟩

/-- The loop loses a notice exactly when one of its rounds disagrees. -/
theorem LoopEnds.agree_iff (ends : LoopEnds rounds stale summary w seen o) (quiet : ∀ entry ∈ seen, ¬ losesNotice entry) :
    (∀ round ∈ rounds, round.2.agrees = true) ↔ ∀ entry ∈ o.log, ¬ losesNotice entry := by
  obtain ⟨new, log, lost⟩ := ends.log
  constructor
  · intro agree entry member loses
    rw [log] at member
    rcases List.mem_append.mp member with inside | earlier
    · obtain ⟨round, handled, disagrees⟩ := lost.mp ⟨entry, inside, loses⟩
      exact Bool.false_ne_true (disagrees.symm.trans (agree round handled))
    · exact quiet entry earlier loses
  · intro none round handled
    by_contra disagrees
    obtain ⟨entry, member, loses⟩ := lost.mpr ⟨round, handled, Bool.eq_false_iff.mpr disagrees⟩
    refine none entry ?_ loses
    rw [log]
    exact List.mem_append_left _ member

/-- A reconciliation that is not struck before the loop is its loop, which leaves
alone the intents that were not scanned. -/
theorem reconcile_scanned {P : Platform} {env : Nat → Op → Env} {cutoff : Timestamp}
    (cut : cutoffDate P (env 0 .now).now = some cutoff) (spared : (env 1 (.query (.findStaleIntents cutoff))).fails = false) :
    let o := Async.play (perform P) env (reconcileStaleIntents P) [] w
    let stale := w.db.staleIntents cutoff
    (∃ rounds before, (∀ entry ∈ before, ¬ losesNotice entry) ∧
      LoopEnds rounds stale ⟨stale.length, 0, 0, 0, [], (env 2 .now).now⟩ w before o) ∧
      ∀ intent ∈ w.db.intents.rows, intent ∉ stale → GoTogether intent w o.world := by
  intro o stale
  have stored : ∀ intent ∈ stale, intent ∈ w.db.intents.rows := fun intent member => (List.mem_filter.mp member).1
  have distinct : (stale.map PaymentIntent.id).Nodup :=
    w.db.intents.distinct.sublist (List.filter_sublist.map PaymentIntent.id)
  let before : History Op.Answer := [⟨.now, (env 2 .now).now⟩, ⟨.query (.findStaleIntents cutoff), .ok stale⟩,
    ⟨.now, (env 0 .now).now⟩]
  let first : ReconciliationSummary := ⟨stale.length, 0, 0, 0, [], (env 2 .now).now⟩
  have updates : Updates before := by
    intro _ _ _ listed
    simp [before] at listed
  have quiet : ∀ entry ∈ before, ¬ losesNotice entry := by simp [before, losesNotice]
  have ran : Async.play (perform P) env (reconcileAll P stale first) before w = o := (play_reconcile P env w cut spared).symm
  obtain ⟨rounds, ends⟩ := loop_ends P env distinct (fun row member => Table.find_mem (stored row member)) first updates
  rw [ran] at ends
  refine ⟨⟨rounds, before, quiet, ends⟩, ?_⟩
  intro intent member unscanned
  have apart : ∀ row ∈ stale, row.id ≠ intent.id := by
    intro row scanned same
    rw [w.db.intents.row_unique (stored row scanned) member same] at scanned
    exact unscanned scanned
  have kept := loop_apart P env w stale apart first updates
  rw [ran] at kept
  exact Or.inl ⟨kept.row.trans (Table.find_mem member), kept.notices⟩

/-- A reconciliation that throws changes nothing. One that ends tells of every
change, leaves the intents pending whose errors it lists, and counts what it has
settled, if and only if no enqueue has failed in it and it has updated no intent
without a payment at a gateway. -/
theorem reconcile_exact_iff (P : Platform) (env : Nat → Op → Env) (w : World) :
    let o := Async.play (perform P) env (reconcileStaleIntents P) [] w
    (∀ err, o.value = .error err → o.world = w) ∧ ∀ summary, o.value = .ok summary →
      ∃ cutoff, cutoffDate P (env 0 .now).now = some cutoff ∧
        (ReconciledExactly w (w.db.staleIntents cutoff) summary o.world ↔ ∀ entry ∈ o.log, ¬ losesNotice entry) := by
  intro o
  by_cases lost : ∀ cutoff, cutoffDate P (env 0 .now).now = some cutoff → (env 1 (.query (.findStaleIntents cutoff))).fails = true
  · obtain ⟨err, log, thrown⟩ := reconcile_unscanned (w := w) lost
    have ended : o = ⟨.error err, w, log⟩ := thrown
    rw [ended]
    exact ⟨fun _ _ => rfl, fun summary returned => by cases returned⟩
  obtain ⟨cutoff, unstruck⟩ := not_forall.mp lost
  obtain ⟨cut, spared⟩ := Classical.not_imp.mp unstruck
  have pending : ∀ intent ∈ w.db.staleIntents cutoff, intent.status = .pending := by
    intro intent member
    exact (of_decide_eq_true (List.mem_filter.mp member).2).1
  have stored : ∀ intent ∈ w.db.staleIntents cutoff, intent ∈ w.db.intents.rows :=
    fun intent member => (List.mem_filter.mp member).1
  obtain ⟨⟨rounds, before, quiet, ends⟩, others⟩ := reconcile_scanned (w := w) cut (Bool.eq_false_iff.mpr spared)
  refine ⟨?_, fun summary returned => ⟨cutoff, cut, ?_⟩⟩
  · intro err thrown
    cases ends.value.symm.trans thrown
  · cases ends.value.symm.trans returned
    exact (ends.exact_iff pending stored ⟨rfl, rfl, rfl⟩ others).trans (ends.agree_iff quiet)

end

/-- An enqueue is struck, and nothing else. -/
def unqueuedEnv : Nat → Op → Env := fun _ op => match op with
  | .enqueue _ _ _ _ => { calmEnv with fails := true }
  | _ => calmEnv

/-- A reconciliation of the sample intent, which its gateway reports captured. -/
theorem reconcile_exact_sample :
    let o := Async.play (perform plainPlatform) (fun _ _ => calmEnv) (reconcileStaleIntents plainPlatform) []
      ⟨sampleDatabase .pending, []⟩
    ∃ summary, o.value = .ok summary ∧ ReconciledExactly ⟨sampleDatabase .pending, []⟩
      ((sampleDatabase .pending).staleIntents 99100000) summary o.world := by
  intro o
  have ended : o.value.toOption.isSome = true := by decide +kernel
  have keeps : ∀ entry ∈ o.log, ¬ losesNotice entry := by decide +kernel
  cases value : o.value with
  | error err =>
    rw [value] at ended
    cases ended
  | ok summary =>
    obtain ⟨cutoff, cut, exact⟩ := (reconcile_exact_iff plainPlatform (fun _ _ => calmEnv) ⟨sampleDatabase .pending, []⟩).2
      summary value
    have same : cutoffDate plainPlatform calmEnv.now = some 99100000 := by decide +kernel
    cases same.symm.trans cut
    exact ⟨summary, rfl, exact.mpr keeps⟩

/-- An intent is captured, its merchant is not told, and the error is all that is left of it. -/
theorem reconcile_unsent : ¬ ∀ (P : Platform) (env : Nat → Op → Env) (w : World) (cutoff : Timestamp) (summary : ReconciliationSummary),
    let o := Async.play (perform P) env (reconcileStaleIntents P) [] w
    o.value = .ok summary → cutoffDate P (env 0 .now).now = some cutoff →
      ReconciledExactly w (w.db.staleIntents cutoff) summary o.world := by
  intro always
  let o := Async.play (perform plainPlatform) unqueuedEnv (reconcileStaleIntents plainPlatform) [] ⟨sampleDatabase .pending, []⟩
  have ended : o.value.toOption.isSome = true := by decide +kernel
  have moved : (o.world.db.intents.find (sampleIntent .pending).id).map PaymentIntent.status = some .captured := by decide +kernel
  have silent : noticesOf o.world.queue (sampleIntent .pending).id = [] := by decide +kernel
  cases value : o.value with
  | error err =>
    rw [value] at ended
    cases ended
  | ok summary =>
    have exact := always plainPlatform unqueuedEnv ⟨sampleDatabase .pending, []⟩ 99100000 summary value (by decide +kernel)
    rcases exact.together (sampleIntent .pending) (List.mem_singleton_self _) with ⟨same, _⟩ | ⟨_, _, told⟩
    · cases (congrArg (Option.map PaymentIntent.status) same).symm.trans moved
    · cases silent.symm.trans told

end PayBridge
