import PayBridge.Webhooks

namespace PayBridge
open Store Await

structure ReconciliationSummary where
  scanned : Nat
  captured : Nat
  failed : Nat
  unchanged : Nat
  errors : List String
  executedAt : Timestamp
  deriving DecidableEq

/-- An intent without a payment at a gateway: given up after a day, with no
event to the merchant. -/
def reconcileAbandoned (intent : PaymentIntent) (summary : ReconciliationSummary) : Promise ReconciliationSummary := do
  let now ← dateNow
  let oneDayAgo := now - 24 * 60 * 60 * 1000
  if intent.createdAt < oneDayAgo then
    let _ ← query (.updateIntent intent.id .failed)
    return { summary with failed := summary.failed + 1 }
  else return { summary with unchanged := summary.unchanged + 1 }

/-- An intent known to a gateway: takes over what the gateway reports. -/
def reconcileKnown (P : Platform) (intent : PaymentIntent) (gatewayPaymentId : String)
    (summary : ReconciliationSummary) : Promise ReconciliationSummary := do
  let providerStatus ← fetchPaymentStatus intent.gateway gatewayPaymentId
  match providerStatus with
  | .captured =>
    let updated ← query (.updateIntent intent.id .captured)
    dispatchPaymentEvent P .paymentSucceeded updated.eventData (some updated.merchantId) none none
    return { summary with captured := summary.captured + 1 }
  | .failed =>
    let updated ← query (.updateIntent intent.id .failed)
    dispatchPaymentEvent P .paymentFailed updated.eventData (some updated.merchantId) none none
    return { summary with failed := summary.failed + 1 }
  | _ => return { summary with unchanged := summary.unchanged + 1 }

/-- One round of the loop; an exception is noted and the loop goes on. -/
def reconcileIntent (P : Platform) (intent : PaymentIntent) (summary : ReconciliationSummary) :
    Promise ReconciliationSummary :=
  tryCatch
    (match intent.gatewayPaymentId.filter (· ≠ "") with
      | none => reconcileAbandoned intent summary
      | some gatewayPaymentId => reconcileKnown P intent gatewayPaymentId summary)
    fun error => return { summary with
      errors := summary.errors ++ [s!"Failed to reconcile intent {intent.id.text}: {error.message}"] }

def reconcileAll (P : Platform) : List PaymentIntent → ReconciliationSummary → Promise ReconciliationSummary
  | [], summary => return summary
  | intent :: rest, summary => do
    let summary ← reconcileIntent P intent summary
    reconcileAll P rest summary

def reconcileStaleIntents (P : Platform) : Promise ReconciliationSummary := do
  let now ← dateNow
  let thresholdMinutes := parseInt (P.processEnv.reconciliationThresholdMinutes.getD "15")
  match thresholdMinutes.bind fun minutes => timeClip (now - minutes * 60 * 1000) with
  | none => throw ⟨.rangeError, "Invalid time value"⟩
  | some cutoffDate =>
    let staleIntents ← query (.findStaleIntents cutoffDate)
    let executedAt ← dateNow
    reconcileAll P staleIntents ⟨staleIntents.length, 0, 0, 0, [], executedAt⟩

/-- The event that goes with a status reconciliation sets. -/
def noticeOf : PaymentStatus → OutboundEventType
  | .captured => .paymentSucceeded
  | _ => .paymentFailed

/-- The scanned rows a thread has seen. -/
def Scanned (seen : History Op.Answer) (intent : PaymentIntent) : Prop :=
  ∃ cutoff staleIntents,
    (⟨.query (.findStaleIntents cutoff), .ok staleIntents⟩ : (op : Op) × op.Answer) ∈ seen ∧ intent ∈ staleIntents

/-- Where a reconciliation stands after what it has seen: it reads, or writes
a scanned intent, or notifies about the intent it has just written, which then
has a payment at its gateway. -/
inductive ReconcileCourse : History Op.Answer → Op → Prop
  | now {seen} : ReconcileCourse seen .now
  | scan {seen cutoff} : ReconcileCourse seen (.query (.findStaleIntents cutoff))
  | inquire {seen gateway gatewayPaymentId} : ReconcileCourse seen (.fetchPaymentStatus gateway gatewayPaymentId)
  | write {seen status} {intent : PaymentIntent} : Scanned seen intent → status = .captured ∨ status = .failed →
      ReconcileCourse seen (.query (.updateIntent intent.id status))
  | lookup {earlier} {intent row : PaymentIntent} {status : PaymentStatus} {id : Uuid} : Scanned earlier intent →
      (intent.gatewayPaymentId.filter (· ≠ "")).isSome → status = .captured ∨ status = .failed →
      ReconcileCourse (⟨.query (.updateIntent intent.id status), .ok row⟩ :: earlier) (.query (.findMerchant id))
  | notify {earlier later} {intent row : PaymentIntent} {status : PaymentStatus} {url secret : String} :
      Scanned earlier intent → (intent.gatewayPaymentId.filter (· ≠ "")).isSome → status = .captured ∨ status = .failed →
      LookedUp (⟨.query (.updateIntent intent.id status), .ok row⟩ :: earlier) later →
      ReconcileCourse later (.enqueue (noticeOf status) row.eventData url secret)

theorem Scanned.later {seen later : History Op.Answer} {intent : PaymentIntent} (scanned : Scanned seen intent)
    (after : seen <:+ later) : Scanned later intent := by
  obtain ⟨cutoff, staleIntents, member, listed⟩ := scanned
  exact ⟨cutoff, staleIntents, after.subset member, listed⟩

/-- What every part of the loop keeps: all rows still to be handled are scanned ones. -/
def StillScanned (staleIntents : List PaymentIntent) (seen : History Op.Answer) : Prop :=
  ∀ intent ∈ staleIntents, Scanned seen intent

theorem StillScanned.later {staleIntents : List PaymentIntent} {seen later : History Op.Answer}
    (still : StillScanned staleIntents seen) (after : seen <:+ later) : StillScanned staleIntents later :=
  fun intent member => (still intent member).later after

/-- An entry in which the gateway of an intent reports what settles its status. -/
inductive Confirms (intent : PaymentIntent) : (op : Op) × op.Answer → PaymentStatus → Prop
  | captured {gatewayPaymentId} : intent.gatewayPaymentId.filter (· ≠ "") = some gatewayPaymentId →
      Confirms intent ⟨.fetchPaymentStatus intent.gateway gatewayPaymentId, .ok .captured⟩ .captured
  | failed {gatewayPaymentId} : intent.gatewayPaymentId.filter (· ≠ "") = some gatewayPaymentId →
      Confirms intent ⟨.fetchPaymentStatus intent.gateway gatewayPaymentId, .ok .failed⟩ .failed

/-- Only an intent with a payment at its gateway is settled so, as captured or failed. -/
theorem Confirms.settles {intent : PaymentIntent} {asked : (op : Op) × op.Answer} {status : PaymentStatus}
    (confirms : Confirms intent asked status) :
    (intent.gatewayPaymentId.filter (· ≠ "")).isSome ∧ (status = .captured ∨ status = .failed) := by
  cases confirms with
  | captured named =>
    rw [named]
    exact ⟨rfl, Or.inl rfl⟩
  | failed named =>
    rw [named]
    exact ⟨rfl, Or.inr rfl⟩

/-- The round of an intent that starts after `start`: it looks at the clock and
gives up an intent of more than a day without a payment, or it asks the gateway,
writes what is settled there and tells the merchant. -/
inductive RoundCourse (P : Platform) (intent : PaymentIntent) (start : History Op.Answer) : History Op.Answer → Op → Prop
  | now : RoundCourse P intent start start .now
  | abandon {now : Timestamp} : intent.gatewayPaymentId.filter (· ≠ "") = none → intent.createdAt < now - 24 * 60 * 60 * 1000 →
      RoundCourse P intent start (⟨.now, now⟩ :: start) (.query (.updateIntent intent.id .failed))
  | inquire {gatewayPaymentId} : RoundCourse P intent start start (.fetchPaymentStatus intent.gateway gatewayPaymentId)
  | settle {asked status} : Confirms intent asked status →
      RoundCourse P intent start (asked :: start) (.query (.updateIntent intent.id status))
  | lookup {asked status} {row : PaymentIntent} : Confirms intent asked status →
      RoundCourse P intent start (⟨.query (.updateIntent intent.id status), .ok row⟩ :: asked :: start)
        (.query (.findMerchant row.merchantId))
  | notify {asked status} {row : PaymentIntent} {found} : Confirms intent asked status →
      RoundCourse P intent start (⟨.query (.findMerchant row.merchantId), found⟩ ::
        ⟨.query (.updateIntent intent.id status), .ok row⟩ :: asked :: start) (notice P (noticeOf status) row.eventData found)

/-- A write of an intent with a payment at its gateway, and the notice of it. -/
theorem settle_course (P : Platform) {intent : PaymentIntent} {start : History Op.Answer} {asked : (op : Op) × op.Answer}
    (status : PaymentStatus) (counted : ReconciliationSummary) (confirms : Confirms intent asked status) :
    Async.Obeys (RoundCourse P intent start) (fun later value => start <:+ later ∧ value.scanned = counted.scanned)
      (fun later _ => start <:+ later)
      (do
        let updated ← query (.updateIntent intent.id status)
        dispatchPaymentEvent P (noticeOf status) updated.eventData (some updated.merchantId) none none
        return counted : Promise ReconciliationSummary) (asked :: start) := by
  have wrote : ∀ entry, start <:+ entry :: asked :: start := fun entry => List.suffix_append [entry, asked] start
  refine (Async.obeys_bind _ _ _).mpr ((Async.obeys_request _ _ _).mpr ⟨.settle confirms, ?_⟩)
  rintro (err | row)
  · exact wrote _
  refine (Async.obeys_bind _ _ _).mpr (obeys_dispatch_own _ _ _ _ _ (.lookup confirms) fun found => ?_)
  have sent : ∀ entry looked, start <:+ entry :: looked :: ⟨.query (.updateIntent intent.id status), .ok row⟩ :: asked :: start :=
    fun entry looked => List.suffix_append [entry, looked, _, asked] start
  exact ⟨.notify confirms, ⟨sent _ _, rfl⟩, fun _ => sent _ _⟩

/-- A round stays on its course, counts no more intents as scanned, and never throws. -/
theorem reconcileIntent_course (P : Platform) (intent : PaymentIntent) (start : History Op.Answer)
    (summary : ReconciliationSummary) :
    Async.Obeys (RoundCourse P intent start) (fun later counted => start <:+ later ∧ counted.scanned = summary.scanned)
      (fun _ _ => False) (reconcileIntent P intent summary) start := by
  have read : ∀ entry, start <:+ entry :: start := fun entry => List.suffix_cons entry start
  unfold reconcileIntent
  refine (Async.obeys_tryCatch _ _ _).mpr ?_
  simp only [Async.obeys_pure, and_true]
  split
  · next unknown =>
    unfold reconcileAbandoned
    refine (Async.obeys_bind _ _ _).mpr ((Async.obeys_request _ _ _).mpr ⟨.now, fun now => ?_⟩)
    simp only
    split
    · next old =>
      have wrote : ∀ entry looked, start <:+ entry :: looked :: start :=
        fun entry looked => List.suffix_append [entry, looked] start
      refine (Async.obeys_bind _ _ _).mpr ((Async.obeys_request _ _ _).mpr ⟨.abandon unknown old, ?_⟩)
      rintro (err | row)
      · exact wrote _ _
      · exact ⟨wrote _ _, rfl⟩
    · exact ⟨read _, rfl⟩
  · next gatewayPaymentId named =>
    unfold reconcileKnown
    simp only [fetchPaymentStatus_eq]
    refine (Async.obeys_bind _ _ _).mpr ((Async.obeys_request _ _ _).mpr ⟨.inquire, ?_⟩)
    rintro (err | providerStatus)
    · exact read _
    · cases providerStatus with
      | captured => exact settle_course P .captured { summary with captured := summary.captured + 1 } (.captured named)
      | failed => exact settle_course P .failed { summary with failed := summary.failed + 1 } (.failed named)
      | _ => exact ⟨read _, rfl⟩

section
variable {asks : History Op.Answer → Op → Prop} {keeps : History Op.Answer → ReconciliationSummary → Prop}

/-- What every round keeps, the loop keeps. -/
theorem obeys_reconcileAll (P : Platform) {rows : List PaymentIntent}
    (round : ∀ intent ∈ rows, ∀ summary seen, keeps seen summary →
      Async.Obeys asks keeps (fun _ _ => False) (reconcileIntent P intent summary) seen)
    {summary : ReconciliationSummary} {seen : History Op.Answer} (start : keeps seen summary) :
    Async.Obeys asks keeps (fun _ _ => False) (reconcileAll P rows summary) seen := by
  induction rows generalizing summary seen with
  | nil => exact start
  | cons intent rest ih =>
    refine (Async.obeys_bind _ _ _).mpr ?_
    refine (round intent (List.mem_cons_self ..) summary seen start).mono (fun _ _ asks => asks) ?_ fun _ _ never => never
    intro later counted kept
    exact ih (fun other member => round other (List.mem_cons_of_mem _ member)) kept

/-- A reconciliation is its loop, behind the scan and two looks at the clock. -/
theorem obeys_reconcileStaleIntents (P : Platform) (now : ∀ seen, asks seen .now)
    (scan : ∀ seen cutoff, asks seen (.query (.findStaleIntents cutoff)))
    (loop : ∀ staleIntents seen summary, StillScanned staleIntents seen →
      Async.Obeys asks keeps (fun _ _ => False) (reconcileAll P staleIntents summary) seen) :
    Async.Obeys asks keeps (fun _ _ => True) (reconcileStaleIntents P) [] := by
  unfold reconcileStaleIntents
  refine (Async.obeys_bind _ _ _).mpr ((Async.obeys_request _ _ _).mpr ⟨now _, fun started => ?_⟩)
  simp only
  split
  · trivial
  · refine (Async.obeys_bind _ _ _).mpr ((Async.obeys_request _ _ _).mpr ⟨scan _ _, ?_⟩)
    rintro (err | staleIntents)
    · trivial
    refine (Async.obeys_bind _ _ _).mpr ((Async.obeys_request _ _ _).mpr ⟨now _, fun executedAt => ?_⟩)
    have still : StillScanned staleIntents [⟨.now, executedAt⟩, ⟨.query (.findStaleIntents _), .ok staleIntents⟩, ⟨.now, started⟩] :=
      fun intent member => ⟨_, staleIntents, by simp, member⟩
    exact (loop staleIntents _ _ still).mono (fun _ _ asks => asks) (fun _ _ kept => kept) fun _ _ never => never.elim

end

/-- The round of a scanned intent is part of a reconciliation. -/
theorem RoundCourse.scanned {P : Platform} {intent : PaymentIntent} {start seen : History Op.Answer} {op : Op}
    (course : RoundCourse P intent start seen op) (scanned : Scanned start intent) : ReconcileCourse seen op := by
  have later : ∀ entry, Scanned (entry :: start) intent := fun entry => scanned.later (List.suffix_cons entry start)
  cases course with
  | now => exact .now
  | abandon _ _ => exact .write (later _) (Or.inr rfl)
  | inquire => exact .inquire
  | settle confirms => exact .write (later _) confirms.settles.2
  | lookup confirms => exact .lookup (later _) confirms.settles.1 confirms.settles.2
  | notify confirms => exact .notify (later _) confirms.settles.1 confirms.settles.2 (Or.inr ⟨_, _, rfl⟩)

theorem reconcileStaleIntents_course (P : Platform) :
    Async.Obeys ReconcileCourse (fun _ _ => True) (fun _ _ => True) (reconcileStaleIntents P) [] := by
  refine obeys_reconcileStaleIntents P (fun _ => .now) (fun _ _ => .scan) fun staleIntents seen summary still => ?_
  have round : ∀ intent ∈ staleIntents, ∀ summary start, StillScanned staleIntents start →
      Async.Obeys ReconcileCourse (fun later _ => StillScanned staleIntents later) (fun _ _ => False)
        (reconcileIntent P intent summary) start := by
    intro intent member summary start still
    exact (reconcileIntent_course P intent start summary).mono (fun _ _ course => course.scanned (still intent member))
      (fun _ _ kept => still.later kept.1) fun _ _ never => never
  exact (obeys_reconcileAll P round still).mono (fun _ _ asks => asks) (fun _ _ _ => trivial) fun _ _ never => never

end PayBridge
