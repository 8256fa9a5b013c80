import PayBridge.ReconcileOrder

namespace PayBridge
open Store Await

/-- The local status of the same name. -/
def GatewayPaymentStatus.paymentStatus : GatewayPaymentStatus → PaymentStatus
  | .captured => .captured
  | .failed => .failed
  | .pending => .pending
  | .refunded => .refunded
  | .authorized => .authorized

/-- What the gateway of an intent reports in its round. -/
def ReconcileGiven.reported (given : ReconcileGiven) (intent : PaymentIntent) (gatewayPaymentId : String) : GatewayPaymentStatus :=
  (given.steps intent.id 0 (.fetchPaymentStatus intent.gateway gatewayPaymentId)).status

/-- Every scanned intent with a payment at its gateway has the status that the gateway reports. -/
def Synced (given : ReconcileGiven) (stale : List PaymentIntent) (after : World) : Prop :=
  ∀ intent ∈ stale, ∀ gatewayPaymentId, intent.gatewayPaymentId.filter (· ≠ "") = some gatewayPaymentId →
    (after.db.intents.find intent.id).map PaymentIntent.status = some (given.reported intent gatewayPaymentId).paymentStatus

theorem settles_pending_iff (reported : GatewayPaymentStatus) :
    reported.settles .pending = reported.paymentStatus ↔ reported = .captured ∨ reported = .failed ∨ reported = .pending := by
  cases reported <;> simp [GatewayPaymentStatus.settles, GatewayPaymentStatus.paymentStatus]

/-- A round without an error leaves what the gateway's report settles. -/
theorem alone_settles {P : Platform} {steps : Nat → Op → Env} {w : World} {intent : PaymentIntent} {gatewayPaymentId : String}
    (stored : w.db.intents.find intent.id = some intent) (pending : intent.status = .pending)
    (known : intent.gatewayPaymentId.filter (· ≠ "") = some gatewayPaymentId)
    (clean : (aloneCount P steps w intent).errors = []) :
    ((aloneRound P steps w intent).world.db.intents.find intent.id).map PaymentIntent.status =
      some ((steps 0 (.fetchPaymentStatus intent.gateway gatewayPaymentId)).status.settles .pending) := by
  obtain ⟨result, ends, settled⟩ := known_ends P steps nothingCounted [] stored known
  have ends : RoundEnds intent nothingCounted w [] result (aloneRound P steps w intent) := ends
  have counted : aloneCount P steps w intent = result.counted intent nothingCounted :=
    Except.ok.inj ((aloneRound_returns P steps w intent).symm.trans ends.value)
  have none : result.error = none := by
    rw [counted] at clean
    cases result with
    | missed message => cases clean
    | unsent settlement message => cases clean
    | _ => rfl
  rw [ends.intent, Option.map_some, settled none, pending]
  rfl

/-- A reconciliation without errors syncs the intents it has scanned, if and only
if no gateway reports one of them as refunded or as authorized. -/
theorem reconcile_synced_iff (P : Platform) (env : Nat → Op → Env) (given : ReconcileGiven) (w : World)
    (summary : ReconciliationSummary) (meets : Meets P env given w)
    (returned : (Async.play (perform P) env (reconcileStaleIntents P) [] w).value = .ok summary) (clean : summary.errors = []) :
    ∃ cutoff, cutoffDate P given.clock = some cutoff ∧
      (Synced given (w.db.staleIntents cutoff) (Async.play (perform P) env (reconcileStaleIntents P) [] w).world ↔
        ∀ intent ∈ w.db.staleIntents cutoff, ∀ gatewayPaymentId,
          intent.gatewayPaymentId.filter (· ≠ "") = some gatewayPaymentId →
          given.reported intent gatewayPaymentId = .captured ∨ given.reported intent gatewayPaymentId = .failed ∨
            given.reported intent gatewayPaymentId = .pending) := by
  by_cases scans : ∃ cutoff, cutoffDate P given.clock = some cutoff ∧ given.struck = false
  · obtain ⟨cutoff, cut, spared⟩ := scans
    obtain ⟨⟨other, value, alone⟩, _⟩ := reconcile_placed meets cut spared
    cases value.symm.trans returned
    have none := List.flatMap_eq_nil_iff.mp (alone.errors.symm.trans clean)
    refine ⟨cutoff, cut, forall₂_congr fun intent scanned => forall₂_congr fun gatewayPaymentId known => ?_⟩
    have pending : intent.status = .pending := (of_decide_eq_true (List.mem_filter.mp scanned).2).1
    have settled := alone_settles (staleIntents_stored scanned) pending known (none intent scanned)
    rw [alone.intents intent scanned, settled, Option.some.injEq]
    exact settles_pending_iff _
  · obtain ⟨err, log, ended⟩ := reconcile_unmet meets scans
    rw [ended] at returned
    cases returned

/-- The sample intent is captured at its gateway, and then here. -/
theorem reconcile_synced_sample :
    ∃ cutoff, Synced (steady calmEnv) ((sampleDatabase .pending).staleIntents cutoff)
      (Async.play (perform plainPlatform) (fun _ _ => calmEnv) (reconcileStaleIntents plainPlatform) []
        ⟨sampleDatabase .pending, []⟩).world := by
  obtain ⟨cutoff, _, synced⟩ := reconcile_synced_iff plainPlatform (fun _ _ => calmEnv) (steady calmEnv)
    ⟨sampleDatabase .pending, []⟩ ⟨1, 1, 0, 0, [], 100000000⟩ (steady_meets plainPlatform calmEnv _) (by decide +kernel) rfl
  exact ⟨cutoff, synced.mpr fun _ _ _ _ => .inl rfl⟩

def refundedEnv : Env := { calmEnv with status := .refunded }

/-- The sample intent was refunded at its gateway, and stays pending here without an error. -/
theorem reconcile_refunded_unsynced :
    let o := Async.play (perform plainPlatform) (fun _ _ => refundedEnv) (reconcileStaleIntents plainPlatform) []
      ⟨sampleDatabase .pending, []⟩
    Meets plainPlatform (fun _ _ => refundedEnv) (steady refundedEnv) ⟨sampleDatabase .pending, []⟩ ∧
      o.value = .ok ⟨1, 0, 0, 1, [], 100000000⟩ ∧
      cutoffDate plainPlatform (steady refundedEnv).clock = some 99100000 ∧
      ¬ Synced (steady refundedEnv) ((sampleDatabase .pending).staleIntents 99100000) o.world := by
  intro o
  refine ⟨steady_meets plainPlatform refundedEnv _, by decide +kernel, by decide +kernel, fun synced => ?_⟩
  have scanned : sampleIntent .pending ∈ (sampleDatabase .pending).staleIntents 99100000 := by decide +kernel
  have left : (o.world.db.intents.find (sampleIntent .pending).id).map PaymentIntent.status = some .pending := by decide +kernel
  have told := synced _ scanned "pi_stripe_1755000000000" (by decide +kernel)
  cases left.symm.trans told

end PayBridge
