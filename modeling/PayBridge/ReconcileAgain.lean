import PayBridge.ReconcileOrder

namespace PayBridge
open Store Await

/-- A world whose tables read as before has the database of before. -/
theorem Framed.unchanged {w after : World} (framed : Framed w after)
    (find : ∀ id, after.db.intents.find id = w.db.intents.find id) : after.db = w.db := by
  have intents := Table.eq_of_find framed.ids find
  obtain ⟨merchants, events, refunds, _⟩ := framed
  obtain ⟨⟨_, _, _, _, _, _, _⟩, _⟩ := w
  obtain ⟨⟨_, _, _, _, _, _, _⟩, _⟩ := after
  cases merchants
  cases events
  cases refunds
  cases intents
  rfl

section
variable {P : Platform} {env : Nat → Op → Env} {given : ReconcileGiven} {w after : World} {cutoff : Timestamp}

/-- An intent that the next scan finds was left alone by this one, which will be left alone again. -/
theorem stale_again {summary : ReconciliationSummary}
    (alone : ReconciledAlone P given w (w.db.staleIntents cutoff) summary after) {intent : PaymentIntent}
    (again : intent ∈ after.db.staleIntents cutoff) :
    intent ∈ w.db.staleIntents cutoff ∧ (aloneCount P (given.steps intent.id) w intent).captured = 0 ∧
      (aloneCount P (given.steps intent.id) w intent).failed = 0 ∧ aloneJobs P (given.steps intent.id) w intent = [] := by
  have stored := staleIntents_stored again
  have pending : intent.status = .pending ∧ intent.createdAt ≤ cutoff := of_decide_eq_true (List.mem_filter.mp again).2
  by_cases scanned : ∃ row ∈ w.db.staleIntents cutoff, row.id = intent.id
  · obtain ⟨row, member, same⟩ := scanned
    have before : row.status = .pending ∧ row.createdAt ≤ cutoff := of_decide_eq_true (List.mem_filter.mp member).2
    obtain ⟨result, ends, counted, events⟩ :=
      aloneRound_ends (P := P) (given.steps row.id) (staleIntents_stored member)
    have kept : { row with status := result.status row.status } = intent := by
      have left := (alone.intents row member).trans ends.intent
      have right : after.db.intents.find row.id = some intent := by rw [same, stored]
      exact Option.some.inj (left.symm.trans right)
    have still : result.status row.status = .pending := by rw [← pending.1, ← kept]
    have unchanged : row = intent := by
      rw [← kept, still, ← before.1]
    subst unchanged
    have quiet : result.notices = [] := by
      cases result with
      | settled settlement => cases settlement <;> cases still
      | _ => rfl
    rw [quiet, List.map_eq_nil_iff] at events
    refine ⟨member, ?_, ?_, events⟩
    · rw [counted]
      cases result with
      | settled settlement => cases settlement <;> cases still
      | _ => rfl
    · rw [counted]
      cases result with
      | settled settlement => cases settlement <;> cases still
      | abandoned => cases still
      | _ => rfl
  · have apart : ∀ row ∈ w.db.staleIntents cutoff, row.id ≠ intent.id := fun row member same => scanned ⟨row, member, same⟩
    have earlier := (alone.others intent.id apart).symm.trans stored
    have member : intent ∈ w.db.staleIntents cutoff :=
      List.mem_filter.mpr ⟨(Table.find_some.mp earlier).1, decide_eq_true pending⟩
    exact absurd rfl (apart intent member)

end

/-- A second reconciliation under the same conditions changes nothing, and counts none. -/
theorem reconcile_idempotent (P : Platform) (env again : Nat → Op → Env) (given : ReconcileGiven) (w : World)
    (first : Meets P env given w)
    (second : Meets P again given (Async.play (perform P) env (reconcileStaleIntents P) [] w).world) :
    let o := Async.play (perform P) env (reconcileStaleIntents P) [] w
    let o' := Async.play (perform P) again (reconcileStaleIntents P) [] o.world
    o'.world = o.world ∧ (∀ summary, o'.value = .ok summary → summary.captured = 0 ∧ summary.failed = 0) ∧
      ((∃ summary, o'.value = .ok summary) ↔ ∃ summary, o.value = .ok summary) := by
  intro o o'
  by_cases scans : ∃ cutoff, cutoffDate P given.clock = some cutoff ∧ given.struck = false
  · obtain ⟨cutoff, cut, spared⟩ := scans
    obtain ⟨⟨summary, value, alone⟩, _⟩ := reconcile_placed first cut spared
    obtain ⟨⟨other, value', alone'⟩, _⟩ := reconcile_placed second cut spared
    have left : ∀ intent ∈ o.world.db.staleIntents cutoff,
        (aloneCount P (given.steps intent.id) o.world intent).captured = 0 ∧
          (aloneCount P (given.steps intent.id) o.world intent).failed = 0 ∧
          aloneJobs P (given.steps intent.id) o.world intent = [] ∧
          (aloneRound P (given.steps intent.id) o.world intent).world.db.intents.find intent.id = some intent := by
      intro intent scanned
      obtain ⟨member, captured, failed, jobs⟩ := stale_again alone scanned
      have row := (staleIntents_stored scanned).trans (staleIntents_stored member).symm
      obtain ⟨count, own, after, _⟩ := aloneRound_own (P := P) (given.steps intent.id) alone.framed.merchants row
      refine ⟨count ▸ captured, count ▸ failed, own.trans jobs, after.trans ?_⟩
      exact (alone.intents intent member).symm.trans (staleIntents_stored scanned)
    have none : ∀ f : PaymentIntent → Nat, (∀ intent ∈ o.world.db.staleIntents cutoff, f intent = 0) →
        ((o.world.db.staleIntents cutoff).map f).sum = 0 := by
      intro f zero
      rw [List.map_congr_left zero]
      simp
    refine ⟨?_, ?_, ⟨fun _ => ⟨summary, value⟩, fun _ => ⟨other, value'⟩⟩⟩
    · have db : o'.world.db = o.world.db := by
        refine alone'.framed.unchanged fun id => ?_
        by_cases scanned : ∃ intent ∈ o.world.db.staleIntents cutoff, intent.id = id
        · obtain ⟨intent, member, rfl⟩ := scanned
          exact (alone'.intents intent member).trans ((left intent member).2.2.2.trans (staleIntents_stored member).symm)
        · exact alone'.others id fun intent member same => scanned ⟨intent, member, same⟩
      have queue : o'.world.queue = o.world.queue := by
        rw [alone'.queue, List.flatMap_eq_nil_iff.mpr fun intent member => (left intent member).2.2.1, List.append_nil]
      exact congrArg₂ World.mk db queue
    · intro summary returned
      cases value'.symm.trans returned
      exact ⟨alone'.captured.trans (none _ fun intent member => (left intent member).1),
        alone'.failed.trans (none _ fun intent member => (left intent member).2.1)⟩
  · obtain ⟨err, log, ended⟩ := reconcile_unmet first scans
    obtain ⟨err', log', ended'⟩ := reconcile_unmet second scans
    have ran : o = ⟨.error err, w, log⟩ := ended
    have ran' : o' = ⟨.error err', o.world, log'⟩ := ended'
    have thrown : o'.value = .error err' := by rw [ran']
    have thrown' : o.value = .error err := by rw [ran]
    refine ⟨by rw [ran'], fun summary returned => ?_, fun ⟨summary, returned⟩ => ?_, fun ⟨summary, returned⟩ => ?_⟩
    · cases thrown.symm.trans returned
    · cases thrown.symm.trans returned
    · cases thrown'.symm.trans returned

/-- Of two intents the first run captures one, while the gateway fails for the other; the
second run ends as well, and leaves both as they are. -/
theorem reconcile_idempotent_sample : ∃ env again,
    let o := Async.play (perform plainPlatform) env (reconcileStaleIntents plainPlatform) [] twoPending
    let o' := Async.play (perform plainPlatform) again (reconcileStaleIntents plainPlatform) [] o.world
    o.world.db.intents.find (sampleIntent .pending).id = some (sampleIntent .captured) ∧
      o.world.db.intents.find (strangerIntent .pending).id = some (strangerIntent .pending) ∧ o'.world = o.world ∧
      ∃ summary, o'.value = .ok summary := by
  obtain ⟨env, meets⟩ := exists_meets plainPlatform strangerStruck twoPending
  obtain ⟨again, meets'⟩ := exists_meets plainPlatform strangerStruck
    (Async.play (perform plainPlatform) env (reconcileStaleIntents plainPlatform) [] twoPending).world
  obtain ⟨⟨summary, value, alone⟩, _⟩ := reconcile_placed meets (show cutoffDate plainPlatform strangerStruck.clock = some 99100000 by decide +kernel) rfl
  obtain ⟨same, _, ends⟩ := reconcile_idempotent plainPlatform env again strangerStruck twoPending meets meets'
  refine ⟨env, again, ?_, ?_, same, ends.mpr ⟨summary, value⟩⟩
  · exact (alone.intents (sampleIntent .pending) (by decide +kernel)).trans (by decide +kernel)
  · exact (alone.intents (strangerIntent .pending) (by decide +kernel)).trans (by decide +kernel)

end PayBridge
