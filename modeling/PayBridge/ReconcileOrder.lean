import Mathlib.Algebra.BigOperators.Group.List.Basic
import PayBridge.ReconcileAlone
import PayBridge.TenantView

namespace PayBridge
open Store Await

/-- What a reconciliation is given from outside: the time at its start, whether
its scan is struck, and what the steps of each intent's round meet. -/
structure ReconcileGiven where
  clock : Timestamp
  struck : Bool
  steps : Uuid → Nat → Op → Env

/-- The summary before the loop. -/
def started (stale : List PaymentIntent) (executedAt : Timestamp) : ReconciliationSummary :=
  ⟨stale.length, 0, 0, 0, [], executedAt⟩

/-- The log before the loop. -/
def opening (env : Nat → Op → Env) (cutoff : Timestamp) (stale : List PaymentIntent) : History Op.Answer :=
  [⟨.now, (env 2 .now).now⟩, ⟨.query (.findStaleIntents cutoff), .ok stale⟩, ⟨.now, (env 0 .now).now⟩]

/-- A run in a world meets what it is given. -/
structure Meets (P : Platform) (env : Nat → Op → Env) (given : ReconcileGiven) (w : World) : Prop where
  clock : (env 0 .now).now = given.clock
  scan : ∀ cutoff, (env 1 (.query (.findStaleIntents cutoff))).fails = given.struck
  rounds : ∀ cutoff, cutoffDate P given.clock = some cutoff → given.struck = false →
    RoundsMeet P env given.steps (w.db.staleIntents cutoff)
      (started (w.db.staleIntents cutoff) (env 2 .now).now) (opening env cutoff (w.db.staleIntents cutoff)) w

/-- Every assignment is met in some environment. -/
theorem exists_meets (P : Platform) (given : ReconcileGiven) (w : World) : ∃ env, Meets P env given w := by
  let base (_ : Nat) (_ : Op) : Env := { given.steps ⟨""⟩ 0 .now with now := given.clock, fails := given.struck }
  cases cut : cutoffDate P given.clock with
  | none =>
    refine ⟨base, rfl, fun _ => rfl, fun cutoff some => ?_⟩
    cases cut.symm.trans some
  | some cutoff =>
    obtain ⟨env, kept, meet⟩ := rounds_met P given.steps (w.db.staleIntents cutoff) base
      (started (w.db.staleIntents cutoff) given.clock) (opening base cutoff (w.db.staleIntents cutoff)) w
    have first : ∀ n op, n < 3 → env n op = base n op := fun n op earlier => kept n op earlier
    refine ⟨env, ?_, fun _ => ?_, fun other again _ => ?_⟩
    · rw [first 0 .now (by decide)]
    · rw [first 1 _ (by decide)]
    · cases cut.symm.trans again
      have opened : opening env cutoff (w.db.staleIntents cutoff) = opening base cutoff (w.db.staleIntents cutoff) := by
        rw [opening, opening, first 2 .now (by decide), first 0 .now (by decide)]
      rw [opened, first 2 .now (by decide)]
      exact meet

/-- The counts of a list of rounds, added up. -/
theorem plus_all (counts : PaymentIntent → ReconciliationSummary) (rows : List PaymentIntent) (summary : ReconciliationSummary) :
    rows.foldl (fun summary intent => summary.plus (counts intent)) summary =
      { summary with
        captured := summary.captured + (rows.map fun intent => (counts intent).captured).sum
        failed := summary.failed + (rows.map fun intent => (counts intent).failed).sum
        unchanged := summary.unchanged + (rows.map fun intent => (counts intent).unchanged).sum
        errors := summary.errors ++ rows.flatMap fun intent => (counts intent).errors } := by
  induction rows generalizing summary with
  | nil => simp
  | cons intent rest ih =>
    rw [List.foldl_cons, ih]
    simp only [ReconciliationSummary.plus, List.map_cons, List.sum_cons, List.flatMap_cons, add_assoc, List.append_assoc]

section
variable {P : Platform} {w : World} {intent : PaymentIntent} {steps : Nat → Op → Env}

/-- How the round of an intent ends alone. -/
theorem aloneRound_ends (steps : Nat → Op → Env) (stored : w.db.intents.find intent.id = some intent) :
    ∃ result, RoundEnds intent nothingCounted w [] result (aloneRound P steps w intent) ∧
      aloneCount P steps w intent = result.counted intent nothingCounted ∧
      (aloneJobs P steps w intent).map (fun job => job.payload.event) = result.notices := by
  obtain ⟨result, ends⟩ := round_ends P steps nothingCounted [] stored
  have ends : RoundEnds intent nothingCounted w [] result (aloneRound P steps w intent) := ends
  have counted : aloneCount P steps w intent = result.counted intent nothingCounted :=
    Except.ok.inj ((aloneRound_returns P steps w intent).symm.trans ends.value)
  refine ⟨result, ends, counted, ?_⟩
  obtain ⟨jobs, queue, about⟩ : ∃ jobs, (aloneRound P steps w intent).world.queue = w.queue ++ jobs ∧
      ∀ job ∈ jobs, job.intentId = intent.id := aloneJobs_about steps
  have own : aloneJobs P steps w intent = jobs := by
    rw [aloneJobs, queue]
    exact List.drop_left
  have all : jobs.filter (fun job => job.intentId = intent.id) = jobs :=
    List.filter_eq_self.mpr fun job member => decide_eq_true (about job member)
  have notices := ends.notices
  simp only [noticesOf, queue, List.filter_append, all, List.map_append, List.append_cancel_left_eq] at notices
  rw [own, notices]

/-- A round counts its intent once. -/
theorem aloneCount_once (steps : Nat → Op → Env) (stored : w.db.intents.find intent.id = some intent) :
    (aloneCount P steps w intent).captured + (aloneCount P steps w intent).failed + (aloneCount P steps w intent).unchanged +
      (aloneCount P steps w intent).errors.length = 1 := by
  obtain ⟨result, _, counted, _⟩ := aloneRound_ends (P := P) steps stored
  rw [counted]
  cases result with
  | settled settlement => cases settlement <;> rfl
  | _ => rfl

/-- The round of an intent depends on its own row, the merchants and what its steps are given. -/
theorem aloneRound_own (steps : Nat → Op → Env) {v : World} (merchants : v.db.merchants = w.db.merchants)
    (row : v.db.intents.find intent.id = w.db.intents.find intent.id) :
    aloneCount P steps v intent = aloneCount P steps w intent ∧ aloneJobs P steps v intent = aloneJobs P steps w intent ∧
      (aloneRound P steps v intent).world.db.intents.find intent.id =
        (aloneRound P steps w intent).world.db.intents.find intent.id ∧
      (aloneRound P steps v intent).log = (aloneRound P steps w intent).log := by
  have placed : ∀ v : World, v.db.merchants = w.db.merchants → v.db.intents.find intent.id = w.db.intents.find intent.id →
      AsAlone P steps intent nothingCounted [] w v (aloneRound P steps v intent) := fun v merchants row =>
    round_placed merchants row nothingCounted fun n op _ => by rw [List.length_nil, Nat.zero_add]
  have there := placed v merchants row
  have here := placed w rfl rfl
  refine ⟨?_, ?_, there.row, there.log.trans (List.append_nil _)⟩
  · have left := (aloneRound_returns P steps v intent).symm.trans there.value
    have right := (aloneRound_returns P steps w intent).symm.trans here.value
    exact Except.ok.inj (left.trans right.symm)
  · rw [aloneJobs, there.queue]
    exact List.drop_left

end

theorem staleIntents_stored {db : Database} {cutoff : Timestamp} {intent : PaymentIntent}
    (scanned : intent ∈ db.staleIntents cutoff) : db.intents.find intent.id = some intent :=
  Table.find_mem (List.mem_filter.mp scanned).1

theorem staleIntents_distinct (db : Database) (cutoff : Timestamp) : ((db.staleIntents cutoff).map PaymentIntent.id).Nodup :=
  db.intents.distinct.sublist (List.filter_sublist.map PaymentIntent.id)

/-- A reconciliation whose scan has succeeded: what it answers and leaves behind,
as the sum of what the round of each scanned intent comes to alone. -/
structure ReconciledAlone (P : Platform) (given : ReconcileGiven) (w : World) (stale : List PaymentIntent)
    (summary : ReconciliationSummary) (after : World) : Prop where
  scanned : summary.scanned = stale.length
  total : summary.scanned = summary.captured + summary.failed + summary.unchanged + summary.errors.length
  captured : summary.captured = (stale.map fun intent => (aloneCount P (given.steps intent.id) w intent).captured).sum
  failed : summary.failed = (stale.map fun intent => (aloneCount P (given.steps intent.id) w intent).failed).sum
  unchanged : summary.unchanged = (stale.map fun intent => (aloneCount P (given.steps intent.id) w intent).unchanged).sum
  errors : summary.errors = stale.flatMap fun intent => (aloneCount P (given.steps intent.id) w intent).errors
  queue : after.queue = w.queue ++ stale.flatMap fun intent => aloneJobs P (given.steps intent.id) w intent
  intents : ∀ intent ∈ stale, after.db.intents.find intent.id =
    (aloneRound P (given.steps intent.id) w intent).world.db.intents.find intent.id
  others : ∀ id, (∀ intent ∈ stale, intent.id ≠ id) → after.db.intents.find id = w.db.intents.find id
  framed : Framed w after

section
variable {P : Platform} {env : Nat → Op → Env} {given : ReconcileGiven} {w : World} {cutoff : Timestamp}

theorem sum_once {stale : List PaymentIntent} {counts : PaymentIntent → ReconciliationSummary}
    (once : ∀ intent ∈ stale, (counts intent).captured + (counts intent).failed + (counts intent).unchanged +
      (counts intent).errors.length = 1) :
    stale.length = (stale.map fun intent => (counts intent).captured).sum +
      (stale.map fun intent => (counts intent).failed).sum + (stale.map fun intent => (counts intent).unchanged).sum +
      (stale.flatMap fun intent => (counts intent).errors).length := by
  induction stale with
  | nil => rfl
  | cons intent rest ih =>
    have first := once intent List.mem_cons_self
    have later := ih fun other member => once other (List.mem_cons_of_mem _ member)
    simp only [List.length_cons, List.map_cons, List.sum_cons, List.flatMap_cons, List.length_append]
    omega

/-- A run whose scan succeeds ends, and its log is that of the scan and of one round for each intent. -/
theorem reconcile_placed (meets : Meets P env given w) (cut : cutoffDate P given.clock = some cutoff)
    (spared : given.struck = false) :
    let o := Async.play (perform P) env (reconcileStaleIntents P) [] w
    let stale := w.db.staleIntents cutoff
    (∃ summary, o.value = .ok summary ∧ ReconciledAlone P given w stale summary o.world) ∧
      o.log = (stale.reverse.flatMap fun intent => (aloneRound P (given.steps intent.id) w intent).log) ++
        opening env cutoff stale := by
  intro o stale
  have ran : o = Async.play (perform P) env (reconcileAll P stale (started stale (env 2 .now).now)) (opening env cutoff stale) w :=
    play_reconcile P env w (by rw [meets.clock]; exact cut) ((meets.scan cutoff).trans spared)
  have updates : Updates (opening env cutoff stale) := by
    intro _ _ _ listed
    simp [opening] at listed
  have each := loop_placed P env given.steps (staleIntents_distinct w.db cutoff) (w := w) rfl (fun _ _ => rfl)
    (started stale (env 2 .now).now) updates (meets.rounds cutoff cut spared)
  rw [ran]
  refine ⟨⟨_, each.value, ?_⟩, each.log⟩
  rw [plus_all]
  have once := sum_once fun intent (scanned : intent ∈ stale) =>
    aloneCount_once (P := P) (given.steps intent.id) (staleIntents_stored scanned)
  refine ⟨rfl, ?_, Nat.zero_add _, Nat.zero_add _, Nat.zero_add _, List.nil_append _, each.queue, each.rows, ?_, each.framed⟩
  · simp only [started, Nat.zero_add, List.nil_append]
    exact once
  · exact fun id apart => (loop_apart P env w stale apart _ updates).row

/-- A run whose scan cannot be made throws, and changes nothing. -/
theorem reconcile_unmet (meets : Meets P env given w)
    (none : ¬ ∃ cutoff, cutoffDate P given.clock = some cutoff ∧ given.struck = false) :
    ∃ err log, Async.play (perform P) env (reconcileStaleIntents P) [] w = ⟨.error err, w, log⟩ := by
  refine reconcile_unscanned fun cutoff cut => ?_
  rw [meets.clock] at cut
  rw [meets.scan]
  exact Bool.eq_true_of_not_eq_false fun spared => none ⟨cutoff, cut, spared⟩

/-- Two runs that count alike, and leave the same rows and the same new jobs. -/
structure SameResult (left right : Outcome Op.Answer World (Except JsError ReconciliationSummary)) : Prop where
  summaries : ∃ summary other, left.value = .ok summary ∧ right.value = .ok other ∧ summary.captured = other.captured ∧
    summary.failed = other.failed ∧ summary.unchanged = other.unchanged ∧ summary.errors.Perm other.errors
  intents : left.world.db.intents.rows.Perm right.world.db.intents.rows
  queue : left.world.queue.Perm right.world.queue

/-- The order of the rows changes nothing. -/
theorem reconcile_perm {env' : Nat → Op → Env} {w' : World} (meets : Meets P env given w) (meets' : Meets P env' given w')
    (cut : cutoffDate P given.clock = some cutoff) (spared : given.struck = false) (merchants : w'.db.merchants = w.db.merchants)
    (rows : w'.db.intents.rows.Perm w.db.intents.rows) (queue : w'.queue.Perm w.queue) :
    SameResult (Async.play (perform P) env' (reconcileStaleIntents P) [] w')
      (Async.play (perform P) env (reconcileStaleIntents P) [] w) := by
  obtain ⟨⟨other, value', there⟩, _⟩ := reconcile_placed meets' cut spared
  obtain ⟨⟨summary, value, here⟩, _⟩ := reconcile_placed meets cut spared
  have find := Table.find_perm rows
  have stale : (w'.db.staleIntents cutoff).Perm (w.db.staleIntents cutoff) := rows.filter _
  have own : ∀ intent : PaymentIntent, _ := fun intent =>
    aloneRound_own (P := P) (given.steps intent.id) merchants (find intent.id)
  refine ⟨⟨other, summary, value', value, ?_, ?_, ?_, ?_⟩, Table.perm_of_find fun id => ?_, ?_⟩
  · rw [there.captured, here.captured]
    simp only [fun intent => (own intent).1]
    exact (stale.map _).sum_eq
  · rw [there.failed, here.failed]
    simp only [fun intent => (own intent).1]
    exact (stale.map _).sum_eq
  · rw [there.unchanged, here.unchanged]
    simp only [fun intent => (own intent).1]
    exact (stale.map _).sum_eq
  · rw [there.errors, here.errors]
    simp only [fun intent => (own intent).1]
    exact stale.flatMap_right _
  · by_cases scanned : ∃ intent ∈ w.db.staleIntents cutoff, intent.id = id
    · obtain ⟨intent, member, rfl⟩ := scanned
      rw [there.intents intent (stale.mem_iff.mpr member), here.intents intent member]
      exact (own intent).2.2.1
    · have apart : ∀ intent ∈ w.db.staleIntents cutoff, intent.id ≠ id := fun intent member same => scanned ⟨intent, member, same⟩
      rw [there.others id fun intent member => apart intent (stale.mem_iff.mp member), here.others id apart, find]
  · rw [there.queue, here.queue]
    simp only [fun intent => (own intent).2.1]
    exact queue.append (stale.flatMap_right _)

/-- Once its scan has succeeded a reconciliation ends, with one round for each
scanned intent, which is counted in one of the four ways and comes to what it
comes to alone: nothing but the intent, the merchants and what its own steps are
given matters. So the order of the rows does not matter, and the intents that
were not scanned stay as they are. -/
theorem reconcile_each_alone (P : Platform) (env : Nat → Op → Env) (given : ReconcileGiven) (w : World) (cutoff : Timestamp)
    (meets : Meets P env given w) (cut : cutoffDate P given.clock = some cutoff) (spared : given.struck = false) :
    let o := Async.play (perform P) env (reconcileStaleIntents P) [] w
    let stale := w.db.staleIntents cutoff
    (∃ summary, o.value = .ok summary ∧ ReconciledAlone P given w stale summary o.world) ∧
      o.log = (stale.reverse.flatMap fun intent => (aloneRound P (given.steps intent.id) w intent).log) ++ opening env cutoff stale ∧
      (∀ intent ∈ stale, (aloneCount P (given.steps intent.id) w intent).captured +
        (aloneCount P (given.steps intent.id) w intent).failed + (aloneCount P (given.steps intent.id) w intent).unchanged +
        (aloneCount P (given.steps intent.id) w intent).errors.length = 1) ∧
      (∀ intent ∈ stale, ∀ steps v, v.db.merchants = w.db.merchants → v.db.intents.find intent.id = some intent →
        aloneCount P steps v intent = aloneCount P steps w intent ∧ aloneJobs P steps v intent = aloneJobs P steps w intent ∧
        (aloneRound P steps v intent).world.db.intents.find intent.id =
          (aloneRound P steps w intent).world.db.intents.find intent.id) ∧
      (∀ intent ∈ w.db.intents.rows, intent ∉ stale → o.world.db.intents.find intent.id = some intent) ∧
      ∀ env' w', Meets P env' given w' → w'.db.merchants = w.db.merchants → w'.db.intents.rows.Perm w.db.intents.rows →
        w'.queue.Perm w.queue → SameResult (Async.play (perform P) env' (reconcileStaleIntents P) [] w') o := by
  intro o stale
  obtain ⟨ended, log⟩ := reconcile_placed meets cut spared
  refine ⟨ended, log, ?_, ?_, ?_, ?_⟩
  · exact fun intent scanned => aloneCount_once (given.steps intent.id) (staleIntents_stored scanned)
  · intro intent scanned steps v merchants row
    obtain ⟨count, jobs, after, _⟩ := aloneRound_own (P := P) steps merchants (row.trans (staleIntents_stored scanned).symm)
    exact ⟨count, jobs, after⟩
  · intro intent stored unscanned
    obtain ⟨summary, _, alone⟩ := ended
    refine (alone.others intent.id fun row scanned same => ?_).trans (Table.find_mem stored)
    rw [w.db.intents.row_unique (List.mem_filter.mp scanned).1 stored same] at scanned
    exact unscanned scanned
  · exact fun env' w' meets' merchants rows queue => reconcile_perm meets meets' cut spared merchants rows queue

end

/-- Every step meets the same. -/
def steady (met : Env) : ReconcileGiven := ⟨met.now, met.fails, fun _ _ _ => met⟩

theorem steady_meets (P : Platform) (met : Env) (w : World) : Meets P (fun _ _ => met) (steady met) w := by
  have rounds : ∀ rows summary seen w, RoundsMeet P (fun _ _ => met) (steady met).steps rows summary seen w := by
    intro rows
    induction rows with
    | nil => exact fun _ _ _ => trivial
    | cons intent rest ih => exact fun _ _ _ => ⟨fun _ _ _ => rfl, fun _ _ => ih _ _ _⟩
  exact ⟨rfl, fun _ => rfl, fun _ _ _ => rounds _ _ _ _⟩

/-- Two pending intents. -/
def twoPending : World := ⟨withStranger .pending .pending, []⟩

/-- The same two in the other order. -/
def twoSwapped : World where
  db := .withoutEvents (withStranger .pending .pending).merchants ⟨[sampleIntent .pending, strangerIntent .pending], by decide +kernel⟩
    (by decide +kernel)
  queue := []

/-- The gateway cannot be asked about the stranger's intent. -/
def strangerStruck : ReconcileGiven :=
  ⟨calmEnv.now, false, fun id _ _ => { calmEnv with fails := id = (strangerIntent .pending).id }⟩

/-- Of two intents one is captured, although the gateway fails for the one before it; in the
other order both come to the same. -/
theorem reconcile_each_alone_sample : ∃ env env' summary,
    (Async.play (perform plainPlatform) env (reconcileStaleIntents plainPlatform) [] twoPending).value = .ok summary ∧
      summary.captured = 1 ∧ summary.errors.length = 1 ∧ summary.scanned = 2 ∧
      SameResult (Async.play (perform plainPlatform) env' (reconcileStaleIntents plainPlatform) [] twoSwapped)
        (Async.play (perform plainPlatform) env (reconcileStaleIntents plainPlatform) [] twoPending) := by
  obtain ⟨env, meets⟩ := exists_meets plainPlatform strangerStruck twoPending
  obtain ⟨env', meets'⟩ := exists_meets plainPlatform strangerStruck twoSwapped
  obtain ⟨⟨summary, value, alone⟩, _, _, _, _, ordered⟩ :=
    reconcile_each_alone plainPlatform env strangerStruck twoPending 99100000 meets (by decide +kernel) rfl
  refine ⟨env, env', summary, value, ?_, ?_, ?_, ordered env' twoSwapped meets' rfl (List.Perm.swap ..) (.refl _)⟩
  · rw [alone.captured]
    decide +kernel
  · rw [alone.errors]
    decide +kernel
  · rw [alone.scanned]
    decide +kernel

end PayBridge
