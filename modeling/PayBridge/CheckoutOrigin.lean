import PayBridge.StatusOrigin

namespace PayBridge
open Store Await

/-- The intent that a checkout has opened: under the reference of its start, at a
candidate of its route which was asked for the charge and has accepted it. -/
inductive IntentOpened (P : Platform) (s : App) (i : Nat) (row : PaymentIntent) : Prop
  | opened {t : Thread Op Op.Answer AppRequest (Except JsError AppReply)} {dto : CreateCheckoutSessionDto}
      {isAvailable : GatewayProvider → Bool} {randomHex : String} {merchantId : Uuid} {now : Timestamp}
      {result : PaymentIntentResult} : s.threads[i]? = some t → t.request = .createSession dto isAvailable randomHex merchantId →
      (i, ⟨.now, now⟩) ∈ s.log → row.reference = orderReference now randomHex →
      row.gateway ∈ (dto.route P isAvailable).candidates →
      (i, ⟨.fireCreateIntent row.gateway dto.amount dto.currency row.reference, .ok result⟩) ∈ s.log →
      row.gatewayPaymentId = some result.gatewayPaymentId → Decimal.ofNumber dto.amount = some row.amount →
      row.currency = P.toUpperCase dto.currency → row.customerEmail = dto.customerEmail → row.merchantId = merchantId →
      row.status = .pending → IntentOpened P s i row

theorem bookIntents_ids (entry : (op : Op) × op.Answer) (rows : List PaymentIntent) :
    (bookIntents entry rows).map PaymentIntent.id = rows.map PaymentIntent.id ++ (insertedIntent entry).toList.map PaymentIntent.id := by
  unfold bookIntents
  rw [List.map_append]
  congr 1
  split
  · rw [List.map_map]
    refine List.map_congr_left fun intent _ => ?_
    simp only [Function.comp_apply]
    split <;> rfl
  · rfl

/-- A log changes no id of an intent, and adds those that it has inserted. -/
theorem logged_ids (log : List (Nat × (op : Op) × op.Answer)) (rows : List PaymentIntent) :
    (log.foldr (fun entry rows => bookIntents entry.2 rows) rows).map PaymentIntent.id =
      rows.map PaymentIntent.id ++ (gather insertedIntent log).map fun opened => opened.2.id := by
  induction log with
  | nil => simp [gather]
  | cons head rest ih =>
    obtain ⟨i, entry⟩ := head
    rw [List.foldr_cons, bookIntents_ids, ih, gather_cons, List.map_append, List.append_assoc]
    cases insertedIntent entry <;> rfl

section
variable {P : Platform} {orchestrator : OrchestratorService} {meets : App → AppStep → Prop} {world : World} {s : App}

/-- A checkout inserts at most one intent. -/
theorem intent_once (faithful : orchestrator.Faithful) (reach : Reach (app P orchestrator) meets world s) (i : Nat) :
    ((own i s.log).countP fun entry => (insertedIntent entry).isSome) ≤ 1 := by
  refine reach.at_most_once (app_course P faithful) i ?_
  intro request seen op answer course inserts earlier member
  obtain ⟨row, inserts⟩ := Option.isSome_iff_exists.mp inserts
  obtain ⟨data, same⟩ := insertedIntent_some inserts
  obtain ⟨rfl, _⟩ := Sigma.mk.inj_iff.mp same
  obtain ⟨_, _, _, _, now, _, _, _, _, later, rfl, each⟩ := course.inserts
  rcases List.mem_append.mp member with charging | first
  · obtain ⟨op, answer⟩ := earlier
    obtain ⟨_, _, rfl⟩ := each _ charging
    rfl
  · rw [List.mem_singleton.mp first]
    rfl

/-- In every run of the application each intent beyond the first ones was opened
by a checkout of its own, at a gateway that has accepted its charge, and is still
stored as it was opened but for its status. -/
theorem intents_opened (faithful : orchestrator.Faithful) (reach : Reach (app P orchestrator) meets world s) :
    ∃ opened : List (Nat × PaymentIntent),
      s.world.db.intents.rows.map PaymentIntent.id = world.db.intents.rows.map PaymentIntent.id ++ opened.map (fun o => o.2.id) ∧
      (opened.map Prod.fst).Nodup ∧ ∀ i row, (i, row) ∈ opened →
        IntentOpened P s i row ∧ ∃ intent ∈ s.world.db.intents.rows, SamePayment intent row := by
  refine ⟨gather insertedIntent s.log, ?_, gather_nodup (intent_once faithful reach), ?_⟩
  · rw [(journaled reach.chronicle).intents, logged_ids]
  · intro i row member
    obtain ⟨entry, logged, inserted⟩ := mem_gather.mp member
    obtain ⟨data, rfl⟩ := insertedIntent_some inserted
    obtain ⟨intent, stored, same⟩ := Option.map_eq_some_iff.mp (told_now reach.chronicle logged .inserted)
    refine ⟨?_, intent, (Table.find_some.mp stored).1, .of_eq same⟩
    obtain ⟨t, earlier, standing, course, seen⟩ := reach.asked_at (app_course P faithful) logged
    obtain ⟨env, w, answered⟩ := reach.chronicle.answered logged
    obtain ⟨_, ran⟩ := perform_query_ok answered
    obtain ⟨amount, held, made, _⟩ := paymentIntentCreate_ok ran
    obtain ⟨dto, isAvailable, randomHex, merchantId, now, execution, asked, rfl, charged, later, rfl, each⟩ := course.inserts
    have timed := seen _ (List.mem_append_right _ List.mem_cons_self)
    have accepted := seen _ charged
    have candidate : execution.gateway ∈ (dto.route P isAvailable).candidates := by
      rcases List.mem_append.mp charged with charging | first
      · obtain ⟨gateway, listed, same⟩ := each _ charging
        cases same
        exact listed
      · cases List.mem_singleton.mp first
    subst made
    exact .opened standing asked timed rfl candidate accepted rfl held rfl rfl rfl rfl

end

theorem intents_opened_sample : ∃ opened : List (Nat × PaymentIntent),
    sampleApp.world.db.intents.rows.map PaymentIntent.id = (sampleIntent .pending).id :: opened.map (fun o => o.2.id) ∧
      opened.length = 1 ∧ ∀ i row, (i, row) ∈ opened → IntentOpened plainPlatform sampleApp i row := by
  obtain ⟨opened, ids, _, each⟩ := intents_opened sampleOrchestrator_faithful sampleApp_reached
  refine ⟨opened, ids, ?_, fun i row member => (each i row member).1⟩
  have two : sampleApp.world.db.intents.rows.length = 2 := by decide +kernel
  have count := congrArg List.length ids
  simp only [List.length_map, List.length_append, two] at count
  have one : openWorld.db.intents.rows.length = 1 := rfl
  omega

end PayBridge
