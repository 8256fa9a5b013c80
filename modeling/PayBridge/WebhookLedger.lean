import PayBridge.System

namespace PayBridge
open Store Await

/-- The deliveries that must leave no trace: not signed, signed wrongly,
without the ids the handler looks for, or about an intent that is not there. -/
inductive Rejected (P : Platform) (db : Database) (d : Delivery) : Prop
  | unsigned : (d.signature (P.toUpperCase d.gatewayParam)).filter (· ≠ "") = none → Rejected P db d
  | forged {provider : GatewayProvider} {signature : String} :
      getProvider (P.toUpperCase d.gatewayParam) = .ok provider →
      d.signature (P.toUpperCase d.gatewayParam) = some signature →
      verifyWebhookSignature provider d.rawBody signature = false → Rejected P db d
  | malformed : (∀ event text idText, inboundEvent P d = .ok event → event.providerEventId = some (.str text) →
      event.paymentIntentId ≠ some (.str idText)) → Rejected P db d
  | unknownIntent {event : InboundEvent} {idText : String} : inboundEvent P d = .ok event →
      event.paymentIntentId = some (.str idText) →
      (∀ id, P.readUuid idText = some id → db.intents.find id = none) → Rejected P db d

/-- A rejected delivery names no event of an intent in the table. -/
theorem Rejected.names_nothing {P : Platform} {db : Database} {d : Delivery} (rejected : Rejected P db d)
    {event : InboundEvent} {text idText : String} {id : Uuid} {intent : PaymentIntent}
    (passed : inboundEvent P d = .ok event) (named : event.providerEventId = some (.str text))
    (paid : event.paymentIntentId = some (.str idText)) (read : P.readUuid idText = some id)
    (found : db.intents.find id = some intent) : False := by
  obtain ⟨provider, signature, known, signed, verified, _⟩ := inboundEvent_ok passed
  cases rejected with
  | unsigned missing =>
    rw [missing] at signed
    cases signed
  | forged known' given refused =>
    cases known.symm.trans known'
    rw [given, Option.filter_some] at signed
    split at signed
    · cases signed
      rw [refused] at verified
      cases verified
    · cases signed
  | malformed lacks => exact lacks event text idText passed named paid
  | unknownIntent passed' paid' unknown =>
    cases passed.symm.trans passed'
    cases paid.symm.trans paid'
    have absent := unknown id read
    rw [found] at absent
    cases absent

/-- What a step of a delivery can do to the tables: nothing, or its one
transaction, with the event row and the status together, when it goes through. -/
theorem delivery_step {P : Platform} {env : Env} {d : Delivery} {seen : History Op.Answer} {op : Op}
    {answer : op.Answer} {before after : World} (course : WebhookCourse P d seen op)
    (did : Performed P env before op answer after) :
    after.db = before.db ∨ ∃ idText text id intent payload,
      op = .query (.recordEvent (some (.str idText)) (some (.str text)) payload) ∧ env.fails = false ∧
      inboundEvent P d = .ok ⟨some (.str idText), some (.str text), payload⟩ ∧ P.readUuid idText = some id ∧
      before.db.intents.find id = some intent ∧ before.db.events.find text = none ∧
      after.db.intents = (before.db.setStatus id .captured).intents ∧
      after.db.events.rows = before.db.events.rows ++ [⟨id, text, payload⟩] := by
  cases course with
  | @record event passed =>
    obtain ⟨paymentIntentId, providerEventId, payload⟩ := event
    cases did with
    | refused _ => exact Or.inl rfl
    | @recorded idText text _ id intent db spared named found fresh intents rows refunds =>
      exact Or.inr ⟨idText, text, id, intent, payload, rfl, spared, passed, named, found, fresh, intents, rows⟩
  | lookup passed =>
    cases did with
    | refused _ => exact Or.inl rfl
    | readMerchant => exact Or.inl rfl
  | notify passed looked =>
    cases did with
    | unqueued _ => exact Or.inl rfl
    | enqueued _ => exact Or.inl rfl

/-- Event rows stay. -/
theorem performed_events {P : Platform} {env : Env} {op : Op} {answer : op.Answer} {before after : World}
    (did : Performed P env before op answer after) {text : String} {row : WebhookEvent}
    (held : before.db.events.find text = some row) : after.db.events.find text = some row := by
  obtain ⟨member, key⟩ := Table.find_some.mp held
  cases did with
  | recorded spared named found fresh intents rows refunds =>
    refine Table.find_some.mpr ⟨?_, key⟩
    simp only [rows]
    exact List.mem_append_left _ member
  | refunded spared stored rowIs found rows events intents =>
    simp only [events]
    exact held
  | _ => exact held

/-- A webhook transaction that went through or was refused as a duplicate. -/
def Recorded (answer : Except JsError PaymentIntent) : Prop := ∀ err, answer = .error err → err.code = some "P2002"

/-- Where a webhook transaction went through or was refused as a duplicate, its
event is in the table ever after. -/
theorem recorded_held {P : Platform} {meets : Service → Step → Prop} {world : World} {s : Service}
    (reach : Reach (payments P) meets world s) {i : Nat} {paymentIntentId providerEventId : JsValue} {payload : Json}
    {answer : Except JsError PaymentIntent}
    (member : (i, ⟨.query (.recordEvent paymentIntentId providerEventId payload), answer⟩) ∈ s.log)
    (settled : Recorded answer) :
    ∃ text row, providerEventId = some (.str text) ∧ s.world.db.events.find text = some row := by
  induction reach using service_steps with
  | initial => cases member
  | spawn s request _ _ ih _ => exact ih member
  | advance s j env request op next answer' w _ _ _ _ did ih _ =>
    rcases List.mem_cons.mp member with same | old
    · cases same
      cases did with
      | @refused _ cause why =>
        have unique : cause = .uniqueConstraint := by
          have code := settled _ rfl
          simp only [DbError.thrown, JsError.code] at code
          cases cause <;> simp [DbError.code] at code
          rfl
        subst unique
        rcases why with ⟨_, impossible⟩ | ⟨_, refused⟩
        · cases impossible
        · obtain ⟨_, text, _, row, _, named, _, held⟩ := recordEventTx_unique refused
          exact ⟨text, row, named, held⟩
      | @recorded idText text _ id intent db spared named found fresh intents rows refunds =>
        refine ⟨text, ⟨id, text, payload⟩, rfl, Table.find_some.mpr ⟨?_, rfl⟩⟩
        simp [rows]
    · obtain ⟨text, row, named, held⟩ := ih old
      exact ⟨text, row, named, performed_events did held⟩

/-- Whether an entry of the log is a committed webhook transaction of an event. -/
def committedAs (text : String) : (op : Op) × op.Answer → Bool
  | ⟨.query (.recordEvent _ (some (.str text')) _), .ok _⟩ => text' = text
  | _ => false

theorem committedAs_iff {text : String} {entry : (op : Op) × op.Answer} : committedAs text entry = true ↔
    ∃ paymentIntentId payload row,
      entry = ⟨.query (.recordEvent paymentIntentId (some (.str text)) payload), .ok row⟩ := by
  constructor
  · intro commits
    unfold committedAs at commits
    split at commits
    · next paymentIntentId text' payload row =>
      have same : text' = text := by simpa using commits
      subst same
      exact ⟨paymentIntentId, payload, row, rfl⟩
    · cases commits
  · rintro ⟨paymentIntentId, payload, row, rfl⟩
    simp [committedAs]

/-- Whether an entry of the log is a notification sent. -/
def isSent : (op : Op) × op.Answer → Bool := sentAs fun _ _ => true

/-- Whether a request is a delivery of an event. -/
def Request.carries (P : Platform) (text : String) : Request → Bool
  | .webhook d => d.providerEventId P = some text
  | _ => false

/-- The notifications sent by deliveries of an event. -/
def sentFor (P : Platform) (s : Service) (text : String) : Nat :=
  s.log.countP fun entry =>
    (s.threads[entry.1]?.map fun t => t.request.carries P text).getD false && isSent entry.2

/-- An event is committed once, and from then on it is in the table. -/
theorem commit_once {P : Platform} {meets : Service → Step → Prop} {world : World} {s : Service}
    (reach : Reach (payments P) meets world s) (text : String) :
    (s.log.countP fun entry => committedAs text entry.2) ≤ 1 ∧
      (s.world.db.events.find text = none → (s.log.countP fun entry => committedAs text entry.2) = 0) := by
  induction reach using service_steps with
  | initial => exact ⟨Nat.zero_le _, fun _ => rfl⟩
  | spawn s request _ _ ih _ => exact ih
  | advance s i env request op next answer w _ _ _ _ did ih _ =>
    obtain ⟨once, absent⟩ := ih
    have kept : w.db.events.find text = none → s.world.db.events.find text = none := by
      intro missing
      cases held : s.world.db.events.find text with
      | none => rfl
      | some row => rw [performed_events did held] at missing; cases missing
    by_cases commits : committedAs text ⟨op, answer⟩ = true
    · obtain ⟨paymentIntentId, payload, row, same⟩ := committedAs_iff.mp commits
      cases same
      cases did with
      | @recorded _ _ _ _ _ db spared named found fresh intents rows refunds =>
        have before := absent fresh
        have held : db.events.find text ≠ none := by
          intro missing
          exact Table.find_none.mp missing _ (by rw [rows]; exact List.mem_append_right _ (List.mem_singleton_self _)) rfl
        simp only [List.countP_cons, commits, if_true]
        exact ⟨by omega, fun missing => absurd missing held⟩
    · simp only [List.countP_cons, commits, Bool.false_eq_true, if_false]
      exact ⟨once, fun missing => absent (kept missing)⟩

/-- A delivery sends no more than it commits. -/
theorem sent_le_committed {P : Platform} {d : Delivery} {text : String} (carries : d.providerEventId P = some text)
    {seen : History Op.Answer} (follows : Follows (WebhookCourse P d) seen) :
    seen.countP isSent ≤ seen.countP (committedAs text) := by
  refine follows.count_le fun entry earlier _ asked _ shorter => ?_
  have before := shorter earlier (List.suffix_refl earlier)
  have grows : earlier.countP (committedAs text) ≤ List.countP (committedAs text) (entry :: earlier) := by
    rw [List.countP_cons]
    omega
  obtain ⟨op, answer⟩ := entry
  cases asked with
  | record passed => rw [List.countP_cons_of_neg (by simp [isSent, sentAs])]; omega
  | lookup passed => rw [List.countP_cons_of_neg (by simp [isSent, sentAs])]; omega
  | @notify event row _ url secret passed looked =>
    obtain ⟨event', passed', named⟩ := Delivery.providerEventId_some.mp carries
    cases passed.symm.trans passed'
    obtain ⟨paymentIntentId, providerEventId, payload⟩ := event
    cases named
    have commits : committedAs text ⟨.query (.recordEvent paymentIntentId (some (.str text)) payload), .ok row⟩ = true :=
      committedAs_iff.mpr ⟨paymentIntentId, payload, row, rfl⟩
    have sends : List.countP isSent (⟨.enqueue .paymentSucceeded row.eventData url secret, answer⟩ :: earlier) ≤
        earlier.countP isSent + 1 := by
      rw [List.countP_cons]
      split <;> omega
    have quiet : earlier.countP isSent = 0 := looked.countP_eq fun _ _ => rfl
    have one : earlier.countP (committedAs text) = 1 := by
      rw [looked.countP_eq fun _ _ => rfl, List.countP_singleton]
      exact if_pos commits
    omega

/-- At most one notification is sent for an event. -/
theorem sent_once {P : Platform} {meets : Service → Step → Prop} {world : World} {s : Service}
    (reach : Reach (payments P) meets world s) (text : String) : sentFor P s text ≤ 1 := by
  refine Nat.le_trans ?_ (commit_once reach text).1
  refine countP_log_le (fun i entry =>
    (s.threads[i]?.map fun t => t.request.carries P text).getD false && isSent entry) (fun _ => committedAs text) _ ?_
  intro i
  cases atI : s.threads[i]? with
  | none => simp
  | some t =>
    obtain ⟨request, prog⟩ := t
    cases request with
    | webhook d =>
      by_cases carries : d.providerEventId P = some text
      · simpa [Request.carries, carries] using sent_le_committed carries (reach.follows (payments_course P) atI)
      · simp [Request.carries, carries]
    | reconcile => simp [Request.carries]
    | refund paymentIntentId dto merchantId => simp [Request.carries]

/-- Letting a delivery run leaves the tables as they are, or commits its event
on an intent the tables hold. -/
theorem delivery_advanced {P : Platform} {meets : Service → Step → Prop} {world : World} {s : Service}
    (reach : Reach (payments P) meets world s) {i : Nat} (env : Env) {d : Delivery}
    {prog : Prog Op Op.Answer (Except JsError Reply)} (atI : s.threads[i]? = some ⟨.webhook d, prog⟩) :
    (s.step (payments P) (.advance i env)).world.db = s.world.db ∨
      ∃ event text idText id intent, inboundEvent P d = .ok event ∧ event.providerEventId = some (.str text) ∧
        event.paymentIntentId = some (.str idText) ∧ P.readUuid idText = some id ∧
        s.world.db.intents.find id = some intent ∧ s.world.db.events.find text = none ∧
        (s.step (payments P) (.advance i env)).world.db.intents = (s.world.db.setStatus id .captured).intents ∧
        (s.step (payments P) (.advance i env)).world.db.events.rows =
          s.world.db.events.rows ++ [⟨id, text, event.payload⟩] := by
  rcases advance_cases reach i env with ⟨_, still⟩ | ⟨request, op, next, answer, w, standing, course, did, landed⟩
  · exact Or.inl (by rw [still])
  · cases standing.symm.trans atI
    rw [landed]
    rcases delivery_step course did with same | ⟨idText, text, id, intent, payload, -, -, passed, read, found, fresh,
      intents, rows⟩
    · exact Or.inl same
    · exact Or.inr ⟨_, text, idText, id, intent, passed, rfl, rfl, read, found, fresh, intents, rows⟩

/-- Replay protection of the webhook endpoint, over every run of the service. -/
theorem webhook_ledger {P : Platform} {meets : Service → Step → Prop} {world : World} {s : Service}
    (reach : Reach (payments P) meets world s) :
    -- one row per event id
    (s.world.db.events.rows.map WebhookEvent.providerEventId).Nodup ∧
    -- a delivery changes intents only together with its event row
    (∀ i env d prog, s.threads[i]? = some ⟨.webhook d, prog⟩ →
      let after := (s.step (payments P) (.advance i env)).world.db
      after.intents ≠ s.world.db.intents → ∃ row, after.events.rows = s.world.db.events.rows ++ [row] ∧
        d.providerEventId P = some row.providerEventId ∧
        after.intents = (s.world.db.setStatus row.paymentIntentId .captured).intents) ∧
    -- one notification per event id, and the queue holds nothing that was not sent
    (∀ text, sentFor P s text ≤ 1) ∧
    s.world.queue.length = world.queue.length + (s.log.countP fun entry => isSent entry.2) ∧
    -- a rejected delivery changes nothing
    (∀ i env d prog, s.threads[i]? = some ⟨.webhook d, prog⟩ → Rejected P s.world.db d →
      (s.step (payments P) (.advance i env)).world.db = s.world.db) ∧
    -- an answer of 200 stands for a row
    (∀ (i : Nat) (d : Delivery) (reply : WebhookReply),
      s.threads[i]? = some ⟨.webhook d, .done (.ok (.webhook reply))⟩ → reply.status = 200 →
      ∃ text row, d.providerEventId P = some text ∧ s.world.db.events.find text = some row) := by
  refine ⟨s.world.db.events.distinct, ?_, sent_once reach, ?_, ?_, ?_⟩
  · intro i env d prog atI after changed
    rcases delivery_advanced reach env atI with same | ⟨event, text, idText, id, intent, passed, named, _, _, _, _, intents, rows⟩
    · exact absurd (congrArg Database.intents same) changed
    · exact ⟨_, rows, Delivery.providerEventId_some.mpr ⟨event, passed, named⟩, intents⟩
  · have counted := queue_count (fun _ _ => true) reach
    simpa [isSent] using counted
  · intro i env d prog atI rejected
    rcases delivery_advanced reach env atI with same | ⟨event, text, idText, id, intent, passed, named, paid, read, found, _⟩
    · exact same
    · exact (rejected.names_nothing passed named paid read found).elim
  · intro i d reply atI answered
    have ended := reach.obeys (payments_course P) atI
    obtain ⟨event, answer, passed, member, settled⟩ := ended answered
    obtain ⟨text, row, named, held⟩ := recorded_held reach (mem_own.mp member) settled
    exact ⟨text, row, Delivery.providerEventId_some.mpr ⟨event, passed, named⟩, held⟩

/-- The ledger after a delivery and its redelivery. -/
theorem webhook_ledger_sample :
    let s : Service := (Pool.initial ⟨sampleDatabase .pending, []⟩).run (payments plainPlatform)
      [.spawn (.webhook (sampleDelivery "evt_1" "2b9d4f60-8e1c-4f7a-b0d3-5a6c7e8f9012")),
        .spawn (.webhook (sampleDelivery "evt_1" "2b9d4f60-8e1c-4f7a-b0d3-5a6c7e8f9012")),
        .advance 1 calmEnv, .advance 0 calmEnv, .advance 1 calmEnv, .advance 1 calmEnv]
    s.world.queue.length = 1 ∧ sentFor plainPlatform s "evt_1" ≤ 1 := by
  intro s
  have reach : Reach (payments plainPlatform) (fun _ _ => True) ⟨sampleDatabase .pending, []⟩ s :=
    Reach.run_free _ .start
  obtain ⟨_, _, once, _⟩ := webhook_ledger reach
  exact ⟨by decide +kernel, once "evt_1"⟩

end PayBridge
