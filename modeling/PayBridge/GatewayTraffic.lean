import PayBridge.Await.Played
import PayBridge.WebhookLedger

namespace PayBridge
open Store Await

/-- The gateway whose signature a delivery carries when it passes the checks. -/
def Delivery.gateway (P : Platform) (d : Delivery) : Option GatewayProvider :=
  (getProvider (P.toUpperCase d.gatewayParam)).toOption

def Request.gateway (P : Platform) : Request → Option GatewayProvider
  | .webhook d => d.gateway P
  | _ => none

/-- An event has been committed under an id by a delivery of a gateway. -/
def RecordedBy (P : Platform) (s : Service) (text : String) (gateway : GatewayProvider) : Prop :=
  ∃ i entry t, (i, entry) ∈ s.log ∧ committedAs text entry = true ∧ s.threads[i]? = some t ∧
    t.request.gateway P = some gateway

/-- The gateway of a delivery has not had its event recorded yet. -/
def FirstEvent (P : Platform) (s : Service) (d : Delivery) : Prop :=
  ∀ gateway text, d.gateway P = some gateway → d.providerEventId P = some text → ¬ RecordedBy P s text gateway

/-- An event of another gateway has been recorded under the id of a delivery. -/
def TakenByOther (P : Platform) (s : Service) (d : Delivery) : Prop :=
  ∃ gateway other text, d.gateway P = some gateway ∧ d.providerEventId P = some text ∧ other ≠ gateway ∧
    RecordedBy P s text other

theorem exec_merchants {P : Platform} {env : Env} {q : Query} {db db' : Database} {result : q.Result}
    (ran : q.exec P env db = .ok (result, db')) : db'.merchants = db.merchants := by
  cases q with
  | findIntent text =>
    simp only [Query.exec] at ran
    cases named : P.readId text with
    | error err => rw [named] at ran; cases ran
    | ok id => rw [named] at ran; cases ran; rfl
  | findStaleIntents cutoff => cases ran; rfl
  | findMerchant id => cases ran; rfl
  | updateIntent id status =>
    obtain ⟨_, _, _, rfl⟩ := paymentIntentUpdate_ok ran
    rfl
  | recordEvent paymentIntentId providerEventId payload =>
    obtain ⟨_, _, _, _, _, _, _, _, _, _, _, _, _, merchants⟩ := recordEventTx_ok ran
    exact merchants
  | recordRefund data markRefunded =>
    obtain ⟨_, _, _, _, _, _, _, merchants, _⟩ := recordRefundTx_ok ran
    exact merchants
  | createIntent data =>
    obtain ⟨_, _, _, added⟩ := paymentIntentCreate_ok ran
    exact (Database.addIntent_ok added).1

/-- No operation of the service touches a merchant. -/
theorem perform_merchants (P : Platform) (env : Env) (op : Op) (w : World) :
    (perform P env op w).2.db.merchants = w.db.merchants := by
  cases op with
  | query q =>
    cases answered : (perform P env (.query q) w).1 with
    | error err => rw [perform_query_error answered]
    | ok result => exact exec_merchants (perform_query_ok answered).2
  | enqueue event data url secret =>
    simp only [perform]
    split <;> rfl
  | _ => rfl

/-- What a run of the service leaves as it was: the merchants, and every intent
apart from its status. -/
theorem payments_kept {P : Platform} {meets : Service → Step → Prop} {world : World} {s : Service}
    (reach : Reach (payments P) meets world s) :
    s.world.db.merchants = world.db.merchants ∧ ∀ id, s.world.db.paymentOf id = world.db.paymentOf id := by
  refine Await.Reach.asked_steps (payments_course P) (motive := fun s _ => s.world.db.merchants = world.db.merchants ∧
    ∀ id, s.world.db.paymentOf id = world.db.paymentOf id) ?initial ?spawn ?advance reach
  case initial => exact ⟨rfl, fun _ => rfl⟩
  case spawn =>
    intro s request _ _ ih _
    exact ih
  case advance =>
    intro s i env request op next _ _ _ course ih _
    exact ⟨(perform_merchants P env op s.world).trans ih.1,
      fun id => (performed_paymentOf (course.performed env s.world) id).trans (ih.2 id)⟩

/-- A run keeps an intent that was stored, apart from its status. -/
theorem intent_kept {P : Platform} {meets : Service → Step → Prop} {world : World} {s : Service} {id : Uuid}
    {intent : PaymentIntent} (reach : Reach (payments P) meets world s) (stored : world.db.intents.find id = some intent) :
    ∃ row, s.world.db.intents.find id = some row ∧
      { row with status := PaymentStatus.captured } = { intent with status := PaymentStatus.captured } := by
  have kept := (payments_kept reach).2 id
  simp only [Database.paymentOf, stored, Option.map_some] at kept
  exact Option.map_eq_some_iff.mp kept

/-- A thread's request stays when one of the threads has moved. -/
theorem request_stays {threads : List (Thread Op Op.Answer Request (Except JsError Reply))} {i j : Nat}
    {request : Request} {prog prog' : Prog Op Op.Answer (Except JsError Reply)}
    {t : Thread Op Op.Answer Request (Except JsError Reply)} (stands : threads[i]? = some ⟨request, prog⟩)
    (atJ : threads[j]? = some t) : ∃ t', (threads.set i ⟨request, prog'⟩)[j]? = some t' ∧ t'.request = t.request := by
  obtain ⟨bound, _⟩ := List.getElem?_eq_some_iff.mp atJ
  by_cases same : i = j
  · subst same
    cases stands.symm.trans atJ
    exact ⟨_, List.getElem?_set_self bound, rfl⟩
  · exact ⟨t, by rw [List.getElem?_set_ne same]; exact atJ, rfl⟩

/-- The webhook transaction is asked for by deliveries only, about the event they carry. -/
theorem Course.delivers {P : Platform} {request : Request} {seen : History Op.Answer}
    {paymentIntentId providerEventId : JsValue} {payload : Json}
    (course : Course P request seen (.query (.recordEvent paymentIntentId providerEventId payload))) :
    ∃ d gateway, request = .webhook d ∧ d.gateway P = some gateway ∧
      inboundEvent P d = .ok ⟨paymentIntentId, providerEventId, payload⟩ ∧ seen = [] := by
  generalize asked : Op.query (.recordEvent paymentIntentId providerEventId payload) = op at course
  cases request with
  | webhook d =>
    cases course with
    | record passed =>
      obtain ⟨gateway, _, known, _⟩ := inboundEvent_ok passed
      cases asked
      exact ⟨d, gateway, rfl, by simp only [Delivery.gateway, known]; rfl, passed, rfl⟩
    | lookup passed => cases asked
    | notify passed looked => cases asked
  | reconcile => cases course <;> cases asked
  | refund paymentIntentId dto merchantId =>
    cases course with
    | report _ shape => rcases shape with ⟨_, same⟩ | ⟨_, _, same⟩ <;> cases asked.trans same
    | _ => cases asked

/-- From an empty event table, the ids in the table are those that deliveries of
some gateway have committed. -/
theorem recordedBy_iff {P : Platform} {meets : Service → Step → Prop} {world : World} {s : Service}
    (empty : world.db.events = Table.empty) (reach : Reach (payments P) meets world s) (text : String) :
    (∃ gateway, RecordedBy P s text gateway) ↔ ∃ row, s.world.db.events.find text = some row := by
  constructor
  · rintro ⟨gateway, i, entry, t, member, commits, _⟩
    obtain ⟨paymentIntentId, payload, row, rfl⟩ := committedAs_iff.mp commits
    obtain ⟨text', held, named, found⟩ := recorded_held reach member fun _ impossible => by cases impossible
    cases named
    exact ⟨held, found⟩
  · induction reach using service_steps with
    | initial =>
      rintro ⟨row, found⟩
      simp only [Pool.initial, empty] at found
      cases found
    | spawn s request before _ ih _ =>
      intro held
      obtain ⟨gateway, i, entry, t, member, commits, atI, signed⟩ := ih held
      refine ⟨gateway, i, entry, t, member, commits, ?_, signed⟩
      have inside := (List.getElem?_eq_some_iff.mp atI).1
      rw [List.getElem?_append_left inside]
      exact atI
    | advance s i env request op next answer w before _ stands course did ih _ =>
      have old : (∃ row, s.world.db.events.find text = some row) →
          ∃ gateway, RecordedBy P ⟨w, s.threads.set i ⟨request, next answer⟩, (i, ⟨op, answer⟩) :: s.log⟩ text gateway := by
        intro held
        obtain ⟨gateway, j, entry, t, member, commits, atJ, signed⟩ := ih held
        obtain ⟨t', atJ', same⟩ := request_stays stands atJ
        exact ⟨gateway, j, entry, t', List.mem_cons_of_mem _ member, commits, atJ', by rw [same]; exact signed⟩
      rintro ⟨row, found⟩
      cases did with
      | @recorded idText text' payload id intent db spared named known fresh intents rows refunds =>
        have key := Table.find_key found
        obtain ⟨member, _⟩ := Table.find_some.mp found
        simp only [rows] at member
        rcases List.mem_append.mp member with before' | new
        · exact old ⟨row, Table.find_some.mpr ⟨before', key⟩⟩
        · have added := List.mem_singleton.mp new
          subst added
          cases key
          obtain ⟨d, gateway, rfl, signed, _⟩ := course.delivers
          obtain ⟨inside, _⟩ := List.getElem?_eq_some_iff.mp stands
          have commits : committedAs text' ⟨.query (.recordEvent (some (.str idText)) (some (.str text')) payload),
              .ok { intent with status := .captured }⟩ = true := committedAs_iff.mpr ⟨_, _, _, rfl⟩
          exact ⟨gateway, i, _, _, List.mem_cons_self .., commits, List.getElem?_set_self inside, signed⟩
      | refunded spared stored rowIs known rows events intents =>
        simp only [events] at found
        exact old ⟨row, found⟩
      | _ => exact old ⟨row, found⟩

/-- The intents after some of them have been captured. -/
def Database.capture (db : Database) (ids : List Uuid) : Database := ids.foldl (fun db id => db.setStatus id .captured) db

/-- The event rows, captured intents and jobs that make up the way from one state to another. -/
structure Changed (before after : World) (rows : List WebhookEvent) (captured : List Uuid)
    (jobs : List OutboundWebhookJobData) : Prop where
  recorded : after.db.events.rows = before.db.events.rows ++ rows
  updated : after.db.intents = (before.db.capture captured).intents
  enqueued : after.queue = before.queue ++ jobs

/-- Two deliveries are treated alike: the same answer, the same event row, the
same intent captured and the same notification, or none of these for both. -/
def SameTreatment (before before' : World) (o o' : Outcome Op.Answer World (Except JsError WebhookReply)) : Prop :=
  o.value = o'.value ∧ ∃ rows captured jobs,
    Changed before o.world rows captured jobs ∧ Changed before' o'.world rows captured jobs

theorem Changed.refl (w : World) : Changed w w [] [] [] :=
  ⟨(List.append_nil _).symm, rfl, (List.append_nil _).symm⟩

theorem Changed.queued {before after : World} {rows : List WebhookEvent} {captured : List Uuid}
    {jobs : List OutboundWebhookJobData} (changed : Changed before after rows captured jobs) (job : OutboundWebhookJobData) :
    Changed before { after with queue := after.queue ++ [job] } rows captured (jobs ++ [job]) where
  recorded := changed.recorded
  updated := changed.updated
  enqueued := by
    show after.queue ++ [job] = before.queue ++ (jobs ++ [job])
    rw [changed.enqueued, List.append_assoc]

theorem SameTreatment.symm {before before' : World} {o o' : Outcome Op.Answer World (Except JsError WebhookReply)}
    (same : SameTreatment before before' o o') : SameTreatment before' before o' o := by
  obtain ⟨answer, rows, captured, jobs, left, right⟩ := same
  exact ⟨answer.symm, rows, captured, jobs, right, left⟩

section
variable {P : Platform} {d : Delivery} {event : InboundEvent} {env : Op → Env} {w w' : World}

/-- What the outside supplies to the transaction of a delivery. -/
abbrev InboundEvent.met (event : InboundEvent) (env : Op → Env) : Env := env (.query event.transaction)

/-- A delivery whose transaction is answered alike in two states, and changes
them alike, is treated alike. -/
theorem same_treatment (passed : inboundEvent P d = .ok event) (merchants : w.db.merchants = w'.db.merchants)
    (answer : (perform P (event.met env) (.query event.transaction) w).1 =
      (perform P (event.met env) (.query event.transaction) w').1)
    {rows : List WebhookEvent} {captured : List Uuid}
    (left : Changed w (perform P (event.met env) (.query event.transaction) w).2 rows captured [])
    (right : Changed w' (perform P (event.met env) (.query event.transaction) w').2 rows captured []) :
    SameTreatment w w' ((handleIncomingWebhook P d).run (perform P) env w)
      ((handleIncomingWebhook P d).run (perform P) env w') := by
  have alone : ∀ v, Async.play (perform P) (fun _ op => env op) (handleIncomingWebhook P d) [] v =
      (handleIncomingWebhook P d).run (perform P) env v := by
    intro v
    exact (Prog.play_run (perform P) env (ExceptT.run (handleIncomingWebhook P d)) [] v).trans (Outcome.after_nil _)
  let R : History Op.Answer → World → World → Prop := fun seen l r =>
    l.db.merchants = r.db.merchants ∧ (seen = [] → l = w ∧ r = w') ∧
      ∃ rows captured jobs, Changed w l rows captured jobs ∧ Changed w' r rows captured jobs
  have step : ∀ seen op l r, WebhookCourse P d seen op → R seen l r →
      (perform P (env op) op l).1 = (perform P (env op) op r).1 ∧
        R (⟨op, (perform P (env op) op l).1⟩ :: seen) (perform P (env op) op l).2 (perform P (env op) op r).2 := by
    rintro seen op l r course ⟨sameMerchants, start, rows', captured', jobs', changed, changed'⟩
    have kept : (perform P (env op) op l).2.db.merchants = (perform P (env op) op r).2.db.merchants := by
      rw [perform_merchants, perform_merchants]
      exact sameMerchants
    cases course with
    | record passed' =>
      cases passed.symm.trans passed'
      obtain ⟨rfl, rfl⟩ := start rfl
      exact ⟨answer, kept, (fun impossible => by cases impossible), rows, captured, [], left, right⟩
    | @lookup _ row id _ =>
      have still : ∀ v, (perform P (env (.query (.findMerchant id))) (.query (.findMerchant id)) v).2 = v := by
        intro v
        simp only [perform, Query.exec]
        split <;> rfl
      refine ⟨?_, kept, (fun impossible => by cases impossible), rows', captured', jobs', ?_, ?_⟩
      · simp only [perform, Query.exec, sameMerchants]
        split <;> rfl
      · rw [still]; exact changed
      · rw [still]; exact changed'
    | notify _ _ =>
      simp only [perform]
      split
      · exact ⟨rfl, sameMerchants, (fun impossible => by cases impossible), rows', captured', jobs', changed, changed'⟩
      · exact ⟨rfl, sameMerchants, (fun impossible => by cases impossible), rows', captured', _, changed.queued _,
          changed'.queued _⟩
  obtain ⟨value, _, _, _, related⟩ := (handleIncomingWebhook_course P d).coupled (perform P) (fun _ op => env op)
    (R := R) step ⟨merchants, fun _ => ⟨rfl, rfl⟩, [], [], [], .refl w, .refl w'⟩
  rw [alone, alone] at related value
  exact ⟨value, related⟩

/-- Two deliveries whose transactions are refused for the same reason are treated alike. -/
theorem same_refusal (passed : inboundEvent P d = .ok event) (merchants : w.db.merchants = w'.db.merchants) {err : JsError}
    (refused : perform P (event.met env) (.query event.transaction) w = (.error err, w))
    (refused' : perform P (event.met env) (.query event.transaction) w' = (.error err, w')) :
    SameTreatment w w' ((handleIncomingWebhook P d).run (perform P) env w)
      ((handleIncomingWebhook P d).run (perform P) env w') := by
  have left : Changed w (perform P (event.met env) (.query event.transaction) w).2 [] [] [] := by
    rw [refused]
    exact .refl w
  have right : Changed w' (perform P (event.met env) (.query event.transaction) w').2 [] [] [] := by
    rw [refused']
    exact .refl w'
  exact same_treatment passed merchants (by rw [refused, refused']) left right

/-- Without a string for the event id nothing is recorded. -/
theorem recordEventTx_unnamed {P : Platform} {paymentIntentId providerEventId : JsValue} {payload : Json} {db : Database}
    (unnamed : ∀ text, providerEventId ≠ some (.str text)) :
    recordEventTx P paymentIntentId providerEventId payload db = .error .invalidArgument := by
  rcases webhookEventCreate_cases P paymentIntentId providerEventId payload db with unread | ⟨_, text, _, _, named, _⟩
  · exact Tx.bind_error.mpr (Or.inl unread)
  · exact absurd named (unnamed text)

theorem transaction_struck (struck : (event.met env).fails = true) :
    perform P (event.met env) (.query event.transaction) w = (.error (DbError.unavailable.thrown (event.met env).message), w) := by
  simp only [perform, struck, if_true]

theorem transaction_refused {cause : DbError} (spared : (event.met env).fails = false)
    (refused : recordEventTx P event.paymentIntentId event.providerEventId event.payload w.db = .error cause) :
    perform P (event.met env) (.query event.transaction) w = (.error (cause.thrown (event.met env).message), w) := by
  simp only [perform, spared, Bool.false_eq_true, if_false, Query.exec, refused]

/-- A transaction under a new event id of a stored intent commits. -/
theorem transaction_fresh {idText text : String} {id : Uuid} {intent : PaymentIntent} (spared : (event.met env).fails = false)
    (paid : event.paymentIntentId = some (.str idText)) (named : event.providerEventId = some (.str text))
    (read : P.readUuid idText = some id) (stored : w.db.intents.find id = some intent)
    (fresh : w.db.events.find text = none) :
    (perform P (event.met env) (.query event.transaction) w).1 = .ok { intent with status := .captured } ∧
      Changed w (perform P (event.met env) (.query event.transaction) w).2 [⟨id, text, event.payload⟩] [id] [] := by
  obtain ⟨db, ran⟩ := recordEventTx_fresh read stored fresh event.payload
  obtain ⟨_, _, _, _, same, named', read', _, _, _, intents, rows, _⟩ := recordEventTx_ok ran
  cases same
  cases named'
  cases read.symm.trans read'
  have committed : perform P (event.met env) (.query event.transaction) w =
      (.ok { intent with status := .captured }, { w with db }) := by
    simp only [perform, spared, Bool.false_eq_true, if_false, Query.exec, InboundEvent.transaction, paid, named, ran]
  rw [committed]
  exact ⟨rfl, rows, intents, (List.append_nil _).symm⟩

/-- A delivery that finds its event id taken is not treated as one that finds it free. -/
theorem not_same_treatment {idText text : String} {id : Uuid} {intent : PaymentIntent} {old : WebhookEvent}
    (passed : inboundEvent P d = .ok event) (spared : (event.met env).fails = false)
    (paid : event.paymentIntentId = some (.str idText)) (named : event.providerEventId = some (.str text))
    (read : P.readUuid idText = some id) (stored : w'.db.intents.find id = some intent)
    (taken : w.db.events.find text = some old) (fresh : w'.db.events.find text = none) :
    ¬ SameTreatment w w' ((handleIncomingWebhook P d).run (perform P) env w)
      ((handleIncomingWebhook P d).run (perform P) env w') := by
  rintro ⟨_, rows, captured, jobs, left, right⟩
  have refused : recordEventTx P event.paymentIntentId event.providerEventId event.payload w.db = .error .uniqueConstraint := by
    rw [paid, named]
    exact recordEventTx_duplicate read taken
  obtain ⟨_, still⟩ := handle_refused passed (congrArg Prod.fst (transaction_refused spared refused))
  obtain ⟨committed, changed⟩ := transaction_fresh spared paid named read stored fresh
  obtain ⟨_, _, landed, _⟩ := handle_committed passed committed
  have none : rows = [] := by
    have grown := left.recorded
    rw [still] at grown
    exact List.append_right_eq_self.mp grown.symm
  have one : rows = [⟨id, text, event.payload⟩] := by
    have grown := right.recorded
    rw [landed, changed.recorded] at grown
    exact (List.append_cancel_left grown).symm
  rw [none] at one
  cases one

/-- Two deliveries of one event, both spared, are treated alike exactly when the
event id is taken for both or for neither. -/
theorem same_treatment_iff {idText text : String} {id : Uuid} {row row' : PaymentIntent} (passed : inboundEvent P d = .ok event)
    (merchants : w.db.merchants = w'.db.merchants) (spared : (event.met env).fails = false)
    (paid : event.paymentIntentId = some (.str idText)) (named : event.providerEventId = some (.str text))
    (read : P.readUuid idText = some id) (stored : w.db.intents.find id = some row) (stored' : w'.db.intents.find id = some row')
    (same : { row with status := PaymentStatus.captured } = { row' with status := PaymentStatus.captured }) :
    SameTreatment w w' ((handleIncomingWebhook P d).run (perform P) env w)
        ((handleIncomingWebhook P d).run (perform P) env w') ↔
      ((∃ old, w.db.events.find text = some old) ↔ ∃ old, w'.db.events.find text = some old) := by
  cases held : w.db.events.find text with
  | some old =>
    cases held' : w'.db.events.find text with
    | some old' =>
      refine iff_of_true ?_ (by simp)
      have refused : ∀ {v : World} {row : WebhookEvent}, v.db.events.find text = some row →
          recordEventTx P event.paymentIntentId event.providerEventId event.payload v.db = .error .uniqueConstraint := by
        intro v row taken
        rw [paid, named]
        exact recordEventTx_duplicate read taken
      exact same_refusal passed merchants (transaction_refused spared (refused held)) (transaction_refused spared (refused held'))
    | none => exact iff_of_false (not_same_treatment passed spared paid named read stored' held held') (by simp)
  | none =>
    cases held' : w'.db.events.find text with
    | some old' =>
      refine iff_of_false ?_ (by simp)
      intro treated
      exact not_same_treatment passed spared paid named read stored held' held treated.symm
    | none =>
      refine iff_of_true ?_ (by simp)
      obtain ⟨committed, changed⟩ := transaction_fresh spared paid named read stored held
      obtain ⟨committed', changed'⟩ := transaction_fresh spared paid named read stored' held'
      refine same_treatment passed merchants ?_ changed changed'
      rw [committed, committed', same]

end

/-- The id of a first event is taken by another gateway when it is in the table. -/
theorem takenByOther_iff {P : Platform} {meets : Service → Step → Prop} {world : World} {s : Service}
    (empty : world.db.events = Table.empty) (reach : Reach (payments P) meets world s) {d : Delivery}
    {event : InboundEvent} {text : String} (passed : inboundEvent P d = .ok event)
    (carried : d.providerEventId P = some text) (first : FirstEvent P s d) :
    TakenByOther P s d ↔ ∃ row, s.world.db.events.find text = some row := by
  obtain ⟨gateway, _, known, _⟩ := inboundEvent_ok passed
  have signed : d.gateway P = some gateway := by
    simp only [Delivery.gateway, known]
    rfl
  rw [← recordedBy_iff empty reach]
  constructor
  · rintro ⟨_, other, _, _, named, _, recorded⟩
    cases carried.symm.trans named
    exact ⟨other, recorded⟩
  · rintro ⟨other, recorded⟩
    refine ⟨gateway, other, text, signed, carried, ?_, recorded⟩
    rintro rfl
    exact first other text signed carried recorded

/-- Two runs treat a first event of a gateway alike exactly when its transaction
is struck by a failure, or its event id has been taken by another gateway's
event in both runs or in neither. -/
theorem event_ids_shared_iff {P : Platform} {world : World} {s s' : Service} (empty : world.db.events = Table.empty)
    (reach : Reach (payments P) (fun _ _ => True) world s) (reach' : Reach (payments P) (fun _ _ => True) world s')
    {d : Delivery} {event : InboundEvent} {idText : String} {id : Uuid} {intent : PaymentIntent}
    (passed : inboundEvent P d = .ok event) (paid : event.paymentIntentId = some (.str idText))
    (read : P.readUuid idText = some id) (stored : world.db.intents.find id = some intent)
    (first : FirstEvent P s d) (first' : FirstEvent P s' d) (env : Op → Env) :
    SameTreatment s.world s'.world ((handleIncomingWebhook P d).run (perform P) env s.world)
        ((handleIncomingWebhook P d).run (perform P) env s'.world) ↔
      (event.met env).fails = true ∨ (TakenByOther P s d ↔ TakenByOther P s' d) := by
  obtain ⟨row, found, same⟩ := intent_kept reach stored
  obtain ⟨row', found', same'⟩ := intent_kept reach' stored
  have merchants : s.world.db.merchants = s'.world.db.merchants :=
    (payments_kept reach).1.trans (payments_kept reach').1.symm
  cases struck : (event.met env).fails with
  | true =>
    exact iff_of_true (same_refusal passed merchants (transaction_struck struck) (transaction_struck struck)) (Or.inl rfl)
  | false =>
    simp only [Bool.false_eq_true, false_or]
    cases carried : d.providerEventId P with
    | none =>
      have unread : ∀ text, event.providerEventId ≠ some (.str text) := by
        intro text named
        have carries := Delivery.providerEventId_some.mpr ⟨event, passed, named⟩
        rw [carried] at carries
        cases carries
      have refused : ∀ v : World, perform P (event.met env) (.query event.transaction) v =
          (.error (DbError.invalidArgument.thrown (event.met env).message), v) :=
        fun v => transaction_refused struck (recordEventTx_unnamed unread)
      refine iff_of_true (same_refusal passed merchants (refused _) (refused _)) ?_
      simp [TakenByOther, carried]
    | some text =>
      obtain ⟨_, passed', named⟩ := Delivery.providerEventId_some.mp carried
      cases passed.symm.trans passed'
      rw [takenByOther_iff empty reach passed carried first, takenByOther_iff empty reach' passed carried first']
      exact same_treatment_iff passed merchants struck paid named read found found' (same.trans same'.symm)

/-- A pending intent at Paymob and one at Fawry. -/
def paymobIntent : PaymentIntent :=
  { sampleIntent .pending with
    gateway := .paymob, gatewayPaymentId := some "paymob_txn_1755000000000" }

def fawryIntent : PaymentIntent :=
  { sampleIntent .pending with
    id := ⟨"5e0c7b1a-3d94-4f26-8b71-c2a6d8e4f035"⟩
    reference := "ORD-2", gateway := .fawry, gatewayPaymentId := some "fawry_ref_1755000000003" }

def twoGateways : World where
  db :=
    { merchants := (sampleDatabase .pending).merchants
      intents := ⟨[paymobIntent, fawryIntent], by decide +kernel⟩
      events := Table.empty
      refunds := Table.empty
      intentMerchant := by
        intro intent member
        refine ⟨sampleMerchant, List.mem_singleton_self _, ?_⟩
        rcases List.mem_cons.mp member with rfl | rest
        · rfl
        · rw [List.mem_singleton.mp rest]
          rfl
      eventIntent := by
        intro event member
        cases member
      refundIntent := by
        intro refund member
        cases member }
  queue := []

theorem fawryIntent_read : plainPlatform.readUuid fawryIntent.id.text = some fawryIntent.id := by decide +kernel

theorem fawryIntent_stored : twoGateways.db.intents.find fawryIntent.id = some fawryIntent := by decide +kernel

/-- A signed event of Paymob or Fawry about an order. -/
def orderDelivery (gateway signature eventId : String) (intent : PaymentIntent) : Delivery where
  gatewayParam := gateway
  headers := [("hmac", signature)]
  rawBody := .json (.obj [("obj", .obj [("id", .num eventId), ("order", .obj [("id", .str intent.id.text)])])])

def fawryDelivery (eventId : String) : Delivery := orderDelivery "FAWRY" "valid-fawry-signature" eventId fawryIntent

/-- The service after a Paymob event. -/
def afterPaymob (eventId : String) : Service :=
  (Pool.initial twoGateways).run (payments plainPlatform)
    [.spawn (.webhook (orderDelivery "PAYMOB" "valid-paymob-hmac" eventId paymobIntent)), .advance 0 calmEnv,
      .advance 0 calmEnv, .advance 0 calmEnv]

theorem afterPaymob_gateway {eventId text : String} {gateway : GatewayProvider}
    (recorded : RecordedBy plainPlatform (afterPaymob eventId) text gateway) : gateway = .paymob := by
  obtain ⟨i, _, t, _, _, atI, signed⟩ := recorded
  have only : (afterPaymob eventId).threads.map (fun t => t.request.gateway plainPlatform) = [some .paymob] := rfl
  have member : t.request.gateway plainPlatform ∈ (afterPaymob eventId).threads.map fun t => t.request.gateway plainPlatform :=
    List.mem_map.mpr ⟨t, List.mem_of_getElem? atI, rfl⟩
  rw [only, signed] at member
  exact Option.some.inj (List.mem_singleton.mp member)

theorem fawryDelivery_first (eventId text : String) :
    FirstEvent plainPlatform (afterPaymob eventId) (fawryDelivery text) := by
  intro gateway _ signed _ recorded
  cases afterPaymob_gateway recorded
  have own : (fawryDelivery text).gateway plainPlatform = some .fawry := rfl
  rw [own] at signed
  cases signed

theorem nothing_recorded {P : Platform} {world : World} {text : String} {gateway : GatewayProvider} :
    ¬ RecordedBy P (Pool.initial world) text gateway := by
  rintro ⟨_, _, _, member, _⟩
  cases member

/-- A Fawry event fares the same before and after a Paymob event with another id. -/
theorem event_ids_shared_sample :
    SameTreatment (afterPaymob "54").world twoGateways
      ((handleIncomingWebhook plainPlatform (fawryDelivery "55")).run (perform plainPlatform) (fun _ => calmEnv)
        (afterPaymob "54").world)
      ((handleIncomingWebhook plainPlatform (fawryDelivery "55")).run (perform plainPlatform) (fun _ => calmEnv)
        twoGateways) := by
  have reach' : Reach (payments plainPlatform) (fun _ _ => True) twoGateways (Pool.initial twoGateways) := .start
  have first' : FirstEvent plainPlatform (Pool.initial twoGateways) (fawryDelivery "55") :=
    fun _ _ _ _ => nothing_recorded
  refine (event_ids_shared_iff rfl (Reach.run_free _ .start) reach' rfl rfl fawryIntent_read fawryIntent_stored
    (fawryDelivery_first "54" "55") first' fun _ => calmEnv).mpr (Or.inr (iff_of_false ?_ ?_))
  · rintro ⟨_, _, text, _, carried, _, i, entry, _, member, commits, _⟩
    have named : (fawryDelivery "55").providerEventId plainPlatform = some "55" := rfl
    cases named.symm.trans carried
    have quiet : (afterPaymob "54").log.all (fun e => !committedAs "55" e.2) = true := by decide +kernel
    have silent := List.all_eq_true.mp quiet (i, entry) member
    rw [commits] at silent
    cases silent
  · rintro ⟨_, _, _, _, _, _, recorded⟩
    exact nothing_recorded recorded

/-- A Fawry event is dropped because Paymob has used its number. -/
theorem event_id_collides :
    ¬ ∀ (P : Platform) (world : World) (s s' : Service) (d : Delivery) (event : InboundEvent) (idText : String) (id : Uuid)
      (intent : PaymentIntent) (env : Op → Env), world.db.events = Table.empty →
      Reach (payments P) (fun _ _ => True) world s → Reach (payments P) (fun _ _ => True) world s' →
      inboundEvent P d = .ok event → event.paymentIntentId = some (.str idText) → P.readUuid idText = some id →
      world.db.intents.find id = some intent → FirstEvent P s d → FirstEvent P s' d →
      SameTreatment s.world s'.world ((handleIncomingWebhook P d).run (perform P) env s.world)
        ((handleIncomingWebhook P d).run (perform P) env s'.world) := by
  intro always
  have reach : Reach (payments plainPlatform) (fun _ _ => True) twoGateways (afterPaymob "55") := Reach.run_free _ .start
  have same := always plainPlatform twoGateways (afterPaymob "55") (Pool.initial twoGateways) (fawryDelivery "55") _ _
    fawryIntent.id fawryIntent (fun _ => calmEnv) rfl reach .start rfl rfl fawryIntent_read fawryIntent_stored
    (fawryDelivery_first "55" "55") fun _ _ _ _ => nothing_recorded
  have taken : ∃ old, (afterPaymob "55").world.db.events.find "55" = some old := Option.isSome_iff_exists.mp (by decide +kernel)
  obtain ⟨old, held⟩ := taken
  exact not_same_treatment rfl rfl rfl rfl fawryIntent_read fawryIntent_stored held rfl same

end PayBridge
