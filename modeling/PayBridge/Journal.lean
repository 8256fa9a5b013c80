import PayBridge.App
import PayBridge.WebhookEndpoint

namespace PayBridge
open Store Await

/-- The intent that an entry of the log has inserted. -/
def insertedIntent : (op : Op) × op.Answer → Option PaymentIntent
  | ⟨.query (.createIntent _), .ok row⟩ => some row
  | _ => none

def insertedEvent : (op : Op) × op.Answer → Option WebhookEvent
  | ⟨.query (.recordEvent _ (some (.str text)) payload), .ok row⟩ => some ⟨row.id, text, payload⟩
  | _ => none

def insertedRefund : (op : Op) × op.Answer → Option Refund
  | ⟨.query (.recordRefund _ _), .ok row⟩ => some row
  | _ => none

/-- The status that an entry of the log has written, and the intent it has written it to. -/
def writtenStatus : (op : Op) × op.Answer → Option (Uuid × PaymentStatus)
  | ⟨.query (.updateIntent id status), .ok _⟩ => some (id, status)
  | ⟨.query (.recordEvent _ _ _), .ok row⟩ => some (row.id, .captured)
  | ⟨.query (.recordRefund data true), .ok _⟩ => some (data.paymentIntentId, .refunded)
  | _ => none

/-- What is sent to a merchant, apart from the id and the time of the event. -/
structure Dispatch where
  intentId : Uuid
  targetUrl : String
  secret : String
  event : OutboundEventType
  data : PaymentIntentData

def OutboundWebhookJobData.dispatch (job : OutboundWebhookJobData) : Dispatch :=
  ⟨job.intentId, job.targetUrl, job.secret, job.payload.event, job.payload.data⟩

def sentDispatch : (op : Op) × op.Answer → Option Dispatch
  | ⟨.enqueue event data targetUrl secret, .ok ()⟩ => some ⟨data.id, targetUrl, secret, event, data⟩
  | _ => none

theorem insertedIntent_some {entry : (op : Op) × op.Answer} {row : PaymentIntent} (inserted : insertedIntent entry = some row) :
    ∃ data, entry = ⟨.query (.createIntent data), .ok row⟩ := by
  unfold insertedIntent at inserted
  split at inserted
  · cases inserted
    exact ⟨_, rfl⟩
  · cases inserted

theorem insertedRefund_some {entry : (op : Op) × op.Answer} {row : Refund} (inserted : insertedRefund entry = some row) :
    ∃ data markRefunded, entry = ⟨.query (.recordRefund data markRefunded), .ok row⟩ := by
  unfold insertedRefund at inserted
  split at inserted
  · cases inserted
    exact ⟨_, _, rfl⟩
  · cases inserted

theorem sentDispatch_some {entry : (op : Op) × op.Answer} {dispatch : Dispatch} (sent : sentDispatch entry = some dispatch) :
    ∃ event data targetUrl secret, entry = ⟨.enqueue event data targetUrl secret, .ok ()⟩ ∧
      dispatch = ⟨data.id, targetUrl, secret, event, data⟩ := by
  unfold sentDispatch at sent
  split at sent
  · cases sent
    exact ⟨_, _, _, _, rfl, rfl⟩
  · cases sent

/-- The intents after an entry of the log: a status set, or a row more. -/
def bookIntents (entry : (op : Op) × op.Answer) (rows : List PaymentIntent) : List PaymentIntent :=
  (match writtenStatus entry with
    | some (id, status) => rows.map fun intent => if intent.id = id then { intent with status } else intent
    | none => rows) ++ (insertedIntent entry).toList

/-- The world has changed by what one entry of the log says, and by nothing else. -/
structure Booked (entry : (op : Op) × op.Answer) (before after : World) : Prop where
  merchants : after.db.merchants = before.db.merchants
  intents : after.db.intents.rows = bookIntents entry before.db.intents.rows
  events : after.db.events.rows = before.db.events.rows ++ (insertedEvent entry).toList
  refunds : after.db.refunds.rows = before.db.refunds.rows ++ (insertedRefund entry).toList
  queue : after.queue.map OutboundWebhookJobData.dispatch =
    before.queue.map OutboundWebhookJobData.dispatch ++ (sentDispatch entry).toList

/-- The world has changed by what a log says, entry by entry, and by nothing else. -/
structure Journaled (before after : World) (log : List (Nat × (op : Op) × op.Answer)) : Prop where
  merchants : after.db.merchants = before.db.merchants
  intents : after.db.intents.rows = log.foldr (fun entry rows => bookIntents entry.2 rows) before.db.intents.rows
  events : after.db.events.rows = before.db.events.rows ++ (gather insertedEvent log).map Prod.snd
  refunds : after.db.refunds.rows = before.db.refunds.rows ++ (gather insertedRefund log).map Prod.snd
  queue : after.queue.map OutboundWebhookJobData.dispatch =
    before.queue.map OutboundWebhookJobData.dispatch ++ (gather sentDispatch log).map Prod.snd

/-- An entry that books nothing. -/
theorem Booked.still {entry : (op : Op) × op.Answer} {w : World} (intent : insertedIntent entry = none)
    (status : writtenStatus entry = none) (event : insertedEvent entry = none) (refund : insertedRefund entry = none)
    (sent : sentDispatch entry = none) : Booked entry w w := by
  constructor
  · rfl
  · simp [bookIntents, intent, status]
  · simp [event]
  · simp [refund]
  · simp [sent]

/-- A refused database step books nothing. -/
theorem Booked.refused (q : Query) (err : JsError) (w : World) : Booked ⟨.query q, .error err⟩ w w := by
  refine .still ?_ ?_ ?_ ?_ rfl
  · cases q <;> rfl
  · cases q with
    | recordRefund data markRefunded => cases markRefunded <;> rfl
    | _ => rfl
  · unfold insertedEvent
    split
    · next same => cases same
    · rfl
  · cases q <;> rfl

theorem performed_booked {P : Platform} {env : Env} {op : Op} {answer : op.Answer} {before after : World}
    (did : AppPerformed P env before op answer after) (merchants : after.db.merchants = before.db.merchants) :
    Booked ⟨op, answer⟩ before after := by
  cases did with
  | created spared stored made intents events refunds =>
    refine ⟨merchants, intents, ?_, ?_, (List.append_nil _).symm⟩
    · exact (congrArg Table.rows events).trans (List.append_nil _).symm
    · exact (congrArg Table.rows refunds).trans (List.append_nil _).symm
  | settled did =>
    cases did with
    | refused _ => exact .refused _ _ _
    | updated spared found =>
      exact ⟨rfl, (List.append_nil _).symm, (List.append_nil _).symm, (List.append_nil _).symm, (List.append_nil _).symm⟩
    | @recorded idText text payload id intent db spared named found fresh intents events refunds =>
      have key : intent.id = id := Table.find_key found
      refine ⟨merchants, ?_, ?_, ?_, (List.append_nil _).symm⟩
      · have same := congrArg Table.rows intents
        subst key
        exact same.trans (List.append_nil _).symm
      · subst key
        exact events
      · exact (congrArg Table.rows refunds).trans (List.append_nil _).symm
    | @refunded data markRefunded amount intent row db spared stored made found rows events intents =>
      refine ⟨merchants, ?_, ?_, rows, (List.append_nil _).symm⟩
      · have same := congrArg Table.rows intents
        cases markRefunded <;> exact same.trans (List.append_nil _).symm
      · exact (congrArg Table.rows events).trans (List.append_nil _).symm
    | enqueued _ =>
      refine ⟨rfl, (List.append_nil _).symm, (List.append_nil _).symm, (List.append_nil _).symm, ?_⟩
      simp only [List.map_append, List.map_cons, List.map_nil]
      rfl
    | unqueued _ => exact .still rfl rfl rfl rfl rfl
    | _ => exact .still rfl rfl rfl rfl rfl

theorem Journaled.refl (w : World) : Journaled w w [] := by
  constructor <;> simp [gather]

theorem Journaled.next {before now after : World} {log : List (Nat × (op : Op) × op.Answer)} {i : Nat}
    {entry : (op : Op) × op.Answer} (journaled : Journaled before now log) (booked : Booked entry now after) :
    Journaled before after ((i, entry) :: log) := by
  constructor
  · rw [booked.merchants, journaled.merchants]
  · rw [booked.intents, journaled.intents, List.foldr_cons]
  · rw [booked.events, journaled.events, gather_cons, List.map_append, List.append_assoc]
    cases insertedEvent entry <;> rfl
  · rw [booked.refunds, journaled.refunds, gather_cons, List.map_append, List.append_assoc]
    cases insertedRefund entry <;> rfl
  · rw [booked.queue, journaled.queue, gather_cons, List.map_append, List.append_assoc]
    cases sentDispatch entry <;> rfl

theorem journaled {P : Platform} {first now : World} {log : List (Nat × (op : Op) × op.Answer)}
    (chronicle : Chronicle (perform P) first now log) : Journaled first now log := by
  induction chronicle with
  | start => exact .refl first
  | @next now log i env op _ ih => exact ih.next (performed_booked (app_performed P env op now) (perform_merchants P env op now))

/-- A job is queued from the start, or by an entry of the log. -/
theorem queued_from {P : Platform} {first now : World} {log : List (Nat × (op : Op) × op.Answer)}
    (chronicle : Chronicle (perform P) first now log) {job : OutboundWebhookJobData} (queued : job ∈ now.queue) :
    job ∈ first.queue ∨ job.intentId = job.payload.data.id ∧ ∃ i, (i, (⟨.enqueue job.payload.event job.payload.data
      job.targetUrl job.secret, .ok ()⟩ : (op : Op) × op.Answer)) ∈ log := by
  induction chronicle with
  | start => exact .inl queued
  | @next now log i env op _ ih =>
    have earlier : job ∈ now.queue → job ∈ first.queue ∨ job.intentId = job.payload.data.id ∧ ∃ j, (j, (⟨.enqueue
        job.payload.event job.payload.data job.targetUrl job.secret, .ok ()⟩ : (op : Op) × op.Answer)) ∈
          (i, ⟨op, (perform P env op now).1⟩) :: log :=
      fun old => (ih old).imp_right fun ⟨about, j, sent⟩ => ⟨about, j, List.mem_cons_of_mem _ sent⟩
    have did := app_performed P env op now
    generalize (perform P env op now).1 = answer, (perform P env op now).2 = after at did queued earlier ⊢
    cases did with
    | created _ _ _ _ _ _ => exact earlier queued
    | settled did =>
      cases did with
      | enqueued _ =>
        rcases List.mem_append.mp queued with old | new
        · exact earlier old
        · rw [List.mem_singleton.mp new]
          exact .inr ⟨rfl, i, List.mem_cons_self⟩
      | _ => exact earlier queued

end PayBridge
