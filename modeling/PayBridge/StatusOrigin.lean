import PayBridge.Journal

namespace PayBridge
open Store Await

/-- An answer that tells the row of an intent. -/
inductive Told : (op : Op) × op.Answer → PaymentIntent → Prop
  | shown {entry row} : ShowsRow entry row → Told entry row
  | scanned {cutoff rows row} : row ∈ rows → Told ⟨.query (.findStaleIntents cutoff), .ok rows⟩ row
  | inserted {data row} : Told ⟨.query (.createIntent data), .ok row⟩ row

/-- Two rows of one payment, whatever their statuses. -/
structure SamePayment (left right : PaymentIntent) : Prop where
  id : left.id = right.id
  reference : left.reference = right.reference
  amount : left.amount = right.amount
  currency : left.currency = right.currency
  gateway : left.gateway = right.gateway
  gatewayPaymentId : left.gatewayPaymentId = right.gatewayPaymentId
  customerEmail : left.customerEmail = right.customerEmail
  merchantId : left.merchantId = right.merchantId
  createdAt : left.createdAt = right.createdAt

theorem SamePayment.of_eq {left right : PaymentIntent} {status : PaymentStatus}
    (same : ({ left with status } : PaymentIntent) = { right with status }) : SamePayment left right := by
  obtain ⟨id, reference, amount, currency, _, gateway, payment, email, merchant, created⟩ := PaymentIntent.mk.inj same
  exact ⟨id, reference, amount, currency, gateway, payment, email, merchant, created⟩

section
variable {P : Platform} {first now : World} {log : List (Nat × (op : Op) × op.Answer)}

/-- What is stored of an intent apart from its status stays. -/
theorem app_paymentOf {env : Env} {op : Op} {answer : op.Answer} {before after : World}
    (did : AppPerformed P env before op answer after) {id : Uuid} {payment : PaymentIntent}
    (stored : before.db.paymentOf id = some payment) : after.db.paymentOf id = some payment := by
  cases did with
  | settled did =>
    rw [performed_paymentOf did]
    exact stored
  | @created data amount row db spared held made intents events refunds =>
    obtain ⟨fresh, find⟩ := Table.find_append intents
    have other : id ≠ row.id := by
      rintro rfl
      rw [Database.paymentOf, fresh] at stored
      cases stored
    rw [Database.paymentOf, find, if_neg other]
    exact stored

/-- A row that is told is stored, but for its status. -/
theorem app_told {env : Env} {op : Op} {answer : op.Answer} {before after : World}
    (did : AppPerformed P env before op answer after) {row : PaymentIntent} (told : Told ⟨op, answer⟩ row) :
    after.db.paymentOf row.id = some { row with status := .captured } := by
  cases did with
  | settled settled =>
    refine app_paymentOf (.settled settled) ?_
    generalize made : (⟨op, answer⟩ : (op : Op) × op.Answer) = entry at told
    cases told with
    | shown shows =>
      subst made
      exact (performed_truly settled).intent row shows
    | scanned member =>
      obtain ⟨rfl, told⟩ := Sigma.mk.inj_iff.mp made
      have told := eq_of_heq told
      cases settled with
      | refused _ => cases told
      | readStale =>
        cases told
        exact paymentOf_found (Table.find_mem (List.mem_of_mem_filter member))
    | inserted =>
      obtain ⟨rfl, told⟩ := Sigma.mk.inj_iff.mp made
      have told := eq_of_heq told
      cases settled with
      | refused _ => cases told
  | @created data amount inserted db spared held made intents events refunds =>
    cases told with
    | shown shows => cases shows
    | inserted =>
      have stands := (Table.find_append intents).2 row.id
      rw [if_pos rfl] at stands
      exact paymentOf_found stands

/-- Whatever row was told is still stored, but for its status. -/
theorem told_now (chronicle : Chronicle (perform P) first now log) {i : Nat} {entry : (op : Op) × op.Answer}
    (member : (i, entry) ∈ log) {row : PaymentIntent} (told : Told entry row) :
    now.db.paymentOf row.id = some { row with status := .captured } := by
  induction chronicle with
  | start => cases member
  | @next now log j env op _ ih =>
    have did := app_performed P env op now
    rcases List.mem_cons.mp member with same | old
    · cases same
      exact app_told did told
    · exact app_paymentOf did (ih old)

/-- A stored intent is the row that was told under its id, but for the status. -/
theorem told_stored (chronicle : Chronicle (perform P) first now log) {i : Nat} {entry : (op : Op) × op.Answer}
    (member : (i, entry) ∈ log) {row intent : PaymentIntent} (told : Told entry row)
    (stored : intent ∈ now.db.intents.rows) (same : intent.id = row.id) : SamePayment intent row := by
  have kept := told_now chronicle member told
  have found : now.db.intents.find row.id = some intent := Table.find_some.mpr ⟨stored, same⟩
  rw [Database.paymentOf, found] at kept
  exact .of_eq (Option.some.inj kept)

end

/-- A row after an entry of the log: a new one, or an old one with the status
that it had or that the entry has written. -/
theorem mem_bookIntents {entry : (op : Op) × op.Answer} {rows : List PaymentIntent} {intent : PaymentIntent}
    (member : intent ∈ bookIntents entry rows) :
    insertedIntent entry = some intent ∨ ∃ old ∈ rows, intent = { old with status := intent.status } ∧
      (intent.status = old.status ∨ writtenStatus entry = some (intent.id, intent.status)) := by
  rcases List.mem_append.mp member with kept | new
  · right
    cases written : writtenStatus entry with
    | none =>
      simp only [written] at kept
      exact ⟨intent, kept, rfl, Or.inl rfl⟩
    | some write =>
      obtain ⟨id, status⟩ := write
      simp only [written, List.mem_map] at kept
      obtain ⟨old, stood, rfl⟩ := kept
      refine ⟨old, stood, ?_⟩
      split
      · next named => exact ⟨rfl, Or.inr (by rw [← named])⟩
      · exact ⟨rfl, Or.inl rfl⟩
  · exact Or.inl (Option.mem_toList.mp new)

/-- Where the status of a row comes from, over a whole log. -/
theorem status_logged {log : List (Nat × (op : Op) × op.Answer)} {rows : List PaymentIntent} {intent : PaymentIntent}
    (member : intent ∈ log.foldr (fun entry rows => bookIntents entry.2 rows) rows) :
    (∃ old ∈ rows, old.id = intent.id ∧ old.status = intent.status) ∨
      (∃ i data row, (i, (⟨.query (.createIntent data), .ok row⟩ : (op : Op) × op.Answer)) ∈ log ∧ row.id = intent.id ∧
        row.status = intent.status) ∨
      ∃ i entry, (i, entry) ∈ log ∧ writtenStatus entry = some (intent.id, intent.status) := by
  induction log generalizing intent with
  | nil => exact Or.inl ⟨intent, member, rfl, rfl⟩
  | cons head rest ih =>
    obtain ⟨j, entry⟩ := head
    rcases mem_bookIntents member with new | ⟨old, stood, same, unchanged | written⟩
    · refine Or.inr (Or.inl ?_)
      obtain ⟨data, rfl⟩ := insertedIntent_some new
      exact ⟨j, data, intent, List.mem_cons_self, rfl, rfl⟩
    · have named : old.id = intent.id := (congrArg PaymentIntent.id same).symm
      rcases ih stood with first | ⟨i, data, row, logged, about, status⟩ | ⟨i, earlier, logged, written⟩
      · obtain ⟨before, listed, about, status⟩ := first
        exact Or.inl ⟨before, listed, about.trans named, status.trans unchanged.symm⟩
      · exact Or.inr (Or.inl ⟨i, data, row, List.mem_cons_of_mem _ logged, about.trans named, status.trans unchanged.symm⟩)
      · refine Or.inr (Or.inr ⟨i, earlier, List.mem_cons_of_mem _ logged, ?_⟩)
        rw [written, named, unchanged]
    · exact Or.inr (Or.inr ⟨j, entry, List.mem_cons_self, written⟩)

/-- What a status write was: the update of a round, the transaction of an event,
or the transaction of a refund that settles its intent. -/
theorem writtenStatus_some {entry : (op : Op) × op.Answer} {id : Uuid} {status : PaymentStatus}
    (written : writtenStatus entry = some (id, status)) :
    (∃ row, entry = ⟨.query (.updateIntent id status), .ok row⟩) ∨
      (∃ paymentIntentId providerEventId payload row, entry = ⟨.query (.recordEvent paymentIntentId providerEventId payload), .ok row⟩ ∧
        row.id = id ∧ status = .captured) ∨
      ∃ data row, entry = ⟨.query (.recordRefund data true), .ok row⟩ ∧ data.paymentIntentId = id ∧ status = .refunded := by
  unfold writtenStatus at written
  split at written <;> cases written
  · exact Or.inl ⟨_, rfl⟩
  · exact Or.inr (Or.inl ⟨_, _, _, _, rfl, rfl, rfl⟩)
  · exact Or.inr (Or.inr ⟨_, _, rfl, rfl, rfl⟩)

/-- What stands behind the status of an intent after a run: the intent had it
before, its checkout or its provider's event gave it, its gateway confirmed it, it
was given up after a day without a payment, or a refund of it has succeeded. -/
inductive StatusBacked (P : Platform) (world : World) (s : App) (intent : PaymentIntent) : Prop
  | before {old : PaymentIntent} : old ∈ world.db.intents.rows → old.id = intent.id → old.status = intent.status →
      StatusBacked P world s intent
  | opened {i : Nat} {data : NewIntent} {row : PaymentIntent} : (i, ⟨.query (.createIntent data), .ok row⟩) ∈ s.log →
      row.id = intent.id → intent.status = .pending → StatusBacked P world s intent
  | notified {i : Nat} {t : Thread Op Op.Answer AppRequest (Except JsError AppReply)} {d : Delivery} {inbound : InboundEvent}
      {event : WebhookEvent} : s.threads[i]? = some t → t.request = .payment (.webhook d) → inboundEvent P d = .ok inbound →
      event ∈ s.world.db.events.rows → event.paymentIntentId = intent.id →
      inbound.providerEventId = some (.str event.providerEventId) → inbound.payload = event.payload →
      intent.status = .captured → StatusBacked P world s intent
  | confirmed {i : Nat} {asked : (op : Op) × op.Answer} : (i, asked) ∈ s.log → Confirms intent asked intent.status →
      StatusBacked P world s intent
  | abandoned {i : Nat} {now : Timestamp} : (i, ⟨.now, now⟩) ∈ s.log → intent.gatewayPaymentId.filter (· ≠ "") = none →
      intent.createdAt < now - 24 * 60 * 60 * 1000 → intent.status = .failed → StatusBacked P world s intent
  | refunded {refund : Refund} : refund ∈ s.world.db.refunds.rows → refund.paymentIntentId = intent.id →
      refund.status = .succeeded → intent.status = .refunded → StatusBacked P world s intent

/-- What a gateway confirms depends on the gateway and the payment of an intent. -/
theorem Confirms.of_payment {row intent : PaymentIntent} {asked : (op : Op) × op.Answer} {status : PaymentStatus}
    (confirms : Confirms row asked status) (same : SamePayment intent row) : Confirms intent asked status := by
  cases confirms with
  | captured named =>
    rw [← same.gatewayPaymentId] at named
    rw [← same.gateway]
    exact .captured named
  | failed named =>
    rw [← same.gatewayPaymentId] at named
    rw [← same.gateway]
    exact .failed named

section
variable {P : Platform} {first now : World} {log : List (Nat × (op : Op) × op.Answer)}

theorem recordEvent_shape (chronicle : Chronicle (perform P) first now log) {i : Nat}
    {paymentIntentId providerEventId : JsValue} {payload : Json} {row : PaymentIntent}
    (member : (i, (⟨.query (.recordEvent paymentIntentId providerEventId payload), .ok row⟩ : (op : Op) × op.Answer)) ∈ log) :
    ∃ text, providerEventId = some (.str text) ∧ ⟨row.id, text, payload⟩ ∈ now.db.events.rows := by
  obtain ⟨env, w, answered⟩ := chronicle.answered member
  obtain ⟨_, ran⟩ := perform_query_ok answered
  obtain ⟨_, text, _, _, _, rfl, _⟩ := recordEventTx_ok ran
  refine ⟨text, rfl, ?_⟩
  rw [(journaled chronicle).events]
  refine List.mem_append_right _ (List.mem_map.mpr ⟨(i, ⟨row.id, text, payload⟩), mem_gather.mpr ⟨_, member, rfl⟩, rfl⟩)

theorem recordRefund_shape (chronicle : Chronicle (perform P) first now log) {i : Nat} {data : NewRefund} {markRefunded : Bool}
    {row : Refund} (member : (i, (⟨.query (.recordRefund data markRefunded), .ok row⟩ : (op : Op) × op.Answer)) ∈ log) :
    row ∈ now.db.refunds.rows ∧ ∃ amount, Decimal.ofNumber data.amount = some amount ∧
      row = ⟨row.id, data.paymentIntentId, amount, data.reason, data.status, some data.gatewayRefundId⟩ := by
  obtain ⟨env, w, answered⟩ := chronicle.answered member
  obtain ⟨_, ran⟩ := perform_query_ok answered
  obtain ⟨amount, _, stored, made, _⟩ := recordRefundTx_ok ran
  refine ⟨?_, amount, stored, by rw [made]⟩
  rw [(journaled chronicle).refunds]
  exact List.mem_append_right _ (List.mem_map.mpr ⟨(i, row), mem_gather.mpr ⟨_, member, rfl⟩, rfl⟩)

end

section
variable {P : Platform} {orchestrator : OrchestratorService} {meets : App → AppStep → Prop} {world : World} {s : App}

/-- An intent that a reconciliation has updated was confirmed, or given up. -/
theorem updated_backed (faithful : orchestrator.Faithful) (reach : Reach (app P orchestrator) meets world s)
    {intent : PaymentIntent} (stored : intent ∈ s.world.db.intents.rows) {i : Nat} {row : PaymentIntent}
    (member : (i, (⟨.query (.updateIntent intent.id intent.status), .ok row⟩ : (op : Op) × op.Answer)) ∈ s.log) :
    StatusBacked P world s intent := by
  obtain ⟨t, earlier, _, course, logged⟩ := reach.asked_at (app_course P faithful) member
  obtain ⟨start, old, ⟨cutoff, rows, scanned, listed⟩, about, round⟩ := course.updates
  have kept : ∀ entry, earlier = entry :: start → SamePayment intent old := by
    rintro entry rfl
    exact told_stored reach.chronicle (logged _ (List.mem_cons_of_mem _ scanned)) (.scanned listed) stored about.symm
  rcases round with ⟨now, rfl, unknown, expired, failed⟩ | ⟨asked, rfl, confirms⟩
  · rw [← (kept _ rfl).gatewayPaymentId] at unknown
    rw [← (kept _ rfl).createdAt] at expired
    exact .abandoned (logged _ List.mem_cons_self) unknown expired failed
  · exact .confirmed (logged _ List.mem_cons_self) (confirms.of_payment (kept _ rfl))

/-- In every run of the application, with any requests at once and any failures,
every stored intent has a status that something stands behind. -/
theorem statuses_backed (faithful : orchestrator.Faithful) (reach : Reach (app P orchestrator) meets world s) :
    ∀ intent ∈ s.world.db.intents.rows, StatusBacked P world s intent := by
  intro intent stored
  have logged := stored
  rw [(journaled reach.chronicle).intents] at logged
  rcases status_logged logged with ⟨old, listed, about, kept⟩ | ⟨i, data, row, member, about, kept⟩ | ⟨i, entry, member, written⟩
  · exact .before listed about kept
  · obtain ⟨env, w, answered⟩ := reach.chronicle.answered member
    obtain ⟨_, ran⟩ := perform_query_ok answered
    obtain ⟨_, _, made, _⟩ := paymentIntentCreate_ok ran
    obtain ⟨t, earlier, _, course, _⟩ := reach.asked_at (app_course P faithful) member
    obtain ⟨_, _, _, _, _, _, _, given, _⟩ := course.inserts
    have pending : row.status = .pending := by rw [made, given]; rfl
    exact .opened member about (kept.symm.trans pending)
  · rcases writtenStatus_some written with ⟨row, rfl⟩ | ⟨_, providerEventId, payload, row, rfl, about, captured⟩ |
      ⟨data, row, rfl, about, refunded⟩
    · exact updated_backed faithful reach stored member
    · obtain ⟨t, _, standing, course, _⟩ := reach.asked_at (app_course P faithful) member
      obtain ⟨d, asked, passed, _⟩ := course.records
      obtain ⟨text, named, inserted⟩ := recordEvent_shape reach.chronicle member
      exact .notified standing asked passed inserted about named rfl captured
    · obtain ⟨t, _, _, course, _⟩ := reach.asked_at (app_course P faithful) member
      obtain ⟨_, _, _, _, plan, refundResult, _, _, given, marks, _⟩ := course.refunds
      obtain ⟨inserted, amount, _, made⟩ := recordRefund_shape reach.chronicle member
      have succeeded : refundResult.status = .succeeded := by
        simp only [RefundPlan.marksRefunded, Bool.true_eq, Bool.and_eq_true, decide_eq_true_eq] at marks
        exact marks.2
      refine .refunded inserted ?_ ?_ refunded
      · rw [made]
        exact about
      · rw [made, given]
        exact succeeded

end

/-- The statuses after the sample run: one refunded, one just opened. -/
theorem statuses_backed_sample : sampleApp.world.db.intents.rows.map PaymentIntent.status = [.refunded, .pending] ∧
    ∀ intent ∈ sampleApp.world.db.intents.rows, StatusBacked plainPlatform openWorld sampleApp intent :=
  ⟨by decide +kernel, statuses_backed sampleOrchestrator_faithful sampleApp_reached⟩

end PayBridge
