import PayBridge.Schema

namespace PayBridge
open Store

inductive DbError
  | uniqueConstraint
  | foreignKey
  | recordNotFound
  | invalidArgument
  | unavailable
  deriving DecidableEq

/-- The code Prisma gives the error; a rejected argument has none. -/
def DbError.code : DbError → Option String
  | .uniqueConstraint => some "P2002"
  | .foreignKey => some "P2003"
  | .recordNotFound => some "P2025"
  | .invalidArgument => none
  | .unavailable => some "P1001"

/-- The error the client library throws; its text is Prisma's own. -/
def DbError.thrown (message : String) (err : DbError) : JsError := ⟨.prisma err.code, message⟩

namespace Database

/-- Sets the status of the intent under an id, if there is one. -/
def setStatus (db : Database) (id : Uuid) (status : PaymentStatus) : Database where
  merchants := db.merchants
  intents := db.intents.modify id (fun intent => { intent with status }) fun _ => rfl
  events := db.events
  refunds := db.refunds
  intentMerchant := by
    intro intent member
    rcases Table.mem_modify.mp member with ⟨old, _⟩ | ⟨intent, old, _, rfl⟩
    · exact db.intentMerchant intent old
    · exact db.intentMerchant intent old
  eventIntent := by
    intro event member
    obtain ⟨intent, old, same⟩ := db.eventIntent event member
    by_cases hit : intent.id = id
    · exact ⟨_, Table.mem_modify.mpr (Or.inr ⟨intent, old, hit, rfl⟩), same⟩
    · exact ⟨intent, Table.mem_modify.mpr (Or.inl ⟨old, hit⟩), same⟩
  refundIntent := by
    intro refund member
    obtain ⟨intent, old, same⟩ := db.refundIntent refund member
    by_cases hit : intent.id = id
    · exact ⟨_, Table.mem_modify.mpr (Or.inr ⟨intent, old, hit, rfl⟩), same⟩
    · exact ⟨intent, Table.mem_modify.mpr (Or.inl ⟨old, hit⟩), same⟩

@[simp] theorem setStatus_merchants (db : Database) (id : Uuid) (status : PaymentStatus) :
    (db.setStatus id status).merchants = db.merchants := rfl

@[simp] theorem setStatus_events (db : Database) (id : Uuid) (status : PaymentStatus) :
    (db.setStatus id status).events = db.events := rfl

@[simp] theorem setStatus_refunds (db : Database) (id : Uuid) (status : PaymentStatus) :
    (db.setStatus id status).refunds = db.refunds := rfl

theorem setStatus_find (db : Database) (id : Uuid) (status : PaymentStatus) (j : Uuid) :
    (db.setStatus id status).intents.find j =
      if j = id then (db.intents.find j).map fun intent => { intent with status } else db.intents.find j :=
  Table.find_modify db.intents id (fun intent => { intent with status }) (fun _ => rfl) j

/-- Inserts an event: the id must name an intent and the event id must be new.
The unique index is checked before the foreign key. -/
def addEvent (db : Database) (event : WebhookEvent) : Except DbError Database :=
  match inserted : db.events.insert event with
  | none => .error .uniqueConstraint
  | some events =>
    match known : db.intents.find event.paymentIntentId with
    | none => .error .foreignKey
    | some intent => .ok
      { db with
        events := events
        eventIntent := by
          intro e member
          rw [(Table.insert_rows inserted).1] at member
          rcases List.mem_append.mp member with old | added
          · exact db.eventIntent e old
          · obtain ⟨found, same⟩ := Table.find_some.mp known
            exact ⟨intent, found, by rw [List.mem_singleton.mp added, same]⟩ }

/-- Inserts a refund for an existing intent under a new id. -/
def addRefund (db : Database) (refund : Refund) : Except DbError Database :=
  match inserted : db.refunds.insert refund with
  | none => .error .uniqueConstraint
  | some refunds =>
    match known : db.intents.find refund.paymentIntentId with
    | none => .error .foreignKey
    | some intent => .ok
      { db with
        refunds := refunds
        refundIntent := by
          intro r member
          rw [(Table.insert_rows inserted).1] at member
          rcases List.mem_append.mp member with old | added
          · exact db.refundIntent r old
          · obtain ⟨found, same⟩ := Table.find_some.mp known
            exact ⟨intent, found, by rw [List.mem_singleton.mp added, same]⟩ }

/-- Inserts an intent of an existing merchant under a new id and a new reference. -/
def addIntent (db : Database) (intent : PaymentIntent) : Except DbError Database :=
  if db.intents.rows.any fun old => old.reference = intent.reference then .error .uniqueConstraint
  else match inserted : db.intents.insert intent with
  | none => .error .uniqueConstraint
  | some intents =>
    have kept : ∀ id, (∃ i ∈ db.intents.rows, i.id = id) → ∃ i ∈ intents.rows, i.id = id := by
      rintro id ⟨i, member, same⟩
      exact ⟨i, by rw [(Table.insert_rows inserted).1]; exact List.mem_append_left _ member, same⟩
    match known : db.merchants.find intent.merchantId with
    | none => .error .foreignKey
    | some merchant => .ok
      { db with
        intents := intents
        intentMerchant := by
          intro i member
          rw [(Table.insert_rows inserted).1] at member
          rcases List.mem_append.mp member with old | added
          · exact db.intentMerchant i old
          · obtain ⟨found, same⟩ := Table.find_some.mp known
            exact ⟨merchant, found, by rw [List.mem_singleton.mp added, same]⟩
        eventIntent := fun event member => kept _ (db.eventIntent event member)
        refundIntent := fun refund member => kept _ (db.refundIntent refund member) }

/-- What an accepted event row changes: nothing but the event table. -/
theorem addEvent_ok {db db' : Database} {event : WebhookEvent} (added : db.addEvent event = .ok db') :
    db'.merchants = db.merchants ∧ db'.intents = db.intents ∧ db'.refunds = db.refunds ∧
      db'.events.rows = db.events.rows ++ [event] ∧ db.events.find event.providerEventId = none ∧
      ∃ intent, db.intents.find event.paymentIntentId = some intent := by
  unfold addEvent at added
  split at added
  · cases added
  · next events inserted =>
    split at added
    · cases added
    · next intent known =>
      cases added
      obtain ⟨rows, fresh⟩ := Table.insert_rows inserted
      exact ⟨rfl, rfl, rfl, rows, fresh, intent, known⟩

/-- The event table refuses an event id it holds before it looks at anything else. -/
theorem addEvent_duplicate {db : Database} {old : WebhookEvent} (event : WebhookEvent)
    (held : db.events.find event.providerEventId = some old) : db.addEvent event = .error .uniqueConstraint := by
  have refused := Table.insert_none.mpr ⟨old, held⟩
  unfold addEvent
  split
  · rfl
  · next events inserted => rw [refused] at inserted; cases inserted

theorem addEvent_unique {db : Database} {event : WebhookEvent} (refused : db.addEvent event = .error .uniqueConstraint) :
    ∃ old, db.events.find event.providerEventId = some old := by
  unfold addEvent at refused
  split at refused
  · next inserted => exact Table.insert_none.mp inserted
  · split at refused <;> cases refused

theorem addEvent_fresh {db : Database} {intent : PaymentIntent} (event : WebhookEvent)
    (fresh : db.events.find event.providerEventId = none)
    (known : db.intents.find event.paymentIntentId = some intent) : ∃ db', db.addEvent event = .ok db' := by
  obtain ⟨events, inserted, _⟩ := Table.insert_fresh fresh
  unfold addEvent
  split
  · next refused => rw [inserted] at refused; cases refused
  · split
    · next missing => rw [known] at missing; cases missing
    · exact ⟨_, rfl⟩

theorem addRefund_ok {db db' : Database} {refund : Refund} (added : db.addRefund refund = .ok db') :
    db'.merchants = db.merchants ∧ db'.intents = db.intents ∧ db'.events = db.events ∧
      db'.refunds.rows = db.refunds.rows ++ [refund] ∧
      ∃ intent, db.intents.find refund.paymentIntentId = some intent := by
  unfold addRefund at added
  split at added
  · cases added
  · next refunds inserted =>
    split at added
    · cases added
    · next intent known =>
      cases added
      exact ⟨rfl, rfl, rfl, (Table.insert_rows inserted).1, intent, known⟩

theorem addRefund_fresh {db : Database} {intent : PaymentIntent} (refund : Refund)
    (fresh : db.refunds.find refund.id = none)
    (known : db.intents.find refund.paymentIntentId = some intent) : ∃ db', db.addRefund refund = .ok db' := by
  obtain ⟨refunds, inserted, _⟩ := Table.insert_fresh fresh
  unfold addRefund
  split
  · next refused => rw [inserted] at refused; cases refused
  · split
    · next missing => rw [known] at missing; cases missing
    · exact ⟨_, rfl⟩

/-- The refund table refuses an id it holds before it looks at anything else. -/
theorem addRefund_duplicate {db : Database} {old : Refund} (refund : Refund) (held : db.refunds.find refund.id = some old) :
    db.addRefund refund = .error .uniqueConstraint := by
  have refused := Table.insert_none.mpr ⟨old, held⟩
  unfold addRefund
  split
  · rfl
  · next refunds inserted => rw [refused] at inserted; cases inserted

theorem addIntent_ok {db db' : Database} {intent : PaymentIntent} (added : db.addIntent intent = .ok db') :
    db'.merchants = db.merchants ∧ db'.events = db.events ∧ db'.refunds = db.refunds ∧
      db'.intents.rows = db.intents.rows ++ [intent] := by
  unfold addIntent at added
  split at added
  · cases added
  · split at added
    · cases added
    · next intents inserted =>
      split at added
      · cases added
      · cases added
        exact ⟨rfl, rfl, rfl, (Table.insert_rows inserted).1⟩

theorem addIntent_fresh {db : Database} {intent : PaymentIntent} {merchant : Merchant}
    (unused : ∀ old ∈ db.intents.rows, old.reference ≠ intent.reference) (fresh : db.intents.find intent.id = none)
    (known : db.merchants.find intent.merchantId = some merchant) : ∃ db', db.addIntent intent = .ok db' := by
  obtain ⟨intents, inserted, _⟩ := Table.insert_fresh fresh
  unfold addIntent
  split
  · next clash =>
    obtain ⟨old, member, same⟩ := List.any_eq_true.mp clash
    exact absurd (of_decide_eq_true same) (unused old member)
  · split
    · next refused => rw [inserted] at refused; cases refused
    · split
      · next missing => rw [known] at missing; cases missing
      · exact ⟨_, rfl⟩

theorem refundsOf_append {db db' : Database} {refund : Refund} (rows : db'.refunds.rows = db.refunds.rows ++ [refund])
    (id : Uuid) : db'.refundsOf id = db.refundsOf id ++ if refund.paymentIntentId = id then [refund] else [] := by
  simp only [refundsOf, rows, List.filter_append]
  congr 1
  by_cases same : refund.paymentIntentId = id <;> simp [same]

end Database

/-- A database transaction: all of its statements, or none and an error. -/
abbrev Tx := StateT Database (Except DbError)

/-- The client library takes only strings for these columns. -/
def readString : JsValue → Except DbError String
  | some (.str text) => .ok text
  | _ => .error .invalidArgument

def Platform.readId (P : Platform) (text : String) : Except DbError Uuid :=
  match P.readUuid text with
  | some id => .ok id
  | none => .error .invalidArgument

/-- `webhookEvent.create`. -/
def webhookEventCreate (P : Platform) (paymentIntentId providerEventId : JsValue) (payload : Json) : Tx Unit :=
  fun db => do
    let eventText ← readString providerEventId
    let idText ← readString paymentIntentId
    let id ← P.readId idText
    let db' ← db.addEvent ⟨id, eventText, payload⟩
    return ((), db')

/-- `paymentIntent.update` of the status; the row as updated. -/
def paymentIntentUpdate (id : Uuid) (status : PaymentStatus) : Tx PaymentIntent := fun db =>
  match db.intents.find id with
  | none => .error .recordNotFound
  | some intent => .ok ({ intent with status }, db.setStatus id status)

/-- The fields `refund.create` is given. -/
structure NewRefund where
  paymentIntentId : Uuid
  amount : ℚ
  reason : Option String
  status : RefundStatus
  gatewayRefundId : String

/-- `refund.create` under a generated id. -/
def refundCreate (id : Uuid) (data : NewRefund) : Tx Refund := fun db =>
  match Decimal.ofNumber data.amount with
  | none => .error .invalidArgument
  | some amount => do
    let refund : Refund := ⟨id, data.paymentIntentId, amount, data.reason, data.status, some data.gatewayRefundId⟩
    let db' ← db.addRefund refund
    return (refund, db')

/-- The fields `paymentIntent.create` is given. -/
structure NewIntent where
  reference : String
  amount : ℚ
  currency : String
  gateway : GatewayProvider
  customerEmail : String
  gatewayPaymentId : String
  merchantId : Uuid
  status : PaymentStatus

/-- `paymentIntent.create` under a generated id; the columns take
`Decimal(12,2)` and `VarChar(3)`. -/
def paymentIntentCreate (id : Uuid) (now : Timestamp) (data : NewIntent) : Tx PaymentIntent := fun db =>
  match Decimal.ofNumber data.amount with
  | none => .error .invalidArgument
  | some amount =>
    if 3 < data.currency.length then .error .invalidArgument
    else do
      let intent : PaymentIntent :=
        ⟨id, data.reference, amount, data.currency, data.status, data.gateway, some data.gatewayPaymentId,
          data.customerEmail, data.merchantId, now⟩
      let db' ← db.addIntent intent
      return (intent, db')

/-- The transaction of an inbound webhook: the event row first, then the status. -/
def recordEventTx (P : Platform) (paymentIntentId providerEventId : JsValue) (payload : Json) : Tx PaymentIntent := do
  webhookEventCreate P paymentIntentId providerEventId payload
  let idText ← (readString paymentIntentId : Except DbError String)
  let id ← (P.readId idText : Except DbError Uuid)
  paymentIntentUpdate id .captured

/-- The transaction of a refund: its row, and the status when the refund
was the last one. -/
def recordRefundTx (id : Uuid) (data : NewRefund) (markRefunded : Bool) : Tx Refund := do
  let created ← refundCreate id data
  if markRefunded then
    let _ ← paymentIntentUpdate data.paymentIntentId .refunded
  return created

theorem Tx.bind_ok {α β : Type} {x : Tx α} {f : α → Tx β} {db db' : Database} {b : β} :
    (x >>= f) db = .ok (b, db') ↔ ∃ a between, x db = .ok (a, between) ∧ f a between = .ok (b, db') := by
  simp only [bind, StateT.bind, Except.bind]
  cases x db with
  | error err => simp
  | ok pair =>
    constructor
    · intro ran
      exact ⟨pair.1, pair.2, rfl, ran⟩
    · rintro ⟨a, between, same, ran⟩
      cases same
      exact ran

theorem Tx.bind_error {α β : Type} {x : Tx α} {f : α → Tx β} {db : Database} {err : DbError} :
    (x >>= f) db = .error err ↔
      x db = .error err ∨ ∃ a between, x db = .ok (a, between) ∧ f a between = .error err := by
  simp only [bind, StateT.bind, Except.bind]
  cases x db with
  | error other => simp
  | ok pair =>
    constructor
    · intro ran
      exact Or.inr ⟨pair.1, pair.2, rfl, ran⟩
    · rintro (impossible | ⟨a, between, same, ran⟩)
      · cases impossible
      · cases same
        exact ran

theorem Tx.pure_ok {α : Type} {a b : α} {db db' : Database} :
    (pure a : Tx α) db = .ok (b, db') ↔ a = b ∧ db = db' := by
  have returns : (pure a : Tx α) db = .ok (a, db) := rfl
  rw [returns, Except.ok.injEq, Prod.mk.injEq]

theorem Tx.lift_ok {α : Type} {x : Except DbError α} {a : α} {db db' : Database} :
    (liftM x : Tx α) db = .ok (a, db') ↔ x = .ok a ∧ db = db' := by
  simp only [liftM, monadLift, MonadLift.monadLift, StateT.lift, bind, Except.bind]
  cases x <;> simp [pure, Except.pure]

theorem Tx.lift_error {α : Type} {x : Except DbError α} {err : DbError} {db : Database} :
    (liftM x : Tx α) db = .error err ↔ x = .error err := by
  simp only [liftM, monadLift, MonadLift.monadLift, StateT.lift, bind, Except.bind]
  cases x <;> simp [pure, Except.pure]

theorem readString_ok {value : JsValue} {text : String} :
    readString value = .ok text ↔ value = some (.str text) := by
  constructor
  · intro read
    unfold readString at read
    split at read <;> cases read
    rfl
  · rintro rfl
    rfl

theorem readString_error {value : JsValue} {err : DbError} (refused : readString value = .error err) :
    err = .invalidArgument := by
  unfold readString at refused
  split at refused <;> cases refused
  rfl

theorem readId_ok {P : Platform} {text : String} {id : Uuid} :
    P.readId text = .ok id ↔ P.readUuid text = some id := by
  unfold Platform.readId
  split <;> simp [*]

theorem readId_error {P : Platform} {text : String} {err : DbError} (refused : P.readId text = .error err) :
    err = .invalidArgument := by
  unfold Platform.readId at refused
  split at refused <;> cases refused
  rfl

/-- The event row is added under the ids of the payload, once they read. -/
theorem webhookEventCreate_cases (P : Platform) (paymentIntentId providerEventId : JsValue) (payload : Json) (db : Database) :
    webhookEventCreate P paymentIntentId providerEventId payload db = .error .invalidArgument ∨
      ∃ idText text id, paymentIntentId = some (.str idText) ∧ providerEventId = some (.str text) ∧
        P.readUuid idText = some id ∧ webhookEventCreate P paymentIntentId providerEventId payload db =
          (db.addEvent ⟨id, text, payload⟩).map fun db' => ((), db') := by
  unfold webhookEventCreate
  cases event : readString providerEventId with
  | error err =>
    rw [readString_error event]
    exact Or.inl rfl
  | ok text =>
    cases paid : readString paymentIntentId with
    | error err =>
      rw [readString_error paid]
      exact Or.inl rfl
    | ok idText =>
      simp only [bind, Except.bind]
      cases named : P.readId idText with
      | error err =>
        rw [readId_error named]
        exact Or.inl rfl
      | ok id =>
        refine Or.inr ⟨idText, text, id, readString_ok.mp paid, readString_ok.mp event, readId_ok.mp named, ?_⟩
        dsimp only
        cases db.addEvent ⟨id, text, payload⟩ <;> rfl

theorem webhookEventCreate_ok {P : Platform} {paymentIntentId providerEventId : JsValue} {payload : Json}
    {db db' : Database} (ran : webhookEventCreate P paymentIntentId providerEventId payload db = .ok ((), db')) :
    ∃ idText text id, paymentIntentId = some (.str idText) ∧ providerEventId = some (.str text) ∧
      P.readUuid idText = some id ∧ db.addEvent ⟨id, text, payload⟩ = .ok db' := by
  rcases webhookEventCreate_cases P paymentIntentId providerEventId payload db with
    unread | ⟨idText, text, id, paid, event, named, same⟩
  · rw [unread] at ran
    cases ran
  · refine ⟨idText, text, id, paid, event, named, ?_⟩
    rw [same] at ran
    cases added : db.addEvent ⟨id, text, payload⟩ with
    | error err => rw [added] at ran; cases ran
    | ok after => rw [added] at ran; cases ran; rfl

/-- The event row is refused as a duplicate only when its event id is in the table. -/
theorem webhookEventCreate_unique {P : Platform} {paymentIntentId providerEventId : JsValue} {payload : Json}
    {db : Database} (refused : webhookEventCreate P paymentIntentId providerEventId payload db = .error .uniqueConstraint) :
    ∃ idText text id old, paymentIntentId = some (.str idText) ∧ providerEventId = some (.str text) ∧
      P.readUuid idText = some id ∧ db.events.find text = some old := by
  rcases webhookEventCreate_cases P paymentIntentId providerEventId payload db with
    unread | ⟨idText, text, id, paid, event, named, same⟩
  · rw [unread] at refused
    cases refused
  · rw [same] at refused
    cases added : db.addEvent ⟨id, text, payload⟩ with
    | error err =>
      rw [added] at refused
      cases refused
      obtain ⟨old, held⟩ := Database.addEvent_unique added
      exact ⟨idText, text, id, old, paid, event, named, held⟩
    | ok after => rw [added] at refused; cases refused

theorem paymentIntentUpdate_ok {id : Uuid} {status : PaymentStatus} {db db' : Database} {row : PaymentIntent}
    (ran : paymentIntentUpdate id status db = .ok (row, db')) :
    ∃ intent, db.intents.find id = some intent ∧ row = { intent with status } ∧ db' = db.setStatus id status := by
  unfold paymentIntentUpdate at ran
  split at ran
  · cases ran
  · next intent found =>
    cases ran
    exact ⟨intent, found, rfl, rfl⟩

theorem paymentIntentUpdate_known {id : Uuid} {db : Database} {intent : PaymentIntent}
    (known : db.intents.find id = some intent) (status : PaymentStatus) :
    paymentIntentUpdate id status db = .ok ({ intent with status }, db.setStatus id status) := by
  unfold paymentIntentUpdate
  rw [known]

theorem paymentIntentUpdate_error {id : Uuid} {status : PaymentStatus} {db : Database} {err : DbError}
    (refused : paymentIntentUpdate id status db = .error err) : err = .recordNotFound := by
  unfold paymentIntentUpdate at refused
  split at refused
  · cases refused; rfl
  · cases refused

theorem refundCreate_ok {id : Uuid} {data : NewRefund} {db db' : Database} {row : Refund}
    (ran : refundCreate id data db = .ok (row, db')) :
    ∃ amount, Decimal.ofNumber data.amount = some amount ∧
      row = ⟨id, data.paymentIntentId, amount, data.reason, data.status, some data.gatewayRefundId⟩ ∧
      db.addRefund row = .ok db' := by
  unfold refundCreate at ran
  split at ran
  · cases ran
  · next amount stored =>
    simp only [bind, Except.bind] at ran
    split at ran
    · cases ran
    · next after added =>
      cases ran
      exact ⟨amount, stored, rfl, added⟩

theorem paymentIntentCreate_ok {id : Uuid} {now : Timestamp} {data : NewIntent} {db db' : Database}
    {row : PaymentIntent} (ran : paymentIntentCreate id now data db = .ok (row, db')) :
    ∃ amount, Decimal.ofNumber data.amount = some amount ∧
      row = ⟨id, data.reference, amount, data.currency, data.status, data.gateway, some data.gatewayPaymentId,
        data.customerEmail, data.merchantId, now⟩ ∧ db.addIntent row = .ok db' := by
  unfold paymentIntentCreate at ran
  split at ran
  · cases ran
  · next amount stored =>
    split at ran
    · cases ran
    · simp only [bind, Except.bind] at ran
      split at ran
      · cases ran
      · next after added =>
        cases ran
        exact ⟨amount, stored, rfl, added⟩

/-- An intent whose columns hold it is inserted under a new id and a new reference. -/
theorem paymentIntentCreate_fresh {id : Uuid} {now : Timestamp} {data : NewIntent} {db : Database} {merchant : Merchant}
    {amount : Decimal} (stored : Decimal.ofNumber data.amount = some amount) (fits : data.currency.length ≤ 3)
    (unused : ∀ old ∈ db.intents.rows, old.reference ≠ data.reference) (fresh : db.intents.find id = none)
    (known : db.merchants.find data.merchantId = some merchant) :
    ∃ row db', paymentIntentCreate id now data db = .ok (row, db') := by
  let row : PaymentIntent := ⟨id, data.reference, amount, data.currency, data.status, data.gateway,
    some data.gatewayPaymentId, data.customerEmail, data.merchantId, now⟩
  have room : ∃ db', db.addIntent row = .ok db' := Database.addIntent_fresh unused fresh known
  obtain ⟨db', added⟩ := room
  refine ⟨row, db', ?_⟩
  simp only [paymentIntentCreate, stored, if_neg (not_lt.mpr fits)]
  rw [added]
  rfl

/-- What the webhook transaction finds and leaves when it goes through. -/
theorem recordEventTx_ok {P : Platform} {paymentIntentId providerEventId : JsValue} {payload : Json}
    {db db' : Database} {row : PaymentIntent}
    (ran : recordEventTx P paymentIntentId providerEventId payload db = .ok (row, db')) :
    ∃ idText text id intent, paymentIntentId = some (.str idText) ∧ providerEventId = some (.str text) ∧
      P.readUuid idText = some id ∧ db.intents.find id = some intent ∧ db.events.find text = none ∧
      row = { intent with status := .captured } ∧ db'.intents = (db.setStatus id .captured).intents ∧
      db'.events.rows = db.events.rows ++ [⟨id, text, payload⟩] ∧ db'.refunds = db.refunds ∧
      db'.merchants = db.merchants := by
  simp only [recordEventTx, Tx.bind_ok, Tx.lift_ok, readString_ok, readId_ok] at ran
  obtain ⟨_, between, created, idText, _, ⟨paid, rfl⟩, id, _, ⟨located, rfl⟩, updated⟩ := ran
  obtain ⟨_, text, _, same, rfl, named, added⟩ := webhookEventCreate_ok created
  cases paid.symm.trans same
  cases located.symm.trans named
  obtain ⟨merchants, intents, refunds, rows, fresh, _⟩ := Database.addEvent_ok added
  obtain ⟨intent, known, rfl, rfl⟩ := paymentIntentUpdate_ok updated
  rw [intents] at known
  refine ⟨idText, text, id, intent, same, rfl, named, known, fresh, rfl, ?_, rows, refunds, merchants⟩
  simp only [Database.setStatus, intents]

/-- The webhook transaction goes through for a new event of a known intent. -/
theorem recordEventTx_fresh {P : Platform} {idText text : String} {id : Uuid} {db : Database}
    {intent : PaymentIntent} (named : P.readUuid idText = some id) (known : db.intents.find id = some intent)
    (fresh : db.events.find text = none) (payload : Json) :
    ∃ db', recordEventTx P (some (.str idText)) (some (.str text)) payload db =
      .ok ({ intent with status := .captured }, db') := by
  obtain ⟨between, added⟩ := Database.addEvent_fresh ⟨id, text, payload⟩ fresh known
  have stood : between.intents.find id = some intent := by
    obtain ⟨_, intents, _⟩ := Database.addEvent_ok added
    rw [intents]
    exact known
  have created : webhookEventCreate P (some (.str idText)) (some (.str text)) payload db = .ok ((), between) := by
    simp only [webhookEventCreate, readString, bind, Except.bind, readId_ok.mpr named, added]
    rfl
  refine ⟨between.setStatus id .captured, Tx.bind_ok.mpr ⟨(), between, created, ?_⟩⟩
  refine Tx.bind_ok.mpr ⟨idText, between, Tx.lift_ok.mpr ⟨rfl, rfl⟩, ?_⟩
  exact Tx.bind_ok.mpr ⟨id, between, Tx.lift_ok.mpr ⟨readId_ok.mpr named, rfl⟩, paymentIntentUpdate_known stood .captured⟩

/-- The webhook transaction refuses an event id the table holds. -/
theorem recordEventTx_duplicate {P : Platform} {idText text : String} {id : Uuid} {payload : Json} {db : Database}
    {old : WebhookEvent} (named : P.readUuid idText = some id) (held : db.events.find text = some old) :
    recordEventTx P (some (.str idText)) (some (.str text)) payload db = .error .uniqueConstraint := by
  have refused := Database.addEvent_duplicate ⟨id, text, payload⟩ held
  refine Tx.bind_error.mpr (Or.inl ?_)
  simp only [webhookEventCreate, readString, bind, Except.bind, readId_ok.mpr named, refused]

/-- The webhook transaction reports a taken event id only when the id is in the table
and the event names an intent's id. -/
theorem recordEventTx_unique {P : Platform} {paymentIntentId providerEventId : JsValue} {payload : Json}
    {db : Database} (refused : recordEventTx P paymentIntentId providerEventId payload db = .error .uniqueConstraint) :
    ∃ idText text id old, paymentIntentId = some (.str idText) ∧ providerEventId = some (.str text) ∧
      P.readUuid idText = some id ∧ db.events.find text = some old := by
  rcases Tx.bind_error.mp refused with early | ⟨_, between, _, refused⟩
  · exact webhookEventCreate_unique early
  rcases Tx.bind_error.mp refused with unread | ⟨idText, _, _, refused⟩
  · cases readString_error (Tx.lift_error.mp unread)
  rcases Tx.bind_error.mp refused with unread | ⟨id, _, _, refused⟩
  · cases readId_error (Tx.lift_error.mp unread)
  · cases paymentIntentUpdate_error refused

/-- What the refund transaction finds and leaves when it goes through. -/
theorem recordRefundTx_ok {id : Uuid} {data : NewRefund} {markRefunded : Bool} {db db' : Database} {row : Refund}
    (ran : recordRefundTx id data markRefunded db = .ok (row, db')) :
    ∃ amount intent, Decimal.ofNumber data.amount = some amount ∧
      row = ⟨id, data.paymentIntentId, amount, data.reason, data.status, some data.gatewayRefundId⟩ ∧
      db.intents.find data.paymentIntentId = some intent ∧ db'.refunds.rows = db.refunds.rows ++ [row] ∧
      db'.events = db.events ∧ db'.merchants = db.merchants ∧
      db'.intents = if markRefunded then (db.setStatus data.paymentIntentId .refunded).intents else db.intents := by
  obtain ⟨created, between, inserted, ran⟩ := Tx.bind_ok.mp ran
  obtain ⟨amount, stored, named, added⟩ := refundCreate_ok inserted
  obtain ⟨merchants, intents, events, rows, intent, known⟩ := Database.addRefund_ok added
  have known : db.intents.find data.paymentIntentId = some intent := by rw [named] at known; exact known
  cases markRefunded with
  | false =>
    obtain ⟨rfl, rfl⟩ := Tx.pure_ok.mp ran
    exact ⟨amount, intent, stored, named, known, rows, events, merchants, intents⟩
  | true =>
    obtain ⟨_, after, updated, ran⟩ := Tx.bind_ok.mp ran
    obtain ⟨rfl, rfl⟩ := Tx.pure_ok.mp ran
    obtain ⟨_, _, _, rfl⟩ := paymentIntentUpdate_ok updated
    refine ⟨amount, intent, stored, named, known, rows, events, merchants, ?_⟩
    simp only [Database.setStatus, intents, if_true]

/-- The refund transaction goes through under a new id for a storable amount of a known intent. -/
theorem recordRefundTx_fresh {id : Uuid} {data : NewRefund} {db : Database} {amount : Decimal}
    {intent : PaymentIntent} (stored : Decimal.ofNumber data.amount = some amount)
    (fresh : db.refunds.find id = none) (known : db.intents.find data.paymentIntentId = some intent)
    (markRefunded : Bool) : ∃ row db', recordRefundTx id data markRefunded db = .ok (row, db') := by
  let row : Refund := ⟨id, data.paymentIntentId, amount, data.reason, data.status, some data.gatewayRefundId⟩
  obtain ⟨between, added⟩ := Database.addRefund_fresh row fresh known
  have created : refundCreate id data db = .ok (row, between) := by
    simp only [refundCreate, stored, bind, Except.bind]
    rw [show (⟨id, data.paymentIntentId, amount, data.reason, data.status, some data.gatewayRefundId⟩ : Refund) = row
      from rfl, added]
    rfl
  have stood : between.intents.find data.paymentIntentId = some intent := by
    obtain ⟨_, intents, _⟩ := Database.addRefund_ok added
    rw [intents]
    exact known
  cases markRefunded with
  | false => exact ⟨row, between, Tx.bind_ok.mpr ⟨row, between, created, Tx.pure_ok.mpr ⟨rfl, rfl⟩⟩⟩
  | true =>
    refine ⟨row, between.setStatus data.paymentIntentId .refunded, Tx.bind_ok.mpr ⟨row, between, created, ?_⟩⟩
    exact Tx.bind_ok.mpr ⟨_, _, paymentIntentUpdate_known stood .refunded, Tx.pure_ok.mpr ⟨rfl, rfl⟩⟩

/-- The refund transaction refuses an amount the column cannot hold. -/
theorem recordRefundTx_overflow {id : Uuid} {data : NewRefund} {markRefunded : Bool} {db : Database}
    (unstored : Decimal.ofNumber data.amount = none) : recordRefundTx id data markRefunded db = .error .invalidArgument := by
  refine Tx.bind_error.mpr (Or.inl ?_)
  simp only [refundCreate, unstored]

/-- The refund transaction refuses an id the table holds. -/
theorem recordRefundTx_duplicate {id : Uuid} {data : NewRefund} {markRefunded : Bool} {db : Database} {amount : Decimal}
    {old : Refund} (stored : Decimal.ofNumber data.amount = some amount) (held : db.refunds.find id = some old) :
    recordRefundTx id data markRefunded db = .error .uniqueConstraint := by
  have refused := Database.addRefund_duplicate
    ⟨id, data.paymentIntentId, amount, data.reason, data.status, some data.gatewayRefundId⟩ held
  refine Tx.bind_error.mpr (Or.inl ?_)
  simp only [refundCreate, stored, bind, Except.bind, refused]

end PayBridge
