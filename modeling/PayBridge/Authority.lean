import PayBridge.MerchantFrame
import PayBridge.RefundOrigin
import PayBridge.Server

namespace PayBridge
open Store Await

/-- What the handlers have done, in the log of the whole server. -/
abbrev handlerLog (log : List (Nat × (op : ServerOp) × ServerOp.Answer op)) : List (Nat × (op : Op) × op.Answer) :=
  inward (inward (inward log))

/-- The API key that an entry of the log has stored. -/
def issuedRow : (op : ServerOp) × ServerOp.Answer op → Option ApiKey
  | ⟨.inl (.createMerchant _), .ok (_, apiKey)⟩ => some apiKey
  | ⟨.inl (.createApiKey _), .ok apiKey⟩ => some apiKey
  | _ => none

/-- Two rows of one API key, in use or not. -/
structure SameKey (left right : ApiKey) : Prop where
  id : left.id = right.id
  merchantId : left.merchantId = right.merchantId
  keyHash : left.keyHash = right.keyHash

/-- A step on the accounts takes no payment, no event and no refund away, and adds none. -/
theorem AccountPerformed.keeps_payments {P : Platform} {env : AccountEnv} {a after : Accounts} {op : AccountOp} {answer : op.Answer}
    (did : AccountPerformed P env a op answer after) :
    after.db.intents = a.db.intents ∧ after.db.events = a.db.events ∧ after.db.refunds = a.db.refunds := by
  cases did with
  | createdMerchant _ _ intents events refunds => exact ⟨intents, events, refunds⟩
  | updatedMerchant _ _ _ _ intents events refunds => exact ⟨intents, events, refunds⟩
  | createdKey _ _ same => rw [same]; exact ⟨rfl, rfl, rfl⟩
  | _ => exact ⟨rfl, rfl, rfl⟩

/-- The keys after a step: those before it, each with its merchant and its hash and out of
use if it was, and the one that it has issued. -/
structure KeysKept (before after : Table ApiKey.id) (issued : Option ApiKey) : Prop where
  kept : ∀ row ∈ before.rows, ∃ later ∈ after.rows, SameKey later row ∧ (row.isActive = false → later.isActive = false)
  origin : ∀ row ∈ after.rows, (∃ old ∈ before.rows, SameKey old row) ∨ issued = some row

theorem SameKey.refl (row : ApiKey) : SameKey row row := ⟨rfl, rfl, rfl⟩

theorem SameKey.trans {a b c : ApiKey} (left : SameKey a b) (right : SameKey b c) : SameKey a c :=
  ⟨left.id.trans right.id, left.merchantId.trans right.merchantId, left.keyHash.trans right.keyHash⟩

theorem KeysKept.still {before after : Table ApiKey.id} (same : after = before) (issued : Option ApiKey) :
    KeysKept before after issued := by
  subst same
  exact ⟨fun row member => ⟨row, member, .refl row, id⟩, fun row member => Or.inl ⟨row, member, .refl row⟩⟩

theorem KeysKept.appended {before after : Table ApiKey.id} {new : ApiKey} (rows : after.rows = before.rows ++ [new]) :
    KeysKept before after (some new) := by
  constructor
  · intro row member
    exact ⟨row, by rw [rows]; exact List.mem_append_left _ member, .refl row, id⟩
  · intro row member
    rw [rows] at member
    rcases List.mem_append.mp member with old | added
    · exact Or.inl ⟨row, old, .refl row⟩
    · exact Or.inr (by rw [List.mem_singleton.mp added])

theorem KeysKept.set (keys : Table ApiKey.id) (id : Uuid) {isActive : ApiKey → Bool} (lastUsedAt : ApiKey → Option Timestamp)
    (issued : Option ApiKey) (unused : ∀ row : ApiKey, row.isActive = false → isActive row = false) :
    KeysKept keys (keys.modify id (ApiKey.set isActive lastUsedAt) (ApiKey.set_id isActive lastUsedAt)) issued := by
  constructor
  · intro row member
    by_cases hit : row.id = id
    · exact ⟨_, Table.mem_modify.mpr (Or.inr ⟨row, member, hit, rfl⟩), ⟨rfl, rfl, rfl⟩, unused row⟩
    · exact ⟨row, Table.mem_modify.mpr (Or.inl ⟨member, hit⟩), .refl row, fun same => same⟩
  · intro row member
    rcases Table.mem_modify.mp member with ⟨old, _⟩ | ⟨old, inside, _, rfl⟩
    · exact Or.inl ⟨row, old, .refl row⟩
    · exact Or.inl ⟨old, inside, rfl, rfl, rfl⟩

theorem AccountPerformed.keys {P : Platform} {env : AccountEnv} {a after : Accounts} {op : AccountOp} {answer : op.Answer}
    (did : AccountPerformed P env a op answer after) :
    KeysKept a.apiKeys after.apiKeys (issuedRow ⟨.inl op, answer⟩) := by
  cases did with
  | createdMerchant _ rows _ _ _ => exact .appended rows
  | createdKey _ rows _ => exact .appended rows
  | updatedMerchant _ _ _ keys _ _ _ => exact .still keys _
  | deactivated _ _ => exact .set a.apiKeys _ _ _ fun _ _ => rfl
  | touched _ => exact .set a.apiKeys _ _ _ fun _ same => same
  | _ => exact .still rfl _

theorem issuedRow_some {entry : (op : ServerOp) × ServerOp.Answer op} {row : ApiKey} (issues : issuedRow entry = some row) :
    (∃ data merchant, entry = ⟨.inl (.createMerchant data), .ok (merchant, row)⟩) ∨
      ∃ data, entry = ⟨.inl (.createApiKey data), .ok row⟩ := by
  unfold issuedRow at issues
  split at issues
  · cases issues
    exact Or.inl ⟨_, _, rfl⟩
  · cases issues
    exact Or.inr ⟨_, rfl⟩
  · cases issues

theorem AccountPerformed.issued_with {P : Platform} {env : AccountEnv} {a after : Accounts} {data : NewMerchant} {merchant : Merchant}
    {row : ApiKey} (did : AccountPerformed P env a (.createMerchant data) (.ok (merchant, row)) after) :
    row.merchantId = merchant.id ∧ row.keyHash = data.keyHash := by
  cases did with
  | createdMerchant _ _ _ _ _ => exact ⟨rfl, rfl⟩

theorem AccountPerformed.issued {P : Platform} {env : AccountEnv} {a after : Accounts} {data : NewApiKey} {row : ApiKey}
    (did : AccountPerformed P env a (.createApiKey data) (.ok row) after) :
    P.readUuid data.merchantId = some row.merchantId ∧ row.keyHash = data.keyHash := by
  cases did with
  | createdKey named _ _ => exact ⟨named, rfl⟩

/-- A look-up by the hash of a key finds a stored key and its merchant. -/
theorem AccountPerformed.lookup {P : Platform} {env : AccountEnv} {a after : Accounts} {keyHash : String} {row : ApiKey}
    {merchant : Merchant} (did : AccountPerformed P env a (.findApiKeyByHash keyHash) (.ok (some (row, merchant))) after) :
    row ∈ a.apiKeys.rows ∧ row.keyHash = keyHash ∧ row.merchantId = merchant.id := by
  generalize same : (Except.ok (some (row, merchant)) : AccountOp.Answer (.findApiKeyByHash keyHash)) = answer at did
  cases did with
  | failed => cases same
  | readHash =>
    obtain ⟨found, looked, rest⟩ := Option.bind_eq_some_iff.mp (Except.ok.inj same).symm
    obtain ⟨owner, held, pair⟩ := Option.map_eq_some_iff.mp rest
    cases pair
    obtain ⟨inside, hashed⟩ := (Table.findBy_some a.hashes).mp looked
    exact ⟨inside, hashed, (Table.find_key held).symm⟩

section
variable {P : Platform} {first now : ServerWorld} {log : List (Nat × (op : ServerOp) × ServerOp.Answer op)}

/-- The payments have changed by what the handlers did, entry by entry, and by nothing else. -/
structure PaymentsBooked (before after : World) (log : List (Nat × (op : Op) × op.Answer)) : Prop where
  intents : after.db.intents.rows = log.foldr (fun entry rows => bookIntents entry.2 rows) before.db.intents.rows
  refunds : after.db.refunds.rows = before.db.refunds.rows ++ (gather insertedRefund log).map Prod.snd
  told : ∀ i entry row, (i, entry) ∈ log → Told entry row → after.db.paymentOf row.id = some { row with status := .captured }

theorem PaymentsBooked.next {env : Env} {op : Op} {answer : op.Answer} {before between after : World} {i : Nat}
    {log : List (Nat × (op : Op) × op.Answer)} (booked : PaymentsBooked before between log)
    (did : AppPerformed P env between op answer after) (merchants : after.db.merchants = between.db.merchants) :
    PaymentsBooked before after ((i, ⟨op, answer⟩) :: log) := by
  have entry := performed_booked did merchants
  constructor
  · rw [entry.intents, booked.intents, List.foldr_cons]
  · rw [entry.refunds, booked.refunds, gather_cons, List.map_append, List.append_assoc]
    cases insertedRefund ⟨op, answer⟩ <;> rfl
  · intro j other row member told
    rcases List.mem_cons.mp member with same | old
    · cases same
      exact app_told did told
    · exact app_paymentOf did (booked.told j other row old told)

theorem payments_booked (chronicle : Chronicle (performServer P) first now log) :
    PaymentsBooked first.api.app now.api.app (handlerLog log) := by
  induction chronicle with
  | start => exact ⟨rfl, (List.append_nil _).symm, fun _ _ _ none => absurd none List.not_mem_nil⟩
  | @next now log j env op _ ih =>
    rcases op with op | op | op | op
    · obtain ⟨intents, _, refunds⟩ := (accountPerformed P env.account op now.accounts).keeps_payments
      refine ⟨(congrArg Table.rows intents).trans ih.intents, (congrArg Table.rows refunds).trans ih.refunds, ?_⟩
      intro i entry row member told
      rw [← ih.told i entry row member told]
      exact congrArg (fun intents : Table PaymentIntent.id => (intents.find row.id).map _) intents
    · rw [performServer_overview]
      exact ih
    · have still : (performServer P env (.inr (.inr (.inl op))) now).2.api.app = now.api.app := performKey_app env.api op _
      rw [still]
      exact ih
    · exact ih.next (app_performed P env.api.app op now.api.app) (perform_merchants P env.api.app op now.api.app)

/-- A stored intent was there at the start, or a handler has inserted it, but for its status. -/
theorem booked_intent {log : List (Nat × (op : Op) × op.Answer)} {rows : List PaymentIntent} {intent : PaymentIntent}
    (member : intent ∈ log.foldr (fun entry rows => bookIntents entry.2 rows) rows) :
    (∃ old ∈ rows, old.id = intent.id) ∨ ∃ i data row, (i, (⟨.query (.createIntent data), .ok row⟩ : (op : Op) × op.Answer)) ∈ log ∧
      intent = { row with status := intent.status } := by
  induction log generalizing intent with
  | nil => exact Or.inl ⟨intent, member, rfl⟩
  | cons head log ih =>
    obtain ⟨i, entry⟩ := head
    rcases mem_bookIntents member with new | ⟨old, stood, same, _⟩
    · obtain ⟨data, rfl⟩ := insertedIntent_some new
      exact Or.inr ⟨i, data, intent, List.mem_cons_self, rfl⟩
    · rcases ih stood with ⟨first, inside, named⟩ | ⟨j, data, row, logged, made⟩
      · exact Or.inl ⟨first, inside, named.trans (congrArg PaymentIntent.id same).symm⟩
      · refine Or.inr ⟨j, data, row, List.mem_cons_of_mem _ logged, ?_⟩
        rw [made] at same
        exact same

/-- The keys of a run: each was there at the start or was issued in the run, and each
that a look-up has found is still stored, for the merchant that it was found with. -/
structure KeysTraced (first now : ServerWorld) (log : List (Nat × (op : ServerOp) × ServerOp.Answer op)) : Prop where
  origin : ∀ row ∈ now.apiKeys.rows, (∃ old ∈ first.apiKeys.rows, SameKey old row) ∨
    ∃ i entry issued, (i, entry) ∈ log ∧ issuedRow entry = some issued ∧ SameKey issued row
  found : ∀ i keyHash row merchant, (i, (⟨.inl (.findApiKeyByHash keyHash), .ok (some (row, merchant))⟩ :
    (op : ServerOp) × ServerOp.Answer op)) ∈ log →
    row.keyHash = keyHash ∧ row.merchantId = merchant.id ∧ ∃ kept ∈ now.apiKeys.rows, SameKey kept row

theorem keys_traced (chronicle : Chronicle (performServer P) first now log) : KeysTraced first now log := by
  induction chronicle with
  | start =>
    exact ⟨fun row member => Or.inl ⟨row, member, .refl row⟩, fun _ _ _ _ none => absurd none List.not_mem_nil⟩
  | @next now log j env op _ ih =>
    rcases op with op | op
    · have did := accountPerformed P env.account op now.accounts
      obtain ⟨kept, origin⟩ := did.keys
      constructor
      · intro row member
        rcases origin row member with ⟨old, inside, same⟩ | issued
        · rcases ih.origin old inside with ⟨earliest, there, before⟩ | ⟨i, entry, new, logged, issued, before⟩
          · exact Or.inl ⟨earliest, there, before.trans same⟩
          · exact Or.inr ⟨i, entry, new, List.mem_cons_of_mem _ logged, issued, before.trans same⟩
        · exact Or.inr ⟨j, _, row, List.mem_cons_self, issued, .refl row⟩
      · intro i keyHash row merchant member
        rcases List.mem_cons.mp member with same | old
        · clear origin
          generalize answered : (performServer P env (.inl op) now).1 = answer at same
          cases same
          obtain ⟨inside, hashed, owner⟩ := AccountPerformed.lookup (answered ▸ did)
          obtain ⟨later, there, again, _⟩ := kept row inside
          exact ⟨hashed, owner, later, there, again⟩
        · obtain ⟨hashed, owner, before, inside, same⟩ := ih.found i keyHash row merchant old
          obtain ⟨later, there, again, _⟩ := kept before inside
          exact ⟨hashed, owner, later, there, again.trans same⟩
    · have still := performServer_keys P env op now
      refine ⟨fun row member => ?_, fun i keyHash row merchant member => ?_⟩
      · rw [still] at member
        rcases ih.origin row member with old | ⟨i, entry, new, logged, rest⟩
        · exact Or.inl old
        · exact Or.inr ⟨i, entry, new, List.mem_cons_of_mem _ logged, rest⟩
      · rcases List.mem_cons.mp member with same | old
        · cases same
        · rw [still]
          exact ih.found i keyHash row merchant old

end

/-- A request of the administrator has had a key stored, for the merchant that it has
created with it or has named. -/
inductive AdminIssued (P : Platform) (sha256 : String → String) (devMasterApiKey : Option String) (s : Server) (i : Nat) (row : ApiKey) : Prop
  | withMerchant {t : Thread ServerOp ServerOp.Answer ServerRequest (Except JsError ServerReply)} {headers : AuthHeaders}
      {dto : CreateMerchantDto} {randomHex secretHex : String} {data : NewMerchant} {merchant : Merchant} :
      s.threads[i]? = some t → t.request = .merchants headers (.createMerchant dto randomHex secretHex) →
      adminGuard devMasterApiKey headers = .ok () → (i, ⟨.inl (.createMerchant data), .ok (merchant, row)⟩) ∈ s.log →
      row.merchantId = merchant.id → row.keyHash = sha256 (generateRawKey randomHex) → AdminIssued P sha256 devMasterApiKey s i row
  | rotated {t : Thread ServerOp ServerOp.Answer ServerRequest (Except JsError ServerReply)} {headers : AuthHeaders} {id : String}
      {label : JsValue} {randomHex : String} {data : NewApiKey} : s.threads[i]? = some t →
      t.request = .merchants headers (.generateApiKey id label randomHex) → adminGuard devMasterApiKey headers = .ok () →
      (i, ⟨.inl (.createApiKey data), .ok row⟩) ∈ s.log → P.readUuid id = some row.merchantId →
      row.keyHash = sha256 (generateRawKey randomHex) → AdminIssued P sha256 devMasterApiKey s i row

/-- A request has presented a key of a merchant: under the hash of it a key was found in
use, with its merchant in use, and that key is still stored for the merchant. -/
inductive Presented (sha256 : String → String) (s : Server) (i : Nat) (headers : AuthHeaders) (merchantId : Uuid) : Prop
  | key {apiKey : String} {row kept : ApiKey} {merchant : Merchant} : headers.apiKey = some apiKey →
      (i, ⟨.inl (.findApiKeyByHash (sha256 apiKey)), .ok (some (row, merchant))⟩) ∈ s.log → row.isActive = true →
      merchant.isActive = true → kept ∈ s.world.apiKeys.rows → SameKey kept row → kept.keyHash = sha256 apiKey →
      kept.merchantId = merchantId → Presented sha256 s i headers merchantId

/-- Who has had stored what a run has stored: its keys the administrator, its intents and
its refunds requests with a key of the merchant whose payment it is. -/
structure Authority (P : Platform) (sha256 : String → String) (devMasterApiKey : Option String) (first : ServerWorld)
    (s : Server) : Prop where
  keys : ∀ row ∈ s.world.apiKeys.rows, (∃ old ∈ first.apiKeys.rows, SameKey old row) ∨
    ∃ i issued, AdminIssued P sha256 devMasterApiKey s i issued ∧ SameKey issued row
  intents : ∀ intent ∈ s.world.api.app.db.intents.rows, (∃ old ∈ first.api.app.db.intents.rows, old.id = intent.id) ∨
    ∃ i t headers idempotencyKey dto isAvailable randomHex, s.threads[i]? = some t ∧
      t.request = .api headers idempotencyKey (.createSession dto isAvailable randomHex) ∧
      Presented sha256 s i headers intent.merchantId
  refunds : ∃ made : List (Nat × Refund),
    s.world.api.app.db.refunds.rows = first.api.app.db.refunds.rows ++ made.map Prod.snd ∧ ∀ i row, (i, row) ∈ made →
      ∃ t headers idempotencyKey paymentIntentId dto, s.threads[i]? = some t ∧
        t.request = .api headers idempotencyKey (.createRefund paymentIntentId dto) ∧
        ∃ intent ∈ s.world.api.app.db.intents.rows, intent.id = row.paymentIntentId ∧ Presented sha256 s i headers intent.merchantId

section
variable {P : Platform} {orchestrator : OrchestratorService} {sha256 : String → String} {devMasterApiKey : Option String}
variable {meets : Server → ServerStep → Prop} {first : ServerWorld} {s : Server}

/-- Only a request of the administrator creates a merchant and its key. -/
theorem ServerCourse.creates {request : ServerRequest} {seen : ServerHistory} {data : NewMerchant}
    (course : ServerCourse P sha256 devMasterApiKey request seen (.inl (.createMerchant data))) :
    ∃ headers dto randomHex secretHex, request = .merchants headers (.createMerchant dto randomHex secretHex) ∧
      adminGuard devMasterApiKey headers = .ok () ∧ data.keyHash = sha256 (generateRawKey randomHex) := by
  cases course with
  | @administer headers route outer _ admitted asks =>
    cases route with
    | createMerchant dto randomHex secretHex =>
      cases asks with
      | create hashed => exact ⟨headers, dto, randomHex, secretHex, rfl, admitted, hashed⟩
    | _ => cases asks
  | guard _ asks => cases asks

/-- Only a request of the administrator adds a key to a merchant, to the one that it names. -/
theorem ServerCourse.rotates {request : ServerRequest} {seen : ServerHistory} {data : NewApiKey}
    (course : ServerCourse P sha256 devMasterApiKey request seen (.inl (.createApiKey data))) :
    ∃ headers id label randomHex, request = .merchants headers (.generateApiKey id label randomHex) ∧
      adminGuard devMasterApiKey headers = .ok () ∧ data.merchantId = id ∧ data.keyHash = sha256 (generateRawKey randomHex) := by
  cases course with
  | @administer headers route outer _ admitted asks =>
    cases route with
    | generateApiKey id label randomHex =>
      cases asks with
      | createKey named hashed => exact ⟨headers, id, label, randomHex, rfl, admitted, named, hashed⟩
    | _ => cases asks
  | guard _ asks => cases asks

/-- A guard that has let a request pass has been presented a key that is still stored. -/
theorem Passed.presented (reach : Reach (server P orchestrator sha256 devMasterApiKey) meets first s) {i : Nat} {headers : AuthHeaders}
    {seen : ServerHistory} {merchantId : Uuid} (passed : Passed sha256 headers seen merchantId)
    (logged : ∀ entry ∈ seen, (i, entry) ∈ s.log) : Presented sha256 s i headers merchantId := by
  obtain ⟨shown, active, enabled, named, found⟩ := passed
  obtain ⟨hashed, owner, kept, stored, same⟩ := (keys_traced reach.chronicle).found i _ _ _ (logged _ found)
  exact .key shown (logged _ found) active enabled stored same (same.keyHash.trans hashed) (same.merchantId.trans (owner.trans named))

/-- An operation of a handler is one that the handler of the request has come to. -/
theorem handled_at (faithful : orchestrator.Faithful) (reach : Reach (server P orchestrator sha256 devMasterApiKey) meets first s)
    {i : Nat} {op : Op} {answer : op.Answer} (member : (i, (⟨op, answer⟩ : (op : Op) × op.Answer)) ∈ handlerLog s.log) :
    ∃ t seen handled inner, s.threads[i]? = some t ∧ Handled sha256 t.request seen handled ∧ AppCourse P handled inner op ∧
      (∀ entry ∈ inner, (i, entry) ∈ handlerLog s.log) ∧ ∀ entry ∈ seen, (i, entry) ∈ s.log := by
  have logged := of_mem_inward (of_mem_inward (of_mem_inward member))
  obtain ⟨t, seen, standing, course, held⟩ := reach.asked_at (server_course faithful) logged
  generalize same : t.request = request at course
  cases course with
  | handle handles asks inside =>
    subst same
    exact ⟨t, seen, _, _, standing, handles, asks, fun entry member => mem_inward (mem_inward (mem_inward (held _ (inside entry member)))), held⟩

theorem Handled.checkout {request : ServerRequest} {seen : ServerHistory} {dto : CreateCheckoutSessionDto}
    {isAvailable : GatewayProvider → Bool} {randomHex : String} {merchantId : Uuid}
    (handles : Handled sha256 request seen (.createSession dto isAvailable randomHex merchantId)) :
    ∃ headers idempotencyKey, request = .api headers idempotencyKey (.createSession dto isAvailable randomHex) ∧
      Passed sha256 headers seen merchantId := by
  generalize same : AppRequest.createSession dto isAvailable randomHex merchantId = handled at handles
  cases handles with
  | @api headers idempotencyKey endpoint _ _ passed =>
    cases endpoint with
    | createSession dto isAvailable randomHex =>
      cases same
      exact ⟨headers, idempotencyKey, rfl, passed⟩
    | createRefund id dto => cases same
  | _ => cases same

theorem Handled.refund {request : ServerRequest} {seen : ServerHistory} {paymentIntentId : String} {dto : CreateRefundDto}
    {merchantId : Uuid} (handles : Handled sha256 request seen (.payment (.refund paymentIntentId dto merchantId))) :
    ∃ headers idempotencyKey, request = .api headers idempotencyKey (.createRefund paymentIntentId dto) ∧
      Passed sha256 headers seen merchantId := by
  generalize same : AppRequest.payment (.refund paymentIntentId dto merchantId) = handled at handles
  cases handles with
  | @api headers idempotencyKey endpoint _ _ passed =>
    cases endpoint with
    | createSession dto isAvailable randomHex => cases same
    | createRefund id dto =>
      cases same
      exact ⟨headers, idempotencyKey, rfl, passed⟩
  | _ => cases same

/-- What a handler was answered, it was answered on some payments. -/
theorem handler_answered (reach : Reach (server P orchestrator sha256 devMasterApiKey) meets first s) {i : Nat} {op : Op}
    {answer : op.Answer} (member : (i, (⟨op, answer⟩ : (op : Op) × op.Answer)) ∈ handlerLog s.log) :
    ∃ env w, (perform P env op w).1 = answer := by
  obtain ⟨env, w, answered⟩ := reach.chronicle.answered (of_mem_inward (of_mem_inward (of_mem_inward member)))
  exact ⟨env.api.app, w.api.app, answered⟩

theorem intent_authorised (faithful : orchestrator.Faithful)
    (reach : Reach (server P orchestrator sha256 devMasterApiKey) meets first s) {i : Nat} {data : NewIntent} {row : PaymentIntent}
    (logged : (i, (⟨.query (.createIntent data), .ok row⟩ : (op : Op) × op.Answer)) ∈ handlerLog s.log) :
    ∃ t headers idempotencyKey dto isAvailable randomHex, s.threads[i]? = some t ∧
      t.request = .api headers idempotencyKey (.createSession dto isAvailable randomHex) ∧
      Presented sha256 s i headers row.merchantId := by
  obtain ⟨t, seen, handled, inner, standing, handles, course, _, held⟩ := handled_at faithful reach logged
  obtain ⟨dto, isAvailable, randomHex, merchantId, now, execution, rfl, rfl, _⟩ := course.inserts
  obtain ⟨env, w, answered⟩ := handler_answered reach logged
  obtain ⟨_, ran⟩ := perform_query_ok answered
  obtain ⟨amount, _, rfl, _⟩ := paymentIntentCreate_ok ran
  obtain ⟨headers, idempotencyKey, asked, passed⟩ := handles.checkout
  exact ⟨t, headers, idempotencyKey, dto, isAvailable, randomHex, standing, asked, passed.presented reach held⟩

theorem refund_authorised (faithful : orchestrator.Faithful)
    (reach : Reach (server P orchestrator sha256 devMasterApiKey) meets first s) {i : Nat} {data : NewRefund} {markRefunded : Bool}
    {row : Refund} (logged : (i, (⟨.query (.recordRefund data markRefunded), .ok row⟩ : (op : Op) × op.Answer)) ∈ handlerLog s.log) :
    ∃ t headers idempotencyKey paymentIntentId dto, s.threads[i]? = some t ∧
      t.request = .api headers idempotencyKey (.createRefund paymentIntentId dto) ∧
      ∃ intent ∈ s.world.api.app.db.intents.rows, intent.id = row.paymentIntentId ∧ Presented sha256 s i headers intent.merchantId := by
  obtain ⟨t, seen, handled, inner, standing, handles, course, inside, held⟩ := handled_at faithful reach logged
  obtain ⟨paymentIntentId, dto, merchantId, found, plan, refundResult, rfl, accepted, rfl, _, rfl⟩ := course.refunds
  obtain ⟨refunds, rfl, owner, _⟩ := refundPlan_ok accepted
  have read := inside _ (List.mem_cons_of_mem _ List.mem_cons_self)
  have now := (payments_booked reach.chronicle).told i _ _ read (.shown .read)
  obtain ⟨intent, stored, same⟩ := Option.map_eq_some_iff.mp now
  have same := SamePayment.of_eq same
  obtain ⟨env, w, answered⟩ := handler_answered reach logged
  obtain ⟨_, ran⟩ := perform_query_ok answered
  obtain ⟨_, _, _, rfl, _⟩ := recordRefundTx_ok ran
  obtain ⟨headers, idempotencyKey, asked, passed⟩ := handles.refund
  refine ⟨t, headers, idempotencyKey, paymentIntentId, dto, standing, asked, intent, (Table.find_some.mp stored).1, same.id, ?_⟩
  rw [same.merchantId, owner]
  exact passed.presented reach held

theorem key_issued (faithful : orchestrator.Faithful) (reach : Reach (server P orchestrator sha256 devMasterApiKey) meets first s)
    {i : Nat} {op : ServerOp} {answer : ServerOp.Answer op} {row : ApiKey} (logged : (i, ⟨op, answer⟩) ∈ s.log)
    (issues : issuedRow ⟨op, answer⟩ = some row) : AdminIssued P sha256 devMasterApiKey s i row := by
  obtain ⟨t, seen, standing, course, _⟩ := reach.asked_at (server_course faithful) logged
  obtain ⟨env, w, answered⟩ := reach.chronicle.answered logged
  have did := fun op => accountPerformed P env.account op w.accounts
  rcases issuedRow_some issues with ⟨data, merchant, same⟩ | ⟨data, same⟩
  · cases same
    obtain ⟨owner, hash⟩ := (answered ▸ did (.createMerchant data)).issued_with
    obtain ⟨headers, dto, randomHex, secretHex, asked, admitted, hashed⟩ := course.creates
    exact .withMerchant standing asked admitted logged owner (hash.trans hashed)
  · cases same
    obtain ⟨owner, hash⟩ := (answered ▸ did (.createApiKey data)).issued
    obtain ⟨headers, id, label, randomHex, asked, admitted, named, hashed⟩ := course.rotates
    exact .rotated standing asked admitted logged (named ▸ owner) (hash.trans hashed)

/-- In every run of the whole server, with requests of all kinds at once and with any
failures: each key beyond the first ones was stored for the administrator, and each intent
and each refund beyond the first ones for a request that has presented a key of the very
merchant whose payment it is. -/
theorem authority (faithful : orchestrator.Faithful) (reach : Reach (server P orchestrator sha256 devMasterApiKey) meets first s) :
    Authority P sha256 devMasterApiKey first s := by
  have booked := payments_booked reach.chronicle
  constructor
  case keys =>
    intro row stored
    rcases (keys_traced reach.chronicle).origin row stored with old | ⟨i, ⟨op, answer⟩, issued, logged, issues, same⟩
    · exact Or.inl old
    · exact Or.inr ⟨i, issued, key_issued faithful reach logged issues, same⟩
  case intents =>
    intro intent stored
    rw [booked.intents] at stored
    rcases booked_intent stored with old | ⟨i, data, row, logged, made⟩
    · exact Or.inl old
    · have owner : row.merchantId = intent.merchantId := by rw [made]
      exact Or.inr ⟨i, owner ▸ intent_authorised faithful reach logged⟩
  case refunds =>
    refine ⟨_, booked.refunds, fun i row member => ?_⟩
    obtain ⟨entry, logged, inserted⟩ := mem_gather.mp member
    obtain ⟨data, markRefunded, rfl⟩ := insertedRefund_some inserted
    exact refund_authorised faithful reach logged

end

/-- The open intent and its merchant, which has no key yet. -/
def openServer : ServerWorld where
  api := ⟨Table.empty, 0, openWorld⟩
  apiKeys := Table.empty
  emails := List.nodup_singleton _
  hashes := List.nodup_nil
  keyMerchant := fun _ none => absurd none List.not_mem_nil

def calmServer : ServerEnv := ⟨calmAccount "" firstKeyId, ⟨0, false, "", calmEnv⟩⟩

def masterHeaders : AuthHeaders := ⟨some "pb_test_live_key_998877", none⟩

def shopHeaders : AuthHeaders := ⟨some (generateRawKey "00ff"), none⟩

/-- The administrator gives the merchant a key; with it a checkout is started, and after a
webhook a refund; then the key is revoked. -/
def serverSteps : List ServerStep :=
  .spawn (.merchants masterHeaders (.generateApiKey sampleMerchant.id.text none "00ff")) ::
      List.replicate 2 (.advance 0 calmServer) ++
    .spawn (.api shopHeaders none (.createSession sampleCheckout (fun _ => true) "a1b2c3d4")) ::
      List.replicate 5 (.advance 1 calmServer) ++
    .spawn (.webhook (sampleDelivery "evt_1" (sampleIntent .pending).id.text)) :: List.replicate 3 (.advance 2 calmServer) ++
    .spawn (.api shopHeaders none (.createRefund (sampleIntent .pending).id.text ⟨.undefined, .undefined⟩)) ::
      List.replicate 7 (.advance 3 calmServer) ++
    .spawn (.merchants masterHeaders (.revokeApiKey sampleMerchant.id.text firstKeyId)) ::
      List.replicate 2 (.advance 4 calmServer)

def sampleServer : Server := (Pool.initial openServer).run (server plainPlatform sampleOrchestrator id none) serverSteps

theorem sampleServer_reached : Reach (server plainPlatform sampleOrchestrator id none) (fun _ _ => True) openServer sampleServer :=
  Reach.run_free serverSteps .start

theorem authority_sample : Authority plainPlatform id none openServer sampleServer ∧ sampleServer.world.apiKeys.rows.length = 1 ∧
    sampleServer.world.api.app.db.intents.rows.length = 2 ∧ sampleServer.world.api.app.db.refunds.rows.length = 1 :=
  ⟨authority sampleOrchestrator_faithful sampleServer_reached, by decide +kernel, by decide +kernel, by decide +kernel⟩

end PayBridge
