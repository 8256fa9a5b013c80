import PayBridge.Await.Layered
import PayBridge.Transactions

namespace PayBridge
open Store Await

/-- A row of the key table; a null response body is a request still running. -/
structure IdempotencyKey (Body : Type) where
  key : String
  responseBody : Option Body
  statusCode : Option Nat
  expiresAt : Timestamp
  deriving DecidableEq

/-- What the interceptor awaits itself. An invalid date is none. -/
inductive KeyOp (Body : Type)
  | now
  | findUnique (key : String)
  | create (key : String) (expiresAt : Option Timestamp)
  | update (key : String) (statusCode : Nat) (responseBody : Body)
  | delete (key : String)

abbrev KeyOp.Answer {Body : Type} : KeyOp Body → Type
  | .now => Timestamp
  | .findUnique _ => Except JsError (Option (IdempotencyKey Body))
  | .create _ _ => Except JsError (IdempotencyKey Body)
  | .update _ _ _ => Except JsError (IdempotencyKey Body)
  | .delete _ => Except JsError (IdempotencyKey Body)

/-- What a request behind the interceptor has seen. -/
abbrev KeyEntry (Body : Type) {Op : Type} (Ans : Op → Type) := (op : KeyOp Body ⊕ Op) × Both (@KeyOp.Answer Body) Ans op

abbrev KeyHistory (Body : Type) {Op : Type} (Ans : Op → Type) := List (KeyEntry Body Ans)

/-- The key table and the clock, beside the state of the handlers. -/
structure KeyWorld (Body App : Type) where
  keys : Table (@IdempotencyKey.key Body)
  clock : Timestamp
  app : App

/-- What a step meets: the time that passes before it, a failure of the
database, and what the handlers' own steps meet. -/
structure KeyEnv (Env : Type) where
  elapsed : Nat
  fails : Bool
  message : String
  app : Env

/-- A request to an idempotent route. -/
structure IdempotentCall (Op : Type) (Ans : Op → Type) (Body : Type) where
  idempotencyKey : Option String
  statusCode : Nat
  handle : Async Op Ans JsError Body

/-- An answered request; a replay carries the header `x-idempotent-replay`. -/
structure HttpReply (Body : Type) where
  statusCode : Nat
  body : Body
  replayed : Bool
  deriving DecidableEq

section
variable {Body App Env Op : Type} {Ans : Op → Type}

def KeyWorld.later (w : KeyWorld Body App) (elapsed : Nat) : KeyWorld Body App := { w with clock := w.clock + elapsed }

@[simp] theorem KeyWorld.later_keys (w : KeyWorld Body App) (elapsed : Nat) : (w.later elapsed).keys = w.keys := rfl

@[simp] theorem KeyWorld.later_app (w : KeyWorld Body App) (elapsed : Nat) : (w.later elapsed).app = w.app := rfl

theorem KeyWorld.le_later (w : KeyWorld Body App) (elapsed : Nat) : w.clock ≤ (w.later elapsed).clock := by
  have passed : (0 : Int) ≤ elapsed := Int.natCast_nonneg elapsed
  exact Int.le_add_of_nonneg_right passed

def IdempotencyKey.respond (row : IdempotencyKey Body) (statusCode : Nat) (responseBody : Body) : IdempotencyKey Body :=
  { row with statusCode := some statusCode, responseBody := some responseBody }

@[simp] theorem IdempotencyKey.respond_key (row : IdempotencyKey Body) (statusCode : Nat) (responseBody : Body) :
    (row.respond statusCode responseBody).key = row.key := rfl

@[simp] theorem IdempotencyKey.respond_expiresAt (row : IdempotencyKey Body) (statusCode : Nat) (responseBody : Body) :
    (row.respond statusCode responseBody).expiresAt = row.expiresAt := rfl

def cacheResponse (keys : Table (@IdempotencyKey.key Body)) (key : String) (statusCode : Nat) (responseBody : Body) :
    Table (@IdempotencyKey.key Body) :=
  keys.modify key (fun row => row.respond statusCode responseBody) fun row => row.respond_key statusCode responseBody

/-- A step on the key table. -/
def performKey (env : KeyEnv Env) : (op : KeyOp Body) → KeyWorld Body App → op.Answer × KeyWorld Body App
  | .now, w => (w.clock, w)
  | .findUnique key, w =>
    if env.fails then (.error (DbError.unavailable.thrown env.message), w) else (.ok (w.keys.find key), w)
  | .create key expiresAt, w =>
    if env.fails then (.error (DbError.unavailable.thrown env.message), w)
    else match expiresAt with
    | none => (.error (DbError.invalidArgument.thrown env.message), w)
    | some expiresAt => match w.keys.insert ⟨key, none, none, expiresAt⟩ with
      | none => (.error (DbError.uniqueConstraint.thrown env.message), w)
      | some keys => (.ok ⟨key, none, none, expiresAt⟩, { w with keys })
  | .update key statusCode responseBody, w =>
    if env.fails then (.error (DbError.unavailable.thrown env.message), w)
    else match w.keys.find key with
    | none => (.error (DbError.recordNotFound.thrown env.message), w)
    | some row => (.ok (row.respond statusCode responseBody),
      { w with keys := cacheResponse w.keys key statusCode responseBody })
  | .delete key, w =>
    if env.fails then (.error (DbError.unavailable.thrown env.message), w)
    else match w.keys.find key with
    | none => (.error (DbError.recordNotFound.thrown env.message), w)
    | some row => (.ok row, { w with keys := w.keys.erase key })

/-- A step of a request: on the key table, or of its handler. -/
def performIdempotent (perform : Env → (op : Op) → App → Ans op × App) (env : KeyEnv Env) :
    (op : KeyOp Body ⊕ Op) → KeyWorld Body App → Both KeyOp.Answer Ans op × KeyWorld Body App
  | .inl op, w => performKey env op (w.later env.elapsed)
  | .inr op, w =>
    ((perform env.app op w.app).1, { w.later env.elapsed with app := (perform env.app op w.app).2 })

/-- An asynchronous function of the interceptor. -/
abbrev Intercepted (Body Op : Type) (Ans : Op → Type) := Async (KeyOp Body ⊕ Op) (Both KeyOp.Answer Ans) JsError

def keyRequest (op : KeyOp Body) {α : Type} (read : op.Answer → Except JsError α) : Intercepted Body Op Ans α :=
  Async.request (.inl op) read

/-- `new Date(Date.now() + ttlSeconds * 1000)`. -/
def expiry (idempotencyTtlSeconds : Option String) (now : Timestamp) : Option Timestamp :=
  (parseInt (idempotencyTtlSeconds.getD "86400")).bind fun ttlSeconds => timeClip (now + ttlSeconds * 1000)

/-- The key a request carries; an absent or blank header is none. -/
def IdempotentCall.key (call : IdempotentCall Op Ans Body) : Option String :=
  match call.idempotencyKey with
  | none => none
  | some idempotencyKey => if jsTrim idempotencyKey = "" then none else some (jsTrim idempotencyKey)

def conflictInFlight : JsError :=
  ⟨.http 409, "A request with this Idempotency-Key is currently being processed. Please retry shortly."⟩

def conflictReserved : JsError :=
  ⟨.http 409, "A request with this Idempotency-Key is currently being processed."⟩

/-- The stored status, where it is one, over the route's own. -/
def replayStatus (statusCode : Nat) (existing : IdempotencyKey Body) : Nat :=
  match existing.statusCode with
  | some stored => if stored = 0 then statusCode else stored
  | none => statusCode

/-- `.catch(() => null)`. -/
def swallow {α : Type} (x : Intercepted Body Op Ans α) : Intercepted Body Op Ans Unit :=
  tryCatch (do let _ ← x; pure ()) fun _ => pure ()

/-- The first stage: a stored response, or none when the key is free now. -/
def checkExisting (key : String) (statusCode : Nat) : Intercepted Body Op Ans (Option (HttpReply Body)) := do
  let existing ← keyRequest (.findUnique key) fun answer => answer
  match existing with
  | none => return none
  | some existing =>
    let now ← keyRequest .now .ok
    if existing.expiresAt < now then
      swallow (keyRequest (.delete key) fun answer => answer)
      return none
    else match existing.responseBody with
    | some body => return some ⟨replayStatus statusCode existing, body, true⟩
    | none => throw conflictInFlight

/-- The second stage: reserve the key. -/
def reserve (key : String) (expiresAt : Option Timestamp) : Intercepted Body Op Ans Unit :=
  tryCatch (do let _ ← keyRequest (.create key expiresAt) fun answer => answer)
    fun error => if error.code = some "P2002" then throw conflictReserved else throw error

/-- The third stage: run the handler and keep its response, or release the key. -/
def executeAndCache (key : String) (call : IdempotentCall Op Ans Body) : Intercepted Body Op Ans (HttpReply Body) := do
  let body ← tryCatch (Async.lift call.handle) fun error => do
    swallow (keyRequest (.delete key) fun answer => answer)
    throw error
  swallow (keyRequest (.update key (if call.statusCode = 0 then 200 else call.statusCode) body) fun answer => answer)
  return ⟨call.statusCode, body, false⟩

/-- `IdempotencyInterceptor.intercept`. -/
def intercept (idempotencyTtlSeconds : Option String) (call : IdempotentCall Op Ans Body) :
    Intercepted Body Op Ans (HttpReply Body) :=
  match call.key with
  | none => do
    let body ← Async.lift call.handle
    return ⟨call.statusCode, body, false⟩
  | some key => do
    let now ← keyRequest .now .ok
    let replay ← checkExisting key call.statusCode
    match replay with
    | some reply => return reply
    | none =>
      reserve key (expiry idempotencyTtlSeconds now)
      executeAndCache key call

/-- Everything a step of a request can answer and do, with the clock already moved on. -/
inductive KeyPerformed (perform : Env → (op : Op) → App → Ans op × App) (env : KeyEnv Env) (w : KeyWorld Body App) :
    (op : KeyOp Body ⊕ Op) → Both KeyOp.Answer Ans op → KeyWorld Body App → Prop
  | timed : KeyPerformed perform env w (.inl .now) w.clock w
  | read {key : String} : env.fails = false →
      KeyPerformed perform env w (.inl (.findUnique key)) (.ok (w.keys.find key)) w
  | unread {key : String} {cause : DbError} :
      KeyPerformed perform env w (.inl (.findUnique key)) (.error (cause.thrown env.message)) w
  | created {key : String} {expiresAt : Timestamp} {keys : Table IdempotencyKey.key} : w.keys.find key = none →
      (∀ k, keys.find k = if k = key then some ⟨key, none, none, expiresAt⟩ else w.keys.find k) →
      KeyPerformed perform env w (.inl (.create key (some expiresAt))) (.ok ⟨key, none, none, expiresAt⟩) { w with keys }
  | taken {key : String} {expiresAt : Option Timestamp} {old : IdempotencyKey Body} : env.fails = false →
      w.keys.find key = some old →
      KeyPerformed perform env w (.inl (.create key expiresAt)) (.error (DbError.uniqueConstraint.thrown env.message)) w
  | uncreated {key : String} {expiresAt : Option Timestamp} {cause : DbError} : cause ≠ .uniqueConstraint →
      KeyPerformed perform env w (.inl (.create key expiresAt)) (.error (cause.thrown env.message)) w
  | updated {key : String} {statusCode : Nat} {body : Body} {row : IdempotencyKey Body}
      {keys : Table IdempotencyKey.key} : env.fails = false → w.keys.find key = some row →
      (∀ k, keys.find k = if k = key then some (row.respond statusCode body) else w.keys.find k) →
      KeyPerformed perform env w (.inl (.update key statusCode body)) (.ok (row.respond statusCode body)) { w with keys }
  | unchanged {key : String} {statusCode : Nat} {body : Body} {cause : DbError} :
      KeyPerformed perform env w (.inl (.update key statusCode body)) (.error (cause.thrown env.message)) w
  | deleted {key : String} {row : IdempotencyKey Body} {keys : Table IdempotencyKey.key} : env.fails = false →
      w.keys.find key = some row → (∀ k, keys.find k = if k = key then none else w.keys.find k) →
      KeyPerformed perform env w (.inl (.delete key)) (.ok row) { w with keys }
  | undeleted {key : String} {cause : DbError} :
      env.fails = true ∨ w.keys.find key = none →
      KeyPerformed perform env w (.inl (.delete key)) (.error (cause.thrown env.message)) w
  | handled {op : Op} : KeyPerformed perform env w (.inr op) (perform env.app op w.app).1
      { w with app := (perform env.app op w.app).2 }

theorem keyPerformed (perform : Env → (op : Op) → App → Ans op × App) (env : KeyEnv Env) (op : KeyOp Body ⊕ Op)
    (w : KeyWorld Body App) : KeyPerformed perform env (w.later env.elapsed) op
      (performIdempotent perform env op w).1 (performIdempotent perform env op w).2 := by
  generalize same : w.later env.elapsed = now
  cases op with
  | inr op =>
    simp only [performIdempotent, same]
    have app : w.app = now.app := by rw [← same]; rfl
    rw [app]
    exact .handled
  | inl op =>
    simp only [performIdempotent, same]
    by_cases fails : env.fails = true
    · cases op with
      | now => exact .timed
      | findUnique key => simp only [performKey, fails, if_true]; exact .unread
      | create key expiresAt => simp only [performKey, fails, if_true]; exact .uncreated (by simp)
      | update key statusCode body => simp only [performKey, fails, if_true]; exact .unchanged
      | delete key => simp only [performKey, fails, if_true]; exact .undeleted (Or.inl fails)
    · have spared : env.fails = false := by simpa using fails
      cases op with
      | now => exact .timed
      | findUnique key => simp only [performKey, fails]; exact .read spared
      | create key expiresAt =>
        cases expiresAt with
        | none => simp only [performKey, fails]; exact .uncreated (by simp)
        | some expiresAt =>
          cases inserted : now.keys.insert ⟨key, none, none, expiresAt⟩ with
          | none =>
            obtain ⟨old, found⟩ := Table.insert_none.mp inserted
            simp only [performKey, fails, inserted]
            exact .taken spared found
          | some keys =>
            simp only [performKey, fails, inserted]
            exact .created (Table.insert_rows inserted).2 (Table.find_insert inserted)
      | update key statusCode body =>
        cases found : now.keys.find key with
        | none => simp only [performKey, fails, found]; exact .unchanged
        | some row =>
          simp only [performKey, fails, found]
          refine .updated spared found fun k => ?_
          rw [cacheResponse, Table.find_modify]
          by_cases named : k = key
          · rw [if_pos named, if_pos named, named, found]; rfl
          · rw [if_neg named, if_neg named]
      | delete key =>
        cases found : now.keys.find key with
        | none => simp only [performKey, fails, found]; exact .undeleted (Or.inr found)
        | some row =>
          simp only [performKey, fails, found]
          exact .deleted spared found (Table.find_erase _ _)

/-- No step moves the clock of the state it acts on. -/
theorem KeyPerformed.clock {perform : Env → (op : Op) → App → Ans op × App} {env : KeyEnv Env} {w after : KeyWorld Body App}
    {op : KeyOp Body ⊕ Op} {answer : Both KeyOp.Answer Ans op} (did : KeyPerformed perform env w op answer after) :
    after.clock = w.clock := by
  cases did <;> rfl

/-- What a request has seen when its key is free: no record, or an expired one
it has tried to delete. -/
inductive Cleared (key : String) (started : Timestamp) : KeyHistory Body Ans → Prop
  | absent : Cleared key started [⟨.inl (.findUnique key), .ok none⟩, ⟨.inl .now, started⟩]
  | expired {row : IdempotencyKey Body} {now : Timestamp} {answer : Except JsError (IdempotencyKey Body)} :
      row.expiresAt < now → Cleared key started [⟨.inl (.delete key), answer⟩, ⟨.inl .now, now⟩,
        ⟨.inl (.findUnique key), .ok (some row)⟩, ⟨.inl .now, started⟩]

/-- What a handler asks along the way, and what it has seen when it returns or throws. -/
structure HandlerSpec (Op : Type) (Ans : Op → Type) (Body : Type) where
  asks : History Ans → Op → Prop
  returns : History Ans → Body → Prop
  throws : History Ans → JsError → Prop

/-- What a request has seen when it has reserved its key and its handler has
seen `inner`. -/
inductive Handling (idempotencyTtlSeconds : Option String) (key : String) (inner : History Ans) :
    KeyHistory Body Ans → Prop
  | reserved {started : Timestamp} {row : IdempotencyKey Body} {before : KeyHistory Body Ans} :
      Cleared key started before → Handling idempotencyTtlSeconds key inner
        (lifted inner ++ ⟨.inl (.create key (expiry idempotencyTtlSeconds started)), .ok row⟩ :: before)

theorem Handling.created {idempotencyTtlSeconds : Option String} {key : String} {inner : History Ans}
    {seen : KeyHistory Body Ans} (handling : Handling idempotencyTtlSeconds key inner seen) :
    ∃ expiresAt row, (⟨.inl (.create key expiresAt), .ok row⟩ : KeyEntry Body Ans) ∈ seen := by
  obtain ⟨cleared⟩ := handling
  exact ⟨_, _, List.mem_append_right _ (List.mem_cons_self ..)⟩

/-- Where a request stands after what it has seen. -/
inductive InterceptCourse (idempotencyTtlSeconds : Option String) (call : IdempotentCall Op Ans Body)
    (spec : HandlerSpec Op Ans Body) : KeyHistory Body Ans → KeyOp Body ⊕ Op → Prop
  | free {inner op} : call.key = none → spec.asks inner op →
      InterceptCourse idempotencyTtlSeconds call spec (lifted inner) (.inr op)
  | start {key} : call.key = some key → InterceptCourse idempotencyTtlSeconds call spec [] (.inl .now)
  | lookup {key started} : call.key = some key →
      InterceptCourse idempotencyTtlSeconds call spec [⟨.inl .now, started⟩] (.inl (.findUnique key))
  | check {key started row} : call.key = some key → InterceptCourse idempotencyTtlSeconds call spec
      [⟨.inl (.findUnique key), .ok (some row)⟩, ⟨.inl .now, started⟩] (.inl .now)
  | clear {key started row now} : call.key = some key → row.expiresAt < now →
      InterceptCourse idempotencyTtlSeconds call spec
        [⟨.inl .now, now⟩, ⟨.inl (.findUnique key), .ok (some row)⟩, ⟨.inl .now, started⟩] (.inl (.delete key))
  | reserve {key started before} : call.key = some key → Cleared key started before →
      InterceptCourse idempotencyTtlSeconds call spec before (.inl (.create key (expiry idempotencyTtlSeconds started)))
  | handle {key inner seen op} : call.key = some key → Handling idempotencyTtlSeconds key inner seen →
      spec.asks inner op → InterceptCourse idempotencyTtlSeconds call spec seen (.inr op)
  | keep {key inner seen statusCode body} : call.key = some key → Handling idempotencyTtlSeconds key inner seen →
      spec.returns inner body → InterceptCourse idempotencyTtlSeconds call spec seen (.inl (.update key statusCode body))
  | release {key inner seen err} : call.key = some key → Handling idempotencyTtlSeconds key inner seen →
      spec.throws inner err → InterceptCourse idempotencyTtlSeconds call spec seen (.inl (.delete key))

/-- What a request has seen when it is answered. -/
inductive Answered (idempotencyTtlSeconds : Option String) (call : IdempotentCall Op Ans Body)
    (spec : HandlerSpec Op Ans Body) :
    KeyHistory Body Ans → Except JsError (HttpReply Body) → Prop
  | free {inner body} : call.key = none → spec.returns inner body →
      Answered idempotencyTtlSeconds call spec (lifted inner) (.ok ⟨call.statusCode, body, false⟩)
  | freeFailed {inner err} : call.key = none → spec.throws inner err →
      Answered idempotencyTtlSeconds call spec (lifted inner) (.error err)
  | unread {key started err} : call.key = some key → Answered idempotencyTtlSeconds call spec
      [⟨.inl (.findUnique key), .error err⟩, ⟨.inl .now, started⟩] (.error err)
  | replayed {key started row now body} : call.key = some key → ¬ row.expiresAt < now → row.responseBody = some body →
      Answered idempotencyTtlSeconds call spec
        [⟨.inl .now, now⟩, ⟨.inl (.findUnique key), .ok (some row)⟩, ⟨.inl .now, started⟩]
        (.ok ⟨replayStatus call.statusCode row, body, true⟩)
  | inFlight {key started row now} : call.key = some key → ¬ row.expiresAt < now → row.responseBody = none →
      Answered idempotencyTtlSeconds call spec
        [⟨.inl .now, now⟩, ⟨.inl (.findUnique key), .ok (some row)⟩, ⟨.inl .now, started⟩] (.error conflictInFlight)
  | taken {key started before err} : call.key = some key → Cleared key started before → err.code = some "P2002" →
      Answered idempotencyTtlSeconds call spec
        (⟨.inl (.create key (expiry idempotencyTtlSeconds started)), .error err⟩ :: before) (.error conflictReserved)
  | unreserved {key started before err} : call.key = some key → Cleared key started before → err.code ≠ some "P2002" →
      Answered idempotencyTtlSeconds call spec
        (⟨.inl (.create key (expiry idempotencyTtlSeconds started)), .error err⟩ :: before) (.error err)
  | kept {key inner seen statusCode body answer} : call.key = some key →
      Handling idempotencyTtlSeconds key inner seen → spec.returns inner body →
      Answered idempotencyTtlSeconds call spec (⟨.inl (.update key statusCode body), answer⟩ :: seen)
        (.ok ⟨call.statusCode, body, false⟩)
  | released {key inner seen err answer} : call.key = some key → Handling idempotencyTtlSeconds key inner seen →
      spec.throws inner err →
      Answered idempotencyTtlSeconds call spec (⟨.inl (.delete key), answer⟩ :: seen) (.error err)

/-- Nothing is asked once the key has been released. -/
theorem Handling.not_after_release {idempotencyTtlSeconds : Option String} {call : IdempotentCall Op Ans Body}
    {spec : HandlerSpec Op Ans Body} {key k : String} {inner : History Ans} {seen : KeyHistory Body Ans}
    {answer : Except JsError (IdempotencyKey Body)} {op : KeyOp Body ⊕ Op}
    (handling : Handling idempotencyTtlSeconds key inner seen) :
    ¬ InterceptCourse idempotencyTtlSeconds call spec (⟨.inl (.delete k), answer⟩ :: seen) op := by
  intro course
  have fresh : ∀ {inner : History Ans} {key : String},
      ¬ Handling idempotencyTtlSeconds key inner (⟨.inl (.delete k), answer⟩ :: seen) := by
    intro inner key again
    generalize same : (⟨.inl (.delete k), answer⟩ : KeyEntry Body Ans) :: seen = new at again
    obtain ⟨cleared⟩ := again
    cases inner with
    | nil => cases same
    | cons entry inner => cases same
  generalize same : (⟨.inl (.delete k), answer⟩ : KeyEntry Body Ans) :: seen = new at course fresh
  cases course with
  | @free handled _ _ _ =>
    have inside : (⟨.inl (.delete k), answer⟩ : KeyEntry Body Ans) ∈ lifted handled := by
      rw [← same]
      exact List.mem_cons_self ..
    obtain ⟨_, _, other, _⟩ := mem_lifted inside
    cases other
  | reserve _ cleared =>
    obtain ⟨expiresAt, row, created⟩ := handling.created
    cases cleared with
    | absent => cases same
    | expired _ =>
      cases same
      simp at created
  | handle _ again _ => exact fresh again
  | keep _ again _ => exact fresh again
  | release _ again _ => exact fresh again
  | _ => cases same

/-- A swallowed step only has to be allowed; what it answers does not matter. -/
theorem obeys_swallow {asks : KeyHistory Body Ans → KeyOp Body ⊕ Op → Prop}
    {returns : KeyHistory Body Ans → Unit → Prop}
    {throws : KeyHistory Body Ans → JsError → Prop} {α : Type} (op : KeyOp Body)
    (read : op.Answer → Except JsError α) (seen : KeyHistory Body Ans) (ask : asks seen (.inl op))
    (ret : ∀ answer : op.Answer, returns (⟨.inl op, answer⟩ :: seen) ()) :
    Async.Obeys asks returns throws (swallow (keyRequest op read)) seen := by
  refine (Async.obeys_tryCatch _ _ _).mpr ((Async.obeys_bind _ _ _).mpr ((Async.obeys_request _ _ _).mpr ⟨ask, ?_⟩))
  intro answer
  cases read answer with
  | error err => exact ret answer
  | ok value => exact ret answer

theorem intercept_course (idempotencyTtlSeconds : Option String) {call : IdempotentCall Op Ans Body}
    {spec : HandlerSpec Op Ans Body} (holds : Async.Obeys spec.asks spec.returns spec.throws call.handle []) :
    Async.Obeys (InterceptCourse idempotencyTtlSeconds call spec)
      (fun seen reply => Answered idempotencyTtlSeconds call spec seen (.ok reply))
      (fun seen err => Answered idempotencyTtlSeconds call spec seen (.error err))
      (intercept idempotencyTtlSeconds call) [] := by
  unfold intercept
  split
  · next blank =>
    refine (Async.obeys_bind _ _ _).mpr (Async.obeys_lift holds [] ?_ ?_ ?_)
    · intro seen op asks
      rw [List.append_nil]
      exact .free blank asks
    · intro seen body returns
      rw [List.append_nil]
      exact .free blank returns
    · intro seen err throws
      rw [List.append_nil]
      exact .freeFailed blank throws
  · next key named =>
    refine (Async.obeys_bind _ _ _).mpr ((Async.obeys_request _ _ _).mpr ⟨.start named, fun started => ?_⟩)
    -- with the key free, the rest of the request
    have proceeds : ∀ before, Cleared key started before → Async.Obeys (InterceptCourse idempotencyTtlSeconds call spec)
        (fun seen reply => Answered idempotencyTtlSeconds call spec seen (.ok reply))
        (fun seen err => Answered idempotencyTtlSeconds call spec seen (.error err))
        (do reserve key (expiry idempotencyTtlSeconds started); executeAndCache key call) before := by
      intro before cleared
      refine (Async.obeys_bind _ _ _).mpr ((Async.obeys_tryCatch _ _ _).mpr ((Async.obeys_bind _ _ _).mpr
        ((Async.obeys_request _ _ _).mpr ⟨.reserve named cleared, ?_⟩)))
      rintro (err | row)
      · by_cases unique : err.code = some "P2002"
        · simp only [if_pos unique]
          exact .taken named cleared unique
        · simp only [if_neg unique]
          exact .unreserved named cleared unique
      · refine (Async.obeys_bind _ _ _).mpr ((Async.obeys_tryCatch _ _ _).mpr (Async.obeys_lift holds _ ?_ ?_ ?_))
        · intro inner op asks
          exact .handle named (.reserved cleared) asks
        · intro inner body returns
          refine (Async.obeys_bind _ _ _).mpr (obeys_swallow _ _ _ (.keep named (.reserved cleared) returns) ?_)
          intro answer
          exact Answered.kept named (.reserved cleared) returns
        · intro inner err throws
          refine (Async.obeys_bind _ _ _).mpr (obeys_swallow _ _ _ (.release named (.reserved cleared) throws) ?_)
          intro answer
          exact .released named (.reserved cleared) throws
    refine (Async.obeys_bind _ _ _).mpr ((Async.obeys_bind _ _ _).mpr ((Async.obeys_request _ _ _).mpr ⟨.lookup named, ?_⟩))
    rintro (err | existing)
    · exact .unread named
    cases existing with
    | none => exact proceeds _ .absent
    | some row =>
      refine (Async.obeys_bind _ _ _).mpr ((Async.obeys_request _ _ _).mpr ⟨.check named, fun now => ?_⟩)
      by_cases expired : row.expiresAt < now
      · simp only [if_pos expired]
        refine (Async.obeys_bind _ _ _).mpr (obeys_swallow _ _ _ (.clear named expired) ?_)
        intro answer
        exact proceeds _ (.expired expired)
      · simp only [if_neg expired]
        cases kept : row.responseBody with
        | none => exact .inFlight named expired kept
        | some body => exact .replayed named expired kept

end

end PayBridge
