import PayBridge.Await.Played
import PayBridge.Idempotency

namespace PayBridge
open Store Await

/-- A request that returned after running its handler. -/
structure MemoRun (Body : Type) where
  key : String
  expiresAt : Timestamp
  statusCode : Nat
  body : Body
  deriving DecidableEq

/-- A request of a history, with what each of its steps meets. -/
structure Arrival (Op : Type) (Ans : Op → Type) (Body Env : Type) where
  call : IdempotentCall Op Ans Body
  env : Nat → KeyOp Body ⊕ Op → KeyEnv Env

section
variable {Op : Type} {Ans : Op → Type} {Body App Env : Type}
variable (idempotencyTtlSeconds : Option String) (perform : Env → (op : Op) → App → Ans op × App)

/-- The request alone on the key table, to the end of its last write. -/
def Arrival.serve (a : Arrival Op Ans Body Env) (w : KeyWorld Body App) :
    Outcome (Both (@KeyOp.Answer Body) Ans) (KeyWorld Body App) (Except JsError (HttpReply Body)) :=
  Async.play (performIdempotent perform) a.env (intercept idempotencyTtlSeconds a.call) [] w

/-- When the request takes its first look at the clock. -/
def Arrival.started (a : Arrival Op Ans Body Env) (w : KeyWorld Body App) : Timestamp :=
  w.clock + (a.env 0 (.inl .now)).elapsed

/-- The reading that an expiry is compared with: what the clock shows once the key has
been looked up. It is the first reading as long as no time passes within the request. -/
def Arrival.comparedAt (a : Arrival Op Ans Body Env) (key : String) (w : KeyWorld Body App) : Timestamp :=
  a.started w + (a.env 1 (.inl (.findUnique key))).elapsed + (a.env 2 (.inl .now)).elapsed

/-- No database call of the request fails: none is out of reach, the expiry
date it stores is a date, and its status code is one. -/
structure Arrival.Calm (a : Arrival Op Ans Body Env) (w : KeyWorld Body App) : Prop where
  reached : ∀ n op, (a.env n (.inl op)).fails = false
  dated : a.call.key.isSome → (expiry idempotencyTtlSeconds (a.started w)).isSome
  status : a.call.statusCode ≠ 0

/-- What the request adds to the successful runs: itself, when it has a key and
returned something that is not a replay. -/
def Arrival.successful (a : Arrival Op Ans Body Env) (w : KeyWorld Body App) : List (MemoRun Body) :=
  match a.call.key, expiry idempotencyTtlSeconds (a.started w), (a.serve idempotencyTtlSeconds perform w).value with
  | some key, some expiresAt, .ok reply => if reply.replayed then [] else [⟨key, expiresAt, reply.statusCode, reply.body⟩]
  | _, _, _ => []

/-- The histories of requests one after another from an empty key table, with
the successful runs of each. -/
inductive Served : List (MemoRun Body) → KeyWorld Body App → Prop
  | start {w : KeyWorld Body App} : w.keys = Table.empty → Served [] w
  | next {memo : List (MemoRun Body)} {w : KeyWorld Body App} (a : Arrival Op Ans Body Env) :
      Served memo w → a.Calm idempotencyTtlSeconds w →
      Served (a.successful idempotencyTtlSeconds perform w ++ memo) (a.serve idempotencyTtlSeconds perform w).world

/-- The request ran its handler: the handlers' state, the reply and the log are
those of the handler's own run behind some steps of the interceptor. -/
def Arrival.RunsHandler (a : Arrival Op Ans Body Env) (w : KeyWorld Body App) : Prop :=
  ∃ before later : KeyHistory Body Ans,
    let handled := Async.play perform (within KeyEnv.app a.env before.length) a.call.handle [] w.app
    let o := a.serve idempotencyTtlSeconds perform w
    o.world.app = handled.world ∧ o.log = later ++ (lifted handled.log ++ before) ∧
      o.value = match handled.value with
        | .ok body => .ok ⟨a.call.statusCode, body, false⟩
        | .error err => .error err

end

section
variable {Op : Type} {Ans : Op → Type} {Body App Env : Type}
variable {idempotencyTtlSeconds : Option String} {perform : Env → (op : Op) → App → Ans op × App}

theorem KeyWorld.later_clock (w : KeyWorld Body App) (elapsed : Nat) : (w.later elapsed).clock = w.clock + elapsed :=
  rfl

/-- What passes while handlers run: the key table rests and the clock may move on. -/
def KeyWorld.Rests (before after : KeyWorld Body App) : Prop := after.keys = before.keys ∧ before.clock ≤ after.clock

theorem idempotent_embeds :
    Embeds (performIdempotent perform) perform (@KeyWorld.app Body App) KeyEnv.app KeyWorld.Rests where
  answer _ _ _ := rfl
  moves _ _ _ := rfl
  keeps met _ world := ⟨rfl, world.le_later met.elapsed⟩
  refl _ := ⟨rfl, le_refl _⟩
  trans first second := ⟨second.1.trans first.1, first.2.trans second.2⟩

variable {env : Nat → KeyOp Body ⊕ Op → KeyEnv Env} {key : String} {seen : KeyHistory Body Ans} {w : KeyWorld Body App}

/-- The clock never runs back, whatever is run. -/
theorem play_clock {α : Type} (x : Intercepted Body Op Ans α) (seen : KeyHistory Body Ans) (w : KeyWorld Body App) :
    w.clock ≤ (Async.play (performIdempotent perform) env x seen w).world.clock := by
  have obeys := Prog.obeys_trivial (ExceptT.run x) seen
  have kept := Prog.Obeys.kept (performIdempotent perform) env (I := fun _ now => w.clock ≤ now.clock) obeys
    (fun seen op world _ before => by
      have moved := (keyPerformed perform (env seen.length op) op world).clock
      have later := world.le_later (env seen.length op).elapsed
      exact (le_trans before later).trans moved.ge) w (le_refl _)
  exact kept.1

/-- A step whose answer reads as a value goes on with it. -/
theorem play_answered {α β : Type} {op : KeyOp Body} {read : op.Answer → Except JsError α} {f : α → Intercepted Body Op Ans β}
    {answer : op.Answer} {after : KeyWorld Body App} {value : α}
    (did : performIdempotent perform (env seen.length (.inl op)) (.inl op) w = (answer, after))
    (reads : read answer = .ok value) :
    Async.play (performIdempotent perform) env (keyRequest op read >>= f) seen w =
      Async.play (performIdempotent perform) env (f value) (⟨.inl op, answer⟩ :: seen) after := by
  have asked : Async.play (performIdempotent perform) env (keyRequest op read : Intercepted Body Op Ans α) seen w =
      ⟨.ok value, after, ⟨.inl op, answer⟩ :: seen⟩ := by
    refine (Async.play_request _ _ _ _ _ _).trans ?_
    rw [did, reads]
  rw [Async.play_bind_ok (by rw [asked]), asked]

/-- A swallowed step answers nothing, and has been made. -/
theorem play_swallow {α β : Type} {op : KeyOp Body} {read : op.Answer → Except JsError α} {f : Unit → Intercepted Body Op Ans β}
    {answer : op.Answer} {after : KeyWorld Body App}
    (did : performIdempotent perform (env seen.length (.inl op)) (.inl op) w = (answer, after)) :
    Async.play (performIdempotent perform) env (swallow (keyRequest op read) >>= f) seen w =
      Async.play (performIdempotent perform) env (f ()) (⟨.inl op, answer⟩ :: seen) after := by
  have asked : Async.play (performIdempotent perform) env (keyRequest op read : Intercepted Body Op Ans α) seen w =
      ⟨read answer, after, ⟨.inl op, answer⟩ :: seen⟩ := by
    refine (Async.play_request _ _ _ _ _ _).trans ?_
    rw [did]
  have swallowed : Async.play (performIdempotent perform) env (swallow (keyRequest op read) : Intercepted Body Op Ans Unit)
      seen w = ⟨.ok (), after, ⟨.inl op, answer⟩ :: seen⟩ := by
    unfold swallow
    rw [Async.play_tryCatch, Async.play_bind, asked]
    cases read answer with
    | ok value => rfl
    | error err => rfl
  rw [Async.play_bind_ok (by rw [swallowed]), swallowed]

theorem play_now {α : Type} (f : KeyOp.Answer (@KeyOp.now Body) → Intercepted Body Op Ans α) (seen : KeyHistory Body Ans)
    (w : KeyWorld Body App) :
    Async.play (performIdempotent perform) env (keyRequest .now .ok >>= f) seen w =
      Async.play (performIdempotent perform) env (f (w.clock + (env seen.length (.inl .now)).elapsed))
        (⟨.inl .now, w.clock + (env seen.length (.inl .now)).elapsed⟩ :: seen)
        (w.later (env seen.length (.inl .now)).elapsed) :=
  play_answered rfl rfl

section
variable (perform) (reached : ∀ n op, (env n (.inl op)).fails = false)
include reached

theorem play_findUnique {α : Type} (f : Option (IdempotencyKey Body) → Intercepted Body Op Ans α) (key : String)
    (seen : KeyHistory Body Ans) (w : KeyWorld Body App) :
    Async.play (performIdempotent perform) env (keyRequest (.findUnique key) (fun answer => answer) >>= f) seen w =
      Async.play (performIdempotent perform) env (f (w.keys.find key)) (⟨.inl (.findUnique key), .ok (w.keys.find key)⟩ :: seen)
        (w.later (env seen.length (.inl (.findUnique key))).elapsed) := by
  have did : performIdempotent perform (env seen.length (.inl (.findUnique key))) (.inl (.findUnique key)) w =
      (.ok (w.keys.find key), w.later (env seen.length (.inl (.findUnique key))).elapsed) := by
    simp [performIdempotent, performKey, reached]
  exact play_answered did rfl

theorem perform_delete (n : Nat) {row : IdempotencyKey Body} (found : w.keys.find key = some row) :
    performIdempotent perform (env n (.inl (.delete key))) (.inl (.delete key)) w =
      (.ok row, { w.later (env n (.inl (.delete key))).elapsed with keys := w.keys.erase key }) := by
  simp [performIdempotent, performKey, reached, found]

/-- A key without a live record is found free, and is free from then on. -/
theorem check_free (seen : KeyHistory Body Ans) (w : KeyWorld Body App) (statusCode : Nat)
    (free : ∀ row, w.keys.find key = some row → row.expiresAt < w.clock +
      (env seen.length (.inl (.findUnique key))).elapsed + (env (seen.length + 1) (.inl .now)).elapsed) :
    let o := Async.play (performIdempotent perform) env (checkExisting key statusCode) seen w
    o.value = .ok none ∧ (∀ k, o.world.keys.find k = if k = key then none else w.keys.find k) ∧ o.world.app = w.app ∧
      (∀ row, w.keys.find key = some row → row.expiresAt < o.world.clock) := by
  unfold checkExisting
  simp only [play_findUnique perform reached]
  cases found : w.keys.find key with
  | none =>
    refine ⟨rfl, fun k => ?_, rfl, fun row absent => ?_⟩
    · by_cases same : k = key
      · rw [if_pos same, same]
        exact found
      · rw [if_neg same]
        rfl
    · cases absent
  | some row =>
    have expired := free row found
    let looked := (w.later (env seen.length (.inl (.findUnique key))).elapsed).later (env (seen.length + 1) (.inl .now)).elapsed
    have standing : looked.keys.find key = some row := found
    rw [play_now, KeyWorld.later_clock, List.length_cons, if_pos expired, play_swallow (perform_delete perform reached _ standing)]
    refine ⟨rfl, Table.find_erase _ _, rfl, ?_⟩
    intro row' same
    cases same
    have passed := Int.natCast_nonneg (env (seen.length + 2) (.inl (.delete key))).elapsed
    exact lt_of_lt_of_le expired (Int.le_add_of_nonneg_right passed)

/-- A live response is answered from the key table, which is only read. -/
theorem check_live (seen : KeyHistory Body Ans) (w : KeyWorld Body App) (statusCode : Nat) {row : IdempotencyKey Body}
    {body : Body} (found : w.keys.find key = some row) (stored : row.responseBody = some body) (live : ¬ row.expiresAt < w.clock +
      (env seen.length (.inl (.findUnique key))).elapsed + (env (seen.length + 1) (.inl .now)).elapsed) :
    let o := Async.play (performIdempotent perform) env (checkExisting key statusCode) seen w
    o.value = .ok (some ⟨replayStatus statusCode row, body, true⟩) ∧ o.world.keys = w.keys ∧ o.world.app = w.app ∧
      o.log.map Sigma.fst = [.inl .now, .inl (.findUnique key)] ++ seen.map Sigma.fst := by
  unfold checkExisting
  simp only [play_findUnique perform reached, found]
  rw [play_now, KeyWorld.later_clock, List.length_cons, if_neg live, stored]
  exact ⟨rfl, rfl, rfl, rfl⟩

theorem perform_create (n : Nat) (expiresAt : Timestamp) (fresh : w.keys.find key = none) :
    ∃ keys, performIdempotent perform (env n (.inl (.create key (some expiresAt)))) (.inl (.create key (some expiresAt))) w =
        (.ok ⟨key, none, none, expiresAt⟩, { w.later (env n (.inl (.create key (some expiresAt)))).elapsed with keys }) ∧
      ∀ k, keys.find k = if k = key then some ⟨key, none, none, expiresAt⟩ else w.keys.find k := by
  obtain ⟨keys, inserted, -⟩ := Table.insert_fresh (r := (⟨key, none, none, expiresAt⟩ : IdempotencyKey Body)) fresh
  refine ⟨keys, ?_, Table.find_insert inserted⟩
  simp [performIdempotent, performKey, reached, inserted]

theorem perform_update (n : Nat) (statusCode : Nat) (body : Body) {row : IdempotencyKey Body}
    (found : w.keys.find key = some row) :
    ∃ keys, performIdempotent perform (env n (.inl (.update key statusCode body))) (.inl (.update key statusCode body)) w =
        (.ok (row.respond statusCode body), { w.later (env n (.inl (.update key statusCode body))).elapsed with keys }) ∧
      ∀ k, keys.find k = if k = key then some (row.respond statusCode body) else w.keys.find k := by
  refine ⟨cacheResponse w.keys key statusCode body, ?_, fun k => ?_⟩
  · simp [performIdempotent, performKey, reached, found]
  · rw [cacheResponse, Table.find_modify]
    by_cases same : k = key
    · rw [if_pos same, if_pos same, same, found]
      rfl
    · rw [if_neg same, if_neg same]

/-- A free key is reserved. -/
theorem play_reserve (seen : KeyHistory Body Ans) (expiresAt : Timestamp) (fresh : w.keys.find key = none) :
    let o := Async.play (performIdempotent perform) env (reserve key (some expiresAt)) seen w
    o.value = .ok () ∧ o.world.app = w.app ∧
      ∀ k, o.world.keys.find k = if k = key then some ⟨key, none, none, expiresAt⟩ else w.keys.find k := by
  obtain ⟨keys, did, rows⟩ := perform_create perform reached seen.length expiresAt fresh
  have created : Async.play (performIdempotent perform) env (do
      let _ ← (keyRequest (.create key (some expiresAt)) fun answer => answer : Intercepted Body Op Ans _)
      pure ()) seen w = _ := play_answered did rfl
  unfold reserve
  rw [Async.play_tryCatch, created]
  exact ⟨rfl, rfl, rows⟩

/-- The handler runs under its reservation, which ends as its response or is given up. -/
theorem play_execute (seen : KeyHistory Body Ans) (call : IdempotentCall Op Ans Body) {expiresAt : Timestamp}
    (held : w.keys.find key = some ⟨key, none, none, expiresAt⟩) :
    let o := Async.play (performIdempotent perform) env (executeAndCache key call) seen w
    let handled := Async.play perform (within KeyEnv.app env seen.length) call.handle [] w.app
    o.world.app = handled.world ∧ (∃ later, o.log = later ++ (lifted handled.log ++ seen)) ∧ match handled.value with
      | .ok body => o.value = .ok ⟨call.statusCode, body, false⟩ ∧ ∀ k, o.world.keys.find k =
          if k = key then some ⟨key, some body, some (if call.statusCode = 0 then 200 else call.statusCode), expiresAt⟩
          else w.keys.find k
      | .error err => o.value = .error err ∧ ∀ k, o.world.keys.find k = if k = key then none else w.keys.find k := by
  intro o handled
  obtain ⟨value, app, log, keys, -⟩ := Async.play_lift idempotent_embeds env call.handle seen w
  let inner := Async.play (performIdempotent perform) env (Async.lift call.handle) seen w
  have standing : inner.world.keys.find key = some ⟨key, none, none, expiresAt⟩ := by rw [← held, keys]
  have unfolded : o = Async.play (performIdempotent perform) env (executeAndCache key call) seen w := rfl
  unfold executeAndCache at unfolded
  cases ended : handled.value with
  | ok body =>
    have returned : inner.value = .ok body := value.trans ended
    obtain ⟨keys', did, rows⟩ := perform_update perform reached inner.log.length
      (if call.statusCode = 0 then 200 else call.statusCode) body standing
    have caught : (Async.play (performIdempotent perform) env (tryCatch (Async.lift call.handle) fun error => do
        swallow (keyRequest (.delete key) fun answer => answer)
        throw error) seen w) = ⟨.ok body, inner.world, inner.log⟩ := by
      rw [Async.play_tryCatch, returned]
    rw [Async.play_bind_ok (by rw [caught]), caught, play_swallow did] at unfolded
    rw [unfolded]
    refine ⟨app, ⟨[_], congrArg (_ :: ·) log⟩, rfl, ?_⟩
    intro k
    rw [← keys]
    exact rows k
  | error err =>
    have thrown : inner.value = .error err := value.trans ended
    let gone := { inner.world.later (env inner.log.length (.inl (.delete key))).elapsed with keys := inner.world.keys.erase key }
    have did : performIdempotent perform (env inner.log.length (.inl (.delete key))) (.inl (.delete key)) inner.world =
      (.ok ⟨key, none, none, expiresAt⟩, gone) := perform_delete perform reached _ standing
    have released : (Async.play (performIdempotent perform) env (tryCatch (Async.lift call.handle) fun error => do
        swallow (keyRequest (.delete key) fun answer => answer)
        throw error : Intercepted Body Op Ans Body) seen w) =
          ⟨.error err, gone, ⟨.inl (.delete key), .ok ⟨key, none, none, expiresAt⟩⟩ :: inner.log⟩ := by
      rw [Async.play_tryCatch, thrown]
      exact play_swallow did
    rw [Async.play_bind_error (by rw [released]), released] at unfolded
    rw [unfolded]
    refine ⟨app, ⟨[_], congrArg (_ :: ·) log⟩, rfl, ?_⟩
    intro k
    rw [← keys]
    exact Table.find_erase _ _ k

end

variable {a : Arrival Op Ans Body Env}

/-- What ran its handler is no replay and has the route's status code. -/
theorem Arrival.RunsHandler.reply (runs : a.RunsHandler idempotencyTtlSeconds perform w) {reply : HttpReply Body}
    (answered : (a.serve idempotencyTtlSeconds perform w).value = .ok reply) :
    reply.replayed = false ∧ reply.statusCode = a.call.statusCode := by
  obtain ⟨before, later, -, -, value⟩ := runs
  rw [answered] at value
  split at value
  · cases value
    exact ⟨rfl, rfl⟩
  · cases value

/-- A request without a key runs its handler and leaves the key table alone. -/
theorem serve_blank (blank : a.call.key = none) : a.RunsHandler idempotencyTtlSeconds perform w ∧
    (a.serve idempotencyTtlSeconds perform w).world.keys = w.keys := by
  obtain ⟨value, app, log, keys, -⟩ := Async.play_lift idempotent_embeds a.env a.call.handle [] w
  let inner := Async.play (performIdempotent perform) a.env (Async.lift a.call.handle) [] w
  have shape : let o := a.serve idempotencyTtlSeconds perform w
      o.world = inner.world ∧ o.log = inner.log ∧ o.value = match inner.value with
        | .ok body => .ok ⟨a.call.statusCode, body, false⟩
        | .error err => .error err := by
    unfold Arrival.serve intercept
    simp only [blank]
    rw [Async.play_bind]
    cases inner.value with
    | ok body => exact ⟨rfl, rfl, rfl⟩
    | error err => exact ⟨rfl, rfl, rfl⟩
  obtain ⟨world, seen, reply⟩ := shape
  refine ⟨⟨[], [], ?_, seen.trans log, ?_⟩, ?_⟩
  · rw [world]
    exact app
  · rw [reply, value]
  · rw [world]
    exact keys

/-- A request with a key, once it has looked at the clock. -/
def Arrival.begun (a : Arrival Op Ans Body Env) (w : KeyWorld Body App) : KeyWorld Body App :=
  w.later (a.env 0 (.inl .now)).elapsed

theorem serve_named (named : a.call.key = some key) : a.serve idempotencyTtlSeconds perform w =
    Async.play (performIdempotent perform) a.env (do
      let replay ← checkExisting key a.call.statusCode
      match replay with
      | some reply => return reply
      | none =>
        reserve key (expiry idempotencyTtlSeconds (a.started w))
        executeAndCache key a.call) [⟨.inl .now, a.started w⟩] (a.begun w) := by
  unfold Arrival.serve intercept
  simp only [named]
  exact play_now ..

variable {row : IdempotencyKey Body} {body : Body}

/-- A request that arrives while a response is kept is answered with it. Apart
from the clock it only reads the record. -/
theorem serve_live (perform : Env → (op : Op) → App → Ans op × App) (calm : a.Calm idempotencyTtlSeconds w)
    (named : a.call.key = some key) (found : w.keys.find key = some row) (stored : row.responseBody = some body)
    (live : a.comparedAt key w ≤ row.expiresAt) :
    let o := a.serve idempotencyTtlSeconds perform w
    o.value = .ok ⟨replayStatus a.call.statusCode row, body, true⟩ ∧ o.world.keys = w.keys ∧ o.world.app = w.app ∧
      o.log.map Sigma.fst = [.inl .now, .inl (.findUnique key), .inl .now] := by
  let entry : KeyEntry Body Ans := ⟨.inl .now, a.started w⟩
  obtain ⟨value, keys, app, log⟩ := check_live perform calm.reached [entry] (a.begun w) a.call.statusCode found stored (not_lt.mpr live)
  rw [serve_named named, Async.play_bind_ok value]
  exact ⟨rfl, keys, app, log⟩

/-- A request that arrives at a key without a live record runs its handler.
Afterwards the key holds its response, or no record when it threw. -/
theorem serve_free (perform : Env → (op : Op) → App → Ans op × App) (calm : a.Calm idempotencyTtlSeconds w)
    (named : a.call.key = some key) (free : ∀ row, w.keys.find key = some row → row.expiresAt < a.comparedAt key w) :
    let o := a.serve idempotencyTtlSeconds perform w
    a.RunsHandler idempotencyTtlSeconds perform w ∧
      (∀ row, w.keys.find key = some row → row.expiresAt < o.world.clock) ∧ match o.value with
        | .ok reply => ∃ expiresAt, expiry idempotencyTtlSeconds (a.started w) = some expiresAt ∧ ∀ k,
          o.world.keys.find k =
            if k = key then some ⟨key, some reply.body, some reply.statusCode, expiresAt⟩ else w.keys.find k
        | .error _ => ∀ k, o.world.keys.find k = if k = key then none else w.keys.find k := by
  intro o
  obtain ⟨expiresAt, dated⟩ := Option.isSome_iff_exists.mp (calm.dated (by rw [named]; rfl))
  let entry : KeyEntry Body Ans := ⟨.inl .now, a.started w⟩
  let checked := Async.play (performIdempotent perform) a.env (checkExisting key a.call.statusCode) [entry] (a.begun w)
  obtain ⟨unheld, cleared, untouched, passed⟩ := check_free perform calm.reached [entry] (a.begun w)
    a.call.statusCode free
  let reserved := Async.play (performIdempotent perform) a.env (reserve key (some expiresAt)) checked.log checked.world
  obtain ⟨taken, still, rows⟩ := play_reserve perform calm.reached checked.log expiresAt
    ((cleared key).trans (if_pos rfl))
  have held : reserved.world.keys.find key = some ⟨key, none, none, expiresAt⟩ := (rows key).trans (if_pos rfl)
  obtain ⟨app, ⟨later, log⟩, ended⟩ := play_execute perform calm.reached reserved.log a.call held
  have course : o = Async.play (performIdempotent perform) a.env (executeAndCache key a.call) reserved.log reserved.world := by
    refine (serve_named named).trans ?_
    rw [Async.play_bind_ok unheld, dated]
    exact Async.play_bind_ok taken
  -- the key is the only one that any of the three stages writes
  have others : ∀ k, k ≠ key → reserved.world.keys.find k = w.keys.find k := by
    intro k other
    exact ((rows k).trans (if_neg other)).trans ((cleared k).trans (if_neg other))
  have before : reserved.world.app = w.app := still.trans untouched
  rw [before, ← course] at app log ended
  have clock : checked.world.clock ≤ o.world.clock := by
    have first : checked.world.clock ≤ reserved.world.clock := play_clock ..
    have second : reserved.world.clock ≤ o.world.clock := course ▸ play_clock ..
    exact le_trans first second
  refine ⟨⟨reserved.log, later, app, log, ?_⟩, fun row found => lt_of_lt_of_le (passed row found) clock, ?_⟩
  · split at ended
    · exact ended.1
    · exact ended.1
  · split at ended
    · obtain ⟨value, kept⟩ := ended
      rw [if_neg calm.status] at kept
      rw [value]
      refine ⟨expiresAt, dated, fun k => ?_⟩
      by_cases same : k = key
      · rw [kept k, if_pos same, if_pos same]
      · rw [kept k, if_neg same, if_neg same, others k same]
    · obtain ⟨value, kept⟩ := ended
      rw [value]
      intro k
      by_cases same : k = key
      · rw [kept k, if_pos same, if_pos same]
      · rw [kept k, if_neg same, if_neg same, others k same]

/-- The record a successful run leaves under its key. -/
def MemoRun.record (run : MemoRun Body) : IdempotencyKey Body := ⟨run.key, some run.body, some run.statusCode, run.expiresAt⟩

variable {memo : List (MemoRun Body)}

/-- The key table against the successful runs: every record is one of them, and
whatever else was run under a key has expired. -/
structure Remembers (memo : List (MemoRun Body)) (w : KeyWorld Body App) : Prop where
  absent : ∀ key, w.keys.find key = none → ∀ run ∈ memo, run.key = key → run.expiresAt < w.clock
  present : ∀ key row, w.keys.find key = some row → ∃ run ∈ memo, run.key = key ∧ run.statusCode ≠ 0 ∧ row = run.record ∧
    ∀ other ∈ memo, other.key = key → other = run ∨ other.expiresAt < w.clock

/-- Time that passes keeps it. -/
theorem Remembers.rest (remembers : Remembers memo w) {after : KeyWorld Body App} (keys : after.keys = w.keys)
    (clock : w.clock ≤ after.clock) : Remembers memo after := by
  refine ⟨?_, ?_⟩
  · intro key absent run member named
    rw [keys] at absent
    exact lt_of_lt_of_le (remembers.absent key absent run member named) clock
  · intro key row found
    rw [keys] at found
    obtain ⟨run, member, named, status, stored, others⟩ := remembers.present key row found
    refine ⟨run, member, named, status, stored, fun other inside same => ?_⟩
    exact (others other inside same).imp_right fun passed => lt_of_lt_of_le passed clock

/-- Where no record of a key outlives a moment, no run under it does. -/
theorem Remembers.expired (remembers : Remembers memo w) {moment : Timestamp} (later : w.clock ≤ moment)
    (free : ∀ row, w.keys.find key = some row → row.expiresAt < moment) {run : MemoRun Body} (member : run ∈ memo)
    (named : run.key = key) : run.expiresAt < moment := by
  cases found : w.keys.find key with
  | none => exact lt_of_lt_of_le (remembers.absent key found run member named) later
  | some row =>
    obtain ⟨kept, -, -, -, stored, others⟩ := remembers.present key row found
    rcases others run member named with same | passed
    · have bound := free row found
      rw [stored] at bound
      rw [same]
      exact bound
    · exact lt_of_lt_of_le passed later

theorem Arrival.le_comparedAt (a : Arrival Op Ans Body Env) (key : String) (w : KeyWorld Body App) :
    w.clock ≤ a.comparedAt key w := by
  have passes : ∀ (moment : Int) (first second third : Nat), moment ≤ moment + first + second + third := by
    intro moment first second third
    omega
  exact passes _ _ _ _

/-- With a run kept under its key, a request finds the record. -/
theorem Remembers.live (remembers : Remembers memo w) {run : MemoRun Body} (member : run ∈ memo)
    (live : a.comparedAt run.key w ≤ run.expiresAt) : run.statusCode ≠ 0 ∧ w.keys.find run.key = some run.record := by
  have kept : w.clock ≤ run.expiresAt := le_trans (a.le_comparedAt run.key w) live
  cases found : w.keys.find run.key with
  | none => exact absurd (remembers.absent run.key found run member rfl) (not_lt.mpr kept)
  | some row =>
    obtain ⟨stored, -, -, status, record, others⟩ := remembers.present run.key row found
    rcases others run member rfl with same | passed
    · rw [same]
      exact ⟨status, congrArg some record⟩
    · exact absurd passed (not_lt.mpr kept)

/-- Without one, it finds no live record. -/
theorem Remembers.free (remembers : Remembers memo w) {moment : Timestamp}
    (none : ¬ ∃ run ∈ memo, run.key = key ∧ moment ≤ run.expiresAt) :
    ∀ row, w.keys.find key = some row → row.expiresAt < moment := by
  intro row found
  obtain ⟨run, member, named, -, record, -⟩ := remembers.present key row found
  rw [record]
  exact not_le.mp fun live => none ⟨run, member, named, live⟩

/-- What a replay adds to the successful runs. -/
theorem successful_replayed {reply : HttpReply Body} (answered : (a.serve idempotencyTtlSeconds perform w).value = .ok reply)
    (replayed : reply.replayed = true) : a.successful idempotencyTtlSeconds perform w = [] := by
  unfold Arrival.successful
  rw [answered]
  split
  · next same =>
    cases same
    exact if_pos replayed
  · rfl

/-- A key given up once its runs have expired. -/
theorem Remembers.release (remembers : Remembers memo w) {after : KeyWorld Body App} (clock : w.clock ≤ after.clock)
    (rows : ∀ k, after.keys.find k = if k = key then none else w.keys.find k)
    (expired : ∀ run ∈ memo, run.key = key → run.expiresAt < after.clock) : Remembers memo after := by
  refine ⟨?_, ?_⟩
  · intro k absent run member named
    by_cases same : k = key
    · exact expired run member (named.trans same)
    · rw [rows k, if_neg same] at absent
      exact lt_of_lt_of_le (remembers.absent k absent run member named) clock
  · intro k row found
    rw [rows k] at found
    split at found
    · cases found
    · obtain ⟨run, member, named, status, stored, others⟩ := remembers.present k row found
      refine ⟨run, member, named, status, stored, fun other inside same => ?_⟩
      exact (others other inside same).imp_right fun passed => lt_of_lt_of_le passed clock

/-- A key taken by a new run once the runs under it have expired. -/
theorem Remembers.add (remembers : Remembers memo w) {after : KeyWorld Body App} (clock : w.clock ≤ after.clock)
    {new : MemoRun Body} (status : new.statusCode ≠ 0)
    (rows : ∀ k, after.keys.find k = if k = new.key then some new.record else w.keys.find k)
    (expired : ∀ run ∈ memo, run.key = new.key → run.expiresAt < after.clock) : Remembers (new :: memo) after := by
  refine ⟨?_, ?_⟩
  · intro k absent run member named
    rw [rows k] at absent
    split at absent
    · cases absent
    · next other =>
      rcases List.mem_cons.mp member with same | old
      · exact absurd (named.symm.trans (congrArg MemoRun.key same)) other
      · exact lt_of_lt_of_le (remembers.absent k absent run old named) clock
  · intro k row found
    rw [rows k] at found
    split at found
    · next same =>
      cases found
      refine ⟨new, List.mem_cons_self .., same.symm, status, rfl, fun other inside named => ?_⟩
      rcases List.mem_cons.mp inside with self | old
      · exact Or.inl self
      · exact Or.inr (expired other old (named.trans same))
    · next foreign =>
      obtain ⟨run, member, named, live, stored, others⟩ := remembers.present k row found
      refine ⟨run, List.mem_cons_of_mem _ member, named, live, stored, fun other inside same => ?_⟩
      rcases List.mem_cons.mp inside with self | old
      · exact absurd (same.symm.trans (congrArg MemoRun.key self)) foreign
      · exact (others other old same).imp_right fun passed => lt_of_lt_of_le passed clock

/-- One more request keeps it, with its own run added when it succeeded. -/
theorem Remembers.serve (remembers : Remembers memo w) (calm : a.Calm idempotencyTtlSeconds w) :
    Remembers (a.successful idempotencyTtlSeconds perform w ++ memo) (a.serve idempotencyTtlSeconds perform w).world := by
  have clock : w.clock ≤ (a.serve idempotencyTtlSeconds perform w).world.clock := play_clock ..
  cases named : a.call.key with
  | none =>
    have adds : a.successful idempotencyTtlSeconds perform w = [] := by simp [Arrival.successful, named]
    rw [adds]
    exact remembers.rest (serve_blank named).2 clock
  | some key =>
    by_cases free : ∀ row, w.keys.find key = some row → row.expiresAt < a.comparedAt key w
    · obtain ⟨runs, passed, ended⟩ := serve_free perform calm named free
      have expired : ∀ run ∈ memo, run.key = key → run.expiresAt < (a.serve idempotencyTtlSeconds perform w).world.clock :=
        fun run member same => remembers.expired clock passed member same
      split at ended
      · next reply answered =>
        obtain ⟨expiresAt, dated, rows⟩ := ended
        have adds : a.successful idempotencyTtlSeconds perform w = [⟨key, expiresAt, reply.statusCode, reply.body⟩] := by
          simp [Arrival.successful, named, dated, answered, (runs.reply answered).1]
        have status : reply.statusCode ≠ 0 := (runs.reply answered).2 ▸ calm.status
        rw [adds]
        exact remembers.add clock status rows expired
      · next err answered =>
        have adds : a.successful idempotencyTtlSeconds perform w = [] := by simp [Arrival.successful, answered]
        rw [adds]
        exact remembers.release clock ended expired
    · obtain ⟨row, found, live⟩ : ∃ row, w.keys.find key = some row ∧ a.comparedAt key w ≤ row.expiresAt := by
        simpa using free
      obtain ⟨run, member, same, status, record, -⟩ := remembers.present key row found
      have stored : row.responseBody = some run.body := by rw [record]; rfl
      obtain ⟨answered, keys, -⟩ := serve_live perform calm named found stored live
      rw [successful_replayed answered rfl]
      exact remembers.rest keys clock

theorem Served.remembers (served : Served idempotencyTtlSeconds perform memo w) : Remembers memo w := by
  induction served with
  | start unused =>
    refine ⟨fun key _ run member => absurd member List.not_mem_nil, ?_⟩
    intro key row found
    rw [unused] at found
    cases found
  | next a before calm ih => exact ih.serve calm

/-- The interceptor is a memo table with expiry. After any history a request
runs its handler exactly when it has no key or no kept run under its key, is
answered with the kept run otherwise, and leaves no record when it fails. -/
theorem interceptor_refines_memo (served : Served idempotencyTtlSeconds perform memo w) (a : Arrival Op Ans Body Env)
    (calm : a.Calm idempotencyTtlSeconds w) :
    let o := a.serve idempotencyTtlSeconds perform w
    (a.RunsHandler idempotencyTtlSeconds perform w ↔
      a.call.key = none ∨ ¬ ∃ run ∈ memo, a.call.key = some run.key ∧ a.comparedAt run.key w ≤ run.expiresAt) ∧
    (∀ run ∈ memo, a.call.key = some run.key → a.comparedAt run.key w ≤ run.expiresAt →
      o.value = .ok ⟨run.statusCode, run.body, true⟩ ∧ o.world.keys = w.keys ∧ o.world.app = w.app ∧
        o.log.map Sigma.fst = [.inl .now, .inl (.findUnique run.key), .inl .now]) ∧
    ∀ key err, a.call.key = some key → o.value = .error err → o.world.keys.find key = none := by
  intro o
  have remembers := served.remembers
  have replays : ∀ run ∈ memo, a.call.key = some run.key → a.comparedAt run.key w ≤ run.expiresAt →
      o.value = .ok ⟨run.statusCode, run.body, true⟩ ∧ o.world.keys = w.keys ∧ o.world.app = w.app ∧
        o.log.map Sigma.fst = [.inl .now, .inl (.findUnique run.key), .inl .now] := by
    intro run member named live
    obtain ⟨status, found⟩ := remembers.live member live
    obtain ⟨answered, rest⟩ := serve_live perform calm named found rfl live
    have code : replayStatus a.call.statusCode run.record = run.statusCode := if_neg status
    rw [code] at answered
    exact ⟨answered, rest⟩
  refine ⟨⟨?_, ?_⟩, replays, ?_⟩
  · intro runs
    refine Or.inr ?_
    rintro ⟨run, member, named, live⟩
    have kept := (runs.reply (replays run member named live).1).1
    cases kept
  · rintro (blank | unkept)
    · exact (serve_blank blank).1
    · cases named : a.call.key with
      | none => exact (serve_blank named).1
      | some key =>
        refine (serve_free perform calm named (remembers.free ?_)).1
        rintro ⟨run, member, same, live⟩
        exact unkept ⟨run, member, named.trans (congrArg some same.symm), same ▸ live⟩
  · intro key err named failed
    have unkept : ¬ ∃ run ∈ memo, run.key = key ∧ a.comparedAt key w ≤ run.expiresAt := by
      rintro ⟨run, member, same, live⟩
      have answered := (replays run member (named.trans (congrArg some same.symm)) (same ▸ live)).1
      rw [failed] at answered
      cases answered
    have ended := (serve_free perform calm named (remembers.free unkept)).2.2
    rw [show (a.serve idempotencyTtlSeconds perform w).value = .error err from failed] at ended
    exact (ended key).trans (if_pos rfl)

end

/-- A request whose handler returns `paid` at once. -/
def paying (idempotencyKey : String) : Arrival Empty (fun _ => Unit) String Unit where
  call := ⟨some idempotencyKey, 201, pure "paid"⟩
  env _ _ := ⟨0, false, "", ()⟩

/-- Nothing the handlers could ask. -/
def performNone (_ : Unit) (_ : Empty) (w : Unit) : Unit × Unit := ((), w)

def unpaid : KeyWorld String Unit := ⟨Table.empty, 0, ()⟩

theorem paying_calm (w : KeyWorld String Unit) (clock : w.clock = 0) : (paying " order ").Calm none w := by
  refine ⟨fun _ _ => rfl, fun _ => ?_, by decide⟩
  have started : (paying " order ").started w = 0 := by simp [Arrival.started, paying, clock]
  rw [started]
  decide +kernel

theorem interceptor_refines_memo_sample :
    ((paying " order ").serve none performNone ((paying " order ").serve none performNone unpaid).world).value =
      .ok ⟨201, "paid", true⟩ := by
  have first : (paying " order ").successful none performNone unpaid = [⟨"order", 86400000, 201, "paid"⟩] := by
    decide +kernel
  have served : Served none performNone ((paying " order ").successful none performNone unpaid ++ [])
      ((paying " order ").serve none performNone unpaid).world :=
    .next _ (.start rfl) (paying_calm unpaid rfl)
  have named : (paying " order ").call.key = some "order" := by decide +kernel
  rw [first] at served
  exact ((interceptor_refines_memo served (paying " order ") (paying_calm _ (by decide +kernel))).2.1
    ⟨"order", 86400000, 201, "paid"⟩ (List.mem_cons_self ..) named (by decide +kernel)).1

end PayBridge
