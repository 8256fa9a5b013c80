import PayBridge.Reservation

namespace PayBridge
open Store Await

section
variable {Op : Type} {Ans : Op → Type} {Body App Env Req : Type}

/-- When a request arrived: the first time it has read, not the one that it compares an
expiry with after its look-up. -/
def arrival (seen : KeyHistory Body Ans) : Option Timestamp :=
  match seen.getLast? with
  | some ⟨.inl .now, started⟩ => some started
  | _ => none

/-- Whether a request has stored a response under a key. -/
def storedBy (j : Nat) (key : String) (log : List (Nat × KeyEntry Body Ans)) : Bool :=
  log.any fun entry => match entry with
    | (i, ⟨.inl (.update k _ _), .ok _⟩) => i = j && k = key
    | _ => false

/-- Whether a request that arrived by a time looks its key up unharmed, after
request `j` has stored its response, and finishes looking by that time. -/
def looksUpStored (routes : Routes Op Ans Body App Env Req) (j n : Nat) (key : String) (expiresAt : Timestamp)
    (s : KeyService Op Ans Body App Req) (i : Nat) (env : KeyEnv Env) : Bool :=
  match s.threads[i]? with
  | none => true
  | some t =>
    if n ≤ i ∧ (routes.call t.request).key = some key ∧ ((arrival (own i s.log)).any fun started => started ≤ expiresAt) then
      match t.prog.waiting with
      | some (.inl (.findUnique _)) => !env.fails && decide ((s.world.later env.elapsed).clock ≤ expiresAt) && storedBy j key s.log
      | some (.inl .now) => decide ((s.world.later env.elapsed).clock ≤ expiresAt)
      | _ => true
    else true

/-- The condition on the steps that follow a delivered response. -/
def LooksUpStored (routes : Routes Op Ans Body App Env Req) (j n : Nat) (key : String) (expiresAt : Timestamp)
    (s : KeyService Op Ans Body App Req) : KeyStep Env Req → Prop
  | .spawn _ => True
  | .advance i env => looksUpStored routes j n key expiresAt s i env = true

instance (routes : Routes Op Ans Body App Env Req) (j n : Nat) (key : String) (expiresAt : Timestamp)
    (s : KeyService Op Ans Body App Req) : (step : KeyStep Env Req) → Decidable (LooksUpStored routes j n key expiresAt s step)
  | .spawn _ => isTrue trivial
  | .advance i env => inferInstanceAs (Decidable (looksUpStored routes j n key expiresAt s i env = true))

/-- A request that is answered by replay alone: its handler does not run, and
its answer, due after three steps, is the stored one. -/
structure Replayed (s : KeyService Op Ans Body App Req) (i : Nat) (t : KeyThread Op Ans Body Req) (statusCode : Nat)
    (body : Body) : Prop where
  handlerless : ∀ op answer, (i, ⟨.inr op, answer⟩) ∉ s.log
  idle : ¬ executing t
  answer : ∀ reply, t.prog.result = some reply → reply = .ok ⟨statusCode, body, true⟩
  prompt : t.prog.result = none → (own i s.log).length < 3

/-- The record that a delivered response is stored in. -/
structure Stored (row : IdempotencyKey Body) (expiresAt : Timestamp) (statusCode : Nat) (body : Body) : Prop where
  expires : row.expiresAt = expiresAt
  status : row.statusCode = some statusCode
  body : row.responseBody = some body

/-- What a request sees on its way to a replay. -/
inductive OnReplay (key : String) (expiresAt : Timestamp) (statusCode : Nat) (body : Body) : KeyHistory Body Ans → Prop
  | fresh : OnReplay key expiresAt statusCode body []
  | arrived {started} : OnReplay key expiresAt statusCode body [⟨.inl .now, started⟩]
  | found {started row} : Stored row expiresAt statusCode body →
      OnReplay key expiresAt statusCode body [⟨.inl (.findUnique key), .ok (some row)⟩, ⟨.inl .now, started⟩]
  | checked {started row now} : Stored row expiresAt statusCode body → now ≤ expiresAt →
      OnReplay key expiresAt statusCode body
        [⟨.inl .now, now⟩, ⟨.inl (.findUnique key), .ok (some row)⟩, ⟨.inl .now, started⟩]

theorem arrival_cons (entry : KeyEntry Body Ans) {seen : KeyHistory Body Ans} (some : seen ≠ []) :
    arrival (entry :: seen) = arrival seen := by
  cases seen with
  | nil => exact absurd rfl some
  | cons last earlier => simp only [arrival, List.getLast?_cons_cons]

variable {key : String} {expiresAt : Timestamp} {statusCode : Nat} {body : Body}
variable {idempotencyTtlSeconds : Option String} {call : IdempotentCall Op Ans Body} {spec : HandlerSpec Op Ans Body}

/-- On the way to a replay nothing has been reserved. -/
theorem OnReplay.not_created {seen : KeyHistory Body Ans} (replay : OnReplay key expiresAt statusCode body seen) {k : String}
    {expires : Option Timestamp} {answer : Except JsError (IdempotencyKey Body)} :
    (⟨.inl (.create k expires), answer⟩ : KeyEntry Body Ans) ∉ seen := by
  cases replay <;> simp

theorem OnReplay.not_handling {seen : KeyHistory Body Ans} (replay : OnReplay key expiresAt statusCode body seen) {k : String}
    {inner : History Ans} : ¬ Handling idempotencyTtlSeconds k inner seen := by
  intro handling
  obtain ⟨_, _, created⟩ := handling.created
  exact replay.not_created created

theorem OnReplay.not_cleared {seen : KeyHistory Body Ans} (replay : OnReplay key expiresAt statusCode body seen) {k : String}
    {started : Timestamp} : ¬ Cleared k started seen := by
  intro cleared
  generalize same : seen = seen' at cleared
  cases replay <;> cases cleared <;> cases same

/-- What a request on its way to a replay asks next. -/
theorem OnReplay.asks {seen : KeyHistory Body Ans} {op : KeyOp Body ⊕ Op}
    (replay : OnReplay key expiresAt statusCode body seen) (named : call.key = some key)
    (course : InterceptCourse idempotencyTtlSeconds call spec seen op) :
    seen = [] ∧ op = .inl .now ∨ (∃ started, seen = [⟨.inl .now, started⟩] ∧ op = .inl (.findUnique key)) ∨
      ∃ started row, Stored row expiresAt statusCode body ∧
        seen = [⟨.inl (.findUnique key), .ok (some row)⟩, ⟨.inl .now, started⟩] ∧ op = .inl .now := by
  cases course with
  | free blank _ =>
    rw [named] at blank
    cases blank
  | start _ => exact Or.inl ⟨rfl, rfl⟩
  | lookup named' =>
    cases named.symm.trans named'
    exact Or.inr (Or.inl ⟨_, rfl, rfl⟩)
  | check _ =>
    cases replay with
    | found stored => exact Or.inr (Or.inr ⟨_, _, stored, rfl, rfl⟩)
  | clear _ expired =>
    cases replay with
    | checked stored inTime =>
      rw [stored.expires] at expired
      exact absurd inTime (not_le.mpr expired)
  | reserve _ cleared => exact absurd cleared replay.not_cleared
  | handle _ handling _ => exact absurd handling replay.not_handling
  | keep _ handling _ => exact absurd handling replay.not_handling
  | release _ handling _ => exact absurd handling replay.not_handling

/-- A request that ends on its way to a replay has replayed the stored response. -/
theorem OnReplay.ends {seen : KeyHistory Body Ans} {reply : Except JsError (HttpReply Body)}
    (replay : OnReplay key expiresAt statusCode body seen) (named : call.key = some key) (real : statusCode ≠ 0)
    (ended : Answered idempotencyTtlSeconds call spec seen reply) : reply = .ok ⟨statusCode, body, true⟩ := by
  cases ended with
  | free blank _ =>
    rw [named] at blank
    cases blank
  | freeFailed blank _ =>
    rw [named] at blank
    cases blank
  | unread _ => cases replay
  | @replayed _ _ row _ kept _ _ held =>
    cases replay with
    | checked stored _ =>
      cases held.symm.trans stored.body
      have code : replayStatus call.statusCode row = statusCode := by
        simp only [replayStatus, stored.status, if_neg real]
      rw [code]
  | inFlight _ _ empty =>
    cases replay with
    | checked stored _ =>
      rw [stored.body] at empty
      cases empty
  | taken _ _ _ => exact absurd (List.mem_cons_self ..) replay.not_created
  | unreserved _ _ _ => exact absurd (List.mem_cons_self ..) replay.not_created
  | kept _ _ _ =>
    generalize same : (_ :: _ : KeyHistory Body Ans) = seen at replay
    cases replay <;> cases same
  | released _ _ _ =>
    generalize same : (_ :: _ : KeyHistory Body Ans) = seen at replay
    cases replay <;> cases same

/-- A request that is about to store its response has reserved its key. -/
theorem InterceptCourse.keeping {seen : KeyHistory Body Ans}
    (course : InterceptCourse idempotencyTtlSeconds call spec seen (.inl (.update key statusCode body))) :
    call.key = some key ∧ ∃ row expires, claimed seen = some row ∧
      (⟨.inl (.create key expires), .ok row⟩ : KeyEntry Body Ans) ∈ seen := by
  cases course with
  | keep named handling _ =>
    obtain ⟨_⟩ := handling
    exact ⟨named, _, _, claimed_lifted rfl _, List.mem_append_right _ (List.mem_cons_self ..)⟩

variable {routes : Routes Op Ans Body App Env Req} {world : KeyWorld Body App} {j n : Nat}
variable {meets : KeyService Op Ans Body App Req → KeyStep Env Req → Prop} {s : KeyService Op Ans Body App Req}

theorem thread_course (reach : Reach (idempotent idempotencyTtlSeconds routes) meets world s) {i : Nat} {request : Req}
    {op : KeyOp Body ⊕ Op} {next : Both (@KeyOp.Answer Body) Ans op →
      Prog (KeyOp Body ⊕ Op) (Both (@KeyOp.Answer Body) Ans) (Except JsError (HttpReply Body))}
    (stands : s.threads[i]? = some ⟨request, .await op next⟩) :
    InterceptCourse idempotencyTtlSeconds (routes.call request) anyHandler (own i s.log) op :=
  (reach.obeys (idempotent_course routes.keep_any) stands).1

/-- A request that has stored its response asks nothing more. -/
theorem stored_rests (reach : Reach (idempotent idempotencyTtlSeconds routes) meets world s) {i : Nat} {request : Req}
    {op : KeyOp Body ⊕ Op} {next : Both (@KeyOp.Answer Body) Ans op →
      Prog (KeyOp Body ⊕ Op) (Both (@KeyOp.Answer Body) Ans) (Except JsError (HttpReply Body))}
    (stands : s.threads[i]? = some ⟨request, .await op next⟩) {answer : Except JsError (IdempotencyKey Body)} :
    (i, ⟨.inl (.update key statusCode body), answer⟩) ∉ s.log := by
  intro stored
  exact (thread_course reach stands).not_after_update (mem_own.mpr stored)

/-- The states after request `j` has delivered its response, seen by the
requests from `n` on: the response is about to be stored, or has been tried to
be; once stored it stays until it expires; and whoever arrives in time is on
the way to a replay. -/
structure Delivered (idempotencyTtlSeconds : Option String) (routes : Routes Op Ans Body App Env Req)
    (world : KeyWorld Body App) (j n : Nat) (key : String) (expiresAt : Timestamp) (statusCode : Nat) (body : Body)
    (s : KeyService Op Ans Body App Req) : Prop where
  reach : Reach (idempotent idempotencyTtlSeconds routes) (fun s step => RewritesOwn s step) world s
  early : j < n
  there : n ≤ s.threads.length
  phase : (∃ request next row, s.threads[j]? = some ⟨request, .await (.inl (.update key statusCode body)) next⟩ ∧
      claimed (own j s.log) = some row ∧ row.key = key ∧ row.expiresAt = expiresAt) ∨
    ∃ answer, (j, ⟨.inl (.update key statusCode body), answer⟩) ∈ s.log
  only : ∀ k code b answer, (j, ⟨.inl (.update k code b), answer⟩) ∈ s.log → k = key ∧ code = statusCode ∧ b = body
  stored : ∀ row, (j, ⟨.inl (.update key statusCode body), .ok row⟩) ∈ s.log →
    expiresAt < s.world.clock ∨ s.world.keys.find key = some row ∧ Stored row expiresAt statusCode body
  replaying : ∀ i t, n ≤ i → s.threads[i]? = some t → (routes.call t.request).key = some key →
    (∀ started, arrival (own i s.log) = some started → started ≤ expiresAt) →
    OnReplay key expiresAt statusCode body (own i s.log)

section
variable {i : Nat} {env : KeyEnv Env} {request : Req} {op : KeyOp Body ⊕ Op} {answer : Both (@KeyOp.Answer Body) Ans op}
variable {next : Both (@KeyOp.Answer Body) Ans op →
  Prog (KeyOp Body ⊕ Op) (Both (@KeyOp.Answer Body) Ans) (Except JsError (HttpReply Body))}
variable {w : KeyWorld Body App}

/-- A stored response stays, or has expired, whatever step comes next. -/
theorem Delivered.stored_step (delivered : Delivered idempotencyTtlSeconds routes world j n key expiresAt statusCode body s)
    (met : RewritesOwn s (.advance i env)) (stands : s.threads[i]? = some ⟨request, .await op next⟩)
    (did : KeyPerformed routes.perform env (s.world.later env.elapsed) op answer w) {row : IdempotencyKey Body}
    (member : (j, ⟨.inl (.update key statusCode body), .ok row⟩) ∈ (i, (⟨op, answer⟩ : KeyEntry Body Ans)) :: s.log) :
    expiresAt < w.clock ∨ w.keys.find key = some row ∧ Stored row expiresAt statusCode body := by
  have forward : s.world.clock ≤ w.clock := by
    rw [did.clock]
    exact s.world.le_later env.elapsed
  rcases List.mem_cons.mp member with new | old
  · cases new
    rcases delivered.phase with ⟨_, _, reserved, _, claim, keyed, expires⟩ | ⟨_, before⟩
    · cases did with
      | updated spared found find =>
        rcases held (fun _ _ own => own) delivered.reach claim with expired | ⟨_, current, stood, same⟩
        · rw [expires] at expired
          exact Or.inl (lt_of_lt_of_le expired forward)
        · rw [keyed] at stood
          cases found.symm.trans stood
          refine Or.inr ⟨by simp [find], ?_, rfl, rfl⟩
          rw [IdempotencyKey.respond_expiresAt, same, expires]
    · exact absurd before (stored_rests delivered.reach stands)
  · rcases delivered.stored row old with expired | ⟨found, kept⟩
    · exact Or.inl (lt_of_lt_of_le expired forward)
    · rcases did.keeps_record found with stays | ⟨keyOp, rfl, rewrites, spared⟩
      · exact Or.inr ⟨stays, kept⟩
      · -- only an expired record could be rewritten by another request
        left
        rcases met.found stands rewrites spared found with gone | holds
        · rw [did.clock, ← kept.expires]
          exact gone
        · rcases held (fun _ _ own => own) delivered.reach (claimed_of_update delivered.reach old) with gone | ⟨holdsJ, _⟩
          · rw [kept.expires] at gone
            exact lt_of_lt_of_le gone forward
          · rw [Table.find_key found] at holdsJ
            cases holds.symm.trans holdsJ
            exact absurd old (stored_rests delivered.reach stands)

theorem storedBy_iff {log : List (Nat × KeyEntry Body Ans)} : storedBy j key log = true ↔
    ∃ code b row, (j, (⟨.inl (.update key code b), .ok row⟩ : KeyEntry Body Ans)) ∈ log := by
  rw [storedBy, List.any_eq_true]
  constructor
  · rintro ⟨entry, member, stored⟩
    split at stored
    · next i k code b row =>
      have same : i = j ∧ k = key := by simpa using stored
      obtain ⟨rfl, rfl⟩ := same
      exact ⟨code, b, row, member⟩
    · cases stored
  · rintro ⟨code, b, row, member⟩
    exact ⟨_, member, by simp⟩

/-- A request on its way to a replay stays on it. -/
theorem Delivered.replay_step (delivered : Delivered idempotencyTtlSeconds routes world j n key expiresAt statusCode body s)
    (inTurn : looksUpStored routes j n key expiresAt s i env = true) (late : n ≤ i)
    (stands : s.threads[i]? = some ⟨request, .await op next⟩) (named : (routes.call request).key = some key)
    (inTime : ∀ started, arrival ((⟨op, (performIdempotent routes.perform env op s.world).1⟩ : KeyEntry Body Ans) :: own i s.log) =
      some started → started ≤ expiresAt) :
    OnReplay key expiresAt statusCode body (⟨op, (performIdempotent routes.perform env op s.world).1⟩ :: own i s.log) := by
  have before : ∀ started, arrival (own i s.log) = some started → started ≤ expiresAt := by
    intro started arrived
    refine inTime started ?_
    rw [arrival_cons]
    · exact arrived
    · intro empty
      rw [empty] at arrived
      cases arrived
  have replay := delivered.replaying i _ late stands named before
  rcases replay.asks named (thread_course delivered.reach stands) with ⟨empty, rfl⟩ | ⟨started, one, rfl⟩ |
    ⟨started, row, stored, two, rfl⟩
  · rw [empty]
    exact .arrived
  · have arrived : arrival (own i s.log) = some started := by
      rw [one]
      rfl
    have onTime := before started arrived
    simp only [looksUpStored, stands, late, named, arrived, Option.any_some, onTime, decide_true, and_self, if_true,
      Prog.waiting, Bool.and_eq_true, Bool.not_eq_true', decide_eq_true_eq] at inTurn
    obtain ⟨⟨spared, alive⟩, kept⟩ := inTurn
    obtain ⟨code, b, row, member⟩ := storedBy_iff.mp kept
    obtain ⟨_, rfl, rfl⟩ := delivered.only _ _ _ _ member
    have shown : (performIdempotent routes.perform env (.inl (.findUnique key)) s.world).1 = .ok (s.world.keys.find key) := by
      simp [performIdempotent, performKey, spared]
    rcases delivered.stored row member with expired | ⟨found, stored⟩
    · have passed := s.world.le_later env.elapsed
      exact absurd (lt_of_lt_of_le expired passed) (not_lt.mpr alive)
    · rw [one, shown, found]
      exact .found stored
  · have arrived : arrival (own i s.log) = some started := by
      rw [two]
      rfl
    have onTime := before started arrived
    simp only [looksUpStored, stands, late, named, arrived, Option.any_some, onTime, decide_true, and_self, if_true,
      Prog.waiting, decide_eq_true_eq] at inTurn
    rw [two]
    exact .checked stored inTurn

/-- What one step keeps. -/
theorem Delivered.advance (delivered : Delivered idempotencyTtlSeconds routes world j n key expiresAt statusCode body s)
    (met : RewritesOwn s (.advance i env)) (inTurn : looksUpStored routes j n key expiresAt s i env = true)
    (stands : s.threads[i]? = some ⟨request, .await op next⟩) :
    Delivered idempotencyTtlSeconds routes world j n key expiresAt statusCode body
      (s.resume (idempotent idempotencyTtlSeconds routes) i request op next env) := by
  have did := keyPerformed routes.perform env op s.world
  have reached : Reach (idempotent idempotencyTtlSeconds routes) (fun s step => RewritesOwn s step) world
      (s.resume (idempotent idempotencyTtlSeconds routes) i request op next env) := by
    rw [← Pool.step_advance (idempotent idempotencyTtlSeconds routes) stands env]
    exact .next delivered.reach met
  refine ⟨reached, delivered.early, ?_, ?_, ?_, ?_, ?_⟩
  · simp only [Pool.resume, List.length_set]
    exact delivered.there
  · rcases delivered.phase with ⟨request', next', row, standing, claim, keyed, expires⟩ | ⟨answer, tried⟩
    · by_cases same : i = j
      · subst same
        cases stands.symm.trans standing
        exact Or.inr ⟨_, List.mem_cons_self ..⟩
      · left
        refine ⟨request', next', row, ?_, ?_, keyed, expires⟩
        · simp only [Pool.resume, List.getElem?_set_ne same]
          exact standing
        · simp only [Pool.resume, own_cons_ne same]
          exact claim
    · exact Or.inr ⟨answer, List.mem_cons_of_mem _ tried⟩
  · intro k code b answer member
    rcases List.mem_cons.mp member with new | old
    · cases new
      rcases delivered.phase with ⟨_, _, _, standing, _⟩ | ⟨_, tried⟩
      · cases stands.symm.trans standing
        exact ⟨rfl, rfl, rfl⟩
      · exact absurd tried (stored_rests delivered.reach stands)
    · exact delivered.only k code b answer old
  · intro row member
    exact delivered.stored_step met stands did member
  · intro i' t late atI named inTime
    rcases Pool.set_thread atI with ⟨rfl, rfl⟩ | ⟨other, old⟩
    · simp only [Pool.resume, own_cons_self] at inTime ⊢
      exact delivered.replay_step inTurn late stands named inTime
    · simp only [Pool.resume, own_cons_ne (Ne.symm other)] at inTime ⊢
      exact delivered.replaying i' t late old named inTime

end

theorem Delivered.spawn (delivered : Delivered idempotencyTtlSeconds routes world j n key expiresAt statusCode body s)
    (request : Req) : Delivered idempotencyTtlSeconds routes world j n key expiresAt statusCode body
      { s with threads := s.threads ++ [⟨request, (idempotent idempotencyTtlSeconds routes).start request⟩] } := by
  have own : RewritesOwn s (.spawn request : KeyStep Env Req) := trivial
  refine ⟨.next delivered.reach own, delivered.early, ?_, ?_, delivered.only, delivered.stored, ?_⟩
  · have there := delivered.there
    simp only [List.length_append, List.length_singleton]
    omega
  · rcases delivered.phase with ⟨request', next, row, standing, rest⟩ | tried
    · left
      refine ⟨request', next, row, ?_, rest⟩
      have inside := (List.getElem?_eq_some_iff.mp standing).1
      rw [List.getElem?_append_left inside]
      exact standing
    · exact Or.inr tried
  · intro i t late atI named inTime
    rcases Pool.spawn_thread (idempotent idempotencyTtlSeconds routes) atI with old | ⟨rfl, rfl⟩
    · exact delivered.replaying i t late old named inTime
    · rw [delivered.reach.own_fresh]
      exact .fresh

theorem Delivered.run (delivered : Delivered idempotencyTtlSeconds routes world j n key expiresAt statusCode body s)
    (events : List (KeyStep Env Req)) (met : s.Meets (idempotent idempotencyTtlSeconds routes)
      (fun s step => RewritesOwn s step ∧ LooksUpStored routes j n key expiresAt s step) events) :
    Delivered idempotencyTtlSeconds routes world j n key expiresAt statusCode body
      (s.run (idempotent idempotencyTtlSeconds routes) events) := by
  induction events generalizing s with
  | nil => exact delivered
  | cons event rest ih =>
    obtain ⟨⟨own, inTurn⟩, later⟩ := met
    have next : Delivered idempotencyTtlSeconds routes world j n key expiresAt statusCode body
        (s.step (idempotent idempotencyTtlSeconds routes) event) := by
      rcases s.step_cases (idempotent idempotencyTtlSeconds routes) event with ⟨request, rfl, same⟩ |
        ⟨i, env, request, op, next, rfl, stands, same⟩ | same
      · rw [same]
        exact delivered.spawn request
      · rw [same]
        exact delivered.advance own inTurn stands
      · rw [same]
        exact delivered
    exact ih next later

/-- The status a response is stored with. -/
def storedStatus (statusCode : Nat) : Nat := if statusCode = 0 then 200 else statusCode

/-- The operation stores no other status than the response's own. -/
def KeepsStatus (call : IdempotentCall Op Ans Body) (_seen : KeyHistory Body Ans) (op : KeyOp Body ⊕ Op) : Prop :=
  ∀ key code body, op = .inl (.update key code body) → code = storedStatus call.statusCode

theorem intercept_status (idempotencyTtlSeconds : Option String) (routes : Routes Op Ans Body App Env Req) (request : Req) :
    ((idempotent idempotencyTtlSeconds routes).start request).Obeys (KeepsStatus (routes.call request)) (fun _ _ => True) [] := by
  have handler : ∀ (returns : KeyHistory Body Ans → Body → Prop) (throws : KeyHistory Body Ans → JsError → Prop) seen,
      (∀ later body, returns later body) → (∀ later err, throws later err) →
      Async.Obeys (KeepsStatus (routes.call request)) returns throws (Async.lift (routes.call request).handle) seen := by
    intro returns throws seen ret thr
    exact Async.obeys_lift (routes.keep_any request) seen (fun _ _ _ _ _ _ same => by cases same)
      (fun _ body _ => ret _ body) fun _ err _ => thr _ err
  have proceeds : ∀ key expires seen, Async.Obeys (KeepsStatus (routes.call request)) (fun _ _ => True) (fun _ _ => True)
      (do reserve key expires; executeAndCache key (routes.call request)) seen := by
    intro key expires seen
    refine (Async.obeys_bind _ _ _).mpr ((Async.obeys_tryCatch _ _ _).mpr ((Async.obeys_bind _ _ _).mpr
      ((Async.obeys_request _ _ _).mpr ⟨fun _ _ _ same => by (cases same), ?_⟩)))
    rintro (err | row)
    · by_cases unique : err.code = some "P2002"
      · simp only [if_pos unique]
        trivial
      · simp only [if_neg unique]
        trivial
    · refine (Async.obeys_bind _ _ _).mpr ((Async.obeys_tryCatch _ _ _).mpr (handler _ _ _ ?_ ?_))
      · intro later body
        refine (Async.obeys_bind _ _ _).mpr (obeys_swallow _ _ _ ?_ fun _ => trivial)
        intro _ _ _ same
        cases same
        rfl
      · intro later err
        exact (Async.obeys_bind _ _ _).mpr (obeys_swallow _ _ _ (fun _ _ _ same => by cases same) fun _ => trivial)
  have whole : Async.Obeys (KeepsStatus (routes.call request)) (fun _ _ => True) (fun _ _ => True)
      (intercept idempotencyTtlSeconds (routes.call request)) [] := by
    unfold intercept
    split
    · exact (Async.obeys_bind _ _ _).mpr (handler _ _ _ (fun _ _ => trivial) fun _ _ => trivial)
    · next key _ =>
      refine (Async.obeys_bind _ _ _).mpr ((Async.obeys_request _ _ _).mpr ⟨fun _ _ _ same => by (cases same), fun started => ?_⟩)
      refine (Async.obeys_bind _ _ _).mpr ((Async.obeys_bind _ _ _).mpr ((Async.obeys_request _ _ _).mpr
        ⟨fun _ _ _ same => by (cases same), ?_⟩))
      rintro (err | existing)
      · trivial
      cases existing with
      | none => exact proceeds key _ _
      | some row =>
        refine (Async.obeys_bind _ _ _).mpr ((Async.obeys_request _ _ _).mpr ⟨fun _ _ _ same => by (cases same), fun now => ?_⟩)
        by_cases expired : row.expiresAt < now
        · simp only [if_pos expired]
          exact (Async.obeys_bind _ _ _).mpr (obeys_swallow _ _ _ (fun _ _ _ same => by cases same) fun _ => proceeds key _ _)
        · simp only [if_neg expired]
          cases row.responseBody <;> trivial
  exact Prog.Obeys.mono (fun _ _ asks => asks) (fun _ _ _ => trivial) whole

/-- Request `j` has delivered its response and is about to store it, in a record
that it has reserved until a time. -/
structure Delivering (s : KeyService Op Ans Body App Req) (j : Nat) (key : String) (reply : HttpReply Body)
    (expiresAt : Timestamp) : Prop where
  stands : ∃ request code body next, s.threads[j]? = some ⟨request, .await (.inl (.update key code body)) next⟩ ∧
    ∀ answer, (next answer).result = some (.ok reply)
  reserved : (claimed (own j s.log)).map (fun row => row.expiresAt) = some expiresAt

theorem Delivering.delivered {reply : HttpReply Body} (reach : Reach (idempotent idempotencyTtlSeconds routes)
      (fun s step => RewritesOwn s step) world s) (delivering : Delivering s j key reply expiresAt) :
    Delivered idempotencyTtlSeconds routes world j s.threads.length key expiresAt (storedStatus reply.statusCode) reply.body s := by
  obtain ⟨request, code, body, next, stands, answered⟩ := delivering.stands
  obtain ⟨row, claim, expires⟩ := Option.map_eq_some_iff.mp delivering.reserved
  have course := reach.obeys (idempotent_course routes.keep_any) stands
  obtain ⟨named, row', _, claim', created⟩ := course.1.keeping
  cases claim.symm.trans claim'
  have keyed : row.key = key := recorded_key reach (mem_own.mp created) (Or.inl ⟨_, rfl⟩)
  have sent : body = reply.body ∧ (routes.call request).statusCode = reply.statusCode := by
    have ended := (course.2 (.error conflictInFlight)).ended (answered (.error conflictInFlight))
    generalize history : (_ :: _ : KeyHistory Body Ans) = seen at ended
    generalize outcome : (.ok reply : Except JsError (HttpReply Body)) = result at ended
    cases ended with
    | free blank _ =>
      rw [named] at blank
      cases blank
    | kept _ _ _ =>
      cases history
      cases outcome
      exact ⟨rfl, rfl⟩
    | replayed _ _ _ => cases history
    | _ => cases outcome
  have coded : code = storedStatus (routes.call request).statusCode := by
    have asked := (reach.obeys (intercept_status idempotencyTtlSeconds routes) stands).1
    exact asked _ _ _ rfl
  rw [sent.2] at coded
  obtain ⟨rfl, _⟩ := sent
  subst coded
  have inside := (List.getElem?_eq_some_iff.mp stands).1
  refine ⟨reach, inside, Nat.le_refl _, Or.inl ⟨request, next, row, stands, claim, keyed, expires⟩, ?_, ?_, ?_⟩
  · intro k code b answer stored
    exact absurd stored (stored_rests reach stands)
  · intro row stored
    exact absurd stored (stored_rests reach stands)
  · intro i t late atI
    have bound := (List.getElem?_eq_some_iff.mp atI).1
    omega

/-- A delivered response is what every later request in time is answered with,
in every run in which such a request looks its key up only after the response
has been stored, and every deletion and every stored response meets an expired
record or the request's own reservation. -/
theorem delivered_is_replayed {reply : HttpReply Body} (real : reply.statusCode ≠ 0)
    (reach : Reach (idempotent idempotencyTtlSeconds routes) (fun s step => RewritesOwn s step) world s)
    (delivering : Delivering s j key reply expiresAt) {events : List (KeyStep Env Req)}
    (met : s.Meets (idempotent idempotencyTtlSeconds routes)
      (fun v step => RewritesOwn v step ∧ LooksUpStored routes j s.threads.length key expiresAt v step) events)
    {i : Nat} {t : KeyThread Op Ans Body Req} {started : Timestamp} (late : s.threads.length ≤ i)
    (atI : (s.run (idempotent idempotencyTtlSeconds routes) events).threads[i]? = some t)
    (named : (routes.call t.request).key = some key)
    (arrived : arrival (own i (s.run (idempotent idempotencyTtlSeconds routes) events).log) = some started)
    (inTime : started ≤ expiresAt) :
    Replayed (s.run (idempotent idempotencyTtlSeconds routes) events) i t reply.statusCode reply.body := by
  have delivered := (delivering.delivered reach).run events met
  have code : storedStatus reply.statusCode = reply.statusCode := if_neg real
  rw [code] at delivered
  have replay := delivered.replaying i t late atI named fun first same => by
    cases arrived.symm.trans same
    exact inTime
  have course := delivered.reach.obeys (idempotent_course routes.keep_any) atI
  refine ⟨?_, ?_, ?_, ?_⟩
  · intro op answer member
    have seen := mem_own.mpr member
    generalize own i (s.run (idempotent idempotencyTtlSeconds routes) events).log = history at replay seen
    cases replay <;> simp at seen
  · intro executes
    unfold executing at executes
    split at executes
    · next op waits =>
      rcases replay.asks named (course.asked waits) with ⟨_, same⟩ | ⟨_, _, same⟩ | ⟨_, _, _, _, same⟩ <;> cases same
    · cases executes
  · intro answer ended
    exact replay.ends named real (course.ended ended)
  · intro going
    cases waits : t.prog.waiting with
    | none =>
      cases prog : t.prog with
      | done value =>
        rw [prog] at going
        cases going
      | await op next =>
        rw [prog] at waits
        cases waits
    | some op =>
      rcases replay.asks named (course.asked waits) with ⟨seen, _⟩ | ⟨_, seen, _⟩ | ⟨_, _, _, seen, _⟩ <;>
        simp [seen]

end

/-- The state in which the first request under a key has delivered its response. -/
def atDelivery : KeyService Unit (fun _ => Unit) Unit Unit String :=
  (Pool.initial ⟨Table.empty, 1, ()⟩).run (idempotent none plainRoutes)
    [.spawn "key", .advance 0 calmKeyEnv, .advance 0 calmKeyEnv, .advance 0 calmKeyEnv, .advance 0 calmKeyEnv]

theorem atDelivery_reach : Reach (idempotent none plainRoutes) (fun s step => RewritesOwn s step) ⟨Table.empty, 1, ()⟩ atDelivery :=
  Reach.run .start (by decide +kernel)

theorem atDelivery_delivering : Delivering atDelivery 0 "key" ⟨200, (), false⟩ 86400001 :=
  ⟨⟨"key", 200, (), _, rfl, fun answer => by cases answer <;> rfl⟩, by decide +kernel⟩

/-- The response is stored, and then a second request arrives. -/
def storedFirst : List (KeyStep Unit String) :=
  [.advance 0 calmKeyEnv, .spawn " key ", .advance 1 calmKeyEnv, .advance 1 calmKeyEnv, .advance 1 calmKeyEnv]

theorem delivered_is_replayed_sample : ∃ t, (atDelivery.run (idempotent none plainRoutes) storedFirst).threads[1]? = some t ∧
    Replayed (atDelivery.run (idempotent none plainRoutes) storedFirst) 1 t 200 () := by
  have met : atDelivery.Meets (idempotent none plainRoutes)
      (fun v step => RewritesOwn v step ∧ LooksUpStored plainRoutes 0 atDelivery.threads.length "key" 86400001 v step)
      storedFirst := by decide +kernel
  have late : atDelivery.threads.length ≤ 1 := by decide +kernel
  have arrived : arrival (own 1 (atDelivery.run (idempotent none plainRoutes) storedFirst).log) = some 1 := by decide +kernel
  exact ⟨_, rfl, delivered_is_replayed (by decide) atDelivery_reach atDelivery_delivering met late rfl (by decide +kernel)
    arrived (by decide)⟩

/-- A second request that comes before the response is stored is turned away. -/
theorem delivered_not_replayed :
    ¬ ∀ (idempotencyTtlSeconds : Option String) (world : KeyWorld Unit Unit)
      (s : KeyService Unit (fun _ => Unit) Unit Unit String) (j : Nat) (key : String) (reply : HttpReply Unit)
      (expiresAt : Timestamp) (events : List (KeyStep Unit String)) (i : Nat)
      (t : KeyThread Unit (fun _ => Unit) Unit String) (started : Timestamp), reply.statusCode ≠ 0 →
      Reach (idempotent idempotencyTtlSeconds plainRoutes) (fun s step => RewritesOwn s step) world s →
      Delivering s j key reply expiresAt →
      s.Meets (idempotent idempotencyTtlSeconds plainRoutes) (fun v step => RewritesOwn v step) events → s.threads.length ≤ i →
      (s.run (idempotent idempotencyTtlSeconds plainRoutes) events).threads[i]? = some t →
      (plainRoutes.call t.request).key = some key →
      arrival (own i (s.run (idempotent idempotencyTtlSeconds plainRoutes) events).log) = some started → started ≤ expiresAt →
      Replayed (s.run (idempotent idempotencyTtlSeconds plainRoutes) events) i t reply.statusCode reply.body := by
  intro always
  let events : List (KeyStep Unit String) := [.spawn "key", .advance 1 calmKeyEnv, .advance 1 calmKeyEnv, .advance 1 calmKeyEnv]
  have met : atDelivery.Meets (idempotent none plainRoutes) (fun v step => RewritesOwn v step) events := by decide +kernel
  have replayed := always none ⟨Table.empty, 1, ()⟩ atDelivery 0 "key" ⟨200, (), false⟩ 86400001 events 1 _ 1 (by decide)
    atDelivery_reach atDelivery_delivering met (by decide +kernel) rfl (by decide +kernel) (by decide +kernel) (by decide)
  have refused := replayed.answer (.error conflictInFlight) rfl
  cases refused

end PayBridge
