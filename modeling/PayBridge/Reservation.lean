import PayBridge.KeyService

namespace PayBridge
open Store Await

section
variable {Op : Type} {Ans : Op → Type} {Body App Env Req : Type}

/-- The thread whose reservation a key carries: the last to have created a record under it. -/
def holder (key : String) : List (Nat × KeyEntry Body Ans) → Option Nat
  | [] => none
  | (i, ⟨.inl (.create k _), .ok _⟩) :: earlier => if k = key then some i else holder key earlier
  | _ :: earlier => holder key earlier

/-- The record a request has created or completed last, its handler's steps apart. -/
def claimed : KeyHistory Body Ans → Option (IdempotencyKey Body)
  | ⟨.inl (.create _ _), .ok row⟩ :: _ => some row
  | ⟨.inl (.update _ _ _), .ok row⟩ :: _ => some row
  | ⟨.inr _, _⟩ :: earlier => claimed earlier
  | _ => none

/-- Whether a request is executing its handler. -/
def executing (t : KeyThread Op Ans Body Req) : Bool :=
  match t.prog.waiting with
  | some (.inr _) => true
  | _ => false

def onTime (s : KeyService Op Ans Body App Req) (i : Nat) : Bool :=
  match s.threads[i]?, claimed (own i s.log) with
  | some t, some row => !executing t || decide (s.world.clock ≤ row.expiresAt)
  | _, _ => true

/-- No handler runs on beyond the expiry of its own reservation. -/
def OnTime (s : KeyService Op Ans Body App Req) : Prop := ∀ i < s.threads.length, onTime s i = true

/-- The record a step of the interceptor would delete or overwrite. -/
def KeyOp.rewrites : KeyOp Body → Option String
  | .update key _ _ => some key
  | .delete key => some key
  | _ => none

/-- What thread `i` is about to delete or overwrite, if the step goes through, is
an expired record or its own reservation. -/
def rewritesOwn (s : KeyService Op Ans Body App Req) (i : Nat) (env : KeyEnv Env) : Bool :=
  match s.threads[i]?.bind fun t => t.prog.waiting with
  | some (.inl op) => match op.rewrites.bind fun key => s.world.keys.find key with
    | some row => env.fails || row.expiresAt < (s.world.later env.elapsed).clock || holder row.key s.log = some i
    | none => true
  | _ => true

def RewritesOwn (s : KeyService Op Ans Body App Req) : KeyStep Env Req → Prop
  | .spawn _ => True
  | .advance i env => rewritesOwn s i env = true

instance (s : KeyService Op Ans Body App Req) : Decidable (OnTime s) :=
  inferInstanceAs (Decidable (∀ i < s.threads.length, onTime s i = true))

instance (s : KeyService Op Ans Body App Req) : (step : KeyStep Env Req) → Decidable (RewritesOwn s step)
  | .spawn _ => isTrue trivial
  | .advance i env => inferInstanceAs (Decidable (rewritesOwn s i env = true))

/-- Mutual exclusion under one key: one handler at a time, and none while a
stored response is in force. -/
structure Exclusive (routes : Routes Op Ans Body App Env Req) (s : KeyService Op Ans Body App Req) : Prop where
  one : ∀ (i j : Nat) t u key, s.threads[i]? = some t → s.threads[j]? = some u → (routes.call t.request).key = some key →
    (routes.call u.request).key = some key → executing t → executing u → i = j
  kept : ∀ j key statusCode body row, (j, ⟨.inl (.update key statusCode body), .ok row⟩) ∈ s.log →
    s.world.clock ≤ row.expiresAt → ∀ (i : Nat) t, s.threads[i]? = some t → (routes.call t.request).key = some key →
    ¬ executing t

theorem claimed_lifted {row : IdempotencyKey Body} {earlier : KeyHistory Body Ans}
    (held : claimed earlier = some row) (inner : History Ans) : claimed (lifted inner ++ earlier) = some row := by
  induction inner with
  | nil => exact held
  | cons entry inner ih => exact ih

/-- A request with a key that executes its handler has reserved the key. -/
theorem InterceptCourse.reserved {idempotencyTtlSeconds : Option String} {call : IdempotentCall Op Ans Body}
    {spec : HandlerSpec Op Ans Body} {seen : KeyHistory Body Ans} {op : Op} {key : String}
    (course : InterceptCourse idempotencyTtlSeconds call spec seen (.inr op)) (named : call.key = some key) :
    ∃ row expiresAt, claimed seen = some row ∧ (⟨.inl (.create key expiresAt), .ok row⟩ : KeyEntry Body Ans) ∈ seen := by
  cases course with
  | free blank _ =>
    rw [named] at blank
    cases blank
  | handle named' handling _ =>
    cases named.symm.trans named'
    obtain ⟨_⟩ := handling
    exact ⟨_, _, claimed_lifted rfl _, List.mem_append_right _ (List.mem_cons_self ..)⟩

/-- Nothing is asked once a response has been stored. -/
theorem InterceptCourse.not_after_update {idempotencyTtlSeconds : Option String} {call : IdempotentCall Op Ans Body}
    {spec : HandlerSpec Op Ans Body} {seen : KeyHistory Body Ans} {op : KeyOp Body ⊕ Op}
    (course : InterceptCourse idempotencyTtlSeconds call spec seen op) {key : String} {statusCode : Nat} {body : Body}
    {answer : Except JsError (IdempotencyKey Body)} :
    (⟨.inl (.update key statusCode body), answer⟩ : KeyEntry Body Ans) ∉ seen := by
  have before : ∀ {key : String} {started : Timestamp} {seen : KeyHistory Body Ans},
      Cleared key started seen → ∀ {k : String} {n : Nat} {b : Body} {a : Except JsError (IdempotencyKey Body)},
      (⟨.inl (.update k n b), a⟩ : KeyEntry Body Ans) ∉ seen := by
    intro key started seen cleared k n b a
    cases cleared <;> simp
  have inside : ∀ {key : String} {inner : History Ans} {seen : KeyHistory Body Ans},
      Handling idempotencyTtlSeconds key inner seen →
      ∀ {k : String} {n : Nat} {b : Body} {a : Except JsError (IdempotencyKey Body)},
      (⟨.inl (.update k n b), a⟩ : KeyEntry Body Ans) ∉ seen := by
    intro key inner seen handling k n b a member
    obtain ⟨cleared⟩ := handling
    rcases List.mem_append.mp member with new | old
    · obtain ⟨_, _, same, _⟩ := mem_lifted new
      cases same
    · rcases List.mem_cons.mp old with same | older
      · cases same
      · exact before cleared older
  cases course with
  | free _ _ =>
    intro member
    obtain ⟨_, _, same, _⟩ := mem_lifted member
    cases same
  | reserve _ cleared => exact before cleared
  | handle _ handling _ => exact inside handling
  | keep _ handling _ => exact inside handling
  | release _ handling _ => exact inside handling
  | _ => simp

/-- A claimed record is expired, or still the record under its key and reserved by nobody since. -/
def Held (s : KeyService Op Ans Body App Req) (j : Nat) (row : IdempotencyKey Body) : Prop :=
  row.expiresAt < s.world.clock ∨ holder row.key s.log = some j ∧
    ∃ current, s.world.keys.find row.key = some current ∧ current.expiresAt = row.expiresAt

/-- A reservation holds on while its key is left alone. -/
theorem Held.quiet {s s' : KeyService Op Ans Body App Req} {j : Nat} {row : IdempotencyKey Body} (held : Held s j row)
    (forward : s.world.clock ≤ s'.world.clock) (sameHolder : holder row.key s'.log = holder row.key s.log)
    (sameRecord : s'.world.keys.find row.key = s.world.keys.find row.key) : Held s' j row := by
  rcases held with expired | ⟨holds, current, found, same⟩
  · exact Or.inl (lt_of_lt_of_le expired forward)
  · exact Or.inr ⟨sameHolder.trans holds, current, sameRecord.trans found, same⟩

variable {idempotencyTtlSeconds : Option String} {routes : Routes Op Ans Body App Env Req} {world : KeyWorld Body App}
variable {meets : KeyService Op Ans Body App Req → KeyStep Env Req → Prop} {s : KeyService Op Ans Body App Req}

/-- What a step that deletes or overwrites a record finds. -/
theorem RewritesOwn.found {i : Nat} {env : KeyEnv Env} {request : Req} {op : KeyOp Body}
    {next : op.Answer → Prog (KeyOp Body ⊕ Op) (Both (@KeyOp.Answer Body) Ans) (Except JsError (HttpReply Body))}
    {key : String} {row : IdempotencyKey Body} (own : RewritesOwn s (.advance i env))
    (stands : s.threads[i]? = some ⟨request, .await (.inl op) next⟩) (rewrites : op.rewrites = some key)
    (spared : env.fails = false) (found : s.world.keys.find key = some row) :
    row.expiresAt < (s.world.later env.elapsed).clock ∨ holder key s.log = some i := by
  have named : row.key = key := Table.find_key found
  simp only [RewritesOwn, rewritesOwn, stands, Option.bind_some, Prog.waiting, rewrites, found, spared, named,
    Bool.false_or, Bool.or_eq_true, decide_eq_true_eq] at own
  exact own

/-- A record stays as it is under all steps but those that rewrite it. -/
theorem KeyPerformed.keeps_record {perform : Env → (op : Op) → App → Ans op × App} {env : KeyEnv Env} {w after : KeyWorld Body App}
    {op : KeyOp Body ⊕ Op} {answer : Both (@KeyOp.Answer Body) Ans op} (did : KeyPerformed perform env w op answer after)
    {key : String} {row : IdempotencyKey Body} (found : w.keys.find key = some row) :
    after.keys.find key = some row ∨ ∃ keyOp, op = .inl keyOp ∧ keyOp.rewrites = some key ∧ env.fails = false := by
  cases did with
  | @created k _ keys free find =>
    have other : key ≠ k := by
      rintro rfl
      cases free.symm.trans found
    exact Or.inl (by simp [find, other, found])
  | @updated k _ _ _ keys spared _ find =>
    by_cases same : key = k
    · exact Or.inr ⟨_, rfl, congrArg some same.symm, spared⟩
    · exact Or.inl (by simp [find, same, found])
  | @deleted k _ keys spared _ find =>
    by_cases same : key = k
    · exact Or.inr ⟨_, rfl, congrArg some same.symm, spared⟩
    · exact Or.inl (by simp [find, same, found])
  | _ => exact Or.inl found

theorem holder_other {key k : String} (other : k ≠ key) (i : Nat) (expiresAt : Option Timestamp)
    (answer : Except JsError (IdempotencyKey Body)) (log : List (Nat × KeyEntry Body Ans)) :
    holder key ((i, ⟨.inl (.create k expiresAt), answer⟩) :: log) = holder key log := by
  cases answer with
  | error err => rfl
  | ok row => simp only [holder, if_neg other]

section
variable {i : Nat} {env : KeyEnv Env} {request : Req} {op : KeyOp Body ⊕ Op} {answer : Both (@KeyOp.Answer Body) Ans op}
variable {next : Both (@KeyOp.Answer Body) Ans op →
  Prog (KeyOp Body ⊕ Op) (Both (@KeyOp.Answer Body) Ans) (Except JsError (HttpReply Body))}
variable {w : KeyWorld Body App} {row : IdempotencyKey Body}

/-- The reservation a request has after a step of its own: the one it had, or a new one. -/
theorem Held.mine (met : RewritesOwn s (.advance i env)) (stands : s.threads[i]? = some ⟨request, .await op next⟩)
    (did : KeyPerformed routes.perform env (s.world.later env.elapsed) op answer w)
    (before : claimed (own i s.log) = some row → Held s i row) (claim : claimed (⟨op, answer⟩ :: own i s.log) = some row) :
    Held ⟨w, s.threads.set i ⟨request, next answer⟩, (i, ⟨op, answer⟩) :: s.log⟩ i row := by
  cases did with
  | handled => exact (before claim).quiet (s.world.le_later env.elapsed) rfl rfl
  | @created key expiresAt keys free find =>
    cases claim
    refine Or.inr ⟨by simp [holder], ⟨key, none, none, expiresAt⟩, ?_, rfl⟩
    simp [find]
  | @updated key statusCode body old keys spared found find =>
    cases claim
    have named : old.key = key := Table.find_key found
    rcases met.found stands rfl spared found with expired | holds
    · exact Or.inl expired
    · refine Or.inr ⟨?_, old.respond statusCode body, ?_, rfl⟩
      · rw [IdempotencyKey.respond_key, named]
        exact holds
      · simp [find, named]
  | _ => cases claim

/-- A step of another request leaves a reservation as it is, or has met it expired. -/
theorem Held.other {j : Nat} (held : Held s j row) (apart : j ≠ i) (met : RewritesOwn s (.advance i env))
    (stands : s.threads[i]? = some ⟨request, .await op next⟩)
    (did : KeyPerformed routes.perform env (s.world.later env.elapsed) op answer w) :
    Held ⟨w, s.threads.set i ⟨request, next answer⟩, (i, ⟨op, answer⟩) :: s.log⟩ j row := by
  have forward : s.world.clock ≤ (s.world.later env.elapsed).clock := s.world.le_later env.elapsed
  cases did with
  | @created key expiresAt keys free find =>
    by_cases same : row.key = key
    · -- a reserved key is not free
      rcases held with expired | ⟨_, current, found, _⟩
      · exact Or.inl (lt_of_lt_of_le expired forward)
      · rw [same] at found
        cases free.symm.trans found
    · exact held.quiet forward (holder_other (Ne.symm same) _ _ _ _) (by simp [find, same])
  | @updated key statusCode body old keys spared found find =>
    by_cases same : row.key = key
    · rcases held with expired | ⟨holds, current, stands', expires⟩
      · exact Or.inl (lt_of_lt_of_le expired forward)
      · rw [same] at stands'
        cases found.symm.trans stands'
        refine Or.inr ⟨holds, old.respond statusCode body, ?_, expires⟩
        simp [find, same]
    · exact held.quiet forward rfl (by simp [find, same])
  | @deleted key old keys spared found find =>
    by_cases same : row.key = key
    · rcases held with expired | ⟨holds, current, stands', expires⟩
      · exact Or.inl (lt_of_lt_of_le expired forward)
      · rw [same] at stands' holds
        cases found.symm.trans stands'
        rcases met.found stands rfl spared found with expired | mineToo
        · left
          rw [← expires]
          exact expired
        · cases holds.symm.trans mineToo
          exact absurd rfl apart
    · exact held.quiet forward rfl (by simp [find, same])
  | _ => exact held.quiet forward rfl rfl

end

/-- Every reservation holds in every state, whatever the order of steps, as long as
each deletes and overwrites only expired records and its own reservation. -/
theorem held (only : ∀ s step, meets s step → RewritesOwn s step)
    (reach : Reach (idempotent idempotencyTtlSeconds routes) meets world s) {j : Nat} {row : IdempotencyKey Body}
    (claim : claimed (own j s.log) = some row) : Held s j row := by
  induction reach using key_steps routes.keep_any generalizing j row with
  | initial => cases claim
  | spawn s request before met ih _ => exact ih claim
  | advance s i env request op next answer w before met stands course did ih _ =>
    by_cases mine : j = i
    · subst mine
      rw [own_cons_self] at claim
      exact .mine (only _ _ met) stands did ih claim
    · rw [own_cons_ne (Ne.symm mine)] at claim
      exact (ih claim).other mine (only _ _ met) stands did

/-- A record that a request has created or completed is one under its key. -/
theorem recorded_key (reach : Reach (idempotent idempotencyTtlSeconds routes) meets world s) {j : Nat} {key : String}
    {row : IdempotencyKey Body} {entry : KeyEntry Body Ans} (member : (j, entry) ∈ s.log)
    (shape : (∃ expiresAt, entry = ⟨.inl (.create key expiresAt), .ok row⟩) ∨
      ∃ statusCode body, entry = ⟨.inl (.update key statusCode body), .ok row⟩) : row.key = key := by
  induction reach using key_steps routes.keep_any with
  | initial => cases member
  | spawn s request before met ih _ => exact ih member
  | advance s i env request op next answer w before met stands course did ih _ =>
    rcases List.mem_cons.mp member with new | old
    · cases new
      rcases shape with ⟨expiresAt, same⟩ | ⟨statusCode, body, same⟩
      · cases same
        cases did with
        | created free find => rfl
      · cases same
        cases did with
        | updated spared found find =>
          have named := Table.find_key found
          exact named
    · exact ih old

/-- A request that executes its handler stands at a step of it. -/
theorem executing_course (reach : Reach (idempotent idempotencyTtlSeconds routes) meets world s) {i : Nat}
    {t : KeyThread Op Ans Body Req} (atI : s.threads[i]? = some t) (executes : executing t = true) :
    ∃ op, InterceptCourse idempotencyTtlSeconds (routes.call t.request) anyHandler (own i s.log) (.inr op) := by
  unfold executing at executes
  split at executes
  · next op waits => exact ⟨op, (reach.obeys (idempotent_course routes.keep_any) atI).asked waits⟩
  · cases executes

/-- A request that executes its handler in time holds its key. -/
theorem executing_holds (only : ∀ s step, meets s step → RewritesOwn s step)
    (reach : Reach (idempotent idempotencyTtlSeconds routes) meets world s) (time : OnTime s) {i : Nat}
    {t : KeyThread Op Ans Body Req} {key : String} (atI : s.threads[i]? = some t)
    (named : (routes.call t.request).key = some key) (executes : executing t = true) : holder key s.log = some i := by
  obtain ⟨op, course⟩ := executing_course reach atI executes
  obtain ⟨row, expiresAt, claim, created⟩ := course.reserved named
  have key_ : row.key = key := recorded_key reach (mem_own.mp created) (Or.inl ⟨expiresAt, rfl⟩)
  have alive : s.world.clock ≤ row.expiresAt := by
    have inside : i < s.threads.length := (List.getElem?_eq_some_iff.mp atI).1
    have checked := time i inside
    simpa [onTime, atI, claim, executes] using checked
  rcases held only reach claim with expired | ⟨holds, _⟩
  · exact absurd alive (not_le.mpr expired)
  · rw [← key_]
    exact holds

/-- A request that has stored its response has done nothing since. -/
theorem claimed_of_update (reach : Reach (idempotent idempotencyTtlSeconds routes) meets world s) {j : Nat} {key : String}
    {statusCode : Nat} {body : Body} {row : IdempotencyKey Body}
    (member : (j, ⟨.inl (.update key statusCode body), .ok row⟩) ∈ s.log) : claimed (own j s.log) = some row := by
  obtain ⟨u, atJ⟩ : ∃ u, s.threads[j]? = some u := ⟨_, List.getElem?_eq_getElem (reach.log_thread member)⟩
  have follows := reach.follows (idempotent_course routes.keep_any) atJ
  have seen := mem_own.mpr member
  cases history : own j s.log with
  | nil =>
    rw [history] at seen
    cases seen
  | cons last earlier =>
    rw [history] at seen follows
    rcases List.mem_cons.mp seen with rfl | older
    · rfl
    · exact absurd older follows.1.not_after_update

/-- Under one key at most one handler runs at a time, and none while a stored
response is in force, in every run in which every deletion and every stored
response meets an expired record or the request's own reservation. -/
theorem exclusive
    (reach : Reach (idempotent idempotencyTtlSeconds routes)
      (fun s step => OnTime (s.step (idempotent idempotencyTtlSeconds routes) step) ∧ RewritesOwn s step) world s) :
    Exclusive routes s := by
  have only : ∀ s step, (fun s step => OnTime (s.step (idempotent idempotencyTtlSeconds routes) step) ∧ RewritesOwn s step)
      s step → RewritesOwn s step := fun _ _ met => met.2
  have time : OnTime s := by
    cases reach with
    | start =>
      intro i inside
      cases inside
    | next _ met => exact met.1
  refine ⟨?_, ?_⟩
  · intro i j t u key atI atJ namedI namedJ executesI executesJ
    have holdsI := executing_holds only reach time atI namedI executesI
    have holdsJ := executing_holds only reach time atJ namedJ executesJ
    exact Option.some.inj (holdsI.symm.trans holdsJ)
  · intro j key statusCode body row stored inForce i t atI named executes
    have holdsI := executing_holds only reach time atI named executes
    have key_ : row.key = key := recorded_key reach stored (Or.inr ⟨statusCode, body, rfl⟩)
    rcases held only reach (claimed_of_update reach stored) with expired | ⟨holdsJ, _⟩
    · exact absurd inForce (not_le.mpr expired)
    · -- the request itself would have to execute after its own stored response
      rw [key_] at holdsJ
      cases holdsI.symm.trans holdsJ
      obtain ⟨op, course⟩ := executing_course reach atI executes
      exact course.not_after_update (mem_own.mpr stored)

/-- A table with one record under a key. -/
def oneKey (key : String) (expiresAt : Timestamp) : Table (@IdempotencyKey.key Unit) :=
  ⟨[⟨key, none, none, expiresAt⟩], List.nodup_singleton _⟩

/-- A route whose handler takes one step; the requests are their keys. -/
def plainRoutes : Routes Unit (fun _ => Unit) Unit Unit Unit String where
  perform _ _ app := ((), app)
  call key := ⟨some key, 200, Async.request () .ok⟩

def calmKeyEnv : KeyEnv Unit := ⟨0, false, "", ()⟩

theorem exclusive_sample : Exclusive plainRoutes
    ((Pool.initial ⟨oneKey "key" 0, 1, ()⟩).run (idempotent none plainRoutes)
      [.spawn "key", .advance 0 calmKeyEnv, .advance 0 calmKeyEnv, .advance 0 calmKeyEnv, .advance 0 calmKeyEnv,
        .advance 0 calmKeyEnv, .spawn " key ", .advance 1 calmKeyEnv, .advance 1 calmKeyEnv, .advance 0 calmKeyEnv,
        .advance 0 calmKeyEnv]) := by
  have met : (Pool.initial ⟨oneKey "key" 0, 1, ()⟩).Meets (idempotent none plainRoutes)
      (fun s step => OnTime (s.step (idempotent none plainRoutes) step) ∧ RewritesOwn s step)
      [.spawn "key", .advance 0 calmKeyEnv, .advance 0 calmKeyEnv, .advance 0 calmKeyEnv, .advance 0 calmKeyEnv,
        .advance 0 calmKeyEnv, .spawn " key ", .advance 1 calmKeyEnv, .advance 1 calmKeyEnv, .advance 0 calmKeyEnv,
        .advance 0 calmKeyEnv] := by
    decide +kernel
  exact exclusive (.run .start met)

/-- Two requests that both find the same expired record both run their
handlers: the second deletes the reservation of the first. -/
theorem expired_record_lets_two_in : ¬ ∀ (idempotencyTtlSeconds : Option String) (world : KeyWorld Unit Unit)
    (s : KeyService Unit (fun _ => Unit) Unit Unit String),
    Reach (idempotent idempotencyTtlSeconds plainRoutes)
      (fun s step => OnTime (s.step (idempotent idempotencyTtlSeconds plainRoutes) step)) world s →
    Exclusive plainRoutes s := by
  intro always
  let events : List (KeyStep Unit String) := [.spawn "key", .spawn "key",
    .advance 0 calmKeyEnv, .advance 0 calmKeyEnv, .advance 0 calmKeyEnv,
    .advance 1 calmKeyEnv, .advance 1 calmKeyEnv, .advance 1 calmKeyEnv,
    .advance 0 calmKeyEnv, .advance 0 calmKeyEnv, .advance 1 calmKeyEnv, .advance 1 calmKeyEnv]
  have met : (Pool.initial ⟨oneKey "key" 0, 1, ()⟩).Meets (idempotent none plainRoutes)
      (fun s step => OnTime (s.step (idempotent none plainRoutes) step)) events := by
    decide +kernel
  have both : ∀ i < 2, (((Pool.initial ⟨oneKey "key" 0, 1, ()⟩).run (idempotent none plainRoutes) events).threads[i]?.map
      fun t => ((plainRoutes.call t.request).key, executing t)) = some (some "key", true) := by
    decide +kernel
  obtain ⟨t, atT, sameT⟩ := Option.map_eq_some_iff.mp (both 0 (by decide))
  obtain ⟨u, atU, sameU⟩ := Option.map_eq_some_iff.mp (both 1 (by decide))
  obtain ⟨namedT, executesT⟩ := Prod.mk.inj sameT
  obtain ⟨namedU, executesU⟩ := Prod.mk.inj sameU
  have same := (always none ⟨oneKey "key" 0, 1, ()⟩ _ (.run .start met)).one 0 1 t u "key" atT atU namedT namedU
    executesT executesU
  cases same

end

end PayBridge
