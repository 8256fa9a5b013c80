import PayBridge.Reservation
import PayBridge.Api

namespace PayBridge
open Store Await

section
variable {Op : Type} {Ans : Op → Type} {Body App Env Req σ τ : Type}

/-- The thread whose response the record under a key carries. -/
def author (key : String) : List (Nat × KeyEntry Body Ans) → Option Nat
  | [] => none
  | (i, ⟨.inl (.update k _ _), .ok _⟩) :: earlier => if k = key then some i else author key earlier
  | (_, ⟨.inl (.create k _), .ok _⟩) :: earlier => if k = key then none else author key earlier
  | _ :: earlier => author key earlier

/-- What held when thread `i` last looked its key up or tried to reserve it. -/
def meeting {α : Type} (i : Nat) (f : List (Nat × KeyEntry Body Ans) → α) : List (Nat × KeyEntry Body Ans) → Option α
  | [] => none
  | (j, ⟨.inl (.findUnique _), _⟩) :: earlier => if j = i then some (f earlier) else meeting i f earlier
  | (j, ⟨.inl (.create _ _), _⟩) :: earlier => if j = i then some (f earlier) else meeting i f earlier
  | _ :: earlier => meeting i f earlier

/-- The key whose record a step runs into. -/
def KeyOp.runsInto : KeyOp Body → Option String
  | .findUnique key => some key
  | .create key _ => some key
  | .update key _ _ => some key
  | _ => none

/-- Whether a step may run into a record, by the request that created it: where
it finds or leaves a response both must be of one scope, where it is only
refused both must be of one tenant. An expired record refuses only a creation. -/
def mayMeet [DecidableEq σ] [DecidableEq τ] (scope : Req → σ) (tenant : Req → τ) (request owner : Req)
    (row : IdempotencyKey Body) (clock : Timestamp) : KeyOp Body → Bool
  | .findUnique _ => row.expiresAt < clock ||
      (if row.responseBody.isSome then decide (scope owner = scope request) else decide (tenant owner = tenant request))
  | .create _ _ => tenant owner = tenant request
  | .update _ _ _ => row.expiresAt < clock || scope owner = scope request
  | _ => true

def meetsOwn [DecidableEq σ] [DecidableEq τ] (scope : Req → σ) (tenant : Req → τ) (s : KeyService Op Ans Body App Req)
    (i : Nat) (env : KeyEnv Env) : Bool :=
  match s.threads[i]? with
  | none => true
  | some t => match t.prog.waiting with
    | some (.inl op) => match op.runsInto with
      | none => true
      | some key => match s.world.keys.find key, (holder key s.log).bind fun h => s.threads[h]? with
        | some row, some u =>
          env.fails || mayMeet scope tenant t.request u.request row (s.world.later env.elapsed).clock op
        | _, _ => true
    | _ => true

/-- Requests run only into records they may meet. -/
def MeetsOwn [DecidableEq σ] [DecidableEq τ] (scope : Req → σ) (tenant : Req → τ) (s : KeyService Op Ans Body App Req) :
    KeyStep Env Req → Prop
  | .spawn _ => True
  | .advance i env => meetsOwn scope tenant s i env = true

instance [DecidableEq σ] [DecidableEq τ] (scope : Req → σ) (tenant : Req → τ) (s : KeyService Op Ans Body App Req) :
    (step : KeyStep Env Req) → Decidable (MeetsOwn scope tenant s step)
  | .spawn _ => isTrue trivial
  | .advance i env => inferInstanceAs (Decidable (meetsOwn scope tenant s i env = true))

/-- A request of a scope. -/
def OfScope (scope : Req → σ) (s : KeyService Op Ans Body App Req) (j : Nat) (own : σ) : Prop :=
  ∃ u, s.threads[j]? = some u ∧ scope u.request = own

/-- A request of a scope that has been answered with a body of its own. -/
def Produced (scope : Req → σ) (s : KeyService Op Ans Body App Req) (j : Nat) (own : σ) (body : Body) : Prop :=
  ∃ u original, s.threads[j]? = some u ∧ scope u.request = own ∧ u.prog.result = some (.ok original) ∧
    original.replayed = false ∧ original.body = body

/-- Isolation: a replayed response was produced by the request of the same scope
that stored it, and a request refused for its key ran into the record of a
request of its own tenant. -/
structure Isolated (scope : Req → σ) (tenant : Req → τ) (routes : Routes Op Ans Body App Env Req)
    (s : KeyService Op Ans Body App Req) : Prop where
  replay : ∀ (i : Nat) t reply, s.threads[i]? = some t → t.prog.result = some (.ok reply) → reply.replayed = true →
    ∃ key j, (routes.call t.request).key = some key ∧ meeting i (author key) s.log = some (some j) ∧
      Produced scope s j (scope t.request) reply.body
  conflict : ∀ (i : Nat) t err key, s.threads[i]? = some t → t.prog.result = some (.error err) → err.kind = .http 409 →
    (routes.call t.request).key = some key →
    (∀ expiresAt row, (i, ⟨.inl (.create key expiresAt), .ok row⟩) ∉ s.log) →
    ∃ j, meeting i (holder key) s.log = some (some j) ∧ OfScope tenant s j (tenant t.request)

/-- A later state: every request is still there, and answered as it was. -/
def Grows (s s' : KeyService Op Ans Body App Req) : Prop :=
  ∀ (j : Nat) u, s.threads[j]? = some u → ∃ u', s'.threads[j]? = some u' ∧ u'.request = u.request ∧
    ∀ answer, u.prog.result = some answer → u'.prog.result = some answer

theorem grows_spawn (s : KeyService Op Ans Body App Req) (new : KeyThread Op Ans Body Req) :
    Grows s { s with threads := s.threads ++ [new] } := by
  intro j u atJ
  obtain ⟨inside, _⟩ := List.getElem?_eq_some_iff.mp atJ
  exact ⟨u, by rw [List.getElem?_append_left inside]; exact atJ, rfl, fun _ same => same⟩

theorem grows_advance {s : KeyService Op Ans Body App Req} {i : Nat} {request : Req} {op : KeyOp Body ⊕ Op}
    {next : Both (@KeyOp.Answer Body) Ans op →
      Prog (KeyOp Body ⊕ Op) (Both (@KeyOp.Answer Body) Ans) (Except JsError (HttpReply Body))}
    (stands : s.threads[i]? = some ⟨request, .await op next⟩) (answer : Both (@KeyOp.Answer Body) Ans op)
    (w : KeyWorld Body App) (log : List (Nat × KeyEntry Body Ans)) :
    Grows s ⟨w, s.threads.set i ⟨request, next answer⟩, log⟩ := by
  intro j u atJ
  by_cases same : i = j
  · subst same
    cases stands.symm.trans atJ
    obtain ⟨inside, _⟩ := List.getElem?_eq_some_iff.mp atJ
    refine ⟨⟨request, next answer⟩, by simp [inside], rfl, ?_⟩
    intro result impossible
    cases impossible
  · exact ⟨u, by rw [List.getElem?_set_ne same]; exact atJ, rfl, fun _ same => same⟩

section
variable {scope : Req → σ} {s s' : KeyService Op Ans Body App Req} {j : Nat} {own : σ}

theorem OfScope.mono (grows : Grows s s') (of : OfScope scope s j own) : OfScope scope s' j own := by
  obtain ⟨u, atJ, same⟩ := of
  obtain ⟨u', atJ', request, _⟩ := grows j u atJ
  exact ⟨u', atJ', by rw [request]; exact same⟩

theorem Produced.mono {body : Body} (grows : Grows s s') (produced : Produced scope s j own body) :
    Produced scope s' j own body := by
  obtain ⟨u, original, atJ, same, answered, fresh, body⟩ := produced
  obtain ⟨u', atJ', request, keeps⟩ := grows j u atJ
  exact ⟨u', original, atJ', by rw [request]; exact same, keeps _ answered, fresh, body⟩

end

theorem meeting_other {α : Type} {i j : Nat} (other : j ≠ i) (f : List (Nat × KeyEntry Body Ans) → α)
    (entry : KeyEntry Body Ans) (log : List (Nat × KeyEntry Body Ans)) :
    meeting i f ((j, entry) :: log) = meeting i f log := by
  obtain ⟨op, answer⟩ := entry
  cases op with
  | inr op => rfl
  | inl op => cases op <;> simp [meeting, other]

/-- What a request has met under its key was its tenant's, and a response it
found there was produced in its scope. -/
def MetOwn (scope : Req → σ) (tenant : Req → τ) (s : KeyService Op Ans Body App Req) (i : Nat) (request : Req)
    (key : String) (row : IdempotencyKey Body) : Prop :=
  (row.responseBody = none → ∃ h, meeting i (holder key) s.log = some (some h) ∧ OfScope tenant s h (tenant request)) ∧
    ∀ body, row.responseBody = some body →
      ∃ j, meeting i (author key) s.log = some (some j) ∧ Produced scope s j (scope request) body

theorem MetOwn.mono {scope : Req → σ} {tenant : Req → τ} {s s' : KeyService Op Ans Body App Req} {i : Nat} {request : Req}
    {key : String} {row : IdempotencyKey Body} (met : MetOwn scope tenant s i request key row) (grows : Grows s s')
    (sameHolder : meeting i (holder key) s'.log = meeting i (holder key) s.log)
    (sameAuthor : meeting i (author key) s'.log = meeting i (author key) s.log) :
    MetOwn scope tenant s' i request key row := by
  refine ⟨fun pending => ?_, fun body stored => ?_⟩
  · obtain ⟨h, met, of⟩ := met.1 pending
    exact ⟨h, sameHolder.trans met, of.mono grows⟩
  · obtain ⟨j, met, produced⟩ := met.2 body stored
    exact ⟨j, sameAuthor.trans met, produced.mono grows⟩

/-- The record under a key has a creator, and its response, while it is in
force, was produced in the creator's scope. -/
def RecordOwned (scope : Req → σ) (s : KeyService Op Ans Body App Req) (key : String) (row : IdempotencyKey Body) : Prop :=
  ∃ h u, holder key s.log = some h ∧ s.threads[h]? = some u ∧
    ∀ body, row.responseBody = some body → row.expiresAt < s.world.clock ∨
      ∃ j, author key s.log = some j ∧ Produced scope s j (scope u.request) body

theorem RecordOwned.mono {scope : Req → σ} {s s' : KeyService Op Ans Body App Req} {key : String}
    {row : IdempotencyKey Body} (owned : RecordOwned scope s key row) (grows : Grows s s')
    (forward : s.world.clock ≤ s'.world.clock) (sameHolder : holder key s'.log = holder key s.log)
    (sameAuthor : author key s'.log = author key s.log) : RecordOwned scope s' key row := by
  obtain ⟨h, u, holds, atH, stored⟩ := owned
  obtain ⟨u', atH', request, _⟩ := grows h u atH
  refine ⟨h, u', sameHolder.trans holds, atH', fun body kept => ?_⟩
  rcases stored body kept with expired | ⟨j, wrote, produced⟩
  · exact Or.inl (lt_of_lt_of_le expired forward)
  · rw [request]
    exact Or.inr ⟨j, sameAuthor.trans wrote, produced.mono grows⟩

/-- The invariant of a run in which requests meet only their own scope's records. -/
structure Scoped (scope : Req → σ) (tenant : Req → τ) (s : KeyService Op Ans Body App Req) : Prop where
  records : ∀ key row, s.world.keys.find key = some row → RecordOwned scope s key row
  found : ∀ (i : Nat) t key row rest, s.threads[i]? = some t →
    own i s.log = ⟨.inl (.findUnique key), .ok (some row)⟩ :: rest →
    row.expiresAt < s.world.clock ∨ MetOwn scope tenant s i t.request key row
  checked : ∀ (i : Nat) t key row now rest, s.threads[i]? = some t →
    own i s.log = ⟨.inl .now, now⟩ :: ⟨.inl (.findUnique key), .ok (some row)⟩ :: rest →
    row.expiresAt < now ∨ MetOwn scope tenant s i t.request key row
  refused : ∀ (i : Nat) t key expiresAt err rest, s.threads[i]? = some t →
    own i s.log = ⟨.inl (.create key expiresAt), .error err⟩ :: rest → err.code = some "P2002" →
    ∃ h, meeting i (holder key) s.log = some (some h) ∧ OfScope tenant s h (tenant t.request)

section
variable [DecidableEq σ] [DecidableEq τ] {scope : Req → σ} {tenant : Req → τ} {s : KeyService Op Ans Body App Req}
variable {i : Nat} {env : KeyEnv Env} {request : Req}

/-- What a step runs into is a record it may meet. -/
theorem MeetsOwn.may {op : KeyOp Body}
    {next : op.Answer → Prog (KeyOp Body ⊕ Op) (Both (@KeyOp.Answer Body) Ans) (Except JsError (HttpReply Body))}
    {key : String} {row : IdempotencyKey Body} {h : Nat} {u : KeyThread Op Ans Body Req}
    (met : MeetsOwn scope tenant s (.advance i env)) (stands : s.threads[i]? = some ⟨request, .await (.inl op) next⟩)
    (runs : op.runsInto = some key) (spared : env.fails = false) (found : s.world.keys.find key = some row)
    (holds : holder key s.log = some h) (atH : s.threads[h]? = some u) :
    mayMeet scope tenant request u.request row (s.world.later env.elapsed).clock op = true := by
  simp only [MeetsOwn, meetsOwn, stands, Prog.waiting, runs, found, holds, Option.bind_some, atH, spared, Bool.false_or] at met
  exact met

/-- What a look-up finds. -/
theorem Scoped.find (inv : Scoped scope tenant s) {key : String}
    {next : Except JsError (Option (IdempotencyKey Body)) →
      Prog (KeyOp Body ⊕ Op) (Both (@KeyOp.Answer Body) Ans) (Except JsError (HttpReply Body))}
    (stands : s.threads[i]? = some ⟨request, .await (.inl (.findUnique key)) next⟩)
    (met : MeetsOwn scope tenant s (.advance i env)) (spared : env.fails = false) {row : IdempotencyKey Body}
    (found : s.world.keys.find key = some row) {s' : KeyService Op Ans Body App Req} (grows : Grows s s')
    (log : s'.log = (i, ⟨.inl (.findUnique key), .ok (some row)⟩) :: s.log)
    (clock : s'.world.clock = (s.world.later env.elapsed).clock) :
    row.expiresAt < s'.world.clock ∨ MetOwn scope tenant s' i request key row := by
  obtain ⟨h, u, holds, atH, stored⟩ := inv.records key row found
  have may := met.may stands rfl spared found holds atH
  rw [clock]
  by_cases expired : row.expiresAt < (s.world.later env.elapsed).clock
  · exact Or.inl expired
  · refine Or.inr ⟨fun pending => ?_, fun body kept => ?_⟩
    · have same : tenant u.request = tenant request := by simpa [mayMeet, expired, pending] using may
      refine ⟨h, by simp [log, meeting, holds], OfScope.mono grows ⟨u, atH, same⟩⟩
    · have same : scope u.request = scope request := by simpa [mayMeet, expired, kept] using may
      rcases stored body kept with past | ⟨j, wrote, produced⟩
      · exact absurd (lt_of_lt_of_le past (s.world.le_later env.elapsed)) expired
      · rw [same] at produced
        exact ⟨j, by simp [log, meeting, wrote], produced.mono grows⟩

variable {idempotencyTtlSeconds : Option String} {routes : Routes Op Ans Body App Env Req} {world : KeyWorld Body App}
variable {meets : KeyService Op Ans Body App Req → KeyStep Env Req → Prop}

omit [DecidableEq σ] [DecidableEq τ] in
/-- A request that has stored a response is answered with it. -/
theorem updated_reply (reach : Reach (idempotent idempotencyTtlSeconds routes) meets world s)
    {t : KeyThread Op Ans Body Req} (atI : s.threads[i]? = some t) {key : String} {statusCode : Nat} {body : Body}
    {answer : Except JsError (IdempotencyKey Body)} {rest : KeyHistory Body Ans}
    (last : own i s.log = ⟨.inl (.update key statusCode body), answer⟩ :: rest) :
    ∃ original, t.prog.result = some (.ok original) ∧ original.replayed = false ∧ original.body = body := by
  have obeys := reach.obeys (idempotent_course routes.keep_any) atI
  generalize own i s.log = seen at obeys last
  cases running : t.prog with
  | await op next =>
    rw [running, last] at obeys
    exact absurd (List.mem_cons_self ..) obeys.1.not_after_update
  | done reply =>
    rw [running] at obeys
    have answered : Answered idempotencyTtlSeconds (routes.call t.request) anyHandler seen reply := obeys
    cases answered with
    | kept named handling returns =>
      cases last
      exact ⟨_, rfl, rfl, rfl⟩
    | free blank returns =>
      have inside := @List.mem_cons_self _ (⟨.inl (.update key statusCode body), answer⟩ : KeyEntry Body Ans) rest
      rw [← last] at inside
      obtain ⟨_, _, same, _⟩ := mem_lifted inside
      cases same
    | freeFailed blank throws =>
      have inside := @List.mem_cons_self _ (⟨.inl (.update key statusCode body), answer⟩ : KeyEntry Body Ans) rest
      rw [← last] at inside
      obtain ⟨_, _, same, _⟩ := mem_lifted inside
      cases same
    | _ => cases last

/-- A step leaves every record with its creator and the scope of its response. -/
theorem Scoped.records_advance (inv : Scoped scope tenant s) {op : KeyOp Body ⊕ Op}
    {next : Both (@KeyOp.Answer Body) Ans op →
      Prog (KeyOp Body ⊕ Op) (Both (@KeyOp.Answer Body) Ans) (Except JsError (HttpReply Body))}
    {answer : Both (@KeyOp.Answer Body) Ans op} {w : KeyWorld Body App}
    (stands : s.threads[i]? = some ⟨request, .await op next⟩) (met : MeetsOwn scope tenant s (.advance i env))
    (did : KeyPerformed routes.perform env (s.world.later env.elapsed) op answer w)
    (grows : Grows s ⟨w, s.threads.set i ⟨request, next answer⟩, (i, ⟨op, answer⟩) :: s.log⟩)
    (after : Reach (idempotent idempotencyTtlSeconds routes) meets world
      ⟨w, s.threads.set i ⟨request, next answer⟩, (i, ⟨op, answer⟩) :: s.log⟩)
    {key : String} {row : IdempotencyKey Body} (found : w.keys.find key = some row) :
    RecordOwned scope ⟨w, s.threads.set i ⟨request, next answer⟩, (i, ⟨op, answer⟩) :: s.log⟩ key row := by
  have forward : s.world.clock ≤ w.clock := by
    rw [did.clock]
    exact s.world.le_later env.elapsed
  obtain ⟨inside, _⟩ := List.getElem?_eq_some_iff.mp stands
  have here : (s.threads.set i ⟨request, next answer⟩)[i]? = some ⟨request, next answer⟩ := by simp [inside]
  cases did with
  | @created created expiresAt keys free find =>
    by_cases same : key = created
    · have new : row = ⟨created, none, none, expiresAt⟩ := by simpa [find, same] using found.symm
      refine ⟨i, _, by simp [holder, same], here, ?_⟩
      intro body stored
      rw [new] at stored
      cases stored
    · have old : s.world.keys.find key = some row := by simpa [find, same] using found
      exact (inv.records key row old).mono grows forward (holder_other (Ne.symm same) _ _ _ _)
        (by simp [author, Ne.symm same])
  | @updated stored statusCode body old keys spared before find =>
    by_cases same : key = stored
    · subst same
      have new : row = old.respond statusCode body := by simpa [find] using found.symm
      obtain ⟨h, u, holds, atH, _⟩ := inv.records key old before
      obtain ⟨u', atH', sameRequest, _⟩ := grows h u atH
      have may := met.may stands rfl spared before holds atH
      refine ⟨h, u', holds, atH', ?_⟩
      intro kept stored
      rw [new] at stored ⊢
      cases stored
      by_cases expired : old.expiresAt < (s.world.later env.elapsed).clock
      · exact Or.inl expired
      · have own : scope u.request = scope request := by simpa [mayMeet, expired] using may
        obtain ⟨original, answered, fresh, body⟩ := updated_reply after here (own_cons_self _ _ _)
        rw [sameRequest, own]
        exact Or.inr ⟨i, by simp [author], _, original, here, rfl, answered, fresh, body⟩
    · have kept : s.world.keys.find key = some row := by simpa [find, same] using found
      exact (inv.records key row kept).mono grows forward rfl (by simp [author, Ne.symm same])
  | @deleted deleted old keys spared before find =>
    by_cases same : key = deleted
    · simp [find, same] at found
    · have kept : s.world.keys.find key = some row := by simpa [find, same] using found
      exact (inv.records key row kept).mono grows forward rfl rfl
  | _ => exact (inv.records key row found).mono grows forward rfl rfl

omit [DecidableEq σ] [DecidableEq τ] in
theorem scoped_initial (clock : Timestamp) (app : App) :
    Scoped scope tenant (Pool.initial ⟨Table.empty, clock, app⟩ : KeyService Op Ans Body App Req) := by
  refine ⟨?_, ?_, ?_, ?_⟩
  · intro key row found
    simp [Pool.initial] at found
  · intro i t key row rest atI
    simp [Pool.initial] at atI
  · intro i t key row now rest atI
    simp [Pool.initial] at atI
  · intro i t key expiresAt err rest atI
    simp [Pool.initial] at atI

omit [DecidableEq σ] [DecidableEq τ] in
/-- A new request has met nothing yet. -/
theorem Scoped.spawn (inv : Scoped scope tenant s) (fresh : own s.threads.length s.log = []) (request : Req) :
    Scoped scope tenant { s with threads := s.threads ++ [⟨request, (idempotent idempotencyTtlSeconds routes).start request⟩] } := by
  have grows := grows_spawn s ⟨request, (idempotent idempotencyTtlSeconds routes).start request⟩
  refine ⟨?_, ?_, ?_, ?_⟩
  · intro key row found
    exact (inv.records key row found).mono grows le_rfl rfl rfl
  · intro i t key row rest atI last
    rcases Pool.spawn_thread (idempotent idempotencyTtlSeconds routes) atI with old | ⟨rfl, rfl⟩
    · exact (inv.found i t key row rest old last).imp_right fun met => met.mono grows rfl rfl
    · rw [fresh] at last
      cases last
  · intro i t key row now rest atI last
    rcases Pool.spawn_thread (idempotent idempotencyTtlSeconds routes) atI with old | ⟨rfl, rfl⟩
    · exact (inv.checked i t key row now rest old last).imp_right fun met => met.mono grows rfl rfl
    · rw [fresh] at last
      cases last
  · intro i t key expiresAt err rest atI last taken
    rcases Pool.spawn_thread (idempotent idempotencyTtlSeconds routes) atI with old | ⟨rfl, rfl⟩
    · obtain ⟨h, met, of⟩ := inv.refused i t key expiresAt err rest old last taken
      exact ⟨h, met, of.mono grows⟩
    · rw [fresh] at last
      cases last

/-- A step of one request: the records keep their creators, and the request
knows what it has met. -/
theorem Scoped.advance (inv : Scoped scope tenant s) {op : KeyOp Body ⊕ Op}
    {next : Both (@KeyOp.Answer Body) Ans op →
      Prog (KeyOp Body ⊕ Op) (Both (@KeyOp.Answer Body) Ans) (Except JsError (HttpReply Body))}
    {answer : Both (@KeyOp.Answer Body) Ans op} {w : KeyWorld Body App}
    (stands : s.threads[i]? = some ⟨request, .await op next⟩) (met : MeetsOwn scope tenant s (.advance i env))
    (did : KeyPerformed routes.perform env (s.world.later env.elapsed) op answer w)
    (after : Reach (idempotent idempotencyTtlSeconds routes) meets world
      ⟨w, s.threads.set i ⟨request, next answer⟩, (i, ⟨op, answer⟩) :: s.log⟩) :
    Scoped scope tenant ⟨w, s.threads.set i ⟨request, next answer⟩, (i, ⟨op, answer⟩) :: s.log⟩ := by
  have grows := grows_advance stands answer w ((i, ⟨op, answer⟩) :: s.log)
  have clock : w.clock = (s.world.later env.elapsed).clock := did.clock
  have forward : s.world.clock ≤ w.clock := by
    rw [clock]
    exact s.world.le_later env.elapsed
  refine ⟨?_, ?_, ?_, ?_⟩
  · intro key row found
    exact inv.records_advance stands met did grows after found
  · intro j t key row rest atJ last
    rcases Pool.set_thread atJ with ⟨rfl, rfl⟩ | ⟨other, old⟩
    · rw [own_cons_self] at last
      cases did with
      | read spared =>
        simp only [List.cons.injEq, Sigma.mk.injEq, Sum.inl.injEq, KeyOp.findUnique.injEq] at last
        obtain ⟨⟨rfl, same⟩, _⟩ := last
        have found := Except.ok.inj (eq_of_heq same)
        rw [found] at grows ⊢
        exact inv.find stands met spared found grows rfl clock
      | _ => cases last
    · rw [own_cons_ne (Ne.symm other)] at last
      rcases inv.found j t key row rest old last with expired | before
      · exact Or.inl (lt_of_lt_of_le expired forward)
      · exact Or.inr (before.mono grows (meeting_other (Ne.symm other) _ _ _) (meeting_other (Ne.symm other) _ _ _))
  · intro j t key row now rest atJ last
    rcases Pool.set_thread atJ with ⟨rfl, rfl⟩ | ⟨other, old⟩
    · rw [own_cons_self] at last
      cases did with
      | timed =>
        simp only [List.cons.injEq, Sigma.mk.injEq, true_and] at last
        obtain ⟨same, looked⟩ := last
        cases same
        rcases inv.found j _ key row rest stands looked with expired | before
        · exact Or.inl (lt_of_lt_of_le expired forward)
        · exact Or.inr (before.mono grows rfl rfl)
      | _ => cases last
    · rw [own_cons_ne (Ne.symm other)] at last
      exact (inv.checked j t key row now rest old last).imp_right fun before =>
        before.mono grows (meeting_other (Ne.symm other) _ _ _) (meeting_other (Ne.symm other) _ _ _)
  · intro j t key expiresAt err rest atJ last taken
    rcases Pool.set_thread atJ with ⟨rfl, rfl⟩ | ⟨other, old⟩
    · rw [own_cons_self] at last
      cases did with
      | @taken key' _ row spared found =>
        cases last
        obtain ⟨h, u, holds, atH, _⟩ := inv.records key row found
        have may := met.may stands rfl spared found holds atH
        have same : tenant u.request = tenant request := by simpa [mayMeet] using may
        exact ⟨h, by simp [meeting, holds], OfScope.mono grows ⟨u, atH, same⟩⟩
      | @uncreated _ _ cause other =>
        cases last
        cases cause <;> simp [DbError.thrown, JsError.code, DbError.code] at taken other
      | _ => cases last
    · rw [own_cons_ne (Ne.symm other)] at last
      obtain ⟨h, before, of⟩ := inv.refused j t key expiresAt err rest old last taken
      exact ⟨h, (meeting_other (Ne.symm other) _ _ _).trans before, of.mono grows⟩

/-- The invariant holds in every state in which requests have met only their own
scope's records. -/
theorem reached_scoped (only : ∀ s step, meets s step → MeetsOwn scope tenant s step) {clock : Timestamp} {app : App}
    (reach : Reach (idempotent idempotencyTtlSeconds routes) meets ⟨Table.empty, clock, app⟩ s) :
    Scoped scope tenant s := by
  induction reach using key_steps routes.keep_any with
  | initial => exact scoped_initial clock app
  | spawn s request before met ih after => exact ih.spawn before.own_fresh request
  | advance s i env request op next answer w before met stands course did ih after =>
    exact ih.advance stands (only _ _ met) did after

omit [DecidableEq σ] [DecidableEq τ] in
/-- The key table fails with errors of the database only. -/
theorem key_error_kind (reach : Reach (idempotent idempotencyTtlSeconds routes) meets world s) {key : String}
    {err : JsError} {entry : KeyEntry Body Ans} (member : (i, entry) ∈ s.log)
    (shape : entry = ⟨.inl (.findUnique key), .error err⟩ ∨
      ∃ expiresAt, entry = ⟨.inl (.create key expiresAt), .error err⟩) : ∃ code, err.kind = .prisma code := by
  induction reach using key_steps routes.keep_any with
  | initial => cases member
  | spawn s request before met ih _ => exact ih member
  | advance s j env request op next answer w before met stands course did ih _ =>
    rcases List.mem_cons.mp member with new | old
    · cases new
      rcases shape with same | ⟨expiresAt, same⟩
      · cases did with
        | @unread _ cause =>
          cases same
          exact ⟨cause.code, rfl⟩
        | _ => cases same
      · cases did with
        | taken spared found =>
          cases same
          exact ⟨_, rfl⟩
        | @uncreated _ _ cause other =>
          cases same
          exact ⟨cause.code, rfl⟩
        | _ => cases same
    · exact ih old

/-- Runs in which requests meet only records they may meet keep scopes apart. -/
theorem isolated (only : ∀ s step, meets s step → MeetsOwn scope tenant s step) {clock : Timestamp} {app : App}
    (reach : Reach (idempotent idempotencyTtlSeconds routes) meets ⟨Table.empty, clock, app⟩ s) :
    Isolated scope tenant routes s := by
  have inv := reached_scoped only reach
  refine ⟨?_, ?_⟩
  · intro i t reply atI answer replayed
    have answered := (reach.obeys (idempotent_course routes.keep_any) atI).ended answer
    generalize seenIs : own i s.log = seen at answered
    cases answered with
    | replayed named live stored =>
      rcases inv.checked i t _ _ _ _ atI seenIs with expired | met
      · exact absurd expired live
      · obtain ⟨j, wrote, produced⟩ := met.2 _ stored
        exact ⟨_, j, named, wrote, produced⟩
    | _ => cases replayed
  · intro i t err key atI answer conflict named unreserved
    have answered := (reach.obeys (idempotent_course routes.keep_any) atI).ended answer
    generalize seenIs : own i s.log = seen at answered
    cases answered with
    | freeFailed blank _ =>
      rw [named] at blank
      cases blank
    | unread named' =>
      obtain ⟨code, kind⟩ := key_error_kind reach (mem_of_own_cons seenIs) (Or.inl rfl)
      rw [conflict] at kind
      cases kind
    | inFlight named' live pending =>
      cases named.symm.trans named'
      rcases inv.checked i t _ _ _ _ atI seenIs with expired | met
      · exact absurd expired live
      · exact met.1 pending
    | taken named' cleared unique =>
      cases named.symm.trans named'
      exact inv.refused i t _ _ _ _ atI seenIs unique
    | unreserved named' cleared other =>
      obtain ⟨code, kind⟩ := key_error_kind reach (mem_of_own_cons seenIs) (Or.inr ⟨_, rfl⟩)
      rw [conflict] at kind
      cases kind
    | released named' handling _ =>
      cases named.symm.trans named'
      obtain ⟨expiresAt, row, created⟩ := handling.created
      have inside : (⟨.inl (.create key expiresAt), .ok row⟩ : KeyEntry Body Ans) ∈ own i s.log := by
        rw [seenIs]
        exact List.mem_cons_of_mem _ created
      exact absurd (mem_own.mp inside) (unreserved expiresAt row)

end

end

/-- No merchant is answered with the response of another merchant or operation,
and none is refused for the key of another, in every run of the API in which
requests run only into records of their own scope, or, where they are only
refused, of their own merchant. -/
theorem tenants_isolated {P : Platform} {clock : Timestamp} {w : World} {s : ApiService}
    (reach : Reach (apiSystem P) (MeetsOwn ApiRequest.scope ApiRequest.merchantId) ⟨Table.empty, clock, w⟩ s) :
    Isolated ApiRequest.scope ApiRequest.merchantId (api P) s :=
  isolated (fun _ _ met => met) reach

def otherMerchant : Merchant :=
  ⟨⟨"9e2f7a10-3b4c-4d5e-8f60-7a8b9c0d1e22"⟩, "Book Store", "books@example.com", none, none, true, 0⟩

/-- Two merchants, the first with a captured intent. -/
def twoMerchants : Database :=
  { sampleDatabase .captured with
    merchants := ⟨[sampleMerchant, otherMerchant], by decide +kernel⟩
    intentMerchant := by
      intro row member
      rw [List.mem_singleton.mp member]
      exact ⟨sampleMerchant, List.mem_cons_self .., rfl⟩ }

/-- A full refund of the first merchant's intent under a key. -/
def keyedRefund (key : String) : ApiRequest :=
  ⟨sampleMerchant.id, some key, .createRefund (sampleIntent .captured).id.text ⟨.undefined, .undefined⟩⟩

/-- A checkout of the second merchant under a key. -/
def keyedCheckout (key : String) : ApiRequest :=
  ⟨otherMerchant.id, some key, .createSession sampleCheckout (fun _ => true) "a1b2c3d4"⟩

/-- A refund under a key, repeated by its merchant. -/
def repeatedRefund : List ApiStep :=
  .spawn (keyedRefund "order-42") :: List.replicate 9 (.advance 0 calmApi) ++
    .spawn (keyedRefund "order-42") :: List.replicate 3 (.advance 1 calmApi)

theorem tenants_isolated_sample : Isolated ApiRequest.scope ApiRequest.merchantId (api plainPlatform)
    ((Pool.initial ⟨Table.empty, 0, ⟨twoMerchants, []⟩⟩).run (apiSystem plainPlatform) repeatedRefund) := by
  have met : (Pool.initial ⟨Table.empty, 0, ⟨twoMerchants, []⟩⟩).Meets (apiSystem plainPlatform)
      (MeetsOwn ApiRequest.scope ApiRequest.merchantId) repeatedRefund := by
    decide +kernel
  exact tenants_isolated (.run .start met)

/-- A merchant that uses another's key is answered with the other's refund. -/
theorem key_shared_between_merchants : ¬ ∀ (P : Platform) (clock : Timestamp) (w : World) (s : ApiService),
    Reach (apiSystem P) (fun _ _ => True) ⟨Table.empty, clock, w⟩ s →
    Isolated ApiRequest.scope ApiRequest.merchantId (api P) s := by
  intro always
  let events : List ApiStep := .spawn (keyedRefund "order-42") :: List.replicate 9 (.advance 0 calmApi) ++
    .spawn (keyedCheckout "order-42") :: List.replicate 3 (.advance 1 calmApi)
  generalize ended : (Pool.initial ⟨Table.empty, 0, ⟨twoMerchants, []⟩⟩).run (apiSystem plainPlatform) events = s
  have isolated := always plainPlatform 0 ⟨twoMerchants, []⟩ s (ended ▸ .run_free events .start)
  have replayed : (s.threads[1]?.bind fun t => t.prog.result).map (fun answer => answer.toOption.map HttpReply.replayed) =
      some (some true) := by
    rw [← ended]
    decide +kernel
  have second : s.threads[1]?.map (fun t => (t.request.merchantId, ((api plainPlatform).call t.request).key)) =
      some (otherMerchant.id, some "order-42") := by
    rw [← ended]
    decide +kernel
  have first : s.threads[0]?.map (fun t => t.request.merchantId) = some sampleMerchant.id := by
    rw [← ended]
    decide +kernel
  have wrote : meeting 1 (author "order-42") s.log = some (some 0) := by
    rw [← ended]
    decide +kernel
  obtain ⟨t, atT, requestT⟩ := Option.map_eq_some_iff.mp second
  obtain ⟨answer, answered, shape⟩ := Option.map_eq_some_iff.mp replayed
  rw [atT, Option.bind_some] at answered
  cases answer with
  | error err => cases shape
  | ok reply =>
    obtain ⟨key, j, named, met, u, _, atU, same, _⟩ := isolated.replay 1 t reply atT answered (Option.some.inj shape)
    cases named.symm.trans (congrArg Prod.snd requestT)
    cases wrote.symm.trans met
    rw [atU] at first
    have owner : u.request.merchantId = t.request.merchantId := congrArg Scope.merchantId same
    have merchants : otherMerchant.id = sampleMerchant.id :=
      (congrArg Prod.fst requestT).symm.trans (owner.symm.trans (Option.some.inj first))
    exact absurd merchants (by decide +kernel)

end PayBridge
