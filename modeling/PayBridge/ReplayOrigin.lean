import PayBridge.DeliveredReplay
import PayBridge.KeyScope

namespace PayBridge
open Store Await

section
variable {Op : Type} {Ans : Op → Type} {Body App Env Req : Type}

/-- A response that a record holds was there from the start, or a request has stored it. -/
def ResponseBacked (world : KeyWorld Body App) (log : List (Nat × KeyEntry Body Ans)) (key : String)
    (row : IdempotencyKey Body) : Prop :=
  ∀ body, row.responseBody = some body → world.keys.find key = some row ∨
    ∃ i statusCode made, (i, ⟨.inl (.update key statusCode body), .ok made⟩) ∈ log ∧ row.statusCode = some statusCode

theorem ResponseBacked.later {world : KeyWorld Body App} {log : List (Nat × KeyEntry Body Ans)} {key : String}
    {row : IdempotencyKey Body} (backed : ResponseBacked world log key row) (entry : Nat × KeyEntry Body Ans) :
    ResponseBacked world (entry :: log) key row := by
  intro body holds
  rcases backed body holds with first | ⟨i, statusCode, made, stored, code⟩
  · exact Or.inl first
  · exact Or.inr ⟨i, statusCode, made, List.mem_cons_of_mem _ stored, code⟩

/-- The records of the table, and those that a look-up has found, hold only backed responses. -/
structure ResponsesBacked (world : KeyWorld Body App) (s : KeyService Op Ans Body App Req) : Prop where
  stored : ∀ key row, s.world.keys.find key = some row → ResponseBacked world s.log key row
  found : ∀ i key row, (i, (⟨.inl (.findUnique key), .ok (some row)⟩ : KeyEntry Body Ans)) ∈ s.log →
    ResponseBacked world s.log key row

/-- The table after one step, with its entry in the log. -/
theorem ResponseBacked.step {perform : Env → (op : Op) → App → Ans op × App} {env : KeyEnv Env} {w after world : KeyWorld Body App}
    {op : KeyOp Body ⊕ Op} {answer : Both (@KeyOp.Answer Body) Ans op} {log : List (Nat × KeyEntry Body Ans)}
    (backed : ∀ key row, w.keys.find key = some row → ResponseBacked world log key row) (i : Nat)
    (did : KeyPerformed perform env w op answer after) {key : String} {row : IdempotencyKey Body}
    (found : after.keys.find key = some row) : ResponseBacked world ((i, ⟨op, answer⟩) :: log) key row := by
  cases did with
  | @created k expiresAt keys free find =>
    have now := find key
    rw [found] at now
    split at now
    · cases now
      intro body holds
      cases holds
    · exact (backed key row now.symm).later _
  | @updated k statusCode body old keys spared known find =>
    have now := find key
    rw [found] at now
    split at now
    · next same =>
      cases now
      subst same
      intro stored holds
      cases holds
      exact Or.inr ⟨i, statusCode, _, List.mem_cons_self, rfl⟩
    · exact (backed key row now.symm).later _
  | @deleted k old keys spared known find =>
    have now := find key
    rw [found] at now
    split at now
    · cases now
    · exact (backed key row now.symm).later _
  | _ => exact (backed key row found).later _

variable {idempotencyTtlSeconds : Option String} {routes : Routes Op Ans Body App Env Req} {world : KeyWorld Body App}
variable {meets : KeyService Op Ans Body App Req → KeyStep Env Req → Prop} {s : KeyService Op Ans Body App Req}
variable {spec : Req → HandlerSpec Op Ans Body}

theorem responses_backed (reach : Reach (idempotent idempotencyTtlSeconds routes) meets world s) : ResponsesBacked world s := by
  induction reach using key_steps routes.keep_any with
  | initial => exact ⟨fun key row found body _ => Or.inl found, fun i key row member => absurd member List.not_mem_nil⟩
  | spawn s request before met ih _ => exact ⟨ih.stored, ih.found⟩
  | advance s i env request op next answer w before met stands course did ih _ =>
    refine ⟨fun key row found => .step (w := s.world.later env.elapsed) ih.stored i did found, fun j key row member => ?_⟩
    rcases List.mem_cons.mp member with new | old
    · -- a look-up finds the record of the table
      cases new
      generalize same : (.ok (some row) : Except JsError (Option (IdempotencyKey Body))) = answer at did
      cases did with
      | read _ => exact (ih.stored key row (Except.ok.inj same).symm).later _
      | unread => cases same
    · exact (ih.found j key row old).later _

/-- What stands behind a response under a key: a request under that key had its
handler return the body, and was answered with it itself. -/
structure Genuine (routes : Routes Op Ans Body App Env Req) (spec : Req → HandlerSpec Op Ans Body) (s : KeyService Op Ans Body App Req)
    (key : Option String) (reply : HttpReply Body) (j : Nat) (u : KeyThread Op Ans Body Req) (inner : History Ans) : Prop where
  stands : s.threads[j]? = some u
  keyed : (routes.call u.request).key = key
  returned : (spec u.request).returns inner reply.body
  seen : ∀ entry ∈ inner, (j, (⟨.inr entry.1, entry.2⟩ : KeyEntry Body Ans)) ∈ s.log
  answered : u.prog.result = some (.ok ⟨(routes.call u.request).statusCode, reply.body, false⟩)
  status : reply.statusCode = if reply.replayed then storedStatus (routes.call u.request).statusCode
    else (routes.call u.request).statusCode

theorem Handling.seen {key : String} {inner : History Ans} {seen : KeyHistory Body Ans}
    (handling : Handling idempotencyTtlSeconds key inner seen) {entry : (op : Op) × Ans op} (member : entry ∈ inner) :
    (⟨.inr entry.1, entry.2⟩ : KeyEntry Body Ans) ∈ seen := by
  obtain ⟨_⟩ := handling
  exact List.mem_append_left _ (List.mem_map.mpr ⟨entry, member, rfl⟩)

/-- A request that has stored a response has done nothing since. -/
theorem stored_last (reach : Reach (idempotent idempotencyTtlSeconds routes) meets world s) {i : Nat} {key : String}
    {statusCode : Nat} {body : Body} {answer : Except JsError (IdempotencyKey Body)}
    (stored : (i, (⟨.inl (.update key statusCode body), answer⟩ : KeyEntry Body Ans)) ∈ s.log) :
    ∃ rest, own i s.log = ⟨.inl (.update key statusCode body), answer⟩ :: rest := by
  have follows := reach.follows (idempotent_course routes.keep_any) (List.getElem?_eq_getElem (reach.log_thread stored))
  have inside := mem_own.mpr stored
  cases history : own i s.log with
  | nil =>
    rw [history] at inside
    cases inside
  | cons last earlier =>
    rw [history] at inside follows
    rcases List.mem_cons.mp inside with rfl | older
    · exact ⟨earlier, rfl⟩
    · exact absurd older follows.1.not_after_update

/-- An answer that is no replay has the status of its route. -/
theorem Answered.fresh {call : IdempotentCall Op Ans Body} {spec : HandlerSpec Op Ans Body} {seen : KeyHistory Body Ans}
    {reply : HttpReply Body} (answered : Answered idempotencyTtlSeconds call spec seen (.ok reply))
    (fresh : reply.replayed = false) : reply = ⟨call.statusCode, reply.body, false⟩ := by
  cases answered with
  | free _ _ => rfl
  | kept _ _ _ => rfl
  | replayed _ _ _ => cases fresh

theorem storedStatus_ne_zero (statusCode : Nat) : storedStatus statusCode ≠ 0 := by
  unfold storedStatus
  split
  · decide
  · assumption

/-- Behind a stored response stands the request that has stored it. -/
theorem stored_genuine (keep : routes.Keep spec) (reach : Reach (idempotent idempotencyTtlSeconds routes) meets world s) {i : Nat}
    {key : String} {statusCode : Nat} {body : Body} {answer : Except JsError (IdempotencyKey Body)}
    (stored : (i, (⟨.inl (.update key statusCode body), answer⟩ : KeyEntry Body Ans)) ∈ s.log) :
    ∃ u inner, Genuine routes spec s (some key) ⟨statusCode, body, true⟩ i u inner := by
  obtain ⟨u, earlier, stands, course, logged⟩ := reach.asked_at (idempotent_course keep) stored
  obtain ⟨u', _, again, keeps, _⟩ := reach.asked_at (intercept_status idempotencyTtlSeconds routes) stored
  cases stands.symm.trans again
  obtain ⟨rest, last⟩ := stored_last reach stored
  obtain ⟨original, answered, fresh, same⟩ := updated_reply reach stands last
  have shape := ((reach.obeys (idempotent_course routes.keep_any) stands).ended answered).fresh fresh
  cases course with
  | @keep _ inner _ _ _ keyed handling returns =>
    refine ⟨u, inner, stands, keyed, returns, fun entry member => logged _ (handling.seen member), ?_,
      keeps key statusCode body rfl⟩
    rw [answered, shape, same]

/-- Whatever a request is answered with, as fresh or as a replay, is genuine, or was in the table from the start. -/
theorem answer_genuine (keep : routes.Keep spec) (reach : Reach (idempotent idempotencyTtlSeconds routes) meets world s) {i : Nat}
    {t : KeyThread Op Ans Body Req} {reply : HttpReply Body} (stands : s.threads[i]? = some t)
    (answer : t.prog.result = some (.ok reply)) :
    (∃ j u inner, Genuine routes spec s (routes.call t.request).key reply j u inner ∧ (reply.replayed = false → j = i)) ∨
      ∃ key row, (routes.call t.request).key = some key ∧ world.keys.find key = some row ∧ row.responseBody = some reply.body ∧
        reply.statusCode = replayStatus (routes.call t.request).statusCode row ∧ reply.replayed = true := by
  have answered := (reach.obeys (idempotent_course keep) stands).ended answer
  generalize seenIs : own i s.log = seen at answered
  cases answered with
  | @free inner body blank returns =>
    refine Or.inl ⟨i, t, inner, ⟨stands, rfl, returns, fun entry member => ?_, answer, rfl⟩, fun _ => rfl⟩
    refine mem_own.mp ?_
    rw [seenIs]
    exact List.mem_map.mpr ⟨entry, member, rfl⟩
  | @kept key inner seen statusCode body stored named handling returns =>
    refine Or.inl ⟨i, t, inner, ⟨stands, rfl, returns, fun entry member => ?_, answer, rfl⟩, fun _ => rfl⟩
    refine mem_own.mp ?_
    rw [seenIs]
    exact List.mem_cons_of_mem _ (handling.seen member)
  | @replayed key started row now body named live holds =>
    have looked : (i, (⟨.inl (.findUnique key), .ok (some row)⟩ : KeyEntry Body Ans)) ∈ s.log := by
      refine mem_own.mp ?_
      rw [seenIs]
      exact List.mem_cons_of_mem _ List.mem_cons_self
    rcases (responses_backed reach).found i key row looked body holds with first | ⟨j, statusCode, made, stored, code⟩
    · exact Or.inr ⟨key, row, named, first, holds, rfl, rfl⟩
    · obtain ⟨u, inner, genuine⟩ := stored_genuine keep reach stored
      have status : statusCode ≠ 0 := by
        have real : statusCode = storedStatus (routes.call u.request).statusCode := genuine.status
        rw [real]
        exact storedStatus_ne_zero _
      have same : replayStatus (routes.call t.request).statusCode row = statusCode := by
        simp only [replayStatus, code, if_neg status]
      rw [same, named]
      exact Or.inl ⟨j, u, inner, genuine, fun fresh => by cases fresh⟩

/-- Every response that was given out or is stored, beyond those of the first table, is genuine. -/
structure OnlyGenuine (routes : Routes Op Ans Body App Env Req) (spec : Req → HandlerSpec Op Ans Body) (world : KeyWorld Body App)
    (s : KeyService Op Ans Body App Req) : Prop where
  given : ∀ (i : Nat) t reply, s.threads[i]? = some t → t.prog.result = some (.ok reply) →
    (∃ j u inner, Genuine routes spec s (routes.call t.request).key reply j u inner ∧ (reply.replayed = false → j = i)) ∨
      ∃ key row, (routes.call t.request).key = some key ∧ world.keys.find key = some row ∧ row.responseBody = some reply.body ∧
        reply.statusCode = replayStatus (routes.call t.request).statusCode row ∧ reply.replayed = true
  stored : ∀ key row body, s.world.keys.find key = some row → row.responseBody = some body → world.keys.find key = some row ∨
    ∃ j u inner statusCode, row.statusCode = some statusCode ∧ Genuine routes spec s (some key) ⟨statusCode, body, true⟩ j u inner

/-- In every run, under any keys, interleaving and failures, no response is made up:
each one that is given out or stored was returned by the handler of a request under
its key, which was answered with it itself, or was in the table from the start. -/
theorem only_genuine (keep : routes.Keep spec) (reach : Reach (idempotent idempotencyTtlSeconds routes) meets world s) :
    OnlyGenuine routes spec world s := by
  refine ⟨fun i t reply stands answer => answer_genuine keep reach stands answer, fun key row body found holds => ?_⟩
  rcases (responses_backed reach).stored key row found body holds with first | ⟨j, statusCode, made, stored, code⟩
  · exact Or.inl first
  · obtain ⟨u, inner, genuine⟩ := stored_genuine keep reach stored
    exact Or.inr ⟨j, u, inner, statusCode, code, genuine⟩

end

/-- A refund and its repetition: both were told what the handler of the first returned, and
the record holds it. -/
theorem only_genuine_sample :
    let s := (Pool.initial ⟨Table.empty, 0, ⟨twoMerchants, []⟩⟩).run (apiSystem plainPlatform) repeatedRefund
    OnlyGenuine (api plainPlatform) (ApiRequest.returning plainPlatform) ⟨Table.empty, 0, ⟨twoMerchants, []⟩⟩ s ∧
      (s.threads.map fun t => t.prog.result.bind fun reply => reply.toOption.map HttpReply.replayed) = [some false, some true] ∧
      s.world.keys.rows.map (fun row => row.responseBody.isSome) = [true] := by
  intro s
  have met : (Pool.initial ⟨Table.empty, 0, ⟨twoMerchants, []⟩⟩).Meets (apiSystem plainPlatform) (fun _ _ => True) repeatedRefund := by
    decide +kernel
  exact ⟨only_genuine (api_returning plainPlatform) (.run .start met), by decide +kernel, by decide +kernel⟩

end PayBridge
