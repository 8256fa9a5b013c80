import PayBridge.Authority

namespace PayBridge
open Store Await

section
variable {P : Platform} {orchestrator : OrchestratorService} {sha256 : String → String} {devMasterApiKey : Option String}
variable {meets : Server → ServerStep → Prop} {first : ServerWorld} {s : Server}

/-- A key is stored under a hash, and is out of use. -/
def ServerWorld.Dead (w : ServerWorld) (keyHash : String) : Prop := ∃ row ∈ w.apiKeys.rows, row.keyHash = keyHash ∧ row.isActive = false

/-- A key out of use stays out of use, whatever is done. -/
theorem ServerWorld.Dead.next {w : ServerWorld} {keyHash : String} (dead : w.Dead keyHash) (env : ServerEnv) (op : ServerOp) :
    (performServer P env op w).2.Dead keyHash := by
  obtain ⟨held, inside, hashed, unused⟩ := dead
  rcases op with op | op
  · obtain ⟨later, there, same, still⟩ := (accountPerformed P env.account op w.accounts).keys.kept held inside
    exact ⟨later, there, same.keyHash.trans hashed, still unused⟩
  · exact ⟨held, (performServer_keys P env op w).symm ▸ inside, hashed, unused⟩

/-- A look-up of a key out of use finds it so. -/
theorem dead_found {now : ServerWorld} {log : List (Nat × (op : ServerOp) × ServerOp.Answer op)} {keyHash : String}
    (dead : first.Dead keyHash) (chronicle : Chronicle (performServer P) first now log) :
    now.Dead keyHash ∧ ∀ i row merchant, (i, (⟨.inl (.findApiKeyByHash keyHash), .ok (some (row, merchant))⟩ :
      (op : ServerOp) × ServerOp.Answer op)) ∈ log → row.isActive = false := by
  induction chronicle with
  | start => exact ⟨dead, fun _ _ _ none => absurd none List.not_mem_nil⟩
  | @next now log j env op _ ih =>
    obtain ⟨stays, found⟩ := ih
    refine ⟨stays.next env op, fun i row merchant member => ?_⟩
    rcases List.mem_cons.mp member with same | old
    · rcases op with op | op
      · have did := accountPerformed P env.account op now.accounts
        generalize answered : (performServer P env (.inl op) now).1 = answer at same
        cases same
        obtain ⟨held, inside, hashed, unused⟩ := stays
        obtain ⟨stored, again, _⟩ := AccountPerformed.lookup (answered ▸ did)
        rw [now.hashes.row stored inside (again.trans hashed.symm)]
        exact unused
      · cases same
    · exact found i row merchant old

theorem AccountPerformed.revokes {env : AccountEnv} {a after : Accounts} {keyId : String} {row : ApiKey}
    (did : AccountPerformed P env a (.deactivateApiKey keyId) (.ok row) after) :
    ∃ held ∈ after.apiKeys.rows, held.keyHash = row.keyHash ∧ held.isActive = false := by
  cases did with
  | @deactivated _ id apiKey _ found =>
    obtain ⟨inside, key⟩ := Table.find_some.mp found
    have stays : apiKey.set (fun _ => false) ApiKey.lastUsedAt ∈
        (a.apiKeys.modify id (ApiKey.set (fun _ => false) ApiKey.lastUsedAt) (ApiKey.set_id _ _)).rows :=
      Table.mem_modify.mpr (Or.inr ⟨apiKey, inside, key, rfl⟩)
    exact ⟨_, stays, rfl, rfl⟩

/-- A key that a request was told to be revoked is out of use from then on. -/
theorem revoked_dead {now : ServerWorld} {log : List (Nat × (op : ServerOp) × ServerOp.Answer op)}
    (chronicle : Chronicle (performServer P) first now log) {i : Nat} {keyId : String} {row : ApiKey}
    (revoked : (i, (⟨.inl (.deactivateApiKey keyId), .ok row⟩ : (op : ServerOp) × ServerOp.Answer op)) ∈ log) :
    now.Dead row.keyHash := by
  induction chronicle with
  | start => cases revoked
  | @next now log j env op _ ih =>
    rcases List.mem_cons.mp revoked with same | old
    · rcases op with op | op
      · have did := accountPerformed P env.account op now.accounts
        generalize answered : (performServer P env (.inl op) now).1 = answer at same
        cases same
        exact AccountPerformed.revokes (answered ▸ did)
      · cases same
    · exact (ih old).next env op

/-- With a key out of use a request comes no further than its look-up. -/
theorem ServerCourse.shut_out {request : ServerRequest} {headers : AuthHeaders} {apiKey : String} {seen : ServerHistory} {op : ServerOp}
    (course : ServerCourse P sha256 devMasterApiKey request seen op) (guarded : request.guarded = some headers)
    (shown : headers.apiKey = some apiKey) (refused : ∀ merchantId, ¬ Passed sha256 headers seen merchantId)
    (unused : ∀ row merchant, (⟨.inl (.findApiKeyByHash (sha256 apiKey)), .ok (some (row, merchant))⟩ :
      (op : ServerOp) × ServerOp.Answer op) ∈ seen → row.isActive = false) :
    op = .inl (.findApiKeyByHash (sha256 apiKey)) ∧ seen = [] := by
  cases course with
  | administer => cases guarded
  | guard looked asks =>
    cases guarded.symm.trans looked
    cases asks with
    | lookup presented =>
      cases shown.symm.trans presented
      exact ⟨rfl, rfl⟩
    | @touch _ _ row merchant presented active _ =>
      cases shown.symm.trans presented
      have found := unused row merchant List.mem_cons_self
      exact absurd (active.symm.trans found) (by simp)
  | intercept passed =>
    cases guarded
    exact absurd passed (refused _)
  | analyse passed =>
    cases guarded
    exact absurd passed (refused _)
  | handle handles _ _ =>
    cases handles with
    | api passed => cases guarded; exact absurd passed (refused _)
    | getRefunds passed => cases guarded; exact absurd passed (refused _)
    | trigger passed => cases guarded; exact absurd passed (refused _)
    | webhook => cases guarded
    | scheduled => cases guarded

/-- A request that presents a key which it can only find out of use does nothing but
look it up, and does not succeed. -/
theorem only_looks_up (faithful : orchestrator.Faithful) (reach : Reach (server P orchestrator sha256 devMasterApiKey) meets first s)
    {i : Nat} {t : Thread ServerOp ServerOp.Answer ServerRequest (Except JsError ServerReply)} {headers : AuthHeaders} {apiKey : String}
    (standing : s.threads[i]? = some t) (guarded : t.request.guarded = some headers) (shown : headers.apiKey = some apiKey)
    (unused : ∀ row merchant, (i, (⟨.inl (.findApiKeyByHash (sha256 apiKey)), .ok (some (row, merchant))⟩ :
      (op : ServerOp) × ServerOp.Answer op)) ∈ s.log → row.isActive = false) :
    (own i s.log = [] ∨ ∃ answer, own i s.log = [⟨.inl (.findApiKeyByHash (sha256 apiKey)), answer⟩]) ∧
      ∀ reply, t.prog.result = some reply → ∃ err, reply = .error err := by
  have refused : ∀ merchantId, ¬ Passed sha256 headers (own i s.log) merchantId := by
    rintro merchantId ⟨presented, active, _, _, found⟩
    cases shown.symm.trans presented
    have inactive := unused _ _ (mem_own.mp found)
    exact absurd (active.symm.trans inactive) (by simp)
  constructor
  · have follows := reach.follows (server_course faithful) standing
    have within : ∀ entry ∈ own i s.log, (i, entry) ∈ s.log := fun entry member => mem_own.mp member
    generalize own i s.log = history at follows refused within
    cases history with
    | nil => exact Or.inl rfl
    | cons entry earlier =>
      obtain ⟨op, answer⟩ := entry
      obtain ⟨rfl, rfl⟩ := follows.1.shut_out guarded shown
        (fun merchantId passed => refused merchantId (passed.later fun entry member => List.mem_cons_of_mem _ member))
        fun row merchant member => unused row merchant (within _ (List.mem_cons_of_mem _ member))
      exact Or.inr ⟨answer, rfl⟩
  · intro reply ended
    have ends := (reach.obeys (server_course faithful) standing).ended ended
    cases reply with
    | error err => exact ⟨err, rfl⟩
    | ok reply =>
      obtain ⟨merchantId, passed⟩ := ends headers guarded
      exact absurd passed (refused merchantId)

/-- Once a revocation was acknowledged, a request that arrives later with the key does
nothing but look it up, and does not succeed, whatever else goes on. -/
theorem revoked_shut_out (faithful : orchestrator.Faithful)
    (reach : Reach (server P orchestrator sha256 devMasterApiKey) (fun _ _ => True) first s) {j : Nat} {keyId apiKey : String}
    {row : ApiKey} (revoked : (j, (⟨.inl (.deactivateApiKey keyId), .ok row⟩ : (op : ServerOp) × ServerOp.Answer op)) ∈ s.log)
    (hashed : row.keyHash = sha256 apiKey) (events : List ServerStep) {i : Nat}
    {t : Thread ServerOp ServerOp.Answer ServerRequest (Except JsError ServerReply)} {headers : AuthHeaders}
    (arrived : s.threads.length ≤ i) (standing : (s.run (server P orchestrator sha256 devMasterApiKey) events).threads[i]? = some t)
    (guarded : t.request.guarded = some headers) (shown : headers.apiKey = some apiKey) :
    (own i (s.run (server P orchestrator sha256 devMasterApiKey) events).log = [] ∨
      ∃ answer, own i (s.run (server P orchestrator sha256 devMasterApiKey) events).log =
        [⟨.inl (.findApiKeyByHash (sha256 apiKey)), answer⟩]) ∧
      ∀ reply, t.prog.result = some reply → ∃ err, reply = .error err := by
  obtain ⟨later, log, chronicle⟩ := Pool.run_chronicle (server P orchestrator sha256 devMasterApiKey) s events
  have dead : s.world.Dead (sha256 apiKey) := hashed ▸ revoked_dead reach.chronicle revoked
  refine only_looks_up faithful (reach.run_free events) standing guarded shown fun row merchant member => ?_
  rw [log] at member
  rcases List.mem_append.mp member with new | old
  · exact (dead_found dead chronicle).2 i row merchant new
  · have before := reach.log_thread old
    omega

end

/-- The merchant tries its revoked key. -/
def lateSteps : List ServerStep :=
  .spawn (.getRefunds shopHeaders (sampleIntent .pending).id.text) :: List.replicate 2 (.advance 5 calmServer)

def lateServer : Server := sampleServer.run (server plainPlatform sampleOrchestrator id none) lateSteps

/-- The key that an entry of the log has revoked. -/
def revokedKey : (op : ServerOp) × ServerOp.Answer op → Option ApiKey
  | ⟨.inl (.deactivateApiKey _), .ok row⟩ => some row
  | _ => none

theorem revokedKey_some {entry : (op : ServerOp) × ServerOp.Answer op} {row : ApiKey} (revokes : revokedKey entry = some row) :
    ∃ keyId, entry = ⟨.inl (.deactivateApiKey keyId), .ok row⟩ := by
  unfold revokedKey at revokes
  split at revokes
  · cases revokes
    exact ⟨_, rfl⟩
  · cases revokes

theorem revoked_shut_out_sample : (own 5 lateServer.log).map Sigma.fst = [.inl (.findApiKeyByHash (generateRawKey "00ff"))] ∧
    ∃ err t, lateServer.threads[5]? = some t ∧ t.prog.result = some (.error err) := by
  have gone : sampleServer.log.any (fun entry => (revokedKey entry.2).map ApiKey.keyHash == some (generateRawKey "00ff")) = true := by
    decide +kernel
  obtain ⟨⟨j, entry⟩, logged, same⟩ := List.any_eq_true.mp gone
  obtain ⟨row, revokes, hashed⟩ := Option.map_eq_some_iff.mp (eq_of_beq same)
  obtain ⟨keyId, rfl⟩ := revokedKey_some revokes
  have inside : 5 < lateServer.threads.length := by decide +kernel
  have standing := List.getElem?_eq_getElem inside
  have shown : (lateServer.threads[5]?.bind fun t => t.request.guarded.bind AuthHeaders.apiKey) = some (generateRawKey "00ff") := by
    decide +kernel
  have replied : (lateServer.threads[5]?.bind fun t => t.prog.result).isSome = true := by decide +kernel
  have asked : (own 5 lateServer.log).length = 1 := by decide +kernel
  rw [standing, Option.bind_some] at shown replied
  obtain ⟨headers, guarded, presented⟩ := Option.bind_eq_some_iff.mp shown
  obtain ⟨reply, ended⟩ := Option.isSome_iff_exists.mp replied
  obtain ⟨looked, refused⟩ := revoked_shut_out sampleOrchestrator_faithful sampleServer_reached logged hashed lateSteps
    (by decide +kernel) standing guarded presented
  constructor
  · rcases looked with none | ⟨answer, one⟩
    · have empty : (own 5 lateServer.log).length = 0 := congrArg List.length none
      omega
    · exact congrArg (List.map Sigma.fst) one
  · obtain ⟨err, rfl⟩ := refused reply ended
    exact ⟨err, _, standing, ended⟩

end PayBridge
