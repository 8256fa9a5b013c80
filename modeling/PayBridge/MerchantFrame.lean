import PayBridge.ApiKeys

namespace PayBridge
open Store Await

/-- What a change for one merchant leaves as it was: the rows and the keys of
every other merchant, and all payments. -/
structure MerchantFrame (m : Uuid) (a after : Accounts) : Prop where
  merchants : ∀ id, id ≠ m → after.db.merchants.find id = a.db.merchants.find id
  apiKeys : ∀ row : ApiKey, row.merchantId ≠ m → (row ∈ after.apiKeys.rows ↔ row ∈ a.apiKeys.rows)
  intents : after.db.intents = a.db.intents
  events : after.db.events = a.db.events
  refunds : after.db.refunds = a.db.refunds

theorem MerchantFrame.refl (m : Uuid) (a : Accounts) : MerchantFrame m a a :=
  ⟨fun _ _ => rfl, fun _ _ => Iff.rfl, rfl, rfl, rfl⟩

theorem MerchantFrame.trans {m : Uuid} {a b c : Accounts} (first : MerchantFrame m a b) (second : MerchantFrame m b c) :
    MerchantFrame m a c where
  merchants id other := (second.merchants id other).trans (first.merchants id other)
  apiKeys row other := (second.apiKeys row other).trans (first.apiKeys row other)
  intents := second.intents.trans first.intents
  events := second.events.trans first.events
  refunds := second.refunds.trans first.refunds

/-- The id in the path of a route of one merchant. -/
def AccountRequest.pathId : AccountRequest → Option String
  | .updateMerchant id _ => some id
  | .generateApiKey id _ _ => some id
  | .revokeApiKey id _ => some id
  | _ => none

/-- An administrative request, run alone. -/
def administer (P : Platform) (sha256 : String → String) (env : Nat → AccountOp → AccountEnv) (request : AccountRequest)
    (a : Accounts) : Outcome AccountOp.Answer Accounts (Except JsError AccountReply) :=
  Async.play (performAccount P) env (request.handle sha256) [] a

/-- A request addressed to a merchant keeps to it: nothing of another merchant
changes, the guard takes the same keys for all others, and a key that is not the
merchant's is not revoked. -/
structure KeepsToMerchant (P : Platform) (sha256 : String → String) (env : Nat → AccountOp → AccountEnv)
    (request : AccountRequest) (m : Uuid) (a : Accounts) : Prop where
  frame : MerchantFrame m a (administer P sha256 env request a).world
  authentication : ∀ env' headers found, found.id ≠ m →
    (guard P sha256 env' headers (administer P sha256 env request a).world = .ok found ↔
      guard P sha256 env' headers a = .ok found)
  foreignKey : ∀ id keyId, request = .revokeApiKey id keyId →
    (∀ k row, P.readUuid keyId = some k → a.apiKeys.find k = some row → row.merchantId ≠ m) →
    (∃ err, (administer P sha256 env request a).value = .error err) ∧ (administer P sha256 env request a).world = a

/-- A `DELETE` that names a key of another merchant, with neither of its
database calls failing. -/
def RevokesForeign (P : Platform) (env : Nat → AccountOp → AccountEnv) (request : AccountRequest) (m : Uuid)
    (a : Accounts) : Prop :=
  ∃ id keyId k row, request = .revokeApiKey id keyId ∧ P.readUuid keyId = some k ∧ a.apiKeys.find k = some row ∧
    row.merchantId ≠ m ∧ (env 0 (.findApiKey keyId)).fails = false ∧ (env 1 (.deactivateApiKey keyId)).fails = false

section
variable {P : Platform} {sha256 : String → String} {env : Nat → AccountOp → AccountEnv} {m : Uuid} {a after : Accounts}

/-- Through the frame the guard takes the same keys for other merchants. -/
theorem MerchantFrame.guard (frame : MerchantFrame m a after) (headers : AuthHeaders) {found : AuthenticatedMerchant}
    (other : found.id ≠ m) : guard P sha256 env headers after = .ok found ↔ guard P sha256 env headers a = .ok found := by
  rw [guard_ok_iff, guard_ok_iff]
  refine and_congr_right fun _ => and_congr_right fun _ => exists_congr fun row => exists_congr fun merchant => ?_
  rw [frame.merchants found.id other]
  by_cases owned : row.merchantId = found.id
  · rw [frame.apiKeys row (owned ▸ other)]
  · simp [owned]

/-- Whether a step writes only what is one merchant's. -/
def AccountOp.WritesFor (P : Platform) (m : Uuid) (a : Accounts) : AccountOp → Prop
  | .createMerchant _ => False
  | .updateMerchant id _ => P.readUuid id = some m
  | .createApiKey data => P.readUuid data.merchantId = some m
  | .deactivateApiKey id => ∀ k row, P.readUuid id = some k → a.apiKeys.find k = some row → row.merchantId = m
  | .touchApiKey id => ∀ row, a.apiKeys.find id = some row → row.merchantId = m
  | _ => True

/-- Rewriting the flags of a merchant's key leaves all other keys. -/
theorem MerchantFrame.setApiKey {id : Uuid} {isActive : ApiKey → Bool} {lastUsedAt : ApiKey → Option Timestamp}
    (own : ∀ row, a.apiKeys.find id = some row → row.merchantId = m) :
    MerchantFrame m a (a.setApiKey id isActive lastUsedAt) := by
  refine ⟨fun _ _ => rfl, fun row other => ?_, rfl, rfl, rfl⟩
  have split : row ∈ (a.setApiKey id isActive lastUsedAt).apiKeys.rows ↔ (row ∈ a.apiKeys.rows ∧ row.id ≠ id) ∨
      ∃ old ∈ a.apiKeys.rows, old.id = id ∧ row = old.set isActive lastUsedAt :=
    @Table.mem_modify _ _ _ _ a.apiKeys id _ (ApiKey.set_id isActive lastUsedAt) row
  refine split.trans ⟨?_, fun member => Or.inl ⟨member, ?_⟩⟩
  · rintro (⟨member, -⟩ | ⟨old, member, named, rfl⟩)
    · exact member
    · exact absurd (own old (named ▸ Table.find_mem member)) other
  · rintro rfl
    exact other (own row (Table.find_mem member))

theorem AccountPerformed.frame {met : AccountEnv} {op : AccountOp} {answer : op.Answer}
    (did : AccountPerformed P met a op answer after) (own : op.WritesFor P m a) : MerchantFrame m a after := by
  cases did with
  | createdMerchant => exact own.elim
  | updatedMerchant named found merchants apiKeys intents events refunds =>
    cases named.symm.trans own
    refine ⟨fun id other => ?_, fun row _ => by rw [apiKeys], intents, events, refunds⟩
    rw [merchants, Table.find_modify, if_neg other]
  | createdKey named rows same =>
    cases named.symm.trans own
    refine ⟨fun id _ => by rw [same], fun row other => ?_, by rw [same], by rw [same], by rw [same]⟩
    rw [rows, List.mem_append, List.mem_singleton]
    refine or_iff_left ?_
    rintro rfl
    exact other rfl
  | deactivated named found => exact .setApiKey fun row here => own _ row named here
  | touched found => exact .setApiKey own
  | _ => exact .refl m a

/-- Updating a merchant or giving it a key writes only what is the merchant's. -/
theorem administer_frame {request : AccountRequest} (safe : ∀ id keyId, request ≠ .revokeApiKey id keyId) {id : String}
    (path : request.pathId = some id) (named : P.readUuid id = some m) :
    MerchantFrame m a (administer P sha256 env request a).world := by
  have own : ∀ seen op world, AccountCourse sha256 request seen op → op.WritesFor P m world := by
    intro seen op world course
    cases course with
    | email | create | lookup | touch => cases path
    | findForUpdate | findForKey => trivial
    | update =>
      cases path
      exact named
    | createKey belongs _ =>
      cases path
      show P.readUuid _ = some m
      rw [belongs, named]
    | findKey | deactivate => exact absurd rfl (safe _ _)
  exact (Async.Obeys.kept (performAccount P) env (I := fun _ world => MerchantFrame m a world)
    (account_course sha256 request) (fun seen op world asks before =>
      before.trans ((accountPerformed P (env seen.length op) op world).frame (own seen op world asks))) a
    (.refl m a)).1

theorem performAccount_spared {met : AccountEnv} {op : AccountOp} {result : op.Result}
    (answered : (performAccount P met op a).1 = .ok result) : met.fails = false := by
  cases struck : met.fails with
  | false => rfl
  | true =>
    unfold performAccount at answered
    rw [if_pos struck] at answered
    cases answered

theorem lookup_key {met : AccountEnv} {keyId : String} {k : Uuid} (spared : met.fails = false)
    (read : P.readUuid keyId = some k) : performAccount P met (.findApiKey keyId) a = (.ok (a.apiKeys.find k), a) := by
  have readable := readId_ok.mpr read
  simp [performAccount, spared, AccountOp.exec, readable, bind, Except.bind, pure, Except.pure]

theorem deactivate_key {met : AccountEnv} {keyId : String} {k : Uuid} {row : ApiKey} (spared : met.fails = false)
    (read : P.readUuid keyId = some k) (found : a.apiKeys.find k = some row) :
    performAccount P met (.deactivateApiKey keyId) a =
      (.ok (row.set (fun _ => false) ApiKey.lastUsedAt), a.setApiKey k (fun _ => false) ApiKey.lastUsedAt) := by
  have readable := readId_ok.mpr read
  simp [performAccount, spared, AccountOp.exec, apiKeyUpdate, readable, found, bind, Except.bind]

/-- How a `DELETE` ends, by what its two steps answer. -/
def Revokes (keyId : String) (a after : Accounts) (found : Except JsError (Option ApiKey)) (gone : Except JsError ApiKey)
    (o : Outcome AccountOp.Answer Accounts (Except JsError AccountReply)) : Prop :=
  match found, gone with
  | .ok (some _), .ok _ => o.world = after ∧ o.value = .ok (.revoked keyId)
  | .ok (some _), .error err => o.world = after ∧ o.value = .error err
  | _, _ => o.world = a ∧ ∃ err, o.value = .error err

/-- A `DELETE` looks the key up and, if there is one, takes it out of use. -/
theorem revoke_outcome (sha256 : String → String) (id keyId : String) {found : Except JsError (Option ApiKey)} {gone : Except JsError ApiKey}
    (first : (performAccount P (env 0 (.findApiKey keyId)) (.findApiKey keyId) a).1 = found)
    (second : performAccount P (env 1 (.deactivateApiKey keyId)) (.deactivateApiKey keyId) a = (gone, after)) :
    Revokes keyId a after found gone (administer P sha256 env (.revokeApiKey id keyId) a) := by
  have rests : (performAccount P (env 0 (.findApiKey keyId)) (.findApiKey keyId) a).2 = a := by
    have did := accountPerformed P (env 0 (.findApiKey keyId)) (.findApiKey keyId) a
    generalize (performAccount P (env 0 (.findApiKey keyId)) (.findApiKey keyId) a).1 = answer at did
    generalize (performAccount P (env 0 (.findApiKey keyId)) (.findApiKey keyId) a).2 = after at did ⊢
    cases did <;> rfl
  have looked : Async.play (performAccount P) env (accountQuery (.findApiKey keyId)) [] a =
      ⟨found, a, [⟨.findApiKey keyId, found⟩]⟩ := by
    refine (Async.play_request ..).trans ?_
    simp only [List.length_nil, rests, first]
  have stored : Async.play (performAccount P) env (accountQuery (.deactivateApiKey keyId)) [⟨.findApiKey keyId, found⟩] a =
      ⟨gone, after, [⟨.deactivateApiKey keyId, gone⟩, ⟨.findApiKey keyId, found⟩]⟩ := by
    refine (Async.play_request ..).trans ?_
    simp only [List.length_singleton, second]
  have course : administer P sha256 env (.revokeApiKey id keyId) a = Async.play (performAccount P) env (PayBridge.revokeApiKey keyId >>= fun id =>
    pure (.revoked id)) [] a := rfl
  unfold PayBridge.revokeApiKey at course
  rw [course]
  cases found with
  | error err => simp [Revokes, Async.play_bind, looked]
  | ok held =>
    cases held with
    | none => simp [Revokes, Async.play_bind, looked]
    | some row =>
      cases gone with
      | error err => simp [Revokes, Async.play_bind, looked, stored]
      | ok row => simp [Revokes, Async.play_bind, looked, stored]

/-- Unless it revokes a key of another merchant, a `DELETE` writes at most the
key it names, and answers an error where that is not the merchant's. -/
theorem revoke_keeps (sha256 : String → String) {id keyId : String} (spared : ¬ RevokesForeign P env (.revokeApiKey id keyId) m a) :
    MerchantFrame m a (administer P sha256 env (.revokeApiKey id keyId) a).world ∧
      ((∀ k row, P.readUuid keyId = some k → a.apiKeys.find k = some row → row.merchantId ≠ m) →
        (∃ err, (administer P sha256 env (.revokeApiKey id keyId) a).value = .error err) ∧
          (administer P sha256 env (.revokeApiKey id keyId) a).world = a) := by
  have looked := accountPerformed P (env 0 (.findApiKey keyId)) (.findApiKey keyId) a
  have stored := accountPerformed P (env 1 (.deactivateApiKey keyId)) (.deactivateApiKey keyId) a
  generalize first : (performAccount P (env 0 (.findApiKey keyId)) (.findApiKey keyId) a).1 = found at looked
  generalize (performAccount P (env 0 (.findApiKey keyId)) (.findApiKey keyId) a).2 = same at looked
  generalize second : performAccount P (env 1 (.deactivateApiKey keyId)) (.deactivateApiKey keyId) a = pair at stored
  obtain ⟨gone, after⟩ := pair
  have outcome := revoke_outcome sha256 id keyId first second
  have rests : (administer P sha256 env (.revokeApiKey id keyId) a).world = a →
      MerchantFrame m a (administer P sha256 env (.revokeApiKey id keyId) a).world := by
    intro world
    rw [world]
    exact .refl m a
  cases looked with
  | failed => exact ⟨rests outcome.1, fun _ => outcome.symm⟩
  | @readKey _ k read =>
    cases held : a.apiKeys.find k with
    | none =>
      rw [held] at outcome
      exact ⟨rests outcome.1, fun _ => outcome.symm⟩
    | some row =>
      rw [held] at outcome
      cases stored with
      | failed => exact ⟨rests outcome.1, fun _ => ⟨⟨_, outcome.2⟩, outcome.1⟩⟩
      | @deactivated _ k' row' read' held' =>
        cases read.symm.trans read'
        have own : ∀ row, a.apiKeys.find k = some row → row.merchantId = m := by
          intro row here
          by_contra other
          exact spared ⟨id, keyId, k, row, rfl, read, here, other, performAccount_spared first,
            performAccount_spared (congrArg Prod.fst second)⟩
        refine ⟨?_, fun foreign => absurd (own row held) (foreign k row read held)⟩
        rw [outcome.1]
        exact .setApiKey own

/-- A request addressed to a merchant keeps to it exactly when it does not
revoke a key of another merchant. -/
theorem keeps_to_merchant_iff {request : AccountRequest} {id : String} (path : request.pathId = some id)
    (named : P.readUuid id = some m) :
    KeepsToMerchant P sha256 env request m a ↔ ¬ RevokesForeign P env request m a := by
  constructor
  · rintro keeps ⟨id, keyId, k, row, rfl, read, found, other, spared, spared'⟩
    have first : (performAccount P (env 0 (.findApiKey keyId)) (.findApiKey keyId) a).1 = .ok (some row) := by
      rw [lookup_key spared read, found]
    have outcome := revoke_outcome sha256 id keyId first (deactivate_key spared' read found)
    obtain ⟨⟨err, refused⟩, -⟩ := keeps.foreignKey id keyId rfl fun k' row' read' found' => by
      cases read.symm.trans read'
      cases found.symm.trans found'
      exact other
    cases outcome.2.symm.trans refused
  · intro spared
    have both : MerchantFrame m a (administer P sha256 env request a).world ∧ ∀ id keyId, request = .revokeApiKey id keyId →
        (∀ k row, P.readUuid keyId = some k → a.apiKeys.find k = some row → row.merchantId ≠ m) →
        (∃ err, (administer P sha256 env request a).value = .error err) ∧ (administer P sha256 env request a).world = a := by
      by_cases deletes : ∃ id keyId, request = .revokeApiKey id keyId
      · obtain ⟨id, keyId, rfl⟩ := deletes
        obtain ⟨frame, refuses⟩ := revoke_keeps sha256 spared
        refine ⟨frame, fun id' keyId' same => ?_⟩
        cases same
        exact refuses
      · have safe : ∀ id keyId, request ≠ .revokeApiKey id keyId := fun id keyId same => deletes ⟨id, keyId, same⟩
        exact ⟨administer_frame safe path named, fun id keyId same => absurd same (safe id keyId)⟩
    exact ⟨both.1, fun env' headers found other => both.1.guard headers other, both.2⟩

end

def otherMerchantId : String := "9f0e1d2c-3b4a-4c5d-8e6f-7a8b9c0d1e2f"

def firstKeyId : String := "11111111-1111-4111-8111-111111111111"

def otherKeyId : String := "e2f1a34b-12cd-45ef-89ab-0123456789cd"

/-- Two merchants sign up. -/
def bothSignUp : List AccountStep :=
  let first := calmAccount sampleMerchant.id.text firstKeyId
  let second := calmAccount otherMerchantId otherKeyId
  [.spawn (.createMerchant ⟨"Corner Shop", "shop@example.com", .undefined, .undefined, .undefined⟩ "00ff" "11ee"),
    .advance 0 first, .advance 0 first,
    .spawn (.createMerchant ⟨"Other Shop", "other@example.com", .undefined, .undefined, .undefined⟩ "22dd" "33cc"),
    .advance 1 second, .advance 1 second]

def bothSignedUp : AccountService := (Pool.initial noAccounts).run (accountSystem plainPlatform id) bothSignUp

/-- The key that the second merchant was given. -/
def otherKey : ApiKey :=
  ⟨⟨otherKeyId⟩, ⟨otherMerchantId⟩, generateRawKey "22dd", getKeyPrefix (generateRawKey "22dd"), some "Default Key", true,
    none, 0⟩

theorem bothSignedUp_key : bothSignedUp.world.apiKeys.find ⟨otherKeyId⟩ = some otherKey := by decide +kernel

/-- The first merchant's own key is revoked without touching the second's. -/
theorem keeps_to_merchant_sample : KeepsToMerchant plainPlatform id (fun _ _ => calmAccount "" "")
    (.revokeApiKey sampleMerchant.id.text firstKeyId) sampleMerchant.id bothSignedUp.world := by
  refine (keeps_to_merchant_iff (show AccountRequest.pathId _ = some sampleMerchant.id.text from rfl) (by decide +kernel)).mpr ?_
  rintro ⟨path, keyId, k, row, same, read, found, foreign, -⟩
  cases same
  have named : plainPlatform.readUuid firstKeyId = some ⟨firstKeyId⟩ := by decide +kernel
  cases named.symm.trans read
  have owner : (bothSignedUp.world.apiKeys.find ⟨firstKeyId⟩).map ApiKey.merchantId = some sampleMerchant.id := by
    decide +kernel
  rw [found] at owner
  exact foreign (Option.some.inj owner)

/-- A `DELETE` in the path of one merchant revokes the key of another. -/
theorem foreign_key_revoked : ¬ ∀ (s : AccountService),
    Reach (accountSystem plainPlatform id) (fun _ _ => True) noAccounts s →
    ∀ env request m path, request.pathId = some path → plainPlatform.readUuid path = some m →
      KeepsToMerchant plainPlatform id env request m s.world := by
  intro all
  have reach : Reach (accountSystem plainPlatform id) (fun _ _ => True) noAccounts bothSignedUp :=
    Reach.start.run_free bothSignUp
  have keeps := all bothSignedUp reach (fun _ _ => calmAccount "" "") (.revokeApiKey sampleMerchant.id.text otherKeyId)
    sampleMerchant.id sampleMerchant.id.text rfl (by decide +kernel)
  obtain ⟨⟨err, refused⟩, -⟩ := keeps.foreignKey _ _ rfl fun k row read found => by
    have named : plainPlatform.readUuid otherKeyId = some ⟨otherKeyId⟩ := by decide +kernel
    cases named.symm.trans read
    cases bothSignedUp_key.symm.trans found
    decide +kernel
  have revoked : (administer plainPlatform id (fun _ _ => calmAccount "" "")
      (.revokeApiKey sampleMerchant.id.text otherKeyId) bothSignedUp.world).value.toOption = some (.revoked otherKeyId) := by
    decide +kernel
  rw [refused] at revoked
  cases revoked

end PayBridge
