import PayBridge.Await.Played
import PayBridge.Merchants
import PayBridge.System

namespace PayBridge
open Store Await

/-- A raw key in a response, with its merchant and the id of its row. -/
structure KeyIssue where
  key : String
  merchantId : Uuid
  id : Uuid
  deriving DecidableEq

/-- The key a reply returns, and for whom. -/
def issueOf (P : Platform) (request : AccountRequest) (reply : Except JsError AccountReply) : Option KeyIssue :=
  match request, reply with
  | .createMerchant _ _ _, .ok (.created merchant apiKey) => some ⟨apiKey.key, merchant.id, apiKey.id⟩
  | .generateApiKey id _ _, .ok (.rotated apiKey) =>
    (P.readUuid id).map fun merchantId => ⟨apiKey.key, merchantId, apiKey.id⟩
  | _, _ => none

/-- The key a reply says has been revoked. -/
def revocationOf (P : Platform) (reply : Except JsError AccountReply) : Option Uuid :=
  match reply with
  | .ok (.revoked keyId) => P.readUuid keyId
  | _ => none

def Issued (P : Platform) (s : AccountService) (issue : KeyIssue) : Prop :=
  s.Ended fun request reply => issueOf P request reply = some issue

def Revoked (P : Platform) (s : AccountService) (id : Uuid) : Prop :=
  s.Ended fun _ reply => revocationOf P reply = some id

/-- The merchant is in the table and active. -/
def Accounts.active (a : Accounts) (merchantId : Uuid) : Bool :=
  ((a.db.merchants.find merchantId).map Merchant.isActive).getD false

/-- Whether the guard lets a request pass now. -/
def guard (P : Platform) (sha256 : String → String) (env : Nat → AccountOp → AccountEnv) (headers : AuthHeaders)
    (a : Accounts) : Except JsError AuthenticatedMerchant :=
  (Async.play (performAccount P) env (canActivate sha256 headers) [] a).value

/-- What a step does to the keys and to the reply of the request that makes it. -/
inductive KeyEffect (P : Platform) (sha256 : String → String) (a : Accounts) (request : AccountRequest)
    (p : Prog AccountOp AccountOp.Answer (Except JsError AccountReply)) : Accounts → Prop
  | quiet {after} : (∀ reply, p.result = some reply → issueOf P request reply = none ∧ revocationOf P reply = none) →
      (∀ id, (after.apiKeys.find id).map (fun row => (row.merchantId, row.keyHash, row.isActive)) =
        (a.apiKeys.find id).map fun row => (row.merchantId, row.keyHash, row.isActive)) → KeyEffect P sha256 a request p after
  | issues {after reply issue row} : p.result = some reply → issueOf P request reply = some issue →
      revocationOf P reply = none → after.apiKeys.rows = a.apiKeys.rows ++ [row] → row.id = issue.id →
      row.merchantId = issue.merchantId → row.keyHash = sha256 issue.key → row.isActive = true →
      KeyEffect P sha256 a request p after
  | revokes {reply id row} : p.result = some reply → issueOf P request reply = none → revocationOf P reply = some id →
      a.apiKeys.find id = some row → KeyEffect P sha256 a request p (a.setApiKey id (fun _ => false) ApiKey.lastUsedAt)

section
variable {P : Platform} {sha256 : String → String} {world : Accounts} {s : AccountService}
variable {meets : AccountService → AccountStep → Prop}

/-- A reply that follows no write of its own neither returns a key nor revokes one. -/
theorem ends_quiet {request : AccountRequest} {seen : AccountHistory} {reply : Except JsError AccountReply}
    (ends : AccountEnds sha256 request seen reply) (unwritten : wrote seen = false) :
    issueOf P request reply = none ∧ revocationOf P reply = none := by
  cases reply with
  | error err => cases request <;> exact ⟨rfl, rfl⟩
  | ok reply =>
    cases ends with
    | created | updated | rotated | revoked => cases unwritten
    | authenticated => exact ⟨rfl, rfl⟩

/-- A step that is no write keeps what the guard looks at in the keys. -/
theorem AccountPerformed.keeps_keys {env : AccountEnv} {a after : Accounts} {op : AccountOp} {answer : op.Answer}
    (did : AccountPerformed P env a op answer after) {seen : AccountHistory} (unwritten : wrote (⟨op, answer⟩ :: seen) = false)
    (id : Uuid) : (after.apiKeys.find id).map (fun row => (row.merchantId, row.keyHash, row.isActive)) =
      (a.apiKeys.find id).map fun row => (row.merchantId, row.keyHash, row.isActive) := by
  cases did with
  | createdMerchant | updatedMerchant | createdKey | deactivated => cases unwritten
  | touched found =>
    rw [Accounts.setApiKey_find]
    split
    · rw [Option.map_map]
      rfl
    · rfl
  | _ => rfl

theorem key_effect (reach : Reach (accountSystem P sha256) meets world s) {i : Nat} {request : AccountRequest}
    {op : AccountOp} {next : op.Answer → Prog AccountOp AccountOp.Answer (Except JsError AccountReply)}
    (stands : s.threads[i]? = some ⟨request, .await op next⟩) (env : AccountEnv) :
    KeyEffect P sha256 s.world request (next (performAccount P env op s.world).1) (performAccount P env op s.world).2 := by
  obtain ⟨course, obeys⟩ := reach.obeys (account_start P sha256) stands
  have did := accountPerformed P env op s.world
  have goes := obeys (performAccount P env op s.world).1
  generalize own i s.log = seen at course goes
  generalize (performAccount P env op s.world).1 = answer at did goes ⊢
  generalize (performAccount P env op s.world).2 = after at did ⊢
  cases stored : wrote (⟨op, answer⟩ :: seen) with
  | false =>
    refine .quiet (fun reply ended => ?_) (did.keeps_keys stored)
    exact ends_quiet (goes.ended ended) stored
  | true =>
    obtain ⟨reply, ended, ends⟩ := goes.finished (AccountCourse.not_after_write stored)
    have returned : ∃ value, reply = .ok value ∧ AccountReturns sha256 request (⟨op, answer⟩ :: seen) value := by
      cases reply with
      | error err => exact absurd (stored.symm.trans ends) (by simp)
      | ok value => exact ⟨value, rfl, ends⟩
    obtain ⟨value, rfl, returns⟩ := returned
    cases did with
    | createdMerchant merchants rows intents events refunds =>
      cases returns with
      | created hash named key raw =>
        refine .issues ended rfl rfl rows key.symm named.symm ?_ rfl
        rw [raw]
        exact hash
    | updatedMerchant named found merchants apiKeys intents events refunds =>
      cases returns with
      | updated =>
        refine .quiet (fun reply again => ?_) fun id => by rw [apiKeys]
        cases ended.symm.trans again
        exact ⟨rfl, rfl⟩
    | @createdKey data owner label after named rows same =>
      cases returns with
      | @rotated text label randomHex data apiKey issued seen belongs hash key raw =>
        have issue : issueOf P (.generateApiKey text label randomHex) (.ok (.rotated issued)) =
            some ⟨issued.key, owner, issued.id⟩ := by
          simp only [issueOf, ← belongs, named, Option.map_some]
        refine .issues ended issue rfl rows key.symm rfl ?_ rfl
        rw [raw]
        exact hash
    | deactivated named found =>
      cases returns with
      | revoked => exact .revokes ended rfl named found
    | failed => cases op <;> cases stored
    | _ => cases stored

/-- What the requests so far say of the key under an id. -/
inductive KeyRecorded (P : Platform) (sha256 : String → String) (s : AccountService) (id : Uuid) : Option ApiKey → Prop
  | unknown : (∀ issue, Issued P s issue → issue.id ≠ id) → ¬ Revoked P s id → KeyRecorded P sha256 s id none
  | known {row key} : Issued P s ⟨key, row.merchantId, id⟩ → row.keyHash = sha256 key →
      (∀ issue, Issued P s issue → issue.id = id → issue.merchantId = row.merchantId ∧ row.keyHash = sha256 issue.key) →
      (row.isActive = false ↔ Revoked P s id) → KeyRecorded P sha256 s id (some row)

/-- Only what the guard looks at matters, and what was said of this key. -/
theorem KeyRecorded.congr {s' : AccountService} {id : Uuid} {old new : Option ApiKey} (recorded : KeyRecorded P sha256 s id old)
    (issued : ∀ issue, issue.id = id → (Issued P s' issue ↔ Issued P s issue)) (revoked : Revoked P s' id ↔ Revoked P s id)
    (same : new.map (fun row => (row.merchantId, row.keyHash, row.isActive)) =
      old.map fun row => (row.merchantId, row.keyHash, row.isActive)) : KeyRecorded P sha256 s' id new := by
  cases recorded with
  | unknown unissued unrevoked =>
    cases new with
    | some row => cases same
    | none =>
      refine .unknown (fun issue now here => ?_) fun now => unrevoked (revoked.mp now)
      exact unissued issue ((issued issue here).mp now) here
  | @known row key first hash issues flag =>
    cases new with
    | none => cases same
    | some now =>
      obtain ⟨owner, hashed, active⟩ : now.merchantId = row.merchantId ∧ now.keyHash = row.keyHash ∧
          now.isActive = row.isActive := by simpa using same
      have origin : Issued P s' ⟨key, now.merchantId, id⟩ := by
        rw [owner]
        exact (issued _ rfl).mpr first
      refine .known origin (hashed.trans hash) ?_ ?_
      · intro issue again here
        rw [owner, hashed]
        exact issues issue ((issued issue here).mp again) here
      · rw [active, revoked]
        exact flag

/-- A key that is returned has got a row of its own. -/
theorem KeyRecorded.issue {s' : AccountService} {id : Uuid} {before after : Table ApiKey.id} {issue : KeyIssue} {row : ApiKey}
    (recorded : KeyRecorded P sha256 s id (before.find id)) (rows : after.rows = before.rows ++ [row])
    (named : row.id = issue.id) (owner : row.merchantId = issue.merchantId) (hash : row.keyHash = sha256 issue.key)
    (active : row.isActive = true) (issued : ∀ other, Issued P s' other ↔ Issued P s other ∨ other = issue)
    (revoked : Revoked P s' id ↔ Revoked P s id) : KeyRecorded P sha256 s' id (after.find id) := by
  obtain ⟨fresh, found⟩ := Table.find_append rows
  rw [found id]
  by_cases here : id = row.id
  · rw [if_pos here]
    rw [here, fresh] at recorded
    obtain ⟨unissued, kept⟩ := recorded
    have origin : Issued P s' ⟨issue.key, row.merchantId, id⟩ := (issued _).mpr (Or.inr (by rw [here, named, owner]))
    refine .known origin hash (fun other again same => ?_) ?_
    · rcases (issued other).mp again with old | rfl
      · exact absurd (same.trans here) (unissued other old)
      · exact ⟨owner.symm, hash⟩
    · rw [active, revoked, here]
      exact iff_of_false (by simp) kept
  · rw [if_neg here]
    refine recorded.congr (fun other same => (issued other).trans (or_iff_left ?_)) revoked rfl
    rintro rfl
    exact here (same.symm.trans named.symm)

/-- Revoking a key turns the flag of its row off. -/
theorem KeyRecorded.revoke {s' : AccountService} {id gone : Uuid} {a : Accounts} {row : ApiKey}
    (recorded : KeyRecorded P sha256 s id (a.apiKeys.find id)) (found : a.apiKeys.find gone = some row)
    (issued : ∀ issue, Issued P s' issue ↔ Issued P s issue) (revoked : Revoked P s' id ↔ Revoked P s id ∨ id = gone) :
    KeyRecorded P sha256 s' id ((a.setApiKey gone (fun _ => false) ApiKey.lastUsedAt).apiKeys.find id) := by
  rw [Accounts.setApiKey_find]
  by_cases here : id = gone
  · rw [if_pos here]
    rw [here, found] at recorded ⊢
    cases recorded with
    | known first hash issues flag =>
      refine .known ((issued _).mpr first) hash (fun other again => issues other ((issued other).mp again)) ?_
      exact iff_of_true rfl (here ▸ revoked.mpr (Or.inr here))
  · rw [if_neg here]
    exact recorded.congr (fun issue _ => issued issue) (revoked.trans (or_iff_left here)) rfl

theorem keys_recorded (unused : world.apiKeys = Table.empty) (reach : Reach (accountSystem P sha256) meets world s)
    (id : Uuid) : KeyRecorded P sha256 s id (s.world.apiKeys.find id) := by
  induction reach using Await.Reach.steps with
  | initial =>
    have none : world.apiKeys.find id = none := by rw [unused]; rfl
    show KeyRecorded P sha256 (.initial world) id (world.apiKeys.find id)
    rw [none]
    refine .unknown ?_ ?_
    · rintro issue ⟨t, member, _⟩
      cases member
    · rintro ⟨t, member, _⟩
      cases member
  | spawn s request before _ ih _ =>
    have starts : ∀ reply, ((accountSystem P sha256).start request).result = some reply →
        issueOf P request reply = none ∧ revocationOf P reply = none :=
      fun reply ended => ends_quiet ((account_start P sha256 request).ended ended) rfl
    have issued : ∀ issue, Issued P { s with threads := s.threads ++ [⟨request, (accountSystem P sha256).start request⟩] } issue ↔
        Issued P s issue :=
      fun issue => Pool.ended_spawn_quiet _ fun reply ended => by simp [(starts reply ended).1]
    have revoked : Revoked P { s with threads := s.threads ++ [⟨request, (accountSystem P sha256).start request⟩] } id ↔
        Revoked P s id :=
      Pool.ended_spawn_quiet _ fun reply ended => by simp [(starts reply ended).2]
    exact ih.congr (fun issue _ => issued issue) revoked rfl
  | advance s i env request op next before _ stands ih _ =>
    have effect := key_effect before stands env
    show KeyRecorded P sha256 _ id ((performAccount P env op s.world).2.apiKeys.find id)
    generalize (performAccount P env op s.world).2 = after at effect ⊢
    cases effect with
    | quiet silent same =>
      refine ih.congr (fun issue _ => ?_) ?_ (same id)
      · exact Pool.ended_resume_quiet _ stands env fun reply ended => by simp [(silent reply ended).1]
      · exact Pool.ended_resume_quiet _ stands env fun reply ended => by simp [(silent reply ended).2]
    | @issues after reply issue row ended returns keeps rows named owner hash active =>
      refine ih.issue rows named owner hash active (fun other => ?_) ?_
      · refine (Pool.ended_resume_reply _ stands env ended).trans (or_congr_right ?_)
        rw [returns, Option.some.injEq, eq_comm]
      · refine (Pool.ended_resume_reply _ stands env ended).trans (or_iff_left ?_)
        simp [keeps]
    | @revokes reply gone row ended keeps told found =>
      refine ih.revoke found (fun issue => ?_) ?_
      · refine (Pool.ended_resume_reply _ stands env ended).trans (or_iff_left ?_)
        simp [keeps]
      · refine (Pool.ended_resume_reply _ stands env ended).trans (or_congr_right ?_)
        rw [told, Option.some.injEq, eq_comm]

variable {env : Nat → AccountOp → AccountEnv} {headers : AuthHeaders} {a : Accounts}

/-- The row of a raw key, with its merchant. -/
def Accounts.keyOf (a : Accounts) (keyHash : String) : Option (ApiKey × Merchant) :=
  (a.apiKeys.findBy ApiKey.keyHash keyHash).bind fun apiKey =>
    (a.db.merchants.find apiKey.merchantId).map fun merchant => (apiKey, merchant)

/-- Storing the time of use does not change what is returned. -/
theorem touch_value {α : Type} (env : Nat → AccountOp → AccountEnv) (id : Uuid) (value : α) (seen : AccountHistory) (a : Accounts) :
    (Async.play (performAccount P) env (do
      tryCatch (do let _ ← accountQuery (.touchApiKey id); pure ()) fun _ => pure ()
      return value : AccountPromise α) seen a).value = .ok value := by
  have stored := Async.play_request (performAccount P) env (.touchApiKey id)
    (fun answer : Except JsError ApiKey => answer) seen a
  unfold accountQuery
  simp only [Async.play_bind, Async.play_tryCatch, stored]
  cases (performAccount P (env seen.length (.touchApiKey id)) (.touchApiKey id) a).1 with
  | error err => simp
  | ok row => simp

/-- What the guard answers when its lookup reaches the database. -/
theorem guard_value {rawKey : String} (presented : headers.apiKey = some rawKey)
    (spared : (env 0 (.findApiKeyByHash (sha256 rawKey))).fails = false) :
    guard P sha256 env headers a = match a.keyOf (sha256 rawKey) with
      | none => .error ⟨.http 401, "Invalid API key."⟩
      | some (apiKey, merchant) => if apiKey.isActive && merchant.isActive then .ok ⟨merchant.id, merchant.name, rawKey⟩
        else .error ⟨.http 401, "Invalid API key."⟩ := by
  have did : performAccount P (env 0 (.findApiKeyByHash (sha256 rawKey))) (.findApiKeyByHash (sha256 rawKey)) a =
      (.ok (a.keyOf (sha256 rawKey)), a) := by
    unfold performAccount
    rw [if_neg (by simp [spared])]
    rfl
  have asked := Async.play_request (performAccount P) env (.findApiKeyByHash (sha256 rawKey))
    (fun answer : Except JsError (Option (ApiKey × Merchant)) => answer) [] a
  simp only [List.length_nil, did] at asked
  unfold guard canActivate findMerchantByApiKey accountQuery
  simp only [presented]
  cases looked : a.keyOf (sha256 rawKey) with
  | none =>
    rw [looked] at asked
    simp only [Async.play_bind, asked, Async.play_pure, Async.play_throw]
  | some pair =>
    obtain ⟨apiKey, merchant⟩ := pair
    rw [looked] at asked
    simp only [Async.play_bind, asked]
    cases active : apiKey.isActive with
    | false => simp
    | true =>
      cases enabled : merchant.isActive with
      | false => simp
      | true =>
        have touched := touch_value (P := P) env apiKey.id (some merchant)
          [⟨.findApiKeyByHash (sha256 rawKey), .ok (some (apiKey, merchant))⟩] a
        unfold accountQuery at touched
        simp [touched, enabled]

theorem guard_struck {rawKey : String} (presented : headers.apiKey = some rawKey)
    (struck : (env 0 (.findApiKeyByHash (sha256 rawKey))).fails = true) : guard P sha256 env headers a =
      .error (DbError.unavailable.thrown (env 0 (.findApiKeyByHash (sha256 rawKey))).message) := by
  have did : performAccount P (env 0 (.findApiKeyByHash (sha256 rawKey))) (.findApiKeyByHash (sha256 rawKey)) a =
      (.error (DbError.unavailable.thrown (env 0 (.findApiKeyByHash (sha256 rawKey))).message), a) := by
    unfold performAccount
    rw [if_pos struck]
  have asked := Async.play_request (performAccount P) env (.findApiKeyByHash (sha256 rawKey))
    (fun answer : Except JsError (Option (ApiKey × Merchant)) => answer) [] a
  simp only [List.length_nil, did] at asked
  unfold guard canActivate findMerchantByApiKey accountQuery
  simp only [presented, Async.play_bind, asked]

theorem Accounts.keyOf_some {keyHash : String} {row : ApiKey} {merchant : Merchant} :
    a.keyOf keyHash = some (row, merchant) ↔
      (row ∈ a.apiKeys.rows ∧ row.keyHash = keyHash) ∧ a.db.merchants.find row.merchantId = some merchant := by
  rw [← Table.findBy_some a.hashes]
  unfold Accounts.keyOf
  constructor
  · intro looked
    obtain ⟨found, stored, mapped⟩ := Option.bind_eq_some_iff.mp looked
    obtain ⟨owner, held, same⟩ := Option.map_eq_some_iff.mp mapped
    cases same
    exact ⟨stored, held⟩
  · rintro ⟨stored, held⟩
    rw [stored, Option.bind_some, held]
    rfl

/-- What the guard has seen when it takes a key. -/
theorem guard_ok_iff {headers : AuthHeaders} {found : AuthenticatedMerchant} :
    guard P sha256 env headers a = .ok found ↔
      headers.apiKey = some found.key ∧ (env 0 (.findApiKeyByHash (sha256 found.key))).fails = false ∧
        ∃ row merchant, row ∈ a.apiKeys.rows ∧ row.keyHash = sha256 found.key ∧ row.isActive = true ∧
          row.merchantId = found.id ∧ a.db.merchants.find found.id = some merchant ∧ merchant.isActive = true ∧
          merchant.name = found.name := by
  cases presented : headers.apiKey with
  | none => simp [guard, canActivate, presented]
  | some rawKey =>
    cases struck : (env 0 (.findApiKeyByHash (sha256 rawKey))).fails with
    | true =>
      rw [guard_struck presented struck]
      constructor
      · intro accepted
        cases accepted
      · rintro ⟨same, spared, -⟩
        cases same
        exact absurd (struck.symm.trans spared) (by simp)
    | false =>
      rw [guard_value presented struck]
      constructor
      · intro accepted
        cases looked : a.keyOf (sha256 rawKey) with
        | none => simp [looked] at accepted
        | some pair =>
          obtain ⟨row, merchant⟩ := pair
          obtain ⟨⟨member, hash⟩, held⟩ := Accounts.keyOf_some.mp looked
          simp only [looked] at accepted
          split at accepted
          · next both =>
            cases accepted
            obtain ⟨active, enabled⟩ := (Bool.and_eq_true _ _).mp both
            have named := Table.find_key held
            exact ⟨rfl, struck, row, merchant, member, hash, active, named.symm, named ▸ held, enabled, rfl⟩
          · cases accepted
      · rintro ⟨same, -, row, merchant, member, hash, active, owned, held, enabled, called⟩
        cases same
        have looked : a.keyOf (sha256 found.key) = some (row, merchant) :=
          Accounts.keyOf_some.mpr ⟨⟨member, hash⟩, owned ▸ held⟩
        simp only [looked, active, enabled]
        rw [Table.find_key held, called]
        rfl

theorem Accounts.active_iff {merchantId : Uuid} : a.active merchantId = true ↔
    ∃ merchant, a.db.merchants.find merchantId = some merchant ∧ merchant.isActive = true := by
  unfold Accounts.active
  cases a.db.merchants.find merchantId with
  | none => simp
  | some merchant => simp

/-- The row behind a key that has been returned. -/
theorem issued_row (unused : world.apiKeys = Table.empty) (reach : Reach (accountSystem P sha256) meets world s)
    {issue : KeyIssue} (issued : Issued P s issue) : ∃ row ∈ s.world.apiKeys.rows, row.id = issue.id ∧
      row.merchantId = issue.merchantId ∧ row.keyHash = sha256 issue.key ∧ (row.isActive = false ↔ Revoked P s issue.id) := by
  have recorded := keys_recorded unused reach issue.id
  generalize found : s.world.apiKeys.find issue.id = stored at recorded
  cases recorded with
  | unknown unissued _ => exact absurd rfl (unissued issue issued)
  | @known row key first hash issues flag =>
    obtain ⟨member, named⟩ := Table.find_some.mp found
    obtain ⟨owner, hashed⟩ := issues issue issued rfl
    exact ⟨row, member, named, owner.symm, hashed, flag⟩

/-- A revoked key is refused, with or without a failure on the way. -/
theorem guard_refuses_revoked (unused : world.apiKeys = Table.empty)
    (reach : Reach (accountSystem P sha256) meets world s) {issue : KeyIssue} (issued : Issued P s issue)
    (revoked : Revoked P s issue.id) (presented : headers.apiKey = some issue.key) (found : AuthenticatedMerchant) :
    guard P sha256 env headers s.world ≠ .ok found := by
  intro accepted
  obtain ⟨taken, -, other, merchant, inside, hashed, live, -⟩ := guard_ok_iff.mp accepted
  obtain ⟨row, member, named, owner, hash, flag⟩ := issued_row unused reach issued
  have key : found.key = issue.key := Option.some.inj (taken.symm.trans presented)
  have same : other = row := s.world.hashes.row inside member (by rw [hashed, hash, key])
  have gone : other.isActive = false := same ▸ flag.mpr revoked
  exact absurd (live.symm.trans gone) (by simp)

/-- An update that returns sets whether its merchant is active, and neither
returns a key nor revokes one. -/
theorem update_sets_active (reach : Reach (accountSystem P sha256) meets world s) {i : Nat} {request : AccountRequest}
    {text : String} {dto : UpdateMerchantDto} {next} {env : AccountEnv} {merchant : Merchant} {id : Uuid} {isActive : Bool}
    (stands : s.threads[i]? = some ⟨request, .await (.updateMerchant text dto) next⟩)
    (updated : (performAccount P env (.updateMerchant text dto) s.world).1 = .ok merchant)
    (named : P.readUuid text = some id) (asked : dto.isActive = .value isActive) :
    let s' := s.step (accountSystem P sha256) (.advance i env)
    (∀ m, s'.world.active m = if m = id then isActive else s.world.active m) ∧
      (∀ issue, Issued P s' issue ↔ Issued P s issue) ∧ ∀ k, Revoked P s' k ↔ Revoked P s k := by
  intro s'
  have moved : s' = s.resume (accountSystem P sha256) i request (.updateMerchant text dto) next env :=
    Pool.step_advance _ stands env
  obtain ⟨-, obeys⟩ := reach.obeys (account_start P sha256) stands
  have silent : ∀ reply, (next (performAccount P env (.updateMerchant text dto) s.world).1).result = some reply →
      issueOf P request reply = none ∧ revocationOf P reply = none := by
    intro reply ended
    have ends := (obeys _).ended ended
    cases reply with
    | error err => cases request <;> exact ⟨rfl, rfl⟩
    | ok reply =>
      rw [updated] at ends
      cases ends with
      | updated => exact ⟨rfl, rfl⟩
  refine ⟨fun m => ?_, fun issue => ?_, fun k => ?_⟩
  · have did := accountPerformed P env (.updateMerchant text dto) s.world
    have world : s'.world = (performAccount P env (.updateMerchant text dto) s.world).2 := by rw [moved]; rfl
    rw [updated, ← world] at did
    generalize s'.world = after at did
    cases did with
    | updatedMerchant read found merchants apiKeys intents events refunds =>
      cases read.symm.trans named
      unfold Accounts.active
      rw [merchants, Table.find_modify]
      by_cases same : m = id
      · rw [if_pos same, if_pos same, same, found]
        simp [UpdateMerchantDto.apply, asked, JsOptional.column]
      · rw [if_neg same, if_neg same]
  · rw [moved]
    exact Pool.ended_resume_quiet _ stands env fun reply ended => by simp [(silent reply ended).1]
  · rw [moved]
    exact Pool.ended_resume_quiet _ stands env fun reply ended => by simp [(silent reply ended).2]

/-- The guard takes a key for a merchant exactly when it was returned to that
merchant and is not revoked, and the merchant is active. -/
theorem guard_accepts (unused : world.apiKeys = Table.empty) (reach : Reach (accountSystem P sha256) meets world s)
    {rawKey : String} (presented : headers.apiKey = some rawKey)
    (spared : (env 0 (.findApiKeyByHash (sha256 rawKey))).fails = false)
    (injective : ∀ issue, Issued P s issue → sha256 issue.key = sha256 rawKey → issue.key = rawKey) (m : Uuid) :
    ((∃ name, guard P sha256 env headers s.world = .ok ⟨m, name, rawKey⟩) ↔
      (∃ id, Issued P s ⟨rawKey, m, id⟩ ∧ ¬ Revoked P s id) ∧ s.world.active m = true) := by
  constructor
  · rintro ⟨name, accepted⟩
    obtain ⟨-, -, row, merchant, member, hash, active, owned, held, enabled, -⟩ := guard_ok_iff.mp accepted
    have recorded := keys_recorded unused reach row.id
    rw [Table.find_mem member] at recorded
    cases recorded with
    | @known _ key first hashed issues flag =>
      have same : key = rawKey := injective _ first (hashed.symm.trans hash)
      rw [same, owned] at first
      have unrevoked : ¬ Revoked P s row.id := by
        rw [← flag, active]
        simp
      exact ⟨⟨row.id, first, unrevoked⟩, Accounts.active_iff.mpr ⟨merchant, held, enabled⟩⟩
  · rintro ⟨⟨id, issued, unrevoked⟩, active⟩
    obtain ⟨row, member, named, owner, hash, flag⟩ := issued_row unused reach issued
    obtain ⟨merchant, held, enabled⟩ := Accounts.active_iff.mp active
    have live : row.isActive = true := by
      rw [← Bool.not_eq_false]
      exact fun gone => unrevoked (flag.mp gone)
    have passes : guard P sha256 env headers s.world = .ok ⟨m, merchant.name, rawKey⟩ :=
      guard_ok_iff.mpr ⟨presented, spared, row, merchant, member, hash, live, owner, held, enabled, rfl⟩
    exact ⟨merchant.name, passes⟩

end

/-- After any run of the merchants service the guard takes exactly the keys that
were returned and not revoked, of active merchants. A revoked key is refused
whatever follows. An update of a merchant changes nothing of this but whether
it is active. -/
theorem keys_authenticate_iff (P : Platform) (sha256 : String → String) {world : Accounts} {s : AccountService}
    (unused : world.apiKeys = Table.empty) (reach : Reach (accountSystem P sha256) (fun _ _ => True) world s) :
    (∀ env headers rawKey m, headers.apiKey = some rawKey → (env 0 (.findApiKeyByHash (sha256 rawKey))).fails = false →
      (∀ issue, Issued P s issue → sha256 issue.key = sha256 rawKey → issue.key = rawKey) →
      ((∃ name, guard P sha256 env headers s.world = .ok ⟨m, name, rawKey⟩) ↔
        (∃ id, Issued P s ⟨rawKey, m, id⟩ ∧ ¬ Revoked P s id) ∧ s.world.active m = true)) ∧
    (∀ issue, Issued P s issue → Revoked P s issue.id → ∀ events env headers, headers.apiKey = some issue.key →
      ∀ found, guard P sha256 env headers (s.run (accountSystem P sha256) events).world ≠ .ok found) ∧
    ∀ i request text dto next env merchant id isActive,
      s.threads[i]? = some ⟨request, .await (.updateMerchant text dto) next⟩ →
      (performAccount P env (.updateMerchant text dto) s.world).1 = .ok merchant →
      P.readUuid text = some id → dto.isActive = .value isActive →
      let s' := s.step (accountSystem P sha256) (.advance i env)
      (∀ m, s'.world.active m = if m = id then isActive else s.world.active m) ∧
        (∀ issue, Issued P s' issue ↔ Issued P s issue) ∧ ∀ k, Revoked P s' k ↔ Revoked P s k := by
  refine ⟨?_, ?_, ?_⟩
  · intro env headers rawKey m presented spared injective
    exact guard_accepts unused reach presented spared injective m
  · intro issue issued revoked events env headers presented found
    exact guard_refuses_revoked unused (reach.run_free events) (issued.run _ events) (revoked.run _ events) presented found
  · intro i request text dto next env merchant id isActive stands updated named asked
    exact update_sets_active reach stands updated named asked

def noAccounts : Accounts where
  db := ⟨Table.empty, Table.empty, Table.empty, Table.empty, nofun, nofun, nofun⟩
  apiKeys := Table.empty
  emails := List.nodup_nil
  hashes := List.nodup_nil
  keyMerchant := nofun

/-- A step that meets no failure; a new merchant is given `id`, a new key `keyId`. -/
def calmAccount (id keyId : String) : AccountEnv := ⟨false, "", ⟨id⟩, ⟨keyId⟩, 0⟩

/-- A merchant signs up. -/
def signUp : List AccountStep :=
  [.spawn (.createMerchant ⟨"Shop", "shop@example.com", .undefined, .undefined, .undefined⟩ "00ff" "11ee"),
    .advance 0 (calmAccount "m1" "k1"), .advance 0 (calmAccount "m1" "k1")]

def signedUp : AccountService := (Pool.initial noAccounts).run (accountSystem plainPlatform id) signUp

/-- The request of the sign-up once it has been answered. -/
def signUpThread : Thread AccountOp AccountOp.Answer AccountRequest (Except JsError AccountReply) where
  request := .createMerchant ⟨"Shop", "shop@example.com", .undefined, .undefined, .undefined⟩ "00ff" "11ee"
  prog := .done (.ok (.created ⟨⟨"m1"⟩, "Shop", "shop@example.com", none, true, 0⟩
    ⟨⟨"k1"⟩, generateRawKey "00ff", getKeyPrefix (generateRawKey "00ff"), some "Default Key", none⟩))

theorem signedUp_threads : signedUp.threads = [signUpThread] := rfl

theorem keys_authenticate_sample : ∃ name, guard plainPlatform id (fun _ _ => calmAccount "m1" "k1")
    ⟨some (generateRawKey "00ff"), none⟩ signedUp.world = .ok ⟨⟨"m1"⟩, name, generateRawKey "00ff"⟩ := by
  have reach : Reach (accountSystem plainPlatform id) (fun _ _ => True) noAccounts signedUp := Reach.start.run_free signUp
  have issued : Issued plainPlatform signedUp ⟨generateRawKey "00ff", ⟨"m1"⟩, ⟨"k1"⟩⟩ := by
    refine ⟨signUpThread, ?_, _, rfl, rfl⟩
    rw [signedUp_threads]
    exact List.mem_cons_self ..
  have unrevoked : ¬ Revoked plainPlatform signedUp ⟨"k1"⟩ := by
    rintro ⟨t, member, reply, ended, told⟩
    rw [signedUp_threads] at member
    cases List.mem_singleton.mp member
    cases ended
    cases told
  exact ((keys_authenticate_iff plainPlatform id rfl reach).1 _ _ _ _ (by decide +kernel) rfl
    (fun _ _ same => same)).mpr ⟨⟨_, issued, unrevoked⟩, by decide +kernel⟩

end PayBridge
