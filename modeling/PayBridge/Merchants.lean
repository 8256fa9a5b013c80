import PayBridge.Await.Pool
import PayBridge.Transactions

namespace PayBridge
open Store Await

structure ApiKey where
  id : Uuid
  merchantId : Uuid
  keyHash : String
  keyPrefix : String
  label : Option String
  isActive : Bool
  lastUsedAt : Option Timestamp
  createdAt : Timestamp
  deriving DecidableEq

/-- The row with its flag and its time of use set, which do not identify it. -/
def ApiKey.set (isActive : ApiKey → Bool) (lastUsedAt : ApiKey → Option Timestamp) (apiKey : ApiKey) : ApiKey :=
  { apiKey with isActive := isActive apiKey, lastUsedAt := lastUsedAt apiKey }

@[simp] theorem ApiKey.set_id (isActive : ApiKey → Bool) (lastUsedAt : ApiKey → Option Timestamp) (apiKey : ApiKey) :
    (apiKey.set isActive lastUsedAt).id = apiKey.id := rfl

/-- The database with the API keys of its merchants. -/
structure Accounts where
  db : Database
  apiKeys : Table ApiKey.id
  emails : db.merchants.Unique Merchant.email
  hashes : apiKeys.Unique ApiKey.keyHash
  keyMerchant : ∀ apiKey ∈ apiKeys.rows, ∃ merchant ∈ db.merchants.rows, merchant.id = apiKey.merchantId

/-- A request body as validation lets it pass; an optional field may be `null`. -/
structure CreateMerchantDto where
  name : String
  email : String
  webhookUrl : JsOptional String
  webhookSecret : JsOptional String
  keyLabel : JsOptional String

structure UpdateMerchantDto where
  name : JsOptional String
  email : JsOptional String
  webhookUrl : JsOptional String
  webhookSecret : JsOptional String
  isActive : JsOptional Bool

/-- The fields `merchant.create` is given, with those of the key created beside it. -/
structure NewMerchant where
  name : String
  email : String
  webhookUrl : Option String
  webhookSecret : String
  keyHash : String
  keyPrefix : String
  label : String

/-- The fields `apiKey.create` is given. -/
structure NewApiKey where
  merchantId : String
  keyHash : String
  keyPrefix : String
  label : JsValue

/-- The database steps of the merchants service. -/
inductive AccountOp
  | findMerchantByEmail (email : String)
  | createMerchant (data : NewMerchant)
  | findMerchant (id : String)
  | updateMerchant (id : String) (dto : UpdateMerchantDto)
  | createApiKey (data : NewApiKey)
  | findApiKey (id : String)
  | deactivateApiKey (id : String)
  | findApiKeyByHash (keyHash : String)
  | touchApiKey (id : Uuid)

abbrev AccountOp.Result : AccountOp → Type
  | .findMerchantByEmail _ => Option Merchant
  | .createMerchant _ => Merchant × ApiKey
  | .findMerchant _ => Option Merchant
  | .updateMerchant _ _ => Merchant
  | .createApiKey _ => ApiKey
  | .findApiKey _ => Option ApiKey
  | .deactivateApiKey _ => ApiKey
  | .findApiKeyByHash _ => Option (ApiKey × Merchant)
  | .touchApiKey _ => ApiKey

abbrev AccountOp.Answer (op : AccountOp) : Type := Except JsError op.Result

/-- What a step meets from outside: a failure with its text, and the ids and the
time it is given. -/
structure AccountEnv where
  fails : Bool
  message : String
  id : Uuid
  keyId : Uuid
  now : Timestamp

namespace Accounts

/-- Inserts a merchant under a new id and a new email. -/
def addMerchant (a : Accounts) (merchant : Merchant) : Except DbError Accounts :=
  if taken : ∃ old ∈ a.db.merchants.rows, old.email = merchant.email then .error .uniqueConstraint
  else match inserted : a.db.merchants.insert merchant with
  | none => .error .uniqueConstraint
  | some merchants =>
    have kept : ∀ id, (∃ m ∈ a.db.merchants.rows, m.id = id) → ∃ m ∈ merchants.rows, m.id = id := by
      rintro id ⟨m, member, same⟩
      exact ⟨m, by rw [(Table.insert_rows inserted).1]; exact List.mem_append_left _ member, same⟩
    .ok
      { a with
        db :=
          { a.db with
            merchants := merchants
            intentMerchant := fun intent member => kept _ (a.db.intentMerchant intent member) }
        emails := a.emails.insert inserted fun old member same => taken ⟨old, member, same⟩
        keyMerchant := fun apiKey member => kept _ (a.keyMerchant apiKey member) }

/-- Inserts an API key of an existing merchant under a new id and a new hash. -/
def addApiKey (a : Accounts) (apiKey : ApiKey) : Except DbError Accounts :=
  if taken : ∃ old ∈ a.apiKeys.rows, old.keyHash = apiKey.keyHash then .error .uniqueConstraint
  else match inserted : a.apiKeys.insert apiKey with
  | none => .error .uniqueConstraint
  | some apiKeys => match known : a.db.merchants.find apiKey.merchantId with
    | none => .error .foreignKey
    | some merchant => .ok
      { a with
        apiKeys := apiKeys
        hashes := a.hashes.insert inserted fun old member same => taken ⟨old, member, same⟩
        keyMerchant := by
          intro key member
          rw [(Table.insert_rows inserted).1] at member
          rcases List.mem_append.mp member with old | added
          · exact a.keyMerchant key old
          · obtain ⟨found, same⟩ := Table.find_some.mp known
            exact ⟨merchant, found, by rw [List.mem_singleton.mp added, same]⟩ }

/-- Rewrites the merchant under an id, keeping the id, if no other merchant has its new email. -/
def setMerchant (a : Accounts) (id : Uuid) (f : Merchant → Merchant) (keeps : ∀ merchant, (f merchant).id = merchant.id) :
    Except DbError Accounts :=
  if free : ∀ m ∈ a.db.merchants.rows, m.id = id → ∀ old ∈ a.db.merchants.rows, old.id ≠ id → old.email ≠ (f m).email then
    have kept : ∀ k, (∃ m ∈ a.db.merchants.rows, m.id = k) → ∃ m ∈ (a.db.merchants.modify id f keeps).rows, m.id = k := by
      rintro k ⟨m, member, same⟩
      by_cases hit : m.id = id
      · exact ⟨f m, Table.mem_modify.mpr (Or.inr ⟨m, member, hit, rfl⟩), (keeps m).trans same⟩
      · exact ⟨m, Table.mem_modify.mpr (Or.inl ⟨member, hit⟩), same⟩
    .ok
      { a with
        db :=
          { a.db with
            merchants := a.db.merchants.modify id f keeps
            intentMerchant := fun intent member => kept _ (a.db.intentMerchant intent member) }
        emails := a.emails.modify id f keeps free
        keyMerchant := fun apiKey member => kept _ (a.keyMerchant apiKey member) }
  else .error .uniqueConstraint

/-- Rewrites the API key under an id, keeping what identifies it and its owner. -/
def setApiKey (a : Accounts) (id : Uuid) (isActive : ApiKey → Bool) (lastUsedAt : ApiKey → Option Timestamp) : Accounts :=
  { a with
    apiKeys := a.apiKeys.modify id (ApiKey.set isActive lastUsedAt) (ApiKey.set_id isActive lastUsedAt)
    hashes := a.hashes.modify id _ _ fun apiKey member same old inside other clash =>
      other ((congrArg ApiKey.id (a.hashes.row inside member clash)).trans same)
    keyMerchant := by
      intro apiKey member
      rcases Table.mem_modify.mp member with ⟨old, _⟩ | ⟨row, old, _, rfl⟩
      · exact a.keyMerchant apiKey old
      · exact a.keyMerchant row old }

end Accounts

section
variable {a after : Accounts}

/-- What an accepted merchant row changes: nothing but the merchant table. -/
theorem Accounts.addMerchant_ok {merchant : Merchant} (added : a.addMerchant merchant = .ok after) :
    after.db.merchants.rows = a.db.merchants.rows ++ [merchant] ∧ after.apiKeys = a.apiKeys ∧
      after.db.intents = a.db.intents ∧ after.db.events = a.db.events ∧ after.db.refunds = a.db.refunds := by
  unfold Accounts.addMerchant at added
  split at added
  · cases added
  · split at added
    · cases added
    · next merchants inserted =>
      cases added
      exact ⟨(Table.insert_rows inserted).1, rfl, rfl, rfl, rfl⟩

theorem Accounts.addApiKey_ok {apiKey : ApiKey} (added : a.addApiKey apiKey = .ok after) :
    after.apiKeys.rows = a.apiKeys.rows ++ [apiKey] ∧ after.db = a.db := by
  unfold Accounts.addApiKey at added
  split at added
  · cases added
  · split at added
    · cases added
    · next apiKeys inserted =>
      split at added
      · cases added
      · cases added
        exact ⟨(Table.insert_rows inserted).1, rfl⟩

theorem Accounts.setMerchant_ok {id : Uuid} {f : Merchant → Merchant} {keeps : ∀ merchant, (f merchant).id = merchant.id}
    (stored : a.setMerchant id f keeps = .ok after) :
    after.db.merchants = a.db.merchants.modify id f keeps ∧ after.apiKeys = a.apiKeys ∧
      after.db.intents = a.db.intents ∧ after.db.events = a.db.events ∧ after.db.refunds = a.db.refunds := by
  unfold Accounts.setMerchant at stored
  split at stored
  · cases stored
    exact ⟨rfl, rfl, rfl, rfl, rfl⟩
  · cases stored

@[simp] theorem Accounts.setApiKey_db (a : Accounts) (id : Uuid) (isActive : ApiKey → Bool)
    (lastUsedAt : ApiKey → Option Timestamp) : (a.setApiKey id isActive lastUsedAt).db = a.db := rfl

theorem Accounts.setApiKey_find (a : Accounts) (id : Uuid) (isActive : ApiKey → Bool)
    (lastUsedAt : ApiKey → Option Timestamp) (k : Uuid) : (a.setApiKey id isActive lastUsedAt).apiKeys.find k =
      if k = id then (a.apiKeys.find k).map (ApiKey.set isActive lastUsedAt) else a.apiKeys.find k :=
  Table.find_modify a.apiKeys id (ApiKey.set isActive lastUsedAt) (ApiKey.set_id isActive lastUsedAt) k

end

/-- A transaction on the accounts. -/
abbrev AccountTx := StateT Accounts (Except DbError)

/-- The merchant row `merchant.create` stores. -/
def NewMerchant.row (id : Uuid) (now : Timestamp) (data : NewMerchant) : Merchant :=
  ⟨id, data.name, data.email, data.webhookUrl, some data.webhookSecret, true, now⟩

/-- The key row stored beside it. -/
def NewMerchant.apiKey (id keyId : Uuid) (now : Timestamp) (data : NewMerchant) : ApiKey :=
  ⟨keyId, id, data.keyHash, data.keyPrefix, some data.label, true, none, now⟩

/-- A column as an update leaves it; absent it stays. -/
def JsOptional.column {α : Type} (field : JsOptional α) (old : α) : α :=
  match field with
  | .value a => a
  | _ => old

/-- A nullable column as an update leaves it. -/
def JsOptional.nullable {α : Type} (field : JsOptional α) (old : Option α) : Option α :=
  match field with
  | .undefined => old
  | .null => none
  | .value a => some a

/-- The row `merchant.update` leaves. -/
def UpdateMerchantDto.apply (dto : UpdateMerchantDto) (merchant : Merchant) : Merchant :=
  { merchant with
    name := dto.name.column merchant.name
    email := dto.email.column merchant.email
    webhookUrl := dto.webhookUrl.nullable merchant.webhookUrl
    webhookSecret := dto.webhookSecret.nullable merchant.webhookSecret
    isActive := dto.isActive.column merchant.isActive }

@[simp] theorem UpdateMerchantDto.apply_id (dto : UpdateMerchantDto) (merchant : Merchant) :
    (dto.apply merchant).id = merchant.id := rfl

/-- Columns that are not nullable take no `null`. -/
def UpdateMerchantDto.accepted (dto : UpdateMerchantDto) : Bool :=
  dto.name ≠ .null && dto.email ≠ .null && dto.isActive ≠ .null

/-- `apiKey.create`. -/
def apiKeyCreate (P : Platform) (keyId : Uuid) (now : Timestamp) (data : NewApiKey) : AccountTx ApiKey := fun a => do
  let label ← readString data.label
  let merchantId ← P.readId data.merchantId
  let apiKey : ApiKey := ⟨keyId, merchantId, data.keyHash, data.keyPrefix, some label, true, none, now⟩
  let after ← a.addApiKey apiKey
  return (apiKey, after)

/-- `merchant.create` with the key nested in it. -/
def merchantCreate (id keyId : Uuid) (now : Timestamp) (data : NewMerchant) : AccountTx (Merchant × ApiKey) := fun a => do
  let between ← a.addMerchant (data.row id now)
  let after ← between.addApiKey (data.apiKey id keyId now)
  return ((data.row id now, data.apiKey id keyId now), after)

/-- `merchant.update`. -/
def merchantUpdate (P : Platform) (id : String) (dto : UpdateMerchantDto) : AccountTx Merchant := fun a => do
  let id ← P.readId id
  if dto.accepted then
    match a.db.merchants.find id with
    | none => .error .recordNotFound
    | some merchant =>
      let after ← a.setMerchant id dto.apply dto.apply_id
      return (dto.apply merchant, after)
  else .error .invalidArgument

/-- `apiKey.update` of the two fields the service sets. -/
def apiKeyUpdate (id : Uuid) (isActive : ApiKey → Bool) (lastUsedAt : ApiKey → Option Timestamp) : AccountTx ApiKey := fun a =>
  match a.apiKeys.find id with
  | none => .error .recordNotFound
  | some apiKey =>
    .ok (apiKey.set isActive lastUsedAt, a.setApiKey id isActive lastUsedAt)

def AccountOp.exec (P : Platform) (env : AccountEnv) : (op : AccountOp) → AccountTx op.Result
  | .findMerchantByEmail email => fun a => .ok (a.db.merchants.findBy Merchant.email email, a)
  | .createMerchant data => merchantCreate env.id env.keyId env.now data
  | .findMerchant id => fun a => do
    let id ← P.readId id
    return (a.db.merchants.find id, a)
  | .updateMerchant id dto => merchantUpdate P id dto
  | .createApiKey data => apiKeyCreate P env.keyId env.now data
  | .findApiKey id => fun a => do
    let id ← P.readId id
    return (a.apiKeys.find id, a)
  | .deactivateApiKey id => fun a => do
    let id ← P.readId id
    apiKeyUpdate id (fun _ => false) ApiKey.lastUsedAt a
  | .findApiKeyByHash keyHash => fun a =>
    .ok ((a.apiKeys.findBy ApiKey.keyHash keyHash).bind fun apiKey =>
      (a.db.merchants.find apiKey.merchantId).map fun merchant => (apiKey, merchant), a)
  | .touchApiKey id => apiKeyUpdate id ApiKey.isActive fun _ => some env.now

/-- One step on the accounts; a failed one leaves them as they were. -/
def performAccount (P : Platform) (env : AccountEnv) (op : AccountOp) (a : Accounts) : op.Answer × Accounts :=
  if env.fails then (.error (DbError.unavailable.thrown env.message), a)
  else match op.exec P env a with
    | .ok (result, after) => (.ok result, after)
    | .error err => (.error (err.thrown env.message), a)

theorem except_bind_ok {ε α β : Type} {x : Except ε α} {f : α → Except ε β} {b : β} :
    (x >>= f) = .ok b ↔ ∃ value, x = .ok value ∧ f value = .ok b := by
  cases x with
  | error err => simp [bind, Except.bind]
  | ok value => simp [bind, Except.bind]

/-- Everything a step can answer and do. -/
inductive AccountPerformed (P : Platform) (env : AccountEnv) (a : Accounts) : (op : AccountOp) → op.Answer → Accounts → Prop
  | failed {op err} : AccountPerformed P env a op (.error err) a
  | readEmail {email} : AccountPerformed P env a (.findMerchantByEmail email)
      (.ok (a.db.merchants.findBy Merchant.email email)) a
  | createdMerchant {data after} : after.db.merchants.rows = a.db.merchants.rows ++ [data.row env.id env.now] →
      after.apiKeys.rows = a.apiKeys.rows ++ [data.apiKey env.id env.keyId env.now] →
      after.db.intents = a.db.intents → after.db.events = a.db.events → after.db.refunds = a.db.refunds →
      AccountPerformed P env a (.createMerchant data)
        (.ok (data.row env.id env.now, data.apiKey env.id env.keyId env.now)) after
  | readMerchant {text id} : P.readUuid text = some id →
      AccountPerformed P env a (.findMerchant text) (.ok (a.db.merchants.find id)) a
  | updatedMerchant {text id dto merchant after} : P.readUuid text = some id → a.db.merchants.find id = some merchant →
      after.db.merchants = a.db.merchants.modify id dto.apply dto.apply_id → after.apiKeys = a.apiKeys →
      after.db.intents = a.db.intents → after.db.events = a.db.events → after.db.refunds = a.db.refunds →
      AccountPerformed P env a (.updateMerchant text dto) (.ok (dto.apply merchant)) after
  | createdKey {data id label after} : P.readUuid data.merchantId = some id →
      after.apiKeys.rows = a.apiKeys.rows ++
        [⟨env.keyId, id, data.keyHash, data.keyPrefix, some label, true, none, env.now⟩] → after.db = a.db →
      AccountPerformed P env a (.createApiKey data)
        (.ok ⟨env.keyId, id, data.keyHash, data.keyPrefix, some label, true, none, env.now⟩) after
  | readKey {text id} : P.readUuid text = some id →
      AccountPerformed P env a (.findApiKey text) (.ok (a.apiKeys.find id)) a
  | deactivated {text id apiKey} : P.readUuid text = some id → a.apiKeys.find id = some apiKey →
      AccountPerformed P env a (.deactivateApiKey text) (.ok (apiKey.set (fun _ => false) ApiKey.lastUsedAt))
        (a.setApiKey id (fun _ => false) ApiKey.lastUsedAt)
  | readHash {keyHash} : AccountPerformed P env a (.findApiKeyByHash keyHash)
      (.ok ((a.apiKeys.findBy ApiKey.keyHash keyHash).bind fun apiKey =>
        (a.db.merchants.find apiKey.merchantId).map fun merchant => (apiKey, merchant))) a
  | touched {id apiKey} : a.apiKeys.find id = some apiKey →
      AccountPerformed P env a (.touchApiKey id) (.ok (apiKey.set ApiKey.isActive fun _ => some env.now))
        (a.setApiKey id ApiKey.isActive fun _ => some env.now)

theorem accountPerformed (P : Platform) (env : AccountEnv) (op : AccountOp) (a : Accounts) :
    AccountPerformed P env a op (performAccount P env op a).1 (performAccount P env op a).2 := by
  unfold performAccount
  split
  · exact .failed
  · split
    · next result after ran =>
      cases op with
      | findMerchantByEmail email => cases ran; exact .readEmail
      | createMerchant data =>
        obtain ⟨between, first, ran⟩ := except_bind_ok.mp ran
        obtain ⟨last, second, ran⟩ := except_bind_ok.mp ran
        cases ran
        obtain ⟨merchants, apiKeys, intents, events, refunds⟩ := Accounts.addMerchant_ok first
        obtain ⟨rows, same⟩ := Accounts.addApiKey_ok second
        rw [apiKeys] at rows
        rw [← same] at merchants intents events refunds
        exact .createdMerchant merchants rows intents events refunds
      | findMerchant text =>
        obtain ⟨id, named, ran⟩ := except_bind_ok.mp ran
        cases ran
        exact .readMerchant (readId_ok.mp named)
      | updateMerchant text dto =>
        obtain ⟨id, named, ran⟩ := except_bind_ok.mp ran
        split at ran
        · split at ran
          · cases ran
          · next merchant found =>
            obtain ⟨last, stored, ran⟩ := except_bind_ok.mp ran
            cases ran
            obtain ⟨merchants, apiKeys, intents, events, refunds⟩ := Accounts.setMerchant_ok stored
            exact .updatedMerchant (readId_ok.mp named) found merchants apiKeys intents events refunds
        · cases ran
      | createApiKey data =>
        obtain ⟨label, read, ran⟩ := except_bind_ok.mp ran
        obtain ⟨id, named, ran⟩ := except_bind_ok.mp ran
        obtain ⟨last, added, ran⟩ := except_bind_ok.mp ran
        cases ran
        obtain ⟨rows, same⟩ := Accounts.addApiKey_ok added
        exact .createdKey (readId_ok.mp named) rows same
      | findApiKey text =>
        obtain ⟨id, named, ran⟩ := except_bind_ok.mp ran
        cases ran
        exact .readKey (readId_ok.mp named)
      | deactivateApiKey text =>
        obtain ⟨id, named, ran⟩ := except_bind_ok.mp ran
        unfold apiKeyUpdate at ran
        split at ran
        · cases ran
        · next apiKey found =>
          cases ran
          exact .deactivated (readId_ok.mp named) found
      | findApiKeyByHash keyHash => cases ran; exact .readHash
      | touchApiKey id =>
        have ran : apiKeyUpdate id ApiKey.isActive (fun _ => some env.now) a = .ok (result, after) := ran
        unfold apiKeyUpdate at ran
        split at ran
        · cases ran
        · next apiKey found =>
          cases ran
          exact .touched found
    · exact .failed

/-- An asynchronous function of the merchants service. -/
abbrev AccountPromise := Async AccountOp AccountOp.Answer JsError

def accountQuery (op : AccountOp) : AccountPromise op.Result := Async.request op fun answer => answer

/-- `generateRawKey`, of the random bytes in hex. -/
def generateRawKey (randomHex : String) : String := "pb_live_" ++ randomHex

/-- `getKeyPrefix`. -/
def getKeyPrefix (rawKey : String) : String :=
  String.ofList (rawKey.toList.take 8) ++ "..." ++ String.ofList (rawKey.toList.drop (rawKey.length - 8))

/-- A new key in a response; only there the raw key is shown. -/
structure IssuedKey where
  id : Uuid
  key : String
  keyPrefix : String
  label : Option String
  createdAt : Option Timestamp
  deriving DecidableEq

/-- The merchant in the response to its creation. -/
structure CreatedMerchant where
  id : Uuid
  name : String
  email : String
  webhookUrl : Option String
  isActive : Bool
  createdAt : Timestamp
  deriving DecidableEq

def merchantNotFound (id : String) : JsError := ⟨.http 404, "Merchant " ++ id ++ " not found."⟩

/-- `createMerchant`, with the random bytes of the key and of a default secret. -/
def createMerchant (sha256 : String → String) (randomHex secretHex : String) (dto : CreateMerchantDto) :
    AccountPromise (CreatedMerchant × IssuedKey) := do
  let existing ← accountQuery (.findMerchantByEmail dto.email)
  if existing.isSome then throw ⟨.http 409, "A merchant with email \"" ++ dto.email ++ "\" already exists."⟩
  let rawKey := generateRawKey randomHex
  let keyPrefix := getKeyPrefix rawKey
  let (merchant, apiKey) ← accountQuery (.createMerchant
    { name := dto.name
      email := dto.email
      webhookUrl := dto.webhookUrl.toOption
      webhookSecret := dto.webhookSecret.toOption.getD ("pb_whsec_" ++ secretHex)
      keyHash := sha256 rawKey
      keyPrefix := keyPrefix
      label := dto.keyLabel.toOption.getD "Default Key" })
  return (⟨merchant.id, merchant.name, merchant.email, merchant.webhookUrl, merchant.isActive, merchant.createdAt⟩,
    ⟨apiKey.id, rawKey, keyPrefix, apiKey.label, none⟩)

/-- `updateMerchant`. -/
def updateMerchant (id : String) (dto : UpdateMerchantDto) : AccountPromise Merchant := do
  let merchant ← accountQuery (.findMerchant id)
  if merchant.isNone then throw (merchantNotFound id)
  accountQuery (.updateMerchant id dto)

/-- `label ?? 'New Key'`. -/
def newKeyLabel (label : JsValue) : JsValue :=
  match label with
  | none => some (.str "New Key")
  | some .null => some (.str "New Key")
  | some value => some value

/-- `rotateApiKey`, with the random bytes of the key. -/
def rotateApiKey (sha256 : String → String) (randomHex : String) (merchantId : String) (label : JsValue) :
    AccountPromise IssuedKey := do
  let merchant ← accountQuery (.findMerchant merchantId)
  if merchant.isNone then throw (merchantNotFound merchantId)
  let rawKey := generateRawKey randomHex
  let keyPrefix := getKeyPrefix rawKey
  let apiKey ← accountQuery (.createApiKey ⟨merchantId, sha256 rawKey, keyPrefix, newKeyLabel label⟩)
  return ⟨apiKey.id, rawKey, keyPrefix, apiKey.label, some apiKey.createdAt⟩

/-- `revokeApiKey`; the answer repeats the id it was given. -/
def revokeApiKey (keyId : String) : AccountPromise String := do
  let apiKey ← accountQuery (.findApiKey keyId)
  if apiKey.isNone then throw ⟨.http 404, "API key " ++ keyId ++ " not found."⟩
  let _ ← accountQuery (.deactivateApiKey keyId)
  return keyId

/-- `findMerchantByApiKey`. The service does not wait for the time of use to be
stored, nor does it look whether it was. -/
def findMerchantByApiKey (sha256 : String → String) (rawKey : String) : AccountPromise (Option Merchant) := do
  let found ← accountQuery (.findApiKeyByHash (sha256 rawKey))
  match found with
  | none => return none
  | some (apiKey, merchant) =>
    if !apiKey.isActive then return none
    if !merchant.isActive then return none
    tryCatch (do let _ ← accountQuery (.touchApiKey apiKey.id); pure ()) fun _ => pure ()
    return some merchant

/-- The headers the guard reads. -/
structure AuthHeaders where
  xApiKey : Option String
  authorization : Option String

/-- The key a request presents; an empty one is none. -/
def AuthHeaders.apiKey (headers : AuthHeaders) : Option String :=
  let apiKey := match headers.authorization with
    | some authorization =>
      if !truthy headers.xApiKey && "Bearer ".toList.isPrefixOf authorization.toList then
        some (jsTrim (String.ofList (authorization.toList.drop 7)))
      else headers.xApiKey
    | none => headers.xApiKey
  if truthy apiKey then apiKey else none

structure AuthenticatedMerchant where
  id : Uuid
  name : String
  key : String
  deriving DecidableEq

def missingApiKey : JsError :=
  ⟨.http 401, "Missing API key. Provide it via \"x-api-key\" header or \"Authorization: Bearer <key>\"."⟩

/-- `ApiKeyGuard.canActivate`: the merchant it attaches to the request. -/
def canActivate (sha256 : String → String) (headers : AuthHeaders) : AccountPromise AuthenticatedMerchant :=
  match headers.apiKey with
  | none => throw missingApiKey
  | some apiKey => do
    let merchant ← findMerchantByApiKey sha256 apiKey
    match merchant with
    | none => throw ⟨.http 401, "Invalid API key."⟩
    | some merchant =>
      if !merchant.isActive then throw ⟨.http 401, "Merchant account is deactivated."⟩
      return ⟨merchant.id, merchant.name, apiKey⟩

/-- The routes of the merchants controller, and a request that stops at the API
key guard. The random bytes are what a request meets when it runs. -/
inductive AccountRequest
  | createMerchant (dto : CreateMerchantDto) (randomHex secretHex : String)
  | updateMerchant (id : String) (dto : UpdateMerchantDto)
  | generateApiKey (id : String) (label : JsValue) (randomHex : String)
  | revokeApiKey (id keyId : String)
  | authenticate (headers : AuthHeaders)

inductive AccountReply
  | created (merchant : CreatedMerchant) (apiKey : IssuedKey)
  | updated (merchant : Merchant)
  | rotated (apiKey : IssuedKey)
  | revoked (keyId : String)
  | authenticated (merchant : AuthenticatedMerchant)
  deriving DecidableEq

/-- What the route calls. The last one of the controller takes only the second
id of its path. -/
def AccountRequest.handle (sha256 : String → String) : AccountRequest → AccountPromise AccountReply
  | .createMerchant dto randomHex secretHex => do
    let (merchant, apiKey) ← PayBridge.createMerchant sha256 randomHex secretHex dto
    return .created merchant apiKey
  | .updateMerchant id dto => do
    let merchant ← PayBridge.updateMerchant id dto
    return .updated merchant
  | .generateApiKey id label randomHex => do
    let apiKey ← rotateApiKey sha256 randomHex id label
    return .rotated apiKey
  | .revokeApiKey _ keyId => do
    let revoked ← PayBridge.revokeApiKey keyId
    return .revoked revoked
  | .authenticate headers => do
    let merchant ← canActivate sha256 headers
    return .authenticated merchant

/-- Any number of such requests at once. -/
def accountSystem (P : Platform) (sha256 : String → String) :
    System AccountOp AccountOp.Answer Accounts AccountEnv AccountRequest (Except JsError AccountReply) where
  perform := performAccount P
  start request := ExceptT.run (request.handle sha256)

abbrev AccountService := Pool AccountOp AccountOp.Answer Accounts AccountRequest (Except JsError AccountReply)
abbrev AccountStep := Event AccountRequest AccountEnv
abbrev AccountHistory := History AccountOp.Answer

/-- Where a request stands after what it has seen, newest first. -/
inductive AccountCourse (sha256 : String → String) : AccountRequest → AccountHistory → AccountOp → Prop
  | email {dto randomHex secretHex} :
      AccountCourse sha256 (.createMerchant dto randomHex secretHex) [] (.findMerchantByEmail dto.email)
  | create {dto randomHex secretHex data} : data.keyHash = sha256 (generateRawKey randomHex) →
      AccountCourse sha256 (.createMerchant dto randomHex secretHex)
        [⟨.findMerchantByEmail dto.email, .ok none⟩] (.createMerchant data)
  | findForUpdate {id dto} : AccountCourse sha256 (.updateMerchant id dto) [] (.findMerchant id)
  | update {id dto merchant} : AccountCourse sha256 (.updateMerchant id dto)
      [⟨.findMerchant id, .ok (some merchant)⟩] (.updateMerchant id dto)
  | findForKey {id label randomHex} : AccountCourse sha256 (.generateApiKey id label randomHex) [] (.findMerchant id)
  | createKey {id label randomHex merchant data} : data.merchantId = id →
      data.keyHash = sha256 (generateRawKey randomHex) → AccountCourse sha256 (.generateApiKey id label randomHex)
        [⟨.findMerchant id, .ok (some merchant)⟩] (.createApiKey data)
  | findKey {id keyId} : AccountCourse sha256 (.revokeApiKey id keyId) [] (.findApiKey keyId)
  | deactivate {id keyId apiKey} : AccountCourse sha256 (.revokeApiKey id keyId)
      [⟨.findApiKey keyId, .ok (some apiKey)⟩] (.deactivateApiKey keyId)
  | lookup {headers apiKey} : headers.apiKey = some apiKey →
      AccountCourse sha256 (.authenticate headers) [] (.findApiKeyByHash (sha256 apiKey))
  | touch {headers apiKey row merchant} : headers.apiKey = some apiKey → row.isActive = true →
      merchant.isActive = true → AccountCourse sha256 (.authenticate headers)
        [⟨.findApiKeyByHash (sha256 apiKey), .ok (some (row, merchant))⟩] (.touchApiKey row.id)

/-- What a request has seen when it returns. -/
inductive AccountReturns (sha256 : String → String) : AccountRequest → AccountHistory → AccountReply → Prop
  | created {dto randomHex secretHex data row apiKey merchant issued seen} :
      data.keyHash = sha256 (generateRawKey randomHex) → merchant.id = row.id → issued.id = apiKey.id →
      issued.key = generateRawKey randomHex → AccountReturns sha256 (.createMerchant dto randomHex secretHex)
        (⟨.createMerchant data, .ok (row, apiKey)⟩ :: seen) (.created merchant issued)
  | updated {id dto merchant seen} : AccountReturns sha256 (.updateMerchant id dto)
      (⟨.updateMerchant id dto, .ok merchant⟩ :: seen) (.updated merchant)
  | rotated {id label randomHex data apiKey issued seen} : data.merchantId = id →
      data.keyHash = sha256 (generateRawKey randomHex) → issued.id = apiKey.id →
      issued.key = generateRawKey randomHex → AccountReturns sha256 (.generateApiKey id label randomHex)
        (⟨.createApiKey data, .ok apiKey⟩ :: seen) (.rotated issued)
  | revoked {id keyId apiKey seen} : AccountReturns sha256 (.revokeApiKey id keyId)
      (⟨.deactivateApiKey keyId, .ok apiKey⟩ :: seen) (.revoked keyId)
  | authenticated {headers apiKey row merchant answer} : headers.apiKey = some apiKey → row.isActive = true →
      merchant.isActive = true → AccountReturns sha256 (.authenticate headers)
        [⟨.touchApiKey row.id, answer⟩, ⟨.findApiKeyByHash (sha256 apiKey), .ok (some (row, merchant))⟩]
        (.authenticated ⟨merchant.id, merchant.name, apiKey⟩)

/-- The last thing a request has seen is a row of its own, stored. -/
def wrote : AccountHistory → Bool
  | ⟨.createMerchant _, .ok _⟩ :: _ => true
  | ⟨.updateMerchant _ _, .ok _⟩ :: _ => true
  | ⟨.createApiKey _, .ok _⟩ :: _ => true
  | ⟨.deactivateApiKey _, .ok _⟩ :: _ => true
  | _ => false

theorem guard_course (sha256 : String → String) (headers : AuthHeaders) :
    Async.Obeys (AccountCourse sha256 (.authenticate headers))
      (fun seen merchant => AccountReturns sha256 (.authenticate headers) seen (.authenticated merchant))
      (fun seen _ => wrote seen = false)
      (canActivate sha256 headers) [] := by
  unfold canActivate
  cases presented : headers.apiKey with
  | none => rfl
  | some apiKey =>
    refine (Async.obeys_bind _ _ _).mpr ((Async.obeys_bind _ _ _).mpr ((Async.obeys_request _ _ _).mpr
      ⟨.lookup presented, ?_⟩))
    intro answer
    cases answer with
    | error err => rfl
    | ok found =>
      cases found with
      | none => rfl
      | some pair =>
        obtain ⟨row, merchant⟩ := pair
        cases active : row.isActive with
        | false => simp [active, wrote]
        | true =>
          cases enabled : merchant.isActive with
          | false => simp [active, enabled, wrote]
          | true =>
            simp only [active, enabled]
            refine (Async.obeys_bind _ _ _).mpr ((Async.obeys_tryCatch _ _ _).mpr ((Async.obeys_bind _ _ _).mpr
              ((Async.obeys_request _ _ _).mpr ⟨.touch presented active enabled, ?_⟩)))
            intro answer
            have ends : AccountReturns sha256 (.authenticate headers) [⟨.touchApiKey row.id, answer⟩,
                ⟨.findApiKeyByHash (sha256 apiKey), .ok (some (row, merchant))⟩]
                (.authenticated ⟨merchant.id, merchant.name, apiKey⟩) := .authenticated presented active enabled
            cases answer with
            | error err => simpa [enabled] using ends
            | ok row => simpa [enabled] using ends

theorem account_course (sha256 : String → String) (request : AccountRequest) :
    Async.Obeys (AccountCourse sha256 request) (AccountReturns sha256 request)
      (fun seen _ => wrote seen = false) (request.handle sha256) [] := by
  cases request with
  | createMerchant dto randomHex secretHex =>
    refine (Async.obeys_bind _ _ _).mpr ((Async.obeys_bind _ _ _).mpr ((Async.obeys_request _ _ _).mpr ⟨.email, ?_⟩))
    intro answer
    cases answer with
    | error err => rfl
    | ok existing =>
      cases existing with
      | some merchant => rfl
      | none =>
        refine (Async.obeys_bind _ _ _).mpr ((Async.obeys_request _ _ _).mpr ⟨.create rfl, ?_⟩)
        intro answer
        cases answer with
        | error err => rfl
        | ok pair => exact .created rfl rfl rfl rfl
  | updateMerchant id dto =>
    refine (Async.obeys_bind _ _ _).mpr ((Async.obeys_bind _ _ _).mpr ((Async.obeys_request _ _ _).mpr ⟨.findForUpdate, ?_⟩))
    intro answer
    cases answer with
    | error err => rfl
    | ok found =>
      cases found with
      | none => rfl
      | some merchant =>
        refine (Async.obeys_request _ _ _).mpr ⟨.update, ?_⟩
        intro answer
        cases answer with
        | error err => rfl
        | ok merchant => exact .updated
  | generateApiKey id label randomHex =>
    refine (Async.obeys_bind _ _ _).mpr ((Async.obeys_bind _ _ _).mpr ((Async.obeys_request _ _ _).mpr ⟨.findForKey, ?_⟩))
    intro answer
    cases answer with
    | error err => rfl
    | ok found =>
      cases found with
      | none => rfl
      | some merchant =>
        refine (Async.obeys_bind _ _ _).mpr ((Async.obeys_request _ _ _).mpr ⟨.createKey rfl rfl, ?_⟩)
        intro answer
        cases answer with
        | error err => rfl
        | ok apiKey => exact .rotated rfl rfl rfl rfl
  | revokeApiKey id keyId =>
    refine (Async.obeys_bind _ _ _).mpr ((Async.obeys_bind _ _ _).mpr ((Async.obeys_request _ _ _).mpr ⟨.findKey, ?_⟩))
    intro answer
    cases answer with
    | error err => rfl
    | ok found =>
      cases found with
      | none => rfl
      | some apiKey =>
        refine (Async.obeys_bind _ _ _).mpr ((Async.obeys_request _ _ _).mpr ⟨.deactivate, ?_⟩)
        intro answer
        cases answer with
        | error err => rfl
        | ok apiKey => exact .revoked
  | authenticate headers =>
    exact (Async.obeys_bind _ _ _).mpr (guard_course sha256 headers)

/-- How a request ends, by what it has seen: a request that stored a row of its own returns. -/
def AccountEnds (sha256 : String → String) (request : AccountRequest) (seen : AccountHistory) :
    Except JsError AccountReply → Prop
  | .ok reply => AccountReturns sha256 request seen reply
  | .error _ => wrote seen = false

theorem account_start (P : Platform) (sha256 : String → String) (request : AccountRequest) :
    ((accountSystem P sha256).start request).Obeys (AccountCourse sha256 request) (AccountEnds sha256 request) [] := by
  refine Prog.Obeys.mono (fun _ _ asks => asks) ?_ (account_course sha256 request)
  intro seen outcome ends
  cases outcome with
  | error err => exact ends
  | ok reply => exact ends

/-- Nothing is asked once a request has stored a row of its own. -/
theorem AccountCourse.not_after_write {sha256 : String → String} {request : AccountRequest} {seen : AccountHistory}
    (stored : wrote seen = true) (op : AccountOp) : ¬ AccountCourse sha256 request seen op := by
  intro course
  cases course <;> cases stored

end PayBridge
