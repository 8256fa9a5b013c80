import PayBridge.Await.Played
import PayBridge.Checkout

namespace PayBridge
open Store Await

/-- The decorators of the request, of the fields that reach a gateway. That `Length(3, 3)`
leaves three characters is assumed of the validator, which leaves some characters, such as
the variation selectors, uncounted. -/
def CreateCheckoutSessionDto.Validated (dto : CreateCheckoutSessionDto) : Prop := 1 ≤ dto.amount ∧ dto.currency.length = 3

/-- The columns have room for the amount and for the currency. -/
def CreateCheckoutSessionDto.Storable (P : Platform) (dto : CreateCheckoutSessionDto) : Prop :=
  (∃ stored, Decimal.ofNumber dto.amount = some stored) ∧ (P.toUpperCase dto.currency).length ≤ 3

/-- An amount of whole cents that the column has room for, and a currency in upper case. -/
def CreateCheckoutSessionDto.StoredAsGiven (P : Platform) (dto : CreateCheckoutSessionDto) : Prop :=
  (∃ stored, Decimal.ofNumber dto.amount = some stored) ∧ WholeCents dto.amount ∧ P.toUpperCase dto.currency = dto.currency

section
variable (candidates : List GatewayProvider) (amount : ℚ) (currency reference : String) (seen : History Op.Answer)

/-- An operation asks a candidate for the charge. -/
abbrev Charges (op : Op) : Prop := ∃ gateway ∈ candidates, op = .fireCreateIntent gateway amount currency reference

/-- A gateway was asked for the charge, and has answered the result of an execution. -/
abbrev Charged (execution : FallbackExecution) : Prop :=
  ⟨.fireCreateIntent execution.gateway amount currency reference, .ok execution.result⟩ ∈ seen

/-- A gateway was asked for the charge, and has failed. -/
abbrev ChargeFailed : Prop :=
  ∃ gateway failure, ⟨.fireCreateIntent gateway amount currency reference, .error failure⟩ ∈ seen

end

/-- An executor hands the amount, the currency and the reference on to
candidates, and to nobody else. It returns what a gateway has answered, and
throws only when a candidate has failed. -/
def Forwards (call : List GatewayProvider → ℚ → String → String → Promise FallbackExecution) : Prop :=
  ∀ candidates amount currency reference seen, Async.Obeys (fun _ op => Charges candidates amount currency reference op)
    (fun later execution => Charged amount currency reference later execution)
    (fun later _ => candidates = [] ∨ ChargeFailed amount currency reference later)
    (call candidates amount currency reference) seen

/-- A checkout that returns has stored one intent, with the amount, the currency
and the reference that every gateway was asked for, and with the payment that its
gateway has answered. -/
def ChargedAsStored (w : World) (o : Outcome Op.Answer World (Except JsError CheckoutSession)) : Prop :=
  ∀ session, o.value = .ok session → ∃ row, o.world.db.intents.rows = w.db.intents.rows ++ [row] ∧
    (∃ result, ⟨.fireCreateIntent row.gateway row.amount.toNumber row.currency row.reference, .ok result⟩ ∈ o.log ∧
      row.gatewayPaymentId = some result.gatewayPaymentId) ∧
    ∀ gateway amount currency reference answer, ⟨.fireCreateIntent gateway amount currency reference, answer⟩ ∈ o.log →
      amount = row.amount.toNumber ∧ currency = row.currency ∧ reference = row.reference

/-- A request that the columns have no room for reaches no gateway. -/
def RejectedUncharged (P : Platform) (dto : CreateCheckoutSessionDto)
    (o : Outcome Op.Answer World (Except JsError CheckoutSession)) : Prop :=
  ¬ dto.Storable P → ∀ gateway amount currency reference answer,
    ⟨.fireCreateIntent gateway amount currency reference, answer⟩ ∉ o.log

def RecordsCharge (P : Platform) (dto : CreateCheckoutSessionDto) (w : World)
    (o : Outcome Op.Answer World (Except JsError CheckoutSession)) : Prop :=
  ChargedAsStored w o ∧ RejectedUncharged P dto o

/-- All that a log has asked of gateways is one charge, and an answer that
something outside has failed is in it only where something has. -/
structure ChargesOnly (env : Nat → Op → Env) (amount : ℚ) (currency reference : String) (seen : History Op.Answer) : Prop where
  charge : ∀ gateway otherAmount otherCurrency otherReference answer,
    ⟨.fireCreateIntent gateway otherAmount otherCurrency otherReference, answer⟩ ∈ seen →
      otherAmount = amount ∧ otherCurrency = currency ∧ otherReference = reference
  failed : ChargeFailed amount currency reference seen → ∃ n op, (env n op).fails = true ∨ (env n op).breakerOpen = true

section
variable {P : Platform} {env : Nat → Op → Env} {isAvailable : GatewayProvider → Bool} {randomHex : String}
variable {dto : CreateCheckoutSessionDto} {merchantId : Uuid} {w : World}
variable {call : List GatewayProvider → ℚ → String → String → Promise FallbackExecution}
variable {amount : ℚ} {currency reference : String} {seen : History Op.Answer}

theorem ChargesOnly.other {op : Op} (only : ChargesOnly env amount currency reference seen) (answer : op.Answer)
    (silent : ∀ gateway amount currency reference, op ≠ .fireCreateIntent gateway amount currency reference) :
    ChargesOnly env amount currency reference (⟨op, answer⟩ :: seen) := by
  constructor
  · intro gateway _ _ _ _ member
    rcases List.mem_cons.mp member with same | old
    · exact absurd (congrArg Sigma.fst same).symm (silent _ _ _ _)
    · exact only.charge gateway _ _ _ _ old
  · rintro ⟨gateway, failure, member⟩
    rcases List.mem_cons.mp member with same | old
    · exact absurd (congrArg Sigma.fst same).symm (silent _ _ _ _)
    · exact only.failed ⟨gateway, failure, old⟩

theorem ChargesOnly.fired (only : ChargesOnly env amount currency reference seen) (gateway : GatewayProvider) (n : Nat) :
    ChargesOnly env amount currency reference (⟨.fireCreateIntent gateway amount currency reference,
      (perform P (env n (.fireCreateIntent gateway amount currency reference))
        (.fireCreateIntent gateway amount currency reference) w).1⟩ :: seen) := by
  constructor
  · intro other _ _ _ _ member
    rcases List.mem_cons.mp member with same | old
    · cases same
      exact ⟨rfl, rfl, rfl⟩
    · exact only.charge other _ _ _ _ old
  · rintro ⟨other, failure, member⟩
    rcases List.mem_cons.mp member with same | old
    · refine ⟨n, .fireCreateIntent gateway amount currency reference, ?_⟩
      by_contra calm
      obtain ⟨spared, closed⟩ := not_or.mp calm
      simp only [perform, Bool.eq_false_iff.mpr spared, Bool.eq_false_iff.mpr closed, Bool.false_eq_true, if_false] at same
      cases same
    · exact only.failed ⟨other, failure, old⟩

/-- The insertion of the intent of an executed call. -/
abbrev CreateCheckoutSessionDto.insert (P : Platform) (dto : CreateCheckoutSessionDto) (reference : String) (merchantId : Uuid)
    (execution : FallbackExecution) : Op :=
  .query (.createIntent (dto.newIntent P reference merchantId execution))

/-- All the ways in which a checkout made alone ends. -/
inductive CheckoutEnds (P : Platform) (env : Nat → Op → Env) (dto : CreateCheckoutSessionDto) (merchantId : Uuid) (w : World)
    (reference : String) : Except JsError CheckoutSession → World → History Op.Answer → Prop
  | unexecuted {err log} : (∃ n op, (env n op).fails = true ∨ (env n op).breakerOpen = true) →
      CheckoutEnds P env dto merchantId w reference (.error err) w log
  | unstored {execution seen err} :
      Charged dto.amount dto.currency reference seen execution →
      perform P (env seen.length (dto.insert P reference merchantId execution)) (dto.insert P reference merchantId execution) w =
        (.error err, w) →
      CheckoutEnds P env dto merchantId w reference (.error err) w
        (⟨dto.insert P reference merchantId execution, .error err⟩ :: seen)
  | stored {execution seen row after} :
      Charged dto.amount dto.currency reference seen execution →
      perform P (env seen.length (dto.insert P reference merchantId execution)) (dto.insert P reference merchantId execution) w =
        (.ok row, after) →
      CheckoutEnds P env dto merchantId w reference
        (.ok ⟨row.id, row.reference, execution.gateway, execution.result.clientSecret⟩) after
        (⟨dto.insert P reference merchantId execution, .ok row⟩ :: seen)

theorem createSession_ends (forwards : Forwards call) (env : Nat → Op → Env) (isAvailable : GatewayProvider → Bool)
    (randomHex : String) (dto : CreateCheckoutSessionDto) (merchantId : Uuid) (w : World) :
    let o := (createSession P ⟨some call⟩ isAvailable randomHex dto merchantId).play (perform P) env [] w
    let reference := orderReference (env 0 .now).now randomHex
    CheckoutEnds P env dto merchantId w reference o.value o.world o.log ∧
      ChargesOnly env dto.amount dto.currency reference o.log := by
  generalize made : (createSession P ⟨some call⟩ isAvailable randomHex dto merchantId).play (perform P) env [] w = o
  generalize referenced : orderReference (env 0 .now).now randomHex = reference
  have timed : perform P (env 0 .now) .now w = ((env 0 .now).now, w) := rfl
  unfold createSession dateNow at made
  rw [Async.play_bind_request timed] at made
  dsimp only at made
  rw [referenced] at made
  let candidates := (dto.route P isAvailable).candidates
  have executed := Async.Obeys.kept (perform P) env
    (I := fun seen world => world = w ∧ ChargesOnly env dto.amount dto.currency reference seen)
    (forwards candidates dto.amount dto.currency reference [⟨.now, (env 0 .now).now⟩])
    (by
      rintro seen op world ⟨gateway, _, rfl⟩ ⟨rfl, only⟩
      exact ⟨rfl, only.fired gateway seen.length⟩) w
    ⟨rfl, by constructor <;> simp⟩
  generalize called : Async.play (perform P) env (call candidates dto.amount dto.currency reference)
    [⟨.now, (env 0 .now).now⟩] w = c at executed
  obtain ⟨⟨still, only⟩, ended⟩ := executed
  have candidate : candidates ≠ [] := by
    obtain ⟨rest, primary⟩ := resolveRoute_primary P isAvailable
      ⟨dto.amount, dto.currency, dto.gateway.toOption, dto.routingStrategy.toOption⟩
    exact fun none => List.cons_ne_nil _ _ (primary.symm.trans none)
  cases value : c.value with
  | error err =>
    rw [value] at ended
    have failed := ended.resolve_left candidate
    rw [← called] at value
    rw [Async.play_bind_error value, called, still] at made
    subst made
    exact ⟨.unexecuted (only.failed failed), only⟩
  | ok execution =>
    rw [value] at ended
    rw [← called] at value
    rw [Async.play_bind_ok value, called, still] at made
    rcases did : perform P (env c.log.length (dto.insert P reference merchantId execution))
      (dto.insert P reference merchantId execution) w with ⟨err | row, after⟩
    · have same : after = w := by
        have kept := perform_query_error (congrArg Prod.fst did)
        rw [did] at kept
        exact kept
      rw [query, Async.play_bind_request did, same] at made
      subst made
      rw [same] at did
      exact ⟨.unstored ended did, only.other _ (by intros; exact Op.noConfusion)⟩
    · rw [query, Async.play_bind_request did] at made
      subst made
      exact ⟨.stored ended did, only.other _ (by intros; exact Op.noConfusion)⟩

/-- The row that an inserted intent becomes. -/
structure IntentStoredAs (P : Platform) (dto : CreateCheckoutSessionDto) (reference : String) (execution : FallbackExecution)
    (row : PaymentIntent) (before after : World) : Prop where
  amount : Decimal.ofNumber dto.amount = some row.amount
  currency : row.currency = P.toUpperCase dto.currency
  reference : row.reference = reference
  gateway : row.gateway = execution.gateway
  payment : row.gatewayPaymentId = some execution.result.gatewayPaymentId
  rows : after.db.intents.rows = before.db.intents.rows ++ [row]

theorem insert_stored {met : Env} {execution : FallbackExecution} {row : PaymentIntent} {after : World}
    (did : perform P met (dto.insert P reference merchantId execution) w = (.ok row, after)) :
    IntentStoredAs P dto reference execution row w after := by
  obtain ⟨_, ran⟩ := perform_query_ok (congrArg Prod.fst did)
  obtain ⟨amount, stored, made, added⟩ := paymentIntentCreate_ok ran
  obtain ⟨_, _, _, rows⟩ := Database.addIntent_ok added
  rw [did] at rows
  subst made
  exact ⟨stored, rfl, rfl, rfl, rfl, rows⟩

/-- An exact request is stored as the gateway was asked for it. -/
theorem CheckoutEnds.records {value : Except JsError CheckoutSession} {after : World} {log : History Op.Answer}
    (given : dto.StoredAsGiven P) (ends : CheckoutEnds P env dto merchantId w reference value after log)
    (only : ChargesOnly env dto.amount dto.currency reference log) : ChargedAsStored w ⟨value, after, log⟩ := by
  rintro session rfl
  obtain ⟨_, whole, upper⟩ := given
  cases ends with
  | @stored execution seen row after charged did =>
    have stored := insert_stored did
    have amount : row.amount.toNumber = dto.amount := (Decimal.ofNumber_exact stored.amount).mpr whole
    have currency : row.currency = dto.currency := stored.currency.trans upper
    refine ⟨row, stored.rows, ⟨execution.result, ?_, stored.payment⟩, ?_⟩
    · rw [stored.gateway, amount, currency, stored.reference]
      exact List.mem_cons_of_mem _ charged
    · intro gateway otherAmount otherCurrency otherReference answer member
      rw [amount, currency, stored.reference]
      exact only.charge gateway _ _ _ answer member

end

/-- A merchant without intents. -/
def merchantOnly : Database :=
  .withoutEvents (sampleDatabase .pending).merchants Table.empty fun _ member => absurd member List.not_mem_nil

section
variable {P : Platform} {dto : CreateCheckoutSessionDto}
variable {call : List GatewayProvider → ℚ → String → String → Promise FallbackExecution}

/-- A calm checkout of a merchant without intents is stored if the columns have room for it. -/
theorem merchantOnly_stores {reference : String} {execution : FallbackExecution} (storable : dto.Storable P) :
    ∃ row after, perform P calmEnv (dto.insert P reference sampleMerchant.id execution) ⟨merchantOnly, []⟩ = (.ok row, after) := by
  obtain ⟨⟨amount, stored⟩, fits⟩ := storable
  let data := dto.newIntent P reference sampleMerchant.id execution
  have room : ∃ row db', paymentIntentCreate calmEnv.id calmEnv.now data merchantOnly = .ok (row, db') :=
    paymentIntentCreate_fresh stored fits (fun old member => absurd member (List.not_mem_nil)) rfl
      (Table.find_mem (List.mem_singleton_self _))
  obtain ⟨row, db', ran⟩ := room
  refine ⟨row, ⟨db', []⟩, ?_⟩
  have spared : calmEnv.fails = false := rfl
  simp only [perform, spared, Bool.false_eq_true, if_false, Query.exec]
  rw [ran]

/-- A request whose calm checkouts are stored as charged, or reach no gateway, is exact. -/
theorem storedAsGiven_of_calm (forwards : Forwards call) (isAvailable : GatewayProvider → Bool) (randomHex : String)
    (kept : RecordsCharge P dto ⟨merchantOnly, []⟩
      ((createSession P ⟨some call⟩ isAvailable randomHex dto sampleMerchant.id).play (perform P) (fun _ _ => calmEnv) []
        ⟨merchantOnly, []⟩)) : dto.StoredAsGiven P := by
  have checkout := createSession_ends (P := P) forwards (fun _ _ => calmEnv) isAvailable randomHex dto sampleMerchant.id
    ⟨merchantOnly, []⟩
  generalize (createSession P ⟨some call⟩ isAvailable randomHex dto sampleMerchant.id).play (perform P)
    (fun _ _ => calmEnv) [] ⟨merchantOnly, []⟩ = o at kept checkout
  obtain ⟨value, after, log⟩ := o
  obtain ⟨asStored, uncharged⟩ := kept
  obtain ⟨ends, only⟩ := checkout
  dsimp only at ends only
  by_cases storable : dto.Storable P
  · cases ends with
    | unexecuted struck =>
      obtain ⟨_, _, fails | opened⟩ := struck
      · cases fails
      · cases opened
    | unstored _ refused =>
      obtain ⟨row, after, stores⟩ := merchantOnly_stores storable
      cases (congrArg Prod.fst refused).symm.trans (congrArg Prod.fst stores)
    | @stored execution seen row after charged did =>
      have stored := insert_stored did
      obtain ⟨other, rows, ⟨result, asked, _⟩, _⟩ := asStored _ rfl
      have same : other = row := List.singleton_inj.mp (List.append_cancel_left (rows.symm.trans stored.rows))
      subst same
      obtain ⟨amount, currency, _⟩ := only.charge _ _ _ _ _ asked
      exact ⟨storable.1, (Decimal.ofNumber_exact stored.amount).mp amount, stored.currency.symm.trans currency⟩
  · have silent := uncharged storable
    cases ends with
    | unexecuted struck =>
      obtain ⟨_, _, fails | opened⟩ := struck
      · cases fails
      · cases opened
    | unstored charged _ => exact absurd (List.mem_cons_of_mem _ charged) (silent _ _ _ _ _)
    | stored charged _ => exact absurd (List.mem_cons_of_mem _ charged) (silent _ _ _ _ _)

/-- Every checkout of a valid request stores what it has charged, or reaches no
gateway, if and only if the request is stored as it is given. -/
theorem checkout_records_iff (forwards : Forwards call) (valid : dto.Validated) :
    (∀ env isAvailable randomHex merchantId w, RecordsCharge P dto w
      ((createSession P ⟨some call⟩ isAvailable randomHex dto merchantId).play (perform P) env [] w)) ↔
        dto.StoredAsGiven P := by
  constructor
  · intro always
    exact storedAsGiven_of_calm forwards (fun _ => true) "" (always _ _ _ _ _)
  · intro given env isAvailable randomHex merchantId w
    obtain ⟨ends, only⟩ := createSession_ends (P := P) forwards env isAvailable randomHex dto merchantId w
    refine ⟨ends.records given only, fun unstorable => absurd ⟨given.1, ?_⟩ unstorable⟩
    rw [given.2.2, valid.2]

end

/-- An executor that tries one candidate after the other, until one answers. -/
def tryCandidates : List GatewayProvider → ℚ → String → String → Promise FallbackExecution
  | [], _, _, _ => throw ⟨.http 503, "Service Unavailable"⟩
  | gateway :: rest, amount, currency, reference =>
    tryCatch
      (do
        let result ← safeCreateIntent gateway amount currency reference
        return ⟨result, gateway⟩)
      fun _ => tryCandidates rest amount currency reference

theorem tryCandidates_obeys (amount : ℚ) (currency reference : String) (candidates : List GatewayProvider)
    (seen : History Op.Answer) (tried : candidates = [] → ChargeFailed amount currency reference seen) :
    Async.Obeys (fun _ op => Charges candidates amount currency reference op)
      (fun later execution => Charged amount currency reference later execution)
      (fun later _ => ChargeFailed amount currency reference later)
      (tryCandidates candidates amount currency reference) seen := by
  induction candidates generalizing seen with
  | nil => exact tried rfl
  | cons gateway rest ih =>
    have later : ∀ failure, Async.Obeys (fun _ op => Charges (gateway :: rest) amount currency reference op)
        (fun later execution => Charged amount currency reference later execution)
        (fun later _ => ChargeFailed amount currency reference later) (tryCandidates rest amount currency reference)
        (⟨.fireCreateIntent gateway amount currency reference, .error failure⟩ :: seen) := by
      intro failure
      have failed : ChargeFailed amount currency reference
          (⟨.fireCreateIntent gateway amount currency reference, .error failure⟩ :: seen) :=
        ⟨gateway, failure, List.mem_cons_self⟩
      refine Async.Obeys.mono ?_ (fun _ _ held => held) (fun _ _ held => held) (ih _ fun _ => failed)
      rintro _ _ ⟨other, member, rfl⟩
      exact ⟨other, List.mem_cons_of_mem _ member, rfl⟩
    rw [tryCandidates, safeCreateIntent_eq, circuitBreakerFire]
    refine (Async.obeys_tryCatch _ _ _).mpr ((Async.obeys_bind _ _ _).mpr ((Async.obeys_request _ _ _).mpr
      ⟨⟨gateway, List.mem_cons_self, rfl⟩, ?_⟩))
    rintro ((_ | err) | result)
    · exact later .opened
    · exact later (.failed err)
    · exact List.mem_cons_self

theorem tryCandidates_forwards : Forwards tryCandidates := by
  intro candidates amount currency reference seen
  cases candidates with
  | nil => exact Or.inl rfl
  | cons gateway rest =>
    exact Async.Obeys.mono (fun _ _ held => held) (fun _ _ held => held) (fun _ _ held => Or.inr held)
      (tryCandidates_obeys amount currency reference (gateway :: rest) seen fun none => by cases none)

/-- The plain platform with the upper case of ASCII letters. -/
def asciiPlatform : Platform := { plainPlatform with toUpperCase := fun text => String.ofList (text.toList.map Char.toUpper) }

/-- A checkout of 100 in dollars is stored as it is charged. -/
theorem checkout_records_sample : RecordsCharge asciiPlatform sampleCheckout ⟨merchantOnly, []⟩
    ((createSession asciiPlatform ⟨some tryCandidates⟩ (fun _ => true) "a1b2c3d4" sampleCheckout sampleMerchant.id).play
      (perform asciiPlatform) (fun _ _ => calmEnv) [] ⟨merchantOnly, []⟩) := by
  have valid : sampleCheckout.Validated := ⟨by norm_num [sampleCheckout], by decide⟩
  have stored : ∃ stored, Decimal.ofNumber sampleCheckout.amount = some stored := ⟨⟨10000, by decide⟩, by decide +kernel⟩
  have given : sampleCheckout.StoredAsGiven asciiPlatform :=
    ⟨stored, ⟨10000, by norm_num [sampleCheckout]⟩, by decide +kernel⟩
  exact (checkout_records_iff tryCandidates_forwards valid).mpr given _ _ _ _ _

/-- Of a checkout in "usd" the gateway is asked for "usd", and "USD" is stored. -/
theorem checkout_lower_case : ¬ ∀ (P : Platform) (call : List GatewayProvider → ℚ → String → String → Promise FallbackExecution)
    (dto : CreateCheckoutSessionDto), Forwards call → dto.Validated →
      ∀ env isAvailable randomHex merchantId w, RecordsCharge P dto w
        ((createSession P ⟨some call⟩ isAvailable randomHex dto merchantId).play (perform P) env [] w) := by
  intro always
  have valid : ({ sampleCheckout with currency := "usd" } : CreateCheckoutSessionDto).Validated :=
    ⟨by norm_num [sampleCheckout], by decide⟩
  have kept := always asciiPlatform tryCandidates { sampleCheckout with currency := "usd" } tryCandidates_forwards valid
    (fun _ _ => calmEnv) (fun _ => true) "a1b2c3d4" sampleMerchant.id ⟨merchantOnly, []⟩
  obtain ⟨_, _, upper⟩ := storedAsGiven_of_calm tryCandidates_forwards _ _ kept
  exact absurd upper (by decide +kernel)

end PayBridge
