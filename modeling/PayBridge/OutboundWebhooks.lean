import PayBridge.Await.Played
import PayBridge.Effects

namespace PayBridge
open Store Await

/-- The merchant's own endpoint and secret, where the caller gave none. A
lookup that fails is logged and changes nothing. -/
def merchantWebhookConfig (merchantId : Option Uuid) (targetUrl customSecret : Option String) :
    Promise (Option String × Option String) :=
  match merchantId with
  | none => pure (targetUrl, customSecret)
  | some id =>
    if truthy targetUrl && truthy customSecret then pure (targetUrl, customSecret)
    else tryCatch
      (do
        let merchant ← query (.findMerchant id)
        match merchant with
        | some merchant => pure (targetUrl <|> merchant.webhookUrl, customSecret <|> merchant.webhookSecret)
        | none => pure (targetUrl, customSecret))
      fun _ => pure (targetUrl, customSecret)

def dispatchPaymentEvent (P : Platform) (eventType : OutboundEventType) (intentData : PaymentIntentData)
    (merchantId : Option Uuid) (targetUrl customSecret : Option String) : Promise Unit := do
  let config ← merchantWebhookConfig merchantId targetUrl customSecret
  let resolvedUrl := (config.1 <|> P.processEnv.merchantWebhookUrl).getD "http://localhost:4000/webhook"
  let secret := (config.2 <|> P.processEnv.webhookSigningSecret).getD "pb_whsec_dev_secret_key_12345"
  Async.request (.enqueue eventType intentData resolvedUrl secret) fun answer => answer

/-- What a thread has seen when it is about to enqueue: at most one merchant
lookup more than before the dispatch. -/
def LookedUp (seen later : History Op.Answer) : Prop :=
  later = seen ∨ ∃ id answer, later = ⟨.query (.findMerchant id), answer⟩ :: seen

/-- A merchant lookup changes no count of anything else. -/
theorem LookedUp.countP_eq {seen later : History Op.Answer} {p : (op : Op) × op.Answer → Bool}
    (looked : LookedUp seen later) (silent : ∀ id answer, p ⟨.query (.findMerchant id), answer⟩ = false) :
    later.countP p = seen.countP p := by
  rcases looked with rfl | ⟨id, answer, rfl⟩
  · rfl
  · rw [List.countP_cons_of_neg (by simp [silent])]

/-- A dispatch looks up at most its own merchant and then enqueues its event. -/
theorem obeys_dispatch {asks : History Op.Answer → Op → Prop} {returns : History Op.Answer → Unit → Prop}
    {throws : History Op.Answer → JsError → Prop} (P : Platform) (eventType : OutboundEventType)
    (intentData : PaymentIntentData) (merchantId : Option Uuid) (targetUrl customSecret : Option String)
    (seen : History Op.Answer) (lookup : ∀ id, merchantId = some id → asks seen (.query (.findMerchant id)))
    (send : ∀ later url secret, LookedUp seen later → asks later (.enqueue eventType intentData url secret) ∧
      returns (⟨.enqueue eventType intentData url secret, .ok ()⟩ :: later) () ∧
      ∀ err, throws (⟨.enqueue eventType intentData url secret, .error err⟩ :: later) err) :
    Async.Obeys asks returns throws
      (dispatchPaymentEvent P eventType intentData merchantId targetUrl customSecret) seen := by
  have enqueue : ∀ later (config : Option String × Option String), LookedUp seen later →
      Async.Obeys asks returns throws (Async.request (.enqueue eventType intentData
        ((config.1 <|> P.processEnv.merchantWebhookUrl).getD "http://localhost:4000/webhook")
        ((config.2 <|> P.processEnv.webhookSigningSecret).getD "pb_whsec_dev_secret_key_12345"))
        fun answer => answer) later := by
    intro later config looked
    obtain ⟨ask, ret, thr⟩ := send later _ _ looked
    refine (Async.obeys_request _ _ _).mpr ⟨ask, ?_⟩
    rintro (err | ⟨⟩)
    · exact thr err
    · exact ret
  unfold dispatchPaymentEvent
  refine (Async.obeys_bind _ _ _).mpr ?_
  unfold merchantWebhookConfig
  split
  · exact enqueue seen _ (Or.inl rfl)
  · next id =>
    split
    · exact enqueue seen _ (Or.inl rfl)
    · refine (Async.obeys_tryCatch _ _ _).mpr ((Async.obeys_bind _ _ _).mpr ?_)
      refine (Async.obeys_request _ _ _).mpr ⟨lookup id rfl, ?_⟩
      rintro (err | merchant)
      · exact enqueue _ _ (Or.inr ⟨id, _, rfl⟩)
      · cases merchant <;> exact enqueue _ _ (Or.inr ⟨id, _, rfl⟩)

/-- From any place of a run, a dispatch leaves the database as it is; it throws
when the enqueue fails, and otherwise adds one job carrying its event. -/
theorem play_dispatch (P : Platform) (env : Nat → Op → Env) (eventType : OutboundEventType)
    (intentData : PaymentIntentData) (merchantId : Option Uuid) (targetUrl customSecret : Option String)
    (seen : History Op.Answer) (w : World) :
    ∃ later url secret, LookedUp seen later ∧
      let sent := env later.length (.enqueue eventType intentData url secret)
      let o := Async.play (perform P) env (dispatchPaymentEvent P eventType intentData merchantId targetUrl customSecret) seen w
      o.world.db = w.db ∧ (sent.fails = true → o.value = .error ⟨.other, sent.message⟩ ∧ o.world.queue = w.queue) ∧
        (sent.fails = false → o.value = .ok () ∧ o.world.queue = w.queue ++
          [⟨intentData.id, url, secret, ⟨"evt_" ++ sent.id.text, eventType, sent.now, intentData⟩⟩]) := by
  obtain ⟨later, config, looked, configured, same, log⟩ : ∃ later config, LookedUp seen later ∧
      (Async.play (perform P) env (merchantWebhookConfig merchantId targetUrl customSecret) seen w).value = .ok config ∧
      (Async.play (perform P) env (merchantWebhookConfig merchantId targetUrl customSecret) seen w).world = w ∧
      (Async.play (perform P) env (merchantWebhookConfig merchantId targetUrl customSecret) seen w).log = later := by
    unfold merchantWebhookConfig
    split
    · exact ⟨seen, _, Or.inl rfl, rfl, rfl, rfl⟩
    · next id =>
      have quiet : (perform P (env seen.length (.query (.findMerchant id))) (.query (.findMerchant id)) w).2 = w := by
        simp only [perform, Query.exec]
        split <;> rfl
      split
      · exact ⟨seen, _, Or.inl rfl, rfl, rfl, rfl⟩
      · refine ⟨⟨.query (.findMerchant id),
          (perform P (env seen.length (.query (.findMerchant id))) (.query (.findMerchant id)) w).1⟩ :: seen, ?_⟩
        simp only [query, Async.play_tryCatch, Async.play_bind, Async.play_request]
        cases (perform P (env seen.length (.query (.findMerchant id))) (.query (.findMerchant id)) w).1 with
        | error err => exact ⟨_, Or.inr ⟨id, _, rfl⟩, rfl, quiet, rfl⟩
        | ok merchant => cases merchant <;> exact ⟨_, Or.inr ⟨id, _, rfl⟩, rfl, quiet, rfl⟩
  refine ⟨later, (config.1 <|> P.processEnv.merchantWebhookUrl).getD "http://localhost:4000/webhook",
    (config.2 <|> P.processEnv.webhookSigningSecret).getD "pb_whsec_dev_secret_key_12345", looked, ?_⟩
  unfold dispatchPaymentEvent
  rw [Async.play_bind_ok configured, same, log]
  simp only [Async.play_request, perform]
  split
  · next fails => exact ⟨rfl, fun _ => ⟨rfl, rfl⟩, fun spared => by rw [fails] at spared; cases spared⟩
  · next fails => exact ⟨rfl, fun struck => absurd struck fails, fun _ => ⟨rfl, rfl⟩⟩

/-- What the answer of the lookup gives a merchant's notifications. -/
def webhookConfigOf : Except JsError (Option Merchant) → Option String × Option String
  | .ok (some merchant) => (merchant.webhookUrl, merchant.webhookSecret)
  | _ => (none, none)

/-- The endpoint of a notification, behind what has been configured for it. -/
def resolvedUrl (P : Platform) (configured : Option String) : String :=
  (configured <|> P.processEnv.merchantWebhookUrl).getD "http://localhost:4000/webhook"

def resolvedSecret (P : Platform) (configured : Option String) : String :=
  (configured <|> P.processEnv.webhookSigningSecret).getD "pb_whsec_dev_secret_key_12345"

/-- The notification of a merchant, behind the answer of its lookup. -/
abbrev notice (P : Platform) (eventType : OutboundEventType) (intentData : PaymentIntentData)
    (found : Except JsError (Option Merchant)) : Op :=
  .enqueue eventType intentData (resolvedUrl P (webhookConfigOf found).1) (resolvedSecret P (webhookConfigOf found).2)

/-- A dispatch for a merchant without anything given by the caller looks the
merchant up, and enqueues its event to where the answer leads. -/
theorem obeys_dispatch_own {asks : History Op.Answer → Op → Prop} {returns : History Op.Answer → Unit → Prop}
    {throws : History Op.Answer → JsError → Prop} (P : Platform) (eventType : OutboundEventType)
    (intentData : PaymentIntentData) (id : Uuid) (seen : History Op.Answer) (lookup : asks seen (.query (.findMerchant id)))
    (send : ∀ found, let looked : History Op.Answer := ⟨.query (.findMerchant id), found⟩ :: seen
      asks looked (notice P eventType intentData found) ∧
        returns (⟨notice P eventType intentData found, .ok ()⟩ :: looked) () ∧
        ∀ err, throws (⟨notice P eventType intentData found, .error err⟩ :: looked) err) :
    Async.Obeys asks returns throws (dispatchPaymentEvent P eventType intentData (some id) none none) seen := by
  have enqueue : ∀ found, Async.Obeys asks returns throws
      (Async.request (notice P eventType intentData found) fun answer => answer)
      (⟨.query (.findMerchant id), found⟩ :: seen) := by
    intro found
    obtain ⟨ask, ret, thr⟩ := send found
    refine (Async.obeys_request _ _ _).mpr ⟨ask, ?_⟩
    rintro (err | ⟨⟩)
    · exact thr err
    · exact ret
  unfold dispatchPaymentEvent merchantWebhookConfig
  refine (Async.obeys_bind _ _ _).mpr ?_
  simp only [truthy, Bool.false_and, Bool.false_eq_true, if_false]
  refine (Async.obeys_tryCatch _ _ _).mpr ((Async.obeys_bind _ _ _).mpr ((Async.obeys_request _ _ _).mpr ⟨lookup, ?_⟩))
  rintro (err | _ | merchant)
  · exact enqueue (.error err)
  · exact enqueue (.ok none)
  · exact enqueue (.ok (some merchant))

section
variable {P : Platform} {env : Nat → Op → Env} {eventType : OutboundEventType} {intentData : PaymentIntentData}
variable {id : Uuid} {seen : History Op.Answer} {w : World} {found : Except JsError (Option Merchant)}

/-- The answer of a merchant lookup at a place of a run. -/
abbrev merchantAt (P : Platform) (env : Nat → Op → Env) (id : Uuid) (seen : History Op.Answer) (w : World) :
    Except JsError (Option Merchant) :=
  (perform P (env seen.length (.query (.findMerchant id))) (.query (.findMerchant id)) w).1

/-- A dispatch for a merchant without anything given by the caller: one lookup,
and one enqueue to where its answer leads. -/
theorem play_dispatch_own (looked : merchantAt P env id seen w = found) :
    Async.play (perform P) env (dispatchPaymentEvent P eventType intentData (some id) none none) seen w =
      Async.play (perform P) env (Async.request (notice P eventType intentData found) fun answer => answer)
        (⟨.query (.findMerchant id), found⟩ :: seen) w := by
  have quiet : (perform P (env seen.length (.query (.findMerchant id))) (.query (.findMerchant id)) w).2 = w := by
    simp only [perform, Query.exec]
    split <;> rfl
  have did : perform P (env seen.length (.query (.findMerchant id))) (.query (.findMerchant id)) w = (found, w) :=
    Prod.ext looked quiet
  have configured : Async.play (perform P) env (merchantWebhookConfig (some id) none none) seen w =
      ⟨.ok (webhookConfigOf found), w, ⟨.query (.findMerchant id), found⟩ :: seen⟩ := by
    simp only [merchantWebhookConfig, truthy, Bool.false_and, Bool.false_eq_true, if_false, query,
      Async.play_tryCatch, Async.play_bind, Async.play_request, did]
    rcases found with err | _ | merchant <;> rfl
  unfold dispatchPaymentEvent
  rw [Async.play_bind_ok (congrArg Outcome.value configured), configured]
  rfl

theorem play_dispatch_lost (looked : merchantAt P env id seen w = found)
    (struck : (env (seen.length + 1) (notice P eventType intentData found)).fails = true) :
    let err : JsError := ⟨.other, (env (seen.length + 1) (notice P eventType intentData found)).message⟩
    Async.play (perform P) env (dispatchPaymentEvent P eventType intentData (some id) none none) seen w =
      ⟨.error err, w, ⟨notice P eventType intentData found, .error err⟩ :: ⟨.query (.findMerchant id), found⟩ :: seen⟩ := by
  rw [play_dispatch_own looked, Async.play_request]
  simp only [perform, List.length_cons, struck, if_true]

theorem play_dispatch_sent (looked : merchantAt P env id seen w = found)
    (spared : (env (seen.length + 1) (notice P eventType intentData found)).fails = false) :
    let met := env (seen.length + 1) (notice P eventType intentData found)
    let job : OutboundWebhookJobData := ⟨intentData.id, resolvedUrl P (webhookConfigOf found).1,
      resolvedSecret P (webhookConfigOf found).2, ⟨"evt_" ++ met.id.text, eventType, met.now, intentData⟩⟩
    Async.play (perform P) env (dispatchPaymentEvent P eventType intentData (some id) none none) seen w =
      ⟨.ok (), { w with queue := w.queue ++ [job] },
        ⟨notice P eventType intentData found, .ok ()⟩ :: ⟨.query (.findMerchant id), found⟩ :: seen⟩ := by
  rw [play_dispatch_own looked, Async.play_request]
  simp only [perform, List.length_cons, spared, Bool.false_eq_true, if_false]

end

/-- A dispatch run alone from the start. -/
theorem run_dispatch (P : Platform) (env : Op → Env) (eventType : OutboundEventType)
    (intentData : PaymentIntentData) (merchantId : Option Uuid) (targetUrl customSecret : Option String) (w : World) :
    ∃ url secret, let sent := env (.enqueue eventType intentData url secret)
      let o := (dispatchPaymentEvent P eventType intentData merchantId targetUrl customSecret).run (perform P) env w
      o.world.db = w.db ∧
        (sent.fails = true → o.value = .error ⟨.other, sent.message⟩ ∧ o.world.queue = w.queue) ∧
        (sent.fails = false → o.value = .ok () ∧ o.world.queue = w.queue ++
          [⟨intentData.id, url, secret, ⟨"evt_" ++ sent.id.text, eventType, sent.now, intentData⟩⟩]) := by
  obtain ⟨later, url, secret, -, played⟩ := play_dispatch P (fun _ op => env op) eventType intentData merchantId
    targetUrl customSecret [] w
  have alone : Async.play (perform P) (fun _ op => env op)
      (dispatchPaymentEvent P eventType intentData merchantId targetUrl customSecret) [] w =
      (dispatchPaymentEvent P eventType intentData merchantId targetUrl customSecret).run (perform P) env w :=
    (Prog.play_run (perform P) env (ExceptT.run _) [] w).trans (Outcome.after_nil _)
  rw [alone] at played
  exact ⟨url, secret, played⟩

end PayBridge
