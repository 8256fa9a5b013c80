import PayBridge.GatewayTraffic

namespace PayBridge
open Store Await

/-- Between two tables only intents of a gateway have changed or got an event row. -/
structure OnlyIntentsOf (gateway : GatewayProvider) (before after : Database) : Prop where
  intents : ∀ id, after.intents.find id ≠ before.intents.find id →
    ∃ intent, before.intents.find id = some intent ∧ intent.gateway = gateway
  events : ∀ row ∈ after.events.rows, row ∈ before.events.rows ∨
    ∃ intent, before.intents.find row.paymentIntentId = some intent ∧ intent.gateway = gateway

/-- A delivery of a gateway names a stored intent of another one. -/
def NamesForeign (P : Platform) (db : Database) (d : Delivery) (gateway : GatewayProvider) : Prop :=
  ∃ event idText id intent, inboundEvent P d = .ok event ∧ event.paymentIntentId = some (.str idText) ∧
    P.readUuid idText = some id ∧ db.intents.find id = some intent ∧ intent.gateway ≠ gateway

/-- A step of a delivery touches only intents of its gateway, and nothing at all
when it names an intent of another one. -/
def KeepsToGateway (P : Platform) (s : Service) : Step → Prop
  | .spawn _ => True
  | .advance i env => ∀ d prog gateway, s.threads[i]? = some ⟨.webhook d, prog⟩ → d.gateway P = some gateway →
    OnlyIntentsOf gateway s.world.db (s.step (payments P) (.advance i env)).world.db ∧
      (NamesForeign P s.world.db d gateway → (s.step (payments P) (.advance i env)).world.db = s.world.db)

/-- A webhook transaction that goes through is about an intent of the gateway
that has signed it. -/
def CommitsOwn (P : Platform) (s : Service) : Step → Prop
  | .spawn _ => True
  | .advance i env => ∀ d prog gateway q intent, s.threads[i]? = some ⟨.webhook d, prog⟩ → d.gateway P = some gateway →
    prog.waiting = some (.query q) → env.fails = false → Writes P s.world.db q intent .captured → intent.gateway = gateway

theorem OnlyIntentsOf.refl (gateway : GatewayProvider) (db : Database) : OnlyIntentsOf gateway db db :=
  ⟨fun _ changed => absurd rfl changed, fun _ member => Or.inl member⟩

/-- A capture with its event row touches only intents of the gateway of its intent. -/
theorem OnlyIntentsOf.capture {before after : Database} {intent : PaymentIntent} {row : WebhookEvent}
    (found : before.intents.find row.paymentIntentId = some intent)
    (intents : after.intents = (before.setStatus row.paymentIntentId .captured).intents)
    (rows : after.events.rows = before.events.rows ++ [row]) : OnlyIntentsOf intent.gateway before after := by
  refine ⟨fun id changed => ?_, fun other member => ?_⟩
  · rw [intents, Database.setStatus_find] at changed
    by_cases hit : id = row.paymentIntentId
    · exact ⟨intent, hit ▸ found, rfl⟩
    · rw [if_neg hit] at changed
      exact absurd rfl changed
  · rw [rows] at member
    rcases List.mem_append.mp member with old | new
    · exact Or.inl old
    · rw [List.mem_singleton.mp new]
      exact Or.inr ⟨intent, found, rfl⟩

/-- A webhook transaction that can go through, and meets no failure, stores its event row. -/
theorem event_stored {P : Platform} {env : Env} {before after : World} {idText text : String} {payload : Json} {id : Uuid}
    {intent : PaymentIntent} {answer : Except JsError PaymentIntent} (read : P.readUuid idText = some id)
    (found : before.db.intents.find id = some intent) (fresh : before.db.events.find text = none)
    (spared : env.fails = false)
    (did : Performed P env before (.query (.recordEvent (some (.str idText)) (some (.str text)) payload)) answer after) :
    after.db.events.rows = before.db.events.rows ++ [⟨id, text, payload⟩] := by
  cases did with
  | @refused _ cause why =>
    have writes : Writes P before.db (.recordEvent (some (.str idText)) (some (.str text)) payload) intent .captured :=
      .event read found fresh
    obtain ⟨pair, ran⟩ := writes.goes_through env
    rcases why with ⟨struck, _⟩ | ⟨_, refused⟩
    · rw [spared] at struck
      cases struck
    · rw [ran] at refused
      cases refused
  | recorded _ read' _ _ _ rows _ =>
    cases read.symm.trans read'
    exact rows

/-- In every reached state a step keeps to the gateway exactly when the
transaction it lets through, if any, is about an intent of the gateway. -/
theorem keepsToGateway_iff {P : Platform} {world : World} {s : Service}
    (reach : Reach (payments P) (fun _ _ => True) world s) (event : Step) :
    KeepsToGateway P s event ↔ CommitsOwn P s event := by
  cases event with
  | spawn request => rfl
  | advance i env =>
    constructor
    · intro keeps d prog gateway q intent atI signed stands spared writes
      obtain ⟨only, _⟩ := keeps d prog gateway atI signed
      rcases advance_cases reach i env with ⟨ended, _⟩ | ⟨request, op, next, answer, w, standing, course, did, landed⟩
      · have idle := ended _ atI
        rw [stands] at idle
        cases idle
      · cases standing.symm.trans atI
        cases stands
        cases writes with
        | @event idText text payload id intent read found fresh =>
          rw [landed] at only
          have added : (⟨id, text, payload⟩ : WebhookEvent) ∈ w.db.events.rows := by
            rw [event_stored read found fresh spared did]
            exact List.mem_append_right _ (List.mem_singleton_self _)
          rcases only.events _ added with old | ⟨owned, found', same⟩
          · exact absurd rfl (Table.find_none.mp fresh _ old)
          · cases found.symm.trans found'
            exact same
        | update found =>
          generalize own i s.log = seen at course
          cases course
    · intro own d prog gateway atI signed
      rcases advance_cases reach i env with ⟨_, still⟩ | ⟨request, op, next, answer, w, standing, course, did, landed⟩
      · rw [still]
        exact ⟨.refl gateway _, fun _ => rfl⟩
      · cases standing.symm.trans atI
        rw [landed]
        rcases delivery_step course did with same | ⟨idText, text, id, intent, payload, rfl, spared, passed, read,
          found, fresh, intents, rows⟩
        · rw [same]
          exact ⟨.refl gateway _, fun _ => rfl⟩
        · have mine : intent.gateway = gateway := own d _ gateway _ intent atI signed rfl spared (.event read found fresh)
          refine ⟨mine ▸ .capture found intents rows, ?_⟩
          rintro ⟨_, _, _, other, passed', paid, read', found', foreign⟩
          cases passed.symm.trans passed'
          cases paid
          cases read.symm.trans read'
          cases found.symm.trans found'
          exact absurd mine foreign

/-- Every step of a run keeps to the gateway that has signed the delivery
exactly when every transaction it lets through is about an intent of that gateway. -/
theorem webhooks_keep_to_gateway_iff (P : Platform) (world : World) (events : List Step) :
    (Pool.initial world).Meets (payments P) (KeepsToGateway P) events ↔
      (Pool.initial world).Meets (payments P) (CommitsOwn P) events :=
  Reach.meets_congr (fun _ event reach => keepsToGateway_iff reach event) events .start

/-- A Paymob event that names an intent of Fawry. -/
def strayDelivery : Delivery := orderDelivery "PAYMOB" "valid-paymob-hmac" "55" fawryIntent

/-- A Paymob signature captures an intent of Fawry. -/
theorem paymob_captures_fawry : ¬ ∀ (P : Platform) (world : World) (events : List Step),
    (Pool.initial world).Meets (payments P) (KeepsToGateway P) events := by
  intro always
  obtain ⟨_, step, _⟩ := always plainPlatform twoGateways [.spawn (.webhook strayDelivery), .advance 0 calmEnv]
  obtain ⟨_, unchanged⟩ := step _ _ .paymob rfl rfl
  have foreign : NamesForeign plainPlatform twoGateways.db strayDelivery .paymob :=
    ⟨_, _, fawryIntent.id, fawryIntent, rfl, rfl, fawryIntent_read, fawryIntent_stored, by decide⟩
  have same := congrArg (fun db => (db.intents.find fawryIntent.id).map PaymentIntent.status) (unchanged foreign)
  have captured : (((Pool.initial twoGateways).run (payments plainPlatform)
      [.spawn (.webhook strayDelivery), .advance 0 calmEnv]).world.db.intents.find fawryIntent.id).map PaymentIntent.status ≠
        (twoGateways.db.intents.find fawryIntent.id).map PaymentIntent.status := by decide +kernel
  exact captured same

end PayBridge
