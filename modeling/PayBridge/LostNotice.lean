import PayBridge.System

namespace PayBridge
open Store Await

/-- One delivery of an event, with what each of its operations meets. -/
structure Attempt where
  delivery : Delivery
  transaction : Env
  lookup : Env
  enqueue : Env

def Attempt.env (a : Attempt) : Op → Env
  | .query (.recordEvent _ _ _) => a.transaction
  | .enqueue _ _ _ _ => a.enqueue
  | _ => a.lookup

/-- The delivery handled alone. -/
def Attempt.serve (P : Platform) (a : Attempt) (w : World) : Outcome Op.Answer World (Except JsError WebhookReply) :=
  (handleIncomingWebhook P a.delivery).run (perform P) a.env w

/-- An event with an id of its own and that of an intent, whether there is one or not. -/
def Readable (P : Platform) (event : InboundEvent) : Prop :=
  ∃ idText text id, event.paymentIntentId = some (.str idText) ∧ event.providerEventId = some (.str text) ∧
    P.readUuid idText = some id

/-- An event that can be recorded: it has an id and is about an intent of the table. -/
def Recordable (P : Platform) (db : Database) (event : InboundEvent) : Prop :=
  ∃ idText text id intent, event.paymentIntentId = some (.str idText) ∧ event.providerEventId = some (.str text) ∧
    P.readUuid idText = some id ∧ db.intents.find id = some intent

section
variable {P : Platform} {event : InboundEvent} {a : Attempt} {w : World}

theorem Recordable.readable {db : Database} (recordable : Recordable P db event) : Readable P event :=
  let ⟨idText, text, id, _, paid, named, read, _⟩ := recordable
  ⟨idText, text, id, paid, named, read⟩

end

end PayBridge
