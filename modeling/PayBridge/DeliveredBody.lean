import PayBridge.Codec.JsonText
import PayBridge.MetricsSamples
import PayBridge.OutboundWorker

namespace PayBridge
open Await Codec JsonText Numeric

/-- The JSON values of a text. -/
def jsonBuilder : Builder Json where
  null := .null
  bool := .bool
  num token := .num (String.ofList token)
  str chars := .str (String.ofList chars)
  arr := .arr
  obj fields := .obj (fields.map fun (name, value) => (String.ofList name, value))

/-- What a receiver reads in a body. -/
def parseBody (body : String) : Option Json := JsonText.parse jsonBuilder body.toList

example : (parseBody " \x7b \x22a\x22 : [1, \x22\\u00e9\\n\x22] \x7d").map Json.stringify = some "\x7b\x22a\x22:[1,\x22é\\n\x22]\x7d" := by
  decide +kernel

mutual
/-- All numbers in a value are written as JSON writes them. -/
def Json.numbered : Json → Bool
  | .num text => text.toList.all isNumeric && isNumber text.toList
  | .arr items => Json.allNumbered items
  | .obj fields => Json.fieldsNumbered fields
  | _ => true

def Json.allNumbered : List Json → Bool
  | [] => true
  | item :: rest => item.numbered && Json.allNumbered rest

def Json.fieldsNumbered : List (String × Json) → Bool
  | [] => true
  | (_, value) :: rest => value.numbered && Json.fieldsNumbered rest
end

theorem Json.stringifyItems_map (items : List Json) : Json.stringifyItems items = items.map Json.stringify := by
  induction items with
  | nil => rfl
  | cons item rest ih => rw [Json.stringifyItems, ih, List.map_cons]

theorem Json.stringifyFields_map (fields : List (String × Json)) :
    Json.stringifyFields fields = fields.map fun (name, value) => quoted name ++ ":" ++ value.stringify := by
  induction fields with
  | nil => rfl
  | cons field rest ih => rw [Json.stringifyFields, ih, List.map_cons]

theorem Json.allNumbered_mem {items : List Json} (numbered : Json.allNumbered items = true) :
    ∀ item ∈ items, item.numbered = true := by
  induction items with
  | nil => exact fun _ none => absurd none List.not_mem_nil
  | cons item rest ih =>
    rw [Json.allNumbered, Bool.and_eq_true] at numbered
    exact List.forall_mem_cons.mpr ⟨numbered.1, ih numbered.2⟩

theorem Json.fieldsNumbered_mem {fields : List (String × Json)} (numbered : Json.fieldsNumbered fields = true) :
    ∀ field ∈ fields, field.2.numbered = true := by
  induction fields with
  | nil => exact fun _ none => absurd none List.not_mem_nil
  | cons field rest ih =>
    rw [Json.fieldsNumbered, Bool.and_eq_true] at numbered
    exact List.forall_mem_cons.mpr ⟨numbered.1, ih numbered.2⟩

/-- A character that is written as a code has two zeros in front. -/
theorem hexUnit_control {code : Nat} (control : code < 0x20) :
    hexUnit '0' '0' (Nat.digitChar (code / 16)) (Nat.digitChar (code % 16)) = some code := by
  have all : ∀ code < 0x20, hexUnit '0' '0' (Nat.digitChar (code / 16)) (Nat.digitChar (code % 16)) = some code := by
    decide +kernel
  exact all code control

theorem mark_spells {mark c d : Char} {spelled chars : List Char} (stands : unescape mark = some d) (same : c.toNat = d.toNat)
    (spells : Spells spelled chars) : Spells ('\\' :: mark :: spelled) (c :: chars) := by
  rw [Char.toNat_inj.mp same]
  exact .mark stands spells

theorem escapeChar_spells {spelled chars : List Char} (spells : Spells spelled chars) (c : Char) :
    Spells (escapeChar c ++ spelled) (c :: chars) := by
  unfold escapeChar
  split
  · next same => exact mark_spells (d := '\x08') rfl same spells
  · next same => exact mark_spells (d := '\t') rfl same spells
  · next same => exact mark_spells (d := '\n') rfl same spells
  · next same => exact mark_spells (d := '\x0c') rfl same spells
  · next same => exact mark_spells (d := '\r') rfl same spells
  · next same => exact mark_spells (d := '"') rfl same spells
  · next same => exact mark_spells (d := '\\') rfl same spells
  · next quote backslash =>
    split
    · next control => exact .unit (hexUnit_control control) spells
    · next printed =>
      refine .plain (by omega) ?_ ?_ spells
      · rintro rfl
        exact quote rfl
      · rintro rfl
        exact backslash rfl

theorem escaped_spells (chars : List Char) : Spells (chars.flatMap escapeChar) chars := by
  induction chars with
  | nil => exact .nil
  | cons c chars ih => exact escapeChar_spells ih c

/-- A field of an object as it is written. -/
def memberOf (field : String × Json) : Member Json :=
  ⟨field.1.toList.flatMap escapeChar, field.1.toList, field.2.stringify.toList, field.2⟩

theorem memberOf_written (field : String × Json) :
    (memberOf field).written = (quoted field.1 ++ ":" ++ field.2.stringify).toList := by
  have colon : ":".toList = [':'] := rfl
  simp [Member.written, memberOf, quoted, colon]

/-- What `JSON.stringify` writes is compact JSON. -/
theorem Json.stringify_compact : ∀ value : Json, value.numbered = true →
    Compact jsonBuilder value.stringify.toList value
  | .null, _ => .null
  | .bool value, _ => by
    have compact : Compact jsonBuilder _ _ := .bool value
    cases value <;> exact compact
  | .num text, numbered => by
    rw [Json.numbered, Bool.and_eq_true] at numbered
    have compact : Compact jsonBuilder _ _ := .num (List.all_eq_true.mp numbered.1) numbered.2
    simp only [jsonBuilder, String.ofList_toList] at compact
    exact compact
  | .str value, _ => by
    have compact : Compact jsonBuilder _ _ := .str (escaped_spells value.toList)
    simp only [jsonBuilder, String.ofList_toList] at compact
    rwa [Json.stringify, quoted, String.toList_ofList]
  | .arr items, numbered => by
    have each := Json.allNumbered_mem numbered
    have entries : ∀ entry ∈ items.map fun item => (item.stringify.toList, item), Compact jsonBuilder entry.1 entry.2 := by
      intro entry listed
      obtain ⟨item, member, rfl⟩ := List.mem_map.mp listed
      exact item.stringify_compact (each item member)
    have compact := Compact.arr entries
    have text : (Json.arr items).stringify.toList =
        '[' :: [','].intercalate (items.map fun item => item.stringify.toList) ++ [']'] := by
      simp [Json.stringify, Json.stringifyItems_map, Function.comp_def]
    simp only [List.map_map, Function.comp_def, List.map_id', ← text] at compact
    exact compact
  | .obj fields, numbered => by
    have each := Json.fieldsNumbered_mem numbered
    have names : ∀ member ∈ fields.map memberOf, Spells member.spelled member.name := by
      intro member listed
      obtain ⟨field, _, rfl⟩ := List.mem_map.mp listed
      exact escaped_spells field.1.toList
    have members : ∀ member ∈ fields.map memberOf, Compact jsonBuilder member.text member.value := by
      intro member listed
      obtain ⟨⟨name, value⟩, inside, rfl⟩ := List.mem_map.mp listed
      exact value.stringify_compact (each _ inside)
    have compact := Compact.obj names members
    have texts : (fields.map memberOf).map Member.written =
        (Json.stringifyFields fields).map String.toList := by
      rw [Json.stringifyFields_map, List.map_map, List.map_map]
      exact List.map_congr_left fun field _ => memberOf_written field
    have values : ((fields.map memberOf).map fun member => (member.name, member.value)).map
        (fun field => (String.ofList field.1, field.2)) = fields := by
      simp [memberOf, Function.comp_def]
    have text : (Json.obj fields).stringify.toList =
        '{' :: [','].intercalate ((Json.stringifyFields fields).map String.toList) ++ ['}'] := by
      simp [Json.stringify]
    rw [texts, ← text] at compact
    simp only [jsonBuilder, values] at compact
    exact compact
  termination_by value => sizeOf value
  decreasing_by
  · have smaller := List.sizeOf_lt_of_mem member
    simp only [Json.arr.sizeOf_spec]
    omega
  · have smaller := List.sizeOf_lt_of_mem inside
    simp only [Prod.mk.sizeOf_spec] at smaller
    simp only [Json.obj.sizeOf_spec]
    omega

/-- A receiver reads back what `JSON.stringify` has written. -/
theorem parseBody_stringify {value : Json} (numbered : value.numbered = true) : parseBody value.stringify = some value :=
  parse_compact (value.stringify_compact numbered)

theorem numberText_numbered {x : ℚ} (decimal : DecimalNumber x) : (Json.num (numberText x)).numbered = true := by
  obtain ⟨whole, fraction, point, rest, exponent, text, written⟩ := numberText_written decimal
  have numeric := (readDecimal_numeric (numberText_decimal decimal)).2
  rw [Json.numbered, Bool.and_eq_true, List.all_eq_true]
  refine ⟨numeric, ?_⟩
  rw [text]
  exact isNumber_parts _ written.some_digit written.digits written.lead written.stops written.pointed written.dotted written.scaled

theorem toString_numbered (n : Int) : (Json.num (toString n)).numbered = true := by
  have lead : ∀ m : Nat, Nat.toDigits 10 m = ['0'] ∨ (Nat.toDigits 10 m).head? ≠ some '0' := by
    intro m
    rcases Nat.eq_zero_or_pos m with rfl | positive
    · exact Or.inl (Nat.toDigits_zero 10)
    · exact Or.inr (toDigits_head positive)
  have whole : ∀ negative m, isNumber (withSign negative (Nat.toDigits 10 m)) = true := by
    intro negative m
    have none : ([] : List Char).takeWhile Char.isDigit = [] := rfl
    have parts := isNumber_parts negative Nat.toDigits_ne_nil (toDigits_isDigit m) (lead m) none rfl nofun rfl
    rwa [List.append_nil] at parts
  rw [Json.numbered, Bool.and_eq_true, List.all_eq_true]
  constructor
  · intro c member
    rcases toString_chars member with digit | rfl
    · exact digit_numeric digit
    · rfl
  · rw [toString_toList]
    split
    · exact whole false n.toNat
    · exact whole true (-n).toNat

theorem numberText_inj {x y : ℚ} (left : DecimalNumber x) (right : DecimalNumber y) (same : numberText x = numberText y) :
    x = y := by
  have read := numberText_decimal left
  rw [same, numberText_decimal right] at read
  exact (Option.some.inj read).symm

theorem toString_inj {m n : Int} (same : toString m = toString n) : m = n := by
  have read := parseInt_toString m
  rw [same, parseInt_toString] at read
  exact (Option.some.inj read).symm

/-- The amounts of a refund are decimals, as all numbers of JavaScript are. -/
structure RefundData.InDecimals (refund : RefundData) : Prop where
  amount : DecimalNumber refund.amount
  remainingBalance : DecimalNumber refund.remainingBalance

/-- All amounts of an event are decimals. -/
structure PaymentIntentData.InDecimals (data : PaymentIntentData) : Prop where
  amount : DecimalNumber data.amount
  refund : ∀ refund, data.refund = some refund → refund.InDecimals

theorem Json.fieldsNumbered_append (left right : List (String × Json)) :
    Json.fieldsNumbered (left ++ right) = (Json.fieldsNumbered left && Json.fieldsNumbered right) := by
  induction left with
  | nil => rfl
  | cons field left ih => rw [List.cons_append, Json.fieldsNumbered, ih, Json.fieldsNumbered, Bool.and_assoc]

theorem Json.obj_numbered (fields : List (String × Json)) : (Json.obj fields).numbered = Json.fieldsNumbered fields := by
  rw [Json.numbered]

@[simp] theorem Json.str_numbered (text : String) : (Json.str text).numbered = true := rfl

theorem RefundData.InDecimals.numbered {refund : RefundData} (decimals : refund.InDecimals) : refund.toJson.numbered = true := by
  have reason : Json.fieldsNumbered (optionalField "reason" refund.reason) = true := by
    cases refund.reason <;> rfl
  simp [RefundData.toJson, Json.obj_numbered, Json.fieldsNumbered_append, Json.fieldsNumbered, reason,
    numberText_numbered decimals.amount, numberText_numbered decimals.remainingBalance]

theorem PaymentIntentData.InDecimals.numbered {data : PaymentIntentData} (decimals : data.InDecimals) : data.toJson.numbered = true := by
  have named : ((data.gatewayPaymentId.map Json.str).getD .null).numbered = true := by
    cases data.gatewayPaymentId <;> rfl
  have refunded : Json.fieldsNumbered (data.refund.map fun refund => ("refund", refund.toJson)).toList = true := by
    cases report : data.refund with
    | none => rfl
    | some refund => simp [Json.fieldsNumbered, (decimals.refund refund report).numbered]
  simp [PaymentIntentData.toJson, Json.obj_numbered, Json.fieldsNumbered, named, refunded,
    numberText_numbered decimals.amount]

theorem payload_numbered {payload : PaymentEventPayload} (decimals : payload.data.InDecimals) : payload.toJson.numbered = true := by
  have timestamp := toString_numbered payload.timestamp
  rw [PaymentEventPayload.toJson, Json.obj_numbered]
  simp only [Json.fieldsNumbered, Json.str_numbered, timestamp, decimals.numbered, Bool.and_self]

theorem RefundStatus.text_inj {left right : RefundStatus} (same : left.text = right.text) : left = right := by
  cases left <;> cases right <;> first | rfl | exact absurd same (by decide)

theorem OutboundEventType.text_inj {left right : OutboundEventType} (same : left.text = right.text) : left = right := by
  cases left <;> cases right <;> first | rfl | exact absurd same (by decide)

theorem Uuid.text_inj {left right : Uuid} (same : left.text = right.text) : left = right := by
  cases left
  cases right
  exact congrArg Uuid.mk same

theorem RefundData.InDecimals.toJson_inj {left right : RefundData} (decimals : left.InDecimals) (other : right.InDecimals)
    (same : left.toJson = right.toJson) : left = right := by
  obtain ⟨id, amount, reason, gatewayRefundId, status, remainingBalance⟩ := left
  obtain ⟨id', amount', reason', gatewayRefundId', status', remainingBalance'⟩ := right
  have fields : id.text = id'.text ∧ numberText amount = numberText amount' ∧ reason = reason' ∧ gatewayRefundId = gatewayRefundId' ∧
      status.text = status'.text ∧ numberText remainingBalance = numberText remainingBalance' := by
    cases reason <;> cases reason' <;> simp [RefundData.toJson, optionalField] at same ⊢ <;> exact same
  obtain ⟨ids, amounts, rfl, rfl, states, rests⟩ := fields
  cases Uuid.text_inj ids
  cases numberText_inj decimals.amount other.amount amounts
  cases RefundStatus.text_inj states
  cases numberText_inj decimals.remainingBalance other.remainingBalance rests
  rfl

theorem PaymentIntentData.InDecimals.toJson_inj {left right : PaymentIntentData} (decimals : left.InDecimals)
    (other : right.InDecimals)
    (same : left.toJson = right.toJson) : left = right := by
  obtain ⟨id, reference, amount, currency, status, gateway, customerEmail, gatewayPaymentId, refund⟩ := left
  obtain ⟨id', reference', amount', currency', status', gateway', customerEmail', gatewayPaymentId', refund'⟩ := right
  simp only [PaymentIntentData.toJson, Json.obj.injEq, List.cons_append, List.nil_append, List.cons.injEq, Prod.mk.injEq,
    true_and, Json.str.injEq, Json.num.injEq] at same
  obtain ⟨ids, rfl, amounts, rfl, states, gateways, rfl, payments, refunds⟩ := same
  cases Uuid.text_inj ids
  cases numberText_inj decimals.amount other.amount amounts
  cases PaymentStatus.text_inj states
  cases GatewayProvider.text_inj gateways
  have named : gatewayPaymentId = gatewayPaymentId' := by
    cases gatewayPaymentId with
    | none =>
      cases gatewayPaymentId' with
      | none => rfl
      | some _ => cases payments
    | some text =>
      cases gatewayPaymentId' with
      | none => cases payments
      | some text' => exact congrArg some (Json.str.inj payments)
  have reported : refund = refund' := by
    cases refund with
    | none =>
      cases refund' with
      | none => rfl
      | some refund' => cases refunds
    | some refund =>
      cases refund' with
      | none => cases refunds
      | some refund' =>
        simp only [Option.map_some, Option.toList_some, List.cons.injEq, Prod.mk.injEq, true_and, and_true] at refunds
        rw [(decimals.refund refund rfl).toJson_inj (other.refund refund' rfl) refunds]
  rw [named, reported]

/-- The JSON of an event determines it. -/
theorem payload_inj {left right : PaymentEventPayload} (decimals : left.data.InDecimals) (other : right.data.InDecimals)
    (same : left.toJson = right.toJson) : left = right := by
  obtain ⟨id, event, timestamp, data⟩ := left
  obtain ⟨id', event', timestamp', data'⟩ := right
  simp only [PaymentEventPayload.toJson, Json.obj.injEq, List.cons.injEq, Prod.mk.injEq, true_and, and_true, Json.str.injEq,
    Json.num.injEq] at same
  obtain ⟨rfl, events, timestamps, same⟩ := same
  have shown : data = data' := decimals.toJson_inj other same
  rw [OutboundEventType.text_inj events, toString_inj timestamps, shown]

/-- A refund is asked for with no amount or with a decimal, as a number of JavaScript is. -/
def AppStep.inDecimals : AppStep → Prop
  | .spawn (.payment (.refund _ dto _)) => ∀ amount, dto.amount = .value amount → DecimalNumber amount
  | _ => True

theorem refundPlan_inDecimals {P : Platform} {paymentIntentId : String} {dto : CreateRefundDto} {merchantId : Uuid}
    {found : Option IntentWithRefunds} {plan : RefundPlan} (accepted : refundPlan P paymentIntentId dto merchantId found = .ok plan)
    (given : ∀ amount, dto.amount = .value amount → DecimalNumber amount) (refundResult : RefundResult) (newRefund : Refund) :
    (plan.eventData dto refundResult newRefund).InDecimals := by
  obtain ⟨_, _, _, _, _, _, _, remaining, requested, _, _, _, after⟩ := refundPlan_ok accepted
  have rest : DecimalNumber plan.remainingBalance := by
    rw [remaining]
    exact (wholeCents_roundCents ..).decimal
  have asked : DecimalNumber plan.requestedAmount := by
    rw [requested, CreateRefundDto.requestedAmount]
    split
    · exact rest
    · exact WholeCents.zero.decimal
    · next amount written => exact given amount written
  have left : DecimalNumber plan.remainingAfter := by
    rw [after]
    rcases max_choice 0 (P.arithmetic.sub plan.remainingBalance plan.requestedAmount) with none | some
    · rw [none]
      exact WholeCents.zero.decimal
    · rw [some]
      exact P.arithmetic.sub_decimal rest asked
  refine ⟨plan.intent.amount.toNumber_wholeCents.decimal, ?_⟩
  rintro refund ⟨⟩
  exact ⟨asked, left⟩

section
variable {P : Platform} {orchestrator : OrchestratorService} {world : World} {s : App}

theorem queue_inDecimals (faithful : orchestrator.Faithful)
    (reach : Reach (app P orchestrator) (fun _ step => AppStep.inDecimals step) world s)
    (fresh : ∀ job ∈ world.queue, job.payload.data.InDecimals) : ∀ job ∈ s.world.queue, job.payload.data.InDecimals := by
  intro job queued
  rcases queued_from reach.chronicle queued with first | ⟨_, i, logged⟩
  · exact fresh job first
  · obtain ⟨t, earlier, atI, course, seen⟩ := reach.asked_at (app_course P faithful) logged
    have met : AppStep.inDecimals (.spawn t.request) := by
      have each := @Reach.requested _ _ _ _ _ _ _ _ _ _ (fun request => AppStep.inDecimals (.spawn request)) (fun _ _ met => met) reach
      exact each atI
    obtain ⟨merchantId, merchant, sends, _⟩ := course.sends
    generalize t.request = request, job.payload.event = event, job.payload.data = data at sends met ⊢
    cases sends with
    | @webhook d inbound row _ passed => exact ⟨row.amount.toNumber_wholeCents.decimal, nofun⟩
    | @round start intent asked status row _ scanned confirms => exact ⟨row.amount.toNumber_wholeCents.decimal, nofun⟩
    | @refund paymentIntentId dto _ found plan refundResult newRefund _ accepted =>
      exact refundPlan_inDecimals accepted met refundResult newRefund

/-- In every run of the application and its worker, with the amounts asked for and those
of the first queue decimals: a receiver reads in a request the JSON of a queued job's
payload, and that JSON is no other payload's whose amounts are decimals. -/
theorem bodies_read (hmac : Hmac) (faithful : orchestrator.Faithful) (fresh : ∀ job ∈ world.queue, job.payload.data.InDecimals)
    (events : List SiteStep) (given : ∀ step, .app step ∈ events → AppStep.inDecimals step) :
    ∀ request ∈ (Site.run P orchestrator hmac ⟨.initial world, []⟩ events).sent,
      ∃ job ∈ (Site.run P orchestrator hmac ⟨.initial world, []⟩ events).app.world.queue,
        Delivers hmac request job ∧ parseBody request.body = some job.payload.toJson ∧
          ∀ payload : PaymentEventPayload, payload.data.InDecimals → parseBody request.body = some payload.toJson →
            payload = job.payload := by
  have first : Reach (app P orchestrator) (fun _ step => AppStep.inDecimals step) world (.initial world) := .start
  obtain ⟨sound, reach⟩ := Site.run_reached (Site.initial_sound world) first fun step inside _ => given step inside
  intro request sent
  obtain ⟨job, queued, delivers⟩ := sound request sent
  have decimals := queue_inDecimals faithful reach fresh job queued
  have read : parseBody request.body = some job.payload.toJson := by
    rw [delivers.body]
    exact parseBody_stringify (payload_numbered decimals)
  refine ⟨job, queued, delivers, read, fun payload other same => ?_⟩
  exact payload_inj other decimals (Option.some.inj (same.symm.trans read))

end

theorem bodies_read_sample :
    (Site.run plainPlatform sampleOrchestrator sampleHmac ⟨.initial openWorld, []⟩ sampleAttempts).sent ≠ [] ∧
      ∀ request ∈ (Site.run plainPlatform sampleOrchestrator sampleHmac ⟨.initial openWorld, []⟩ sampleAttempts).sent,
        ∃ job, Delivers sampleHmac request job ∧ parseBody request.body = some job.payload.toJson := by
  have given : ∀ step, .app step ∈ sampleAttempts → AppStep.inDecimals step := by
    have each : ∀ step ∈ sampleSteps, AppStep.inDecimals step := by
      simp [sampleSteps, AppStep.inDecimals]
    intro step inside
    simp only [sampleAttempts, List.mem_append, List.mem_map, SiteStep.app.injEq, exists_eq_right, List.mem_cons,
      reduceCtorEq, List.not_mem_nil, or_false] at inside
    exact each step inside
  refine ⟨by decide +kernel, fun request sent => ?_⟩
  obtain ⟨job, _, delivers, read, _⟩ := bodies_read sampleHmac sampleOrchestrator_faithful (fun _ none => absurd none List.not_mem_nil)
    sampleAttempts given request sent
  exact ⟨job, delivers, read⟩

end PayBridge
