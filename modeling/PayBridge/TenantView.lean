import PayBridge.Await.Played
import PayBridge.System

namespace PayBridge
open Store Await

/-- A merchant's own rows: its account, its intents and their refunds. -/
structure TenantView where
  merchant : Option Merchant
  intents : List PaymentIntent
  refunds : List Refund
  deriving DecidableEq

/-- The rows of everyone else. -/
structure OtherRows where
  merchants : List Merchant
  intents : List PaymentIntent
  refunds : List Refund
  events : List WebhookEvent

namespace Database

/-- Whether an id is the id of an intent of a merchant. -/
def owns (db : Database) (m id : Uuid) : Bool :=
  db.intents.rows.any fun intent => intent.id = id && intent.merchantId = m

def view (db : Database) (m : Uuid) : TenantView where
  merchant := db.merchants.find m
  intents := db.intents.rows.filter fun intent => intent.merchantId = m
  refunds := db.refunds.rows.filter fun refund => db.owns m refund.paymentIntentId

def others (db : Database) (m : Uuid) : OtherRows where
  merchants := db.merchants.rows.filter fun merchant => merchant.id ≠ m
  intents := db.intents.rows.filter fun intent => intent.merchantId ≠ m
  refunds := db.refunds.rows.filter fun refund => !db.owns m refund.paymentIntentId
  events := db.events.rows.filter fun event => !db.owns m event.paymentIntentId

variable {db db' left right : Database} {m id : Uuid} {status : PaymentStatus} {intent : PaymentIntent}

theorem owns_iff : db.owns m id = true ↔ ∃ intent ∈ db.intents.rows, intent.id = id ∧ intent.merchantId = m := by
  simp [owns]

/-- The intent under an own id is the merchant's. -/
theorem owns_found (found : db.intents.find id = some intent) : db.owns m id = true ↔ intent.merchantId = m := by
  obtain ⟨member, named⟩ := Table.find_some.mp found
  rw [owns_iff]
  constructor
  · rintro ⟨other, inside, same, owned⟩
    rw [← db.intents.row_unique inside member (same.trans named.symm)]
    exact owned
  · intro owned
    exact ⟨intent, member, named, owned⟩

/-- Which ids are a merchant's can be told from its own rows. -/
theorem owns_view : db.owns m id = (db.view m).intents.any fun intent => intent.id = id := by
  simp only [owns, view, List.any_filter]
  congr 1
  funext intent
  rw [Bool.and_comm]

theorem owns_agree (same : (left.view m).intents = (right.view m).intents) : left.owns m id = right.owns m id := by
  rw [owns_view, owns_view, same]

/-- An own intent is found wherever the own intents are. -/
theorem find_agree (same : (left.view m).intents = (right.view m).intents) (found : left.intents.find id = some intent)
    (owned : intent.merchantId = m) : right.intents.find id = some intent := by
  obtain ⟨member, named⟩ := Table.find_some.mp found
  have inside : intent ∈ (left.view m).intents := List.mem_filter.mpr ⟨member, by simpa using owned⟩
  rw [same] at inside
  exact Table.find_some.mpr ⟨(List.mem_filter.mp inside).1, named⟩

/-- The refunds of an own intent are own refunds. -/
theorem refundsOf_view (owned : db.owns m id = true) :
    db.refundsOf id = (db.view m).refunds.filter fun refund => refund.paymentIntentId = id := by
  simp only [refundsOf, view, List.filter_filter]
  refine List.filter_congr fun refund _ => ?_
  by_cases same : refund.paymentIntentId = id
  · simp [same, owned]
  · simp [same]

/-- An own intent is shown alike wherever the own rows are. -/
theorem shown_agree (same : left.view m = right.view m) {refunds : List Refund}
    (shown : left.shown id = some ⟨intent, refunds⟩) (owned : intent.merchantId = m) :
    right.shown id = some ⟨intent, refunds⟩ := by
  obtain ⟨stored, found, here⟩ := Option.map_eq_some_iff.mp shown
  cases here
  have intents := congrArg TenantView.intents same
  have mine : left.owns m id = true := (owns_found found).mpr owned
  have there := find_agree intents found owned
  have refunds : left.refundsOf id = right.refundsOf id := by
    rw [refundsOf_view mine, same, ← refundsOf_view ((owns_agree intents).symm.trans mine)]
  simp only [Database.shown, there, Option.map_some, refunds]

section
variable (db m id status)

theorem owns_setStatus (j : Uuid) : (db.setStatus id status).owns m j = db.owns m j := by
  simp only [owns, setStatus, Table.modify, List.any_map]
  congr 1
  funext intent
  simp only [Function.comp_apply]
  split <;> rfl

theorem setStatus_own : ((db.setStatus id status).intents.rows.filter fun intent => intent.merchantId = m) =
    (db.view m).intents.map fun intent => if intent.id = id then { intent with status } else intent := by
  simp only [setStatus, Table.modify, List.filter_map, view]
  congr 1
  refine List.filter_congr fun intent _ => ?_
  simp only [Function.comp_apply]
  split <;> rfl

end

theorem setStatus_others (owned : db.owns m id = true) :
    ((db.setStatus id status).intents.rows.filter fun intent => intent.merchantId ≠ m) = (db.others m).intents := by
  have blind : ((fun intent : PaymentIntent => decide (intent.merchantId ≠ m)) ∘
      fun intent => if intent.id = id then { intent with status } else intent) =
        fun intent => decide (intent.merchantId ≠ m) := by
    funext intent
    simp only [Function.comp_apply]
    split <;> rfl
  simp only [setStatus, Table.modify, List.filter_map, blind, others]
  refine (List.map_congr_left fun intent member => ?_).trans (List.map_id _)
  obtain ⟨stored, foreign⟩ := List.mem_filter.mp member
  refine if_neg fun hit => ?_
  exact (of_decide_eq_true foreign) ((owns_found (Table.find_some.mpr ⟨stored, hit⟩)).mp owned)

/-- What the refund transaction of an own intent does to the own rows and to the others. -/
theorem recordRefundTx_view {new : Uuid} {data : NewRefund} {markRefunded : Bool} {row : Refund}
    (owned : db.owns m data.paymentIntentId = true) (ran : recordRefundTx new data markRefunded db = .ok (row, db')) :
    db'.view m = ⟨(db.view m).merchant,
        if markRefunded then
          (db.view m).intents.map fun intent =>
            if intent.id = data.paymentIntentId then { intent with status := .refunded } else intent
        else (db.view m).intents,
        (db.view m).refunds ++ [row]⟩ ∧
      db'.others m = db.others m ∧ ∀ j, db'.owns m j = db.owns m j := by
  obtain ⟨amount, intent, stored, named, known, rows, events, merchants, intents⟩ := recordRefundTx_ok ran
  have about : row.paymentIntentId = data.paymentIntentId := by rw [named]
  have owns : ∀ j, db'.owns m j = db.owns m j := by
    intro j
    cases markRefunded with
    | true => exact (congrArg (fun table : Table PaymentIntent.id => table.rows.any _) intents).trans (owns_setStatus ..)
    | false => exact congrArg (fun table : Table PaymentIntent.id => table.rows.any _) intents
  have mine : ((db'.intents.rows.filter fun intent => intent.merchantId = m) = if markRefunded then
      (db.view m).intents.map fun intent =>
        if intent.id = data.paymentIntentId then { intent with status := .refunded } else intent
      else (db.view m).intents) ∧
      (db'.intents.rows.filter fun intent => intent.merchantId ≠ m) = (db.others m).intents := by
    rw [intents]
    cases markRefunded with
    | true => exact ⟨setStatus_own .., setStatus_others owned⟩
    | false => exact ⟨rfl, rfl⟩
  refine ⟨?_, ?_, owns⟩
  · simp only [view, owns, mine.1, rows, merchants, List.filter_append, TenantView.mk.injEq, true_and]
    rw [List.filter_cons_of_pos (by rw [about]; exact owned)]
    rfl
  · simp only [others, owns, mine.2, rows, merchants, events, List.filter_append]
    rw [List.filter_cons_of_neg (by rw [about, owned]; simp), List.filter_nil, List.append_nil]

/-- Where no foreign refund has an id, the own ones tell whether it is taken. -/
theorem refund_free (fresh : ∀ refund ∈ (db.others m).refunds, refund.id ≠ id) :
    db.refunds.find id = none ↔ ∀ refund ∈ (db.view m).refunds, refund.id ≠ id := by
  rw [Table.find_none]
  constructor
  · intro free refund member
    exact free refund (List.mem_filter.mp member).1
  · intro free refund member
    cases owned : db.owns m refund.paymentIntentId with
    | true => exact free refund (List.mem_filter.mpr ⟨member, owned⟩)
    | false => exact fresh refund (List.mem_filter.mpr ⟨member, by simp [owned]⟩)

/-- The refund transaction of an own intent goes alike wherever the own rows are. -/
theorem recordRefundTx_agree {new : Uuid} {data : NewRefund} (markRefunded : Bool) (same : left.view m = right.view m)
    (owned : left.owns m data.paymentIntentId = true) (freshLeft : ∀ refund ∈ (left.others m).refunds, refund.id ≠ new)
    (freshRight : ∀ refund ∈ (right.others m).refunds, refund.id ≠ new) :
    (∃ err, recordRefundTx new data markRefunded left = .error err ∧
      recordRefundTx new data markRefunded right = .error err) ∨
    ∃ row left' right', recordRefundTx new data markRefunded left = .ok (row, left') ∧
      recordRefundTx new data markRefunded right = .ok (row, right') ∧ left'.view m = right'.view m := by
  have also : right.owns m data.paymentIntentId = true := (owns_agree (congrArg TenantView.intents same)).symm.trans owned
  have free : left.refunds.find new = none ↔ right.refunds.find new = none := by
    rw [refund_free freshLeft, refund_free freshRight, same]
  cases stored : Decimal.ofNumber data.amount with
  | none => exact Or.inl ⟨_, recordRefundTx_overflow stored, recordRefundTx_overflow stored⟩
  | some amount =>
    cases held : left.refunds.find new with
    | some old =>
      cases heldRight : right.refunds.find new with
      | none =>
        rw [free.mpr heldRight] at held
        cases held
      | some oldRight =>
        exact Or.inl ⟨_, recordRefundTx_duplicate stored held, recordRefundTx_duplicate stored heldRight⟩
    | none =>
      have known : ∀ {db : Database}, db.owns m data.paymentIntentId = true →
          ∃ intent, db.intents.find data.paymentIntentId = some intent := by
        intro db owned
        obtain ⟨intent, member, named, _⟩ := owns_iff.mp owned
        exact ⟨intent, Table.find_some.mpr ⟨member, named⟩⟩
      obtain ⟨intent, found⟩ := known owned
      obtain ⟨intent', found'⟩ := known also
      obtain ⟨row, left', ran⟩ := recordRefundTx_fresh stored held found markRefunded
      obtain ⟨row', right', ran'⟩ := recordRefundTx_fresh stored (free.mp held) found' markRefunded
      have rows : row = row' := by
        obtain ⟨_, _, stored₁, named₁, _⟩ := recordRefundTx_ok ran
        obtain ⟨_, _, stored₂, named₂, _⟩ := recordRefundTx_ok ran'
        cases stored₁.symm.trans stored₂
        rw [named₁, named₂]
      subst rows
      refine Or.inr ⟨row, left', right', ran, ran', ?_⟩
      rw [(recordRefundTx_view owned ran).1, (recordRefundTx_view also ran').1, same]

end Database

def strangerMerchant : Merchant :=
  ⟨⟨"e5d4c3b2-a190-4f8e-9d7c-6b5a49382716"⟩, "Stranger", "stranger@example.com", none, none, true, 0⟩

/-- An intent of the stranger. -/
def strangerIntent (status : PaymentStatus) : PaymentIntent :=
  { sampleIntent status with
    id := ⟨"90817263-5443-4231-8fed-cba987654321"⟩
    reference := "ORD-2"
    merchantId := strangerMerchant.id }

/-- The sample merchant and a stranger with an intent each. -/
def withStranger (own stranger : PaymentStatus) : Database where
  merchants := ⟨[strangerMerchant, sampleMerchant], by decide +kernel⟩
  intents := ⟨[strangerIntent stranger, sampleIntent own], by cases own <;> cases stranger <;> decide +kernel⟩
  events := Table.empty
  refunds := Table.empty
  intentMerchant := by cases own <;> cases stranger <;> decide +kernel
  eventIntent := fun event member => by cases member
  refundIntent := fun refund member => by cases member

end PayBridge
