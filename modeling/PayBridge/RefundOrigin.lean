import PayBridge.RefundSeries
import PayBridge.StatusOrigin

namespace PayBridge
open Store Await

/-- Refunds have only been added, and none of a negative amount. -/
def Grew (old new : List Refund) : Prop := ∃ added, new = old ++ added ∧ ∀ refund ∈ added, 0 ≤ refund.amount.cents

theorem Grew.refl (refunds : List Refund) : Grew refunds refunds :=
  ⟨[], (List.append_nil _).symm, fun _ member => absurd member List.not_mem_nil⟩

theorem Grew.trans {first second third : List Refund} (left : Grew first second) (right : Grew second third) : Grew first third := by
  obtain ⟨a, rfl, leftAdded⟩ := left
  obtain ⟨b, rfl, rightAdded⟩ := right
  refine ⟨a ++ b, List.append_assoc .., fun refund member => ?_⟩
  rcases List.mem_append.mp member with inA | inB
  · exact leftAdded refund inA
  · exact rightAdded refund inB

/-- What has been refunded does not become less. -/
theorem Grew.storedCents_le {old new : List Refund} (grew : Grew old new) (counts : RefundStatus → Bool) :
    storedCents counts old ≤ storedCents counts new := by
  obtain ⟨added, rfl, nonneg⟩ := grew
  induction added using List.reverseRecOn with
  | nil => rw [List.append_nil]
  | append_singleton added row ih =>
    have before := ih fun refund member => nonneg refund (List.mem_append_left _ member)
    have last := nonneg row (List.mem_append_right _ (List.mem_singleton_self row))
    rw [← List.append_assoc, storedCents_append]
    split <;> omega

/-- Every intent that is REFUNDED has been refunded to its full amount. -/
def RefundedInFull (db : Database) : Prop :=
  ∀ intent ∈ db.intents.rows, intent.status = .refunded →
    intent.amount.cents ≤ storedCents RefundStatus.isSucceeded (db.refundsOf intent.id)

/-- One entry of the log keeps the intents covered, if it takes no refund back,
inserts no refunded intent, and marks an intent as refunded only when it is. -/
theorem RefundedInFull.booked {entry : (op : Op) × op.Answer} {before after : World} (covered : RefundedInFull before.db)
    (booked : Booked entry before after) (grew : ∀ id, Grew (before.db.refundsOf id) (after.db.refundsOf id))
    (inserted : ∀ row, insertedIntent entry = some row → row.status ≠ .refunded)
    (marked : ∀ old ∈ before.db.intents.rows, writtenStatus entry = some (old.id, .refunded) →
      old.amount.cents ≤ storedCents RefundStatus.isSucceeded (after.db.refundsOf old.id)) : RefundedInFull after.db := by
  intro intent stored refunded
  rw [booked.intents] at stored
  rcases mem_bookIntents stored with new | ⟨old, stood, same, kept⟩
  · exact absurd refunded (inserted intent new)
  · have id : intent.id = old.id := by rw [same]
    have amount : intent.amount = old.amount := by rw [same]
    rw [id, amount]
    rcases kept with unchanged | written
    · have before := covered old stood (unchanged.symm.trans refunded)
      exact before.trans ((grew old.id).storedCents_le _)
    · rw [id, refunded] at written
      exact marked old stood written

section
variable {P : Platform} {orchestrator : OrchestratorService} {meets : App → AppStep → Prop} {world : World} {s : App}

/-- What the refunds of a run have come to: every intent that is REFUNDED is
covered, and since a request has read the refunds of an intent only refunds of a
positive amount have been added. -/
structure RefundBook (s : App) : Prop where
  covered : RefundedInFull s.world.db
  grew : ∀ i text intent refunds, (i, ⟨.query (.findIntent text), .ok (some ⟨intent, refunds⟩)⟩) ∈ s.log →
    Grew refunds (s.world.db.refundsOf intent.id)

/-- An entry adds the refund it has recorded, of a positive amount, and no other. -/
theorem booked_grew {request : AppRequest} {seen : History Op.Answer} {op : Op} {answer : op.Answer} {env : Env} {w : World}
    (course : AppCourse P request seen op) (answered : (perform P env op w).1 = answer) {before after : World}
    (booked : Booked ⟨op, answer⟩ before after) (id : Uuid) : Grew (before.db.refundsOf id) (after.db.refundsOf id) := by
  refine ⟨(insertedRefund ⟨op, answer⟩).toList.filter fun refund => refund.paymentIntentId = id, ?_, ?_⟩
  · simp only [Database.refundsOf, booked.refunds, List.filter_append]
  · intro refund member
    have inserted := Option.mem_toList.mp (List.mem_of_mem_filter member)
    obtain ⟨data, markRefunded, same⟩ := insertedRefund_some inserted
    obtain ⟨rfl, same⟩ := Sigma.mk.inj_iff.mp same
    obtain rfl := eq_of_heq same
    obtain ⟨_, ran⟩ := perform_query_ok answered
    obtain ⟨amount, _, held, made, _⟩ := recordRefundTx_ok ran
    obtain ⟨_, _, _, _, plan, _, _, accepted, rfl, _⟩ := course.refunds
    obtain ⟨_, _, _, _, _, _, _, _, _, positive, _⟩ := refundPlan_ok accepted
    have held : Decimal.ofNumber plan.requestedAmount = some amount := held
    rw [made]
    show 0 ≤ amount.cents
    rw [Decimal.ofNumber_some positive.le held]
    refine le_mathRound ?_
    push_cast
    linarith

/-- A refund that marks its intent as refunded is the last one that was missing. -/
theorem marked_covered (exact : P.arithmetic = .exact) (reach : Reach (app P orchestrator) meets world s) (book : RefundBook s) {i : Nat} {request : AppRequest}
    {env : Env} {data : NewRefund} {row : Refund} (course : AppCourse P request (own i s.log) (.query (.recordRefund data true)))
    (answered : (perform P env (.query (.recordRefund data true)) s.world).1 = .ok row) {after : World}
    (booked : Booked ⟨.query (.recordRefund data true), .ok row⟩ s.world after) {old : PaymentIntent}
    (stored : old ∈ s.world.db.intents.rows) (named : data.paymentIntentId = old.id) :
    old.amount.cents ≤ storedCents RefundStatus.isSucceeded (after.db.refundsOf old.id) := by
  obtain ⟨paymentIntentId, dto, merchantId, found, plan, refundResult, _, accepted, rfl, marks, seen⟩ := course.refunds
  obtain ⟨_, ran⟩ := perform_query_ok answered
  obtain ⟨amount, _, held, made, _⟩ := recordRefundTx_ok ran
  obtain ⟨refunds, rfl, _⟩ := refundPlan_ok accepted
  have read : (i, (⟨.query (.findIntent paymentIntentId), .ok (some ⟨plan.intent, refunds⟩)⟩ : (op : Op) × op.Answer)) ∈ s.log := by
    refine mem_own.mp ?_
    rw [seen]
    exact List.mem_cons_of_mem _ List.mem_cons_self
  have id : plan.intent.id = old.id := named
  have price : old.amount = plan.intent.amount := (told_stored reach.chronicle read (.shown .read) stored id.symm).amount
  have checked : RefundRequest.plan P ⟨paymentIntentId, dto, merchantId⟩ (some ⟨plan.intent, refunds⟩) = .ok plan := accepted
  obtain ⟨total, _, _, positive, _, paidBack, _⟩ := refundPlan_cents exact checked
  have held : Decimal.ofNumber plan.requestedAmount = some amount := held
  have cents := Decimal.ofNumber_some positive.le held
  simp only [RefundPlan.marksRefunded, Bool.true_eq, Bool.and_eq_true, decide_eq_true_eq] at marks
  have enough := (isFullyRefunded_cents total paidBack).mp marks.1
  have since := (book.grew i paymentIntentId plan.intent refunds read).storedCents_le RefundStatus.isSucceeded
  have added : after.db.refundsOf old.id = s.world.db.refundsOf old.id ++ [row] := by
    have about : row.paymentIntentId = old.id := by rw [made]; exact named
    rw [Database.refundsOf_append booked.refunds, if_pos about]
  have counted : row.status.isSucceeded = true := by
    rw [made]
    exact decide_eq_true marks.2
  have paid : row.amount = amount := by rw [made]
  rw [added, storedCents_append, if_pos counted, price, paid, cents, ← id]
  omega

/-- The refunds that a request reads are those stored for the intent. -/
theorem read_refunds {env : Env} {w : World} {text : String} {intent : PaymentIntent} {refunds : List Refund}
    (answered : (perform P env (.query (.findIntent text)) w).1 = .ok (some ⟨intent, refunds⟩)) :
    refunds = w.db.refundsOf intent.id := by
  obtain ⟨_, ran⟩ := perform_query_ok answered
  simp only [Query.exec] at ran
  cases named : P.readId text with
  | error err =>
    rw [named] at ran
    cases ran
  | ok id =>
    rw [named] at ran
    obtain ⟨found, shown, same⟩ := Option.map_eq_some_iff.mp (congrArg Prod.fst (Except.ok.inj ran))
    cases same
    rw [Table.find_key shown]

theorem refund_book (exact : P.arithmetic = .exact) (faithful : orchestrator.Faithful) (covered : RefundedInFull world.db)
    (reach : Reach (app P orchestrator) meets world s) : RefundBook s := by
  refine Reach.asked_steps (app_course P faithful) (motive := fun s _ => RefundBook s) ?initial ?spawn ?advance reach
  case initial => exact ⟨covered, fun _ _ _ _ member => absurd member List.not_mem_nil⟩
  case spawn =>
    intro s request _ _ book _
    exact ⟨book.covered, book.grew⟩
  case advance =>
    intro s i env request op next before _ _ course book _
    have did := app_performed P env op s.world
    have booked := performed_booked did (perform_merchants P env op s.world)
    have grew := booked_grew course rfl booked
    constructor
    · refine book.covered.booked booked grew ?_ ?_
      · intro row inserted
        obtain ⟨data, same⟩ := insertedIntent_some inserted
        obtain ⟨rfl, same⟩ := Sigma.mk.inj_iff.mp same
        obtain ⟨_, ran⟩ := perform_query_ok (eq_of_heq same)
        obtain ⟨_, _, made, _⟩ := paymentIntentCreate_ok ran
        obtain ⟨_, _, _, _, _, _, _, given, _⟩ := course.inserts
        rw [made, given]
        exact fun refunded => by cases refunded
      · intro old stored written
        rcases writtenStatus_some written with ⟨row, same⟩ | ⟨_, _, _, _, _, _, captured⟩ | ⟨data, row, same, named, _⟩
        · obtain ⟨rfl, _⟩ := Sigma.mk.inj_iff.mp same
          obtain ⟨_, _, _, _, ⟨_, _, _, _, failed⟩ | ⟨_, _, confirms⟩⟩ := course.updates
          · cases failed
          · rcases confirms.settles.2 with impossible | impossible <;> cases impossible
        · cases captured
        · obtain ⟨rfl, same⟩ := Sigma.mk.inj_iff.mp same
          have answered := eq_of_heq same
          rw [answered] at booked
          exact marked_covered exact before book course answered booked stored named
    · intro j text intent refunds member
      rcases List.mem_cons.mp member with same | old
      · obtain ⟨rfl, same⟩ := Sigma.mk.inj_iff.mp (congrArg Prod.snd same)
        rw [read_refunds (eq_of_heq same).symm]
        exact grew intent.id
      · exact (book.grew j text intent refunds old).trans (grew intent.id)

/-- In exact arithmetic, in every run of the application, with any requests at once
and any failures and answers of the providers, an intent is REFUNDED only when
succeeded refunds of its full amount are stored, if so it was at the start. -/
theorem refunded_covered (exact : P.arithmetic = .exact) (faithful : orchestrator.Faithful) (covered : RefundedInFull world.db)
    (reach : Reach (app P orchestrator) meets world s) : RefundedInFull s.world.db :=
  (refund_book exact faithful covered reach).covered

end

theorem refunded_covered_sample : (∃ intent ∈ sampleApp.world.db.intents.rows, intent.status = .refunded) ∧
    RefundedInFull sampleApp.world.db := by
  refine ⟨?_, refunded_covered rfl sampleOrchestrator_faithful ?_ sampleApp_reached⟩
  · have statuses : sampleApp.world.db.intents.rows.map PaymentIntent.status = [.refunded, .pending] := by decide +kernel
    have first : PaymentStatus.refunded ∈ sampleApp.world.db.intents.rows.map PaymentIntent.status := by
      rw [statuses]
      exact List.mem_cons_self
    obtain ⟨intent, member, same⟩ := List.mem_map.mp first
    exact ⟨intent, member, same⟩
  · intro intent member refunded
    rw [List.mem_singleton.mp member] at refunded
    cases refunded

end PayBridge
