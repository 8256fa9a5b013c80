import PayBridge.System

namespace PayBridge
open Store Await

/-- The status of a payment that has been made. -/
def PaymentStatus.Paid (status : PaymentStatus) : Prop := status = .captured ∨ status = .refunded

/-- Between two tables every intent moves forward: a refunded one stays
refunded, and a captured one changes to nothing but refunded. -/
def Forward (db db' : Database) : Prop :=
  ∀ id intent, db.intents.find id = some intent → ∃ intent', db'.intents.find id = some intent' ∧
    (intent.status = .refunded → intent'.status = .refunded) ∧ (intent.status = .captured → intent'.status.Paid)

/-- A status write that takes no payment back. -/
def Onward (intent : PaymentIntent) (status : PaymentStatus) : Prop :=
  intent.status ≠ .refunded ∧ (status = .failed → intent.status ≠ .captured)

instance (intent : PaymentIntent) (status : PaymentStatus) : Decidable (Onward intent status) := by
  unfold Onward
  infer_instance

/-- Every intent with a succeeded refund has been paid. -/
def RefundsPaid (db : Database) : Prop :=
  ∀ refund ∈ db.refunds.rows, refund.status = .succeeded →
    ∀ intent, db.intents.find refund.paymentIntentId = some intent → intent.status.Paid

/-- Every intent a request has read as captured is still paid. -/
def ReadsPaid (s : Service) : Prop :=
  ∀ i text intent refunds, (i, ⟨.query (.findIntent text), .ok (some ⟨intent, refunds⟩)⟩) ∈ s.log →
    intent.status = .captured → ∃ now, s.world.db.intents.find intent.id = some now ∧ now.status.Paid

theorem Forward.refl (db : Database) : Forward db db :=
  fun _ intent found => ⟨intent, found, fun refunded => refunded, fun captured => Or.inl captured⟩

theorem Forward.of_intents {db db' : Database} (same : db'.intents = db.intents) : Forward db db' := by
  intro id intent found
  exact ⟨intent, by rw [same]; exact found, fun refunded => refunded, fun captured => Or.inl captured⟩

/-- Setting one status moves every intent forward exactly when it moves that intent forward. -/
theorem forward_setStatus {db db' : Database} {id : Uuid} {status : PaymentStatus} {intent : PaymentIntent}
    (found : db.intents.find id = some intent) (set : db'.intents = (db.setStatus id status).intents) :
    Forward db db' ↔ (intent.status = .refunded → status = .refunded) ∧ (intent.status = .captured → status.Paid) := by
  have after : ∀ j, db'.intents.find j =
      if j = id then (db.intents.find j).map fun old => { old with status } else db.intents.find j := by
    intro j
    rw [set, Database.setStatus_find]
  constructor
  · intro forward
    obtain ⟨row, landed, stays, moves⟩ := forward id intent found
    rw [after, if_pos rfl, found] at landed
    cases landed
    exact ⟨stays, moves⟩
  · rintro ⟨stays, moves⟩ j old stood
    rw [after]
    by_cases same : j = id
    · subst same
      cases found.symm.trans stood
      rw [if_pos rfl, found]
      exact ⟨_, rfl, stays, moves⟩
    · rw [if_neg same]
      exact ⟨old, stood, fun refunded => refunded, fun captured => Or.inl captured⟩

/-- A paid intent stays paid while the table moves forward. -/
theorem Forward.paid {db db' : Database} (forward : Forward db db') {id : Uuid} {intent : PaymentIntent}
    (found : db.intents.find id = some intent) (paid : intent.status.Paid) :
    ∃ intent', db'.intents.find id = some intent' ∧ intent'.status.Paid := by
  obtain ⟨intent', found', stays, moves⟩ := forward id intent found
  rcases paid with captured | refunded
  · exact ⟨intent', found', moves captured⟩
  · exact ⟨intent', found', Or.inr (stays refunded)⟩

/-- A refund is recorded only for an intent its request has read as captured. -/
theorem Course.refund_read {P : Platform} {request : Request} {seen : History Op.Answer} {data : NewRefund}
    {markRefunded : Bool} (course : Course P request seen (.query (.recordRefund data markRefunded))) :
    ∃ text intent refunds, (⟨.query (.findIntent text), .ok (some ⟨intent, refunds⟩)⟩ : (op : Op) × op.Answer) ∈ seen ∧
      intent.status = .captured ∧ data.paymentIntentId = intent.id := by
  cases request with
  | webhook d => cases course
  | reconcile => cases course
  | refund paymentIntentId dto merchantId =>
    cases course with
    | record accepted =>
      obtain ⟨refunds, rfl, _, captured, _⟩ := refundPlan_ok accepted
      exact ⟨paymentIntentId, _, refunds, by simp, captured, rfl⟩
    | report _ shape => rcases shape with ⟨id, same⟩ | ⟨url, secret, same⟩ <;> cases same

/-- What one operation leaves in order: the table moves forward exactly when
the write it makes, if any, goes onward. -/
theorem performed_forward {P : Platform} {env : Env} {request : Request} {seen : History Op.Answer} {op : Op}
    {answer : op.Answer} {before after : World} (course : Course P request seen op)
    (did : Performed P env before op answer after) :
    (∀ q intent status, op = .query q → env.fails = false → Writes P before.db q intent status → Onward intent status) ↔
      Forward before.db after.db := by
  cases did with
  | @refused q cause why =>
    refine ⟨fun _ => .refl _, ?_⟩
    intro _ q intent status same spared writes
    cases same
    obtain ⟨pair, ran⟩ := writes.goes_through env
    rcases why with ⟨struck, _⟩ | ⟨_, refused⟩
    · rw [spared] at struck; cases struck
    · rw [ran] at refused; cases refused
  | @updated id status intent spared found =>
    rw [forward_setStatus found rfl]
    have settles := course.sets
    constructor
    · intro onward
      obtain ⟨open_, kept⟩ := onward _ intent status rfl spared (.update found)
      refine ⟨fun refunded => absurd refunded open_, fun captured => ?_⟩
      rcases settles with rfl | rfl
      · exact Or.inl rfl
      · exact absurd captured (kept rfl)
    · rintro ⟨stays, moves⟩ q other status' same _ writes
      cases same
      cases writes with
      | update found' =>
        cases found.symm.trans found'
        constructor
        · intro refunded
          rcases settles with rfl | rfl <;> cases stays refunded
        · rintro rfl captured
          rcases moves captured with impossible | impossible <;> cases impossible
  | @recorded idText text payload id intent db spared named found fresh intents rows refunds =>
    rw [forward_setStatus found intents]
    constructor
    · intro onward
      obtain ⟨open_, _⟩ := onward _ intent .captured rfl spared (.event named found fresh)
      exact ⟨fun refunded => absurd refunded open_, fun _ => Or.inl rfl⟩
    · rintro ⟨stays, _⟩ q other status' same _ writes
      cases same
      cases writes with
      | event named' found' _ =>
        cases named.symm.trans named'
        cases found.symm.trans found'
        constructor
        · intro refunded
          cases stays refunded
        · intro impossible
          cases impossible
  | @refunded data markRefunded amount intent row db spared stored rowIs found rows events intents =>
    refine ⟨fun _ => ?_, ?_⟩
    · cases markRefunded with
      | false => exact .of_intents intents
      | true => exact (forward_setStatus found intents).mpr ⟨fun _ => rfl, fun _ => Or.inr rfl⟩
    · intro _ q other status same _ writes
      cases same
      cases writes
  | _ =>
    refine ⟨fun _ => .refl _, ?_⟩
    intro _ q other status same _ writes
    cases same
    all_goals cases writes

theorem readsPaid_step {P : Platform} {env : Env} {s : Service} {threads : List (Thread Op Op.Answer Request (Except JsError Reply))}
    {i : Nat} {op : Op} {answer : op.Answer} {w : World} (reads : ReadsPaid s) (forward : Forward s.world.db w.db)
    (did : Performed P env s.world op answer w) : ReadsPaid ⟨w, threads, (i, ⟨op, answer⟩) :: s.log⟩ := by
  intro j text intent refunds member captured
  rcases List.mem_cons.mp member with same | old
  · cases same
    generalize answered : (Except.ok (some ⟨intent, refunds⟩) : Op.Answer (.query (.findIntent text))) = answer at did
    cases did with
    | refused _ => cases answered
    | readIntent named =>
      rename_i id
      cases found : s.world.db.intents.find id with
      | none => simp [found] at answered
      | some row =>
        simp only [found, Option.map_some, Except.ok.injEq, Option.some.injEq, IntentWithRefunds.mk.injEq] at answered
        obtain ⟨rfl, _⟩ := answered
        have key := Table.find_key found
        subst key
        exact ⟨intent, found, Or.inl captured⟩
  · obtain ⟨now, stood, paid⟩ := reads j text intent refunds old captured
    exact forward.paid stood paid

theorem refundsPaid_step {P : Platform} {env : Env} {s : Service} {request : Request} {i : Nat} {op : Op}
    {answer : op.Answer} {w : World} (settled : RefundsPaid s.world.db) (reads : ReadsPaid s)
    (course : Course P request (own i s.log) op) (did : Performed P env s.world op answer w)
    (forward : Forward s.world.db w.db) : RefundsPaid w.db := by
  have kept : ∀ refund ∈ s.world.db.refunds.rows, refund.status = .succeeded →
      ∀ intent, w.db.intents.find refund.paymentIntentId = some intent → intent.status.Paid := by
    intro refund member succeeded intent found
    obtain ⟨old, known, same⟩ := s.world.db.refundIntent refund member
    have stood := same ▸ Table.find_mem known
    obtain ⟨now, landed, paid⟩ := forward.paid stood (settled refund member succeeded old stood)
    cases landed.symm.trans found
    exact paid
  intro refund member succeeded intent found
  cases did with
  | refunded spared stored rowIs known rows events intents =>
    simp only [rows, List.mem_append, List.mem_singleton] at member
    rcases member with old | added
    · exact kept refund old succeeded intent found
    · obtain ⟨text, paidIntent, refunds, seen, captured, named⟩ := course.refund_read
      obtain ⟨now, stood, paid⟩ := reads i text paidIntent refunds (mem_own.mp seen) captured
      obtain ⟨now', landed, paid'⟩ := forward.paid stood paid
      rw [added, rowIs] at found
      rw [named] at found
      cases landed.symm.trans found
      exact paid'
  | recorded spared named known fresh intents rows refunds =>
    simp only [refunds] at member
    exact kept refund member succeeded intent found
  | _ => exact kept refund member succeeded intent found

/-- A step of a reached service moves every intent forward exactly when it
lets only onward writes through. -/
theorem forward_iff {P : Platform} {meets : Service → Step → Prop} {world : World} {s : Service}
    (reach : Reach (payments P) meets world s) (step : Step) :
    WritesOnly P Onward s step ↔ Forward s.world.db (s.step (payments P) step).world.db := by
  cases step with
  | spawn request => exact ⟨fun _ => .refl _, fun _ => trivial⟩
  | advance i env =>
    rcases advance_cases reach i env with
      ⟨idle, still⟩ | ⟨request, op, next, answer, w, standing, course, did, landed⟩
    · rw [still]
      refine ⟨fun _ => .refl _, fun _ t q intent status atI waits => ?_⟩
      rw [idle t atI] at waits
      cases waits
    · rw [landed, ← performed_forward course did]
      constructor
      · rintro only q intent status rfl spared writes
        exact only _ q intent status standing rfl spared writes
      · intro only t q intent status atI waits spared writes
        cases standing.symm.trans atI
        exact only q intent status (Option.some.inj waits) spared writes

/-- In a run that lets only onward writes through, refunds stay paid and so
does what requests have read. -/
theorem paid_run {P : Platform} {world : World} {s : Service} (start : RefundsPaid world.db)
    (reach : Reach (payments P) (WritesOnly P Onward) world s) : RefundsPaid s.world.db ∧ ReadsPaid s := by
  induction reach using service_steps with
  | initial => exact ⟨start, fun i text intent refunds impossible => by cases impossible⟩
  | spawn s request _ _ ih _ => exact ih
  | advance s i env request op next answer w before met stands course did ih _ =>
    have forward : Forward s.world.db w.db := by
      refine (performed_forward course did).mp ?_
      rintro q intent status rfl spared writes
      exact met _ q intent status stands rfl spared writes
    exact ⟨refundsPaid_step ih.1 ih.2 course did forward, readsPaid_step ih.2 forward did⟩

/-- While webhooks and reconciliation write a status only onto intents it
carries onward, every step moves every intent forward, and an intent with a
succeeded refund is neither failed nor pending. Any other write that goes
through takes an intent back. -/
theorem status_moves_forward {P : Platform} {world : World} {s : Service} (start : RefundsPaid world.db)
    (reach : Reach (payments P) (WritesOnly P Onward) world s) :
    (∀ refund ∈ s.world.db.refunds.rows, refund.status = .succeeded →
      ∀ intent, s.world.db.intents.find refund.paymentIntentId = some intent →
        intent.status ≠ .failed ∧ intent.status ≠ .pending) ∧
    ∀ step, WritesOnly P Onward s step ↔ Forward s.world.db (s.step (payments P) step).world.db := by
  refine ⟨?_, fun step => forward_iff reach step⟩
  intro refund member succeeded intent found
  rcases (paid_run start reach).1 refund member succeeded intent found with captured | refunded
  · rw [captured]
    exact ⟨by simp, by simp⟩
  · rw [refunded]
    exact ⟨by simp, by simp⟩

/-- A webhook, the same one delivered again, and a full refund. -/
def redelivered : List Step :=
  .spawn (.webhook (sampleDelivery "evt_1" (sampleIntent .pending).id.text)) :: List.replicate 3 (.advance 0 calmEnv) ++
    .spawn (.webhook (sampleDelivery "evt_1" (sampleIntent .pending).id.text)) :: List.replicate 3 (.advance 1 calmEnv) ++
    .spawn (.refund (sampleIntent .pending).id.text ⟨.undefined, .undefined⟩ sampleMerchant.id) ::
      List.replicate 5 (.advance 2 calmEnv)

/-- The intent is captured once and then refunded, and the next webhook of it would take it back. -/
theorem status_moves_forward_sample :
    let s : Service := (Pool.initial ⟨sampleDatabase .pending, []⟩).run (payments plainPlatform) redelivered
    s.world.db.intents.rows = [sampleIntent .refunded] ∧ s.world.db.refunds.rows.length = 1 ∧
      (∀ refund ∈ s.world.db.refunds.rows, refund.status = .succeeded →
        ∀ intent, s.world.db.intents.find refund.paymentIntentId = some intent →
          intent.status ≠ .failed ∧ intent.status ≠ .pending) ∧
      let late := s.step (payments plainPlatform) (.spawn (.webhook (sampleDelivery "evt_2" (sampleIntent .pending).id.text)))
      ¬ Forward late.world.db (late.step (payments plainPlatform) (.advance 3 calmEnv)).world.db := by
  intro s
  have start : RefundsPaid (sampleDatabase .pending) := fun refund impossible => by cases impossible
  have reach : Reach (payments plainPlatform) (WritesOnly plainPlatform Onward) ⟨sampleDatabase .pending, []⟩ s :=
    .run .start (by decide +kernel)
  have arrived : WritesOnly plainPlatform Onward s (.spawn (.webhook (sampleDelivery "evt_2" (sampleIntent .pending).id.text))) :=
    trivial
  refine ⟨by decide +kernel, by decide +kernel, (status_moves_forward start reach).1, fun forward => ?_⟩
  have onward := ((status_moves_forward start (reach.next arrived)).2 (.advance 3 calmEnv)).mpr forward
  revert onward
  decide +kernel

/-- A full refund, and then a webhook that comes late under an event id of its own. -/
def lateWebhook : List Step :=
  [.spawn (.refund "2b9d4f60-8e1c-4f7a-b0d3-5a6c7e8f9012" ⟨.undefined, .undefined⟩ sampleMerchant.id),
    .advance 0 calmEnv, .advance 0 calmEnv, .advance 0 calmEnv,
    .spawn (.webhook (sampleDelivery "evt_late" "2b9d4f60-8e1c-4f7a-b0d3-5a6c7e8f9012"))]

/-- The late webhook takes the refunded intent back to captured. -/
theorem late_webhook_recaptures :
    ¬ ∀ (P : Platform) (world : World) (s : Service), RefundsPaid world.db →
      Reach (payments P) (fun _ _ => True) world s →
        ∀ step, Forward s.world.db (s.step (payments P) step).world.db := by
  intro always
  let s : Service := (Pool.initial ⟨sampleDatabase .captured, []⟩).run (payments plainPlatform) lateWebhook
  have reach : Reach (payments plainPlatform) (fun _ _ => True) ⟨sampleDatabase .captured, []⟩ s :=
    Reach.run_free _ .start
  have before : (s.world.db.intents.find ⟨"2b9d4f60-8e1c-4f7a-b0d3-5a6c7e8f9012"⟩) = some (sampleIntent .refunded) := by
    decide +kernel
  have after : ((s.step (payments plainPlatform) (.advance 1 calmEnv)).world.db.intents.find
      ⟨"2b9d4f60-8e1c-4f7a-b0d3-5a6c7e8f9012"⟩) = some (sampleIntent .captured) := by
    decide +kernel
  have forward := always plainPlatform _ s (fun refund impossible => by cases impossible) reach (.advance 1 calmEnv)
  obtain ⟨row, found, stays, _⟩ := forward _ _ before
  cases after.symm.trans found
  cases stays rfl

end PayBridge
