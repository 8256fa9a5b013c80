import PayBridge.RefundOrigin

namespace PayBridge
open Store Await

/-- An event shows a stored intent as it is, but for the status that it announces. -/
structure AboutStored (s : App) (dispatch : Dispatch) (intent : PaymentIntent) : Prop where
  stored : intent ∈ s.world.db.intents.rows
  intentId : dispatch.intentId = intent.id
  data : dispatch.data = { intent.eventData with status := dispatch.data.status, refund := dispatch.data.refund }

/-- An event about a refund shows the stored row, with the amount that was asked for. -/
structure ReportsRow (report : RefundData) (row : Refund) : Prop where
  id : report.id = row.id
  amount : Decimal.ofNumber report.amount = some row.amount
  reason : report.reason.toOption = row.reason
  gatewayRefundId : row.gatewayRefundId = some report.gatewayRefundId
  status : report.status = row.status

/-- What stands behind an event that a merchant is sent: a payment was captured by
an event of its provider or as its gateway has confirmed, has failed as its gateway
has confirmed, or a refund of it is stored. -/
inductive NoticeBacked (s : App) (i : Nat) (dispatch : Dispatch) : Prop
  | recorded {intent : PaymentIntent} {event : WebhookEvent} : AboutStored s dispatch intent → dispatch.event = .paymentSucceeded →
      dispatch.data.status = .captured → dispatch.data.refund = none → event ∈ s.world.db.events.rows →
      event.paymentIntentId = intent.id → NoticeBacked s i dispatch
  | confirmed {intent : PaymentIntent} {asked : (op : Op) × op.Answer} : AboutStored s dispatch intent →
      dispatch.event = noticeOf dispatch.data.status → dispatch.data.refund = none → (i, asked) ∈ s.log →
      Confirms intent asked dispatch.data.status → NoticeBacked s i dispatch
  | refunded {intent : PaymentIntent} {report : RefundData} {row : Refund} : AboutStored s dispatch intent →
      dispatch.event = .paymentRefunded → dispatch.data.refund = some report → row ∈ s.world.db.refunds.rows →
      row.paymentIntentId = intent.id → ReportsRow report row → NoticeBacked s i dispatch

/-- The refund that an entry of the log has reported. -/
def reportedRefund : (op : Op) × op.Answer → Option RefundData
  | ⟨.enqueue .paymentRefunded data _ _, .ok ()⟩ => data.refund
  | _ => none

theorem reportedRefund_some {entry : (op : Op) × op.Answer} {report : RefundData} (reported : reportedRefund entry = some report) :
    ∃ data targetUrl secret, entry = ⟨.enqueue .paymentRefunded data targetUrl secret, .ok ()⟩ ∧ data.refund = some report := by
  unfold reportedRefund at reported
  split at reported
  · exact ⟨_, _, _, rfl, reported⟩
  · cases reported

section
variable {P : Platform} {orchestrator : OrchestratorService} {meets : App → AppStep → Prop} {world : World} {s : App}

/-- The event data of a told row shows the stored intent. -/
theorem about_told (reach : Reach (app P orchestrator) meets world s) {i : Nat} {entry : (op : Op) × op.Answer}
    (member : (i, entry) ∈ s.log) {row : PaymentIntent} (told : Told entry row) (dispatch : Dispatch)
    (about : dispatch.intentId = row.id)
    (data : dispatch.data = { row.eventData with status := dispatch.data.status, refund := dispatch.data.refund }) :
    ∃ intent, AboutStored s dispatch intent ∧ SamePayment intent row := by
  obtain ⟨intent, stored, same⟩ := Option.map_eq_some_iff.mp (told_now reach.chronicle member told)
  have same := SamePayment.of_eq same
  refine ⟨intent, ⟨(Table.find_some.mp stored).1, about.trans same.id.symm, ?_⟩, same⟩
  rw [data]
  simp only [PaymentIntent.eventData, same.id, same.reference, same.amount, same.currency, same.gateway, same.customerEmail,
    same.gatewayPaymentId]

/-- What is sent was sent by a request that has seen what stands behind it. -/
theorem sent_backed (faithful : orchestrator.Faithful) (reach : Reach (app P orchestrator) meets world s) {i : Nat}
    {event : OutboundEventType} {data : PaymentIntentData} {targetUrl secret : String}
    (member : (i, (⟨.enqueue event data targetUrl secret, .ok ()⟩ : (op : Op) × op.Answer)) ∈ s.log) :
    NoticeBacked s i ⟨data.id, targetUrl, secret, event, data⟩ := by
  obtain ⟨t, earlier, _, course, seen⟩ := reach.asked_at (app_course P faithful) member
  obtain ⟨merchantId, merchant, sends, _⟩ := course.sends
  generalize t.request = request at sends
  cases sends with
  | @webhook d inbound row _ passed =>
    have committed := seen _ (List.mem_cons_of_mem _ List.mem_cons_self)
    obtain ⟨env, w, answered⟩ := reach.chronicle.answered committed
    obtain ⟨_, ran⟩ := perform_query_ok answered
    obtain ⟨_, _, _, _, _, _, _, _, _, shown, _⟩ := recordEventTx_ok ran
    obtain ⟨text, _, inserted⟩ := recordEvent_shape reach.chronicle committed
    obtain ⟨intent, about, same⟩ := about_told reach committed (.shown .recorded)
      ⟨row.id, targetUrl, secret, .paymentSucceeded, row.eventData⟩ rfl rfl
    refine .recorded about rfl ?_ rfl inserted same.id.symm
    show row.status = .captured
    rw [shown]
  | @round start intent asked status row _ scanned confirms =>
    have updated := seen _ (List.mem_cons_of_mem _ List.mem_cons_self)
    have confirmed := seen _ (List.mem_cons_of_mem _ (List.mem_cons_of_mem _ List.mem_cons_self))
    obtain ⟨cutoff, rows, listed, inside⟩ := scanned
    have scan := seen _ (List.mem_cons_of_mem _ (List.mem_cons_of_mem _ (List.mem_cons_of_mem _ listed)))
    obtain ⟨env, w, answered⟩ := reach.chronicle.answered updated
    obtain ⟨_, ran⟩ := perform_query_ok answered
    obtain ⟨before, known, shown, _⟩ := paymentIntentUpdate_ok ran
    have key : before.id = intent.id := Table.find_key known
    have named : row.id = intent.id := by
      rw [shown]
      exact key
    have written : row.status = status := by rw [shown]
    obtain ⟨stored, about, same⟩ := about_told reach updated (.shown .updated)
      ⟨row.id, targetUrl, secret, noticeOf status, row.eventData⟩ rfl rfl
    have payment := told_stored reach.chronicle scan (.scanned inside) about.stored (same.id.trans named)
    have settled := confirms.of_payment payment
    rw [← written] at settled
    exact .confirmed about (congrArg noticeOf written.symm) rfl confirmed settled
  | @refund paymentIntentId dto _ found plan refundResult newRefund _ accepted =>
    have recorded := seen _ (List.mem_cons_of_mem _ List.mem_cons_self)
    have read := seen _ (List.mem_cons_of_mem _ (List.mem_cons_of_mem _ (List.mem_cons_of_mem _ List.mem_cons_self)))
    obtain ⟨refunds, rfl, _⟩ := refundPlan_ok accepted
    obtain ⟨inserted, amount, held, made⟩ := recordRefund_shape reach.chronicle recorded
    obtain ⟨intent, about, same⟩ := about_told reach read (.shown .read)
      ⟨plan.intent.id, targetUrl, secret, .paymentRefunded, plan.eventData dto refundResult newRefund⟩ rfl rfl
    refine .refunded about rfl rfl inserted ?_ ⟨rfl, ?_, ?_, ?_, ?_⟩
    · rw [made]
      exact same.id.symm
    · rw [made]
      exact held
    all_goals rw [made]; rfl

/-- Only a refund request reports a refund, the one it has recorded. -/
theorem reported_recorded {request : AppRequest} {seen : History Op.Answer} {data : PaymentIntentData} {targetUrl secret : String}
    (course : AppCourse P request seen (.enqueue .paymentRefunded data targetUrl secret)) :
    ∃ row, (∃ entry ∈ seen, insertedRefund entry = some row) ∧ (∀ report, data.refund = some report → report.id = row.id) ∧
      ∀ entry ∈ seen, reportedRefund entry = none := by
  obtain ⟨merchantId, merchant, sends, _⟩ := course.sends
  generalize said : OutboundEventType.paymentRefunded = event at sends
  cases sends with
  | webhook _ => cases said
  | @round start intent asked status row _ scanned confirms =>
    rcases confirms.settles.2 with rfl | rfl <;> cases said
  | @refund paymentIntentId dto _ found plan refundResult newRefund _ accepted =>
    refine ⟨newRefund, ⟨⟨plan.record dto refundResult, .ok newRefund⟩, by simp, rfl⟩, ?_, ?_⟩
    · rintro report ⟨⟩
      rfl
    · intro entry member
      simp only [List.mem_cons, List.not_mem_nil, or_false] at member
      rcases member with rfl | rfl | rfl | rfl <;> rfl

theorem report_once (faithful : orchestrator.Faithful) (reach : Reach (app P orchestrator) meets world s) (i : Nat) :
    ((own i s.log).countP fun entry => (reportedRefund entry).isSome) ≤ 1 := by
  refine reach.at_most_once (app_course P faithful) i ?_
  intro request seen op answer course reports earlier member
  obtain ⟨report, reports⟩ := Option.isSome_iff_exists.mp reports
  obtain ⟨data, targetUrl, secret, same, _⟩ := reportedRefund_some reports
  obtain ⟨rfl, _⟩ := Sigma.mk.inj_iff.mp same
  obtain ⟨_, _, _, silent⟩ := reported_recorded course
  rw [silent earlier member]
  rfl

/-- No two reports are about one refund. -/
theorem reports_nodup (faithful : orchestrator.Faithful) (reach : Reach (app P orchestrator) meets world s) :
    ((gather reportedRefund s.log).map fun report => report.2.id).Nodup := by
  have threads := gather_nodup (report_once faithful reach)
  have rows : ((gather insertedRefund s.log).map fun made => made.2.id).Nodup := by
    have distinct := s.world.db.refunds.distinct
    rw [(journaled reach.chronicle).refunds, List.map_append, List.map_map] at distinct
    exact distinct.of_append_right
  have recorded : ∀ i report, (i, report) ∈ gather reportedRefund s.log →
      ∃ row, (i, row) ∈ gather insertedRefund s.log ∧ report.id = row.id := by
    intro i report member
    obtain ⟨entry, logged, reported⟩ := mem_gather.mp member
    obtain ⟨data, targetUrl, secret, rfl, shown⟩ := reportedRefund_some reported
    obtain ⟨_, _, _, course, seen⟩ := reach.asked_at (app_course P faithful) logged
    obtain ⟨row, ⟨earlier, inside, inserted⟩, about, _⟩ := reported_recorded course
    exact ⟨row, mem_gather.mpr ⟨earlier, seen _ inside, inserted⟩, about report shown⟩
  refine List.Nodup.map_on ?_ (List.Nodup.of_map Prod.fst threads)
  rintro ⟨i, report⟩ left ⟨j, report'⟩ right same
  obtain ⟨row, inLog, id⟩ := recorded i report left
  obtain ⟨row', inLog', id'⟩ := recorded j report' right
  have made := List.inj_on_of_nodup_map rows inLog inLog' (id.symm.trans (same.trans id'))
  have thread : i = j := congrArg Prod.fst made
  exact List.inj_on_of_nodup_map threads left right thread

/-- The refund that an event reports. -/
def Dispatch.refundId (dispatch : Dispatch) : Option Uuid :=
  if dispatch.event = .paymentRefunded then dispatch.data.refund.map RefundData.id else none

theorem sent_refundIds (log : List (Nat × (op : Op) × op.Answer)) :
    (gather sentDispatch log).filterMap (fun sent => sent.2.refundId) = (gather reportedRefund log).map fun report => report.2.id := by
  simp only [gather, List.filterMap_filterMap, List.map_filterMap]
  refine List.filterMap_congr fun entry _ => ?_
  obtain ⟨i, op, answer⟩ := entry
  cases op with
  | enqueue event data targetUrl secret =>
    cases answer with
    | error err => cases event <;> rfl
    | ok =>
      cases event with
      | paymentRefunded =>
        show data.refund.map RefundData.id = (data.refund.map (Prod.mk i)).map fun report => report.2.id
        cases data.refund <;> rfl
      | _ => rfl
  | _ => rfl

/-- In every run of the application, whatever is queued for a merchant beyond the
first jobs is backed by what is stored and by what the gateways have answered, and
no refund is reported twice. -/
theorem notices_backed (faithful : orchestrator.Faithful) (reach : Reach (app P orchestrator) meets world s) :
    ∃ sent : List (Nat × Dispatch), s.world.queue.map OutboundWebhookJobData.dispatch =
        world.queue.map OutboundWebhookJobData.dispatch ++ sent.map Prod.snd ∧
      (∀ i dispatch, (i, dispatch) ∈ sent → NoticeBacked s i dispatch) ∧ (sent.filterMap fun o => o.2.refundId).Nodup := by
  refine ⟨gather sentDispatch s.log, (journaled reach.chronicle).queue, ?_, ?_⟩
  · intro i dispatch member
    obtain ⟨entry, logged, sent⟩ := mem_gather.mp member
    obtain ⟨event, data, targetUrl, secret, rfl, rfl⟩ := sentDispatch_some sent
    exact sent_backed faithful reach logged
  · rw [sent_refundIds]
    exact reports_nodup faithful reach

/-- A request has sent an event right after its look-up of a merchant was answered. -/
def SentAfter (s : App) (i : Nat) (dispatch : Dispatch) (merchantId : Uuid) (found : Except JsError (Option Merchant)) : Prop :=
  ∃ later earlier, own i s.log =
    later ++ ⟨.enqueue dispatch.event dispatch.data dispatch.targetUrl dispatch.secret, .ok ()⟩ ::
      ⟨.query (.findMerchant merchantId), found⟩ :: earlier

/-- Where a request sends an event about an intent: to the intent's own merchant as it
is stored, or, where its look-up of that merchant has failed, to where merchants
without an endpoint are notified. -/
inductive SentFor (P : Platform) (s : App) (i : Nat) (dispatch : Dispatch) (intent : PaymentIntent) : Prop
  | own {merchant : Merchant} : SentAfter s i dispatch intent.merchantId (.ok (some merchant)) →
      merchant ∈ s.world.db.merchants.rows → merchant.id = intent.merchantId →
      dispatch.targetUrl = resolvedUrl P merchant.webhookUrl → dispatch.secret = resolvedSecret P merchant.webhookSecret →
      SentFor P s i dispatch intent
  | shared {err : JsError} : SentAfter s i dispatch intent.merchantId (.error err) →
      dispatch.targetUrl = resolvedUrl P none → dispatch.secret = resolvedSecret P none → SentFor P s i dispatch intent

/-- A merchant that was looked up is the stored one. -/
theorem merchant_read {first now : World} {log : List (Nat × (op : Op) × op.Answer)} (chronicle : Chronicle (perform P) first now log)
    {i : Nat} {id : Uuid} {found : Except JsError (Option Merchant)}
    (member : (i, (⟨.query (.findMerchant id), found⟩ : (op : Op) × op.Answer)) ∈ log) :
    found = .ok (first.db.merchants.find id) ∨ ∃ err, found = .error err := by
  induction chronicle with
  | start => cases member
  | @next now log j env op chronicle ih =>
    rcases List.mem_cons.mp member with same | old
    · obtain ⟨rfl, answered⟩ := Sigma.mk.inj_iff.mp (congrArg Prod.snd same)
      have answered : found = (perform P env (.query (.findMerchant id)) now).1 := eq_of_heq answered
      rw [answered, ← (journaled chronicle).merchants]
      simp only [perform, Query.exec]
      split
      · exact Or.inr ⟨_, rfl⟩
      · exact Or.inl rfl
    · exact ih old

/-- A request that sends an event has been told the row of the intent and looked up its merchant. -/
theorem Sends.tells {request : AppRequest} {seen : History Op.Answer} {event : OutboundEventType} {data : PaymentIntentData}
    {merchantId : Uuid} {merchant : Except JsError (Option Merchant)} (sends : Sends P request seen event data merchantId merchant) :
    ∃ entry ∈ seen, ∃ row, Told entry row ∧ row.id = data.id ∧ row.merchantId = merchantId := by
  cases sends with
  | webhook _ => exact ⟨_, List.mem_cons_of_mem _ List.mem_cons_self, _, .shown .recorded, rfl, rfl⟩
  | round _ _ => exact ⟨_, List.mem_cons_of_mem _ List.mem_cons_self, _, .shown .updated, rfl, rfl⟩
  | refund accepted =>
    obtain ⟨refunds, rfl, _⟩ := refundPlan_ok accepted
    exact ⟨_, List.mem_cons_of_mem _ (List.mem_cons_of_mem _ (List.mem_cons_of_mem _ List.mem_cons_self)), _, .shown .read, rfl, rfl⟩

theorem sent_addressed (faithful : orchestrator.Faithful) (reach : Reach (app P orchestrator) meets world s) {i : Nat}
    {event : OutboundEventType} {data : PaymentIntentData} {targetUrl secret : String}
    (member : (i, (⟨.enqueue event data targetUrl secret, .ok ()⟩ : (op : Op) × op.Answer)) ∈ s.log) :
    ∃ intent ∈ s.world.db.intents.rows, intent.id = data.id ∧ SentFor P s i ⟨data.id, targetUrl, secret, event, data⟩ intent := by
  obtain ⟨t, seen, _, course, later, split⟩ := reach.asked_after (app_course P faithful) member
  have logged : ∀ entry ∈ seen, (i, entry) ∈ s.log := by
    intro entry inside
    refine mem_own.mp ?_
    rw [split]
    exact List.mem_append_right _ (List.mem_cons_of_mem _ inside)
  obtain ⟨merchantId, merchant, sends, url, key⟩ := course.sends
  obtain ⟨entry, inside, row, told, about, owner⟩ := sends.tells
  obtain ⟨earlier, rfl⟩ := sends.looked_up
  obtain ⟨intent, stored, same⟩ := Option.map_eq_some_iff.mp (told_now reach.chronicle (logged _ inside) told)
  have same := SamePayment.of_eq same
  obtain ⟨stored, _⟩ := Table.find_some.mp stored
  have owns : merchantId = intent.merchantId := (same.merchantId.trans owner).symm
  subst owns
  refine ⟨intent, stored, same.id.trans about, ?_⟩
  rcases merchant_read reach.chronicle (logged _ List.mem_cons_self) with rfl | ⟨err, rfl⟩
  · obtain ⟨own, known, named⟩ := s.world.db.intentMerchant intent stored
    have found : world.db.merchants.find intent.merchantId = some own := by
      rw [← (journaled reach.chronicle).merchants, ← named]
      exact Table.find_mem known
    rw [found] at url key split
    exact .own ⟨later, earlier, split⟩ known named url key
  · exact .shared ⟨later, earlier, split⟩ url key

end

theorem notices_backed_sample : ∃ sent : List (Nat × Dispatch),
    sampleApp.world.queue.map OutboundWebhookJobData.dispatch = sent.map Prod.snd ∧ sent.length = 2 ∧
      ∀ i dispatch, (i, dispatch) ∈ sent → NoticeBacked sampleApp i dispatch := by
  obtain ⟨sent, queued, each, _⟩ := notices_backed sampleOrchestrator_faithful sampleApp_reached
  refine ⟨sent, queued, ?_, each⟩
  have two : sampleApp.world.queue.length = 2 := by decide +kernel
  have count := congrArg List.length queued
  simp only [List.length_map, List.length_append, two] at count
  have none : openWorld.queue.length = 0 := rfl
  omega

end PayBridge
