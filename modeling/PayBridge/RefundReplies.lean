import PayBridge.RefundOrigin
import PayBridge.ReplayOrigin

namespace PayBridge
open Store Await

/-- The handlers of the API act on its database as the log says. -/
theorem api_chronicle {P : Platform} {meets : ApiService → ApiStep → Prop} {world : KeyWorld ApiBody World} {s : ApiService}
    (reach : Reach (apiSystem P) meets world s) : Chronicle (perform P) world.app s.world.app (inward s.log) := by
  induction reach using key_steps (api P).keep_any with
  | initial => exact .start
  | spawn s request before met ih _ => exact ih
  | advance s i env request op next answer w before met stands course did ih _ =>
    cases did with
    | @handled op => exact .next i env.app op ih
    | _ => exact ih

/-- What stands behind a refund that a client is told of: a request under the same
key, whose merchant's intent it has read, has passed the checks; the provider of the
intent, asked for the planned amount, has answered; and the row is stored with the
status of that answer, whichever it is, as the client is told. -/
inductive RefundTold (P : Platform) (s : ApiService) (t : KeyThread Op Op.Answer ApiBody ApiRequest) (response : RefundResponse) : Prop
  | told {j : Nat} {u : KeyThread Op Op.Answer ApiBody ApiRequest} {paymentIntentId : String} {dto : CreateRefundDto}
      {found : Option IntentWithRefunds} {plan : RefundPlan} {refundResult : RefundResult} {row : Refund} :
      s.threads[j]? = some u → u.request.endpoint = .createRefund paymentIntentId dto →
      ((api P).call u.request).key = ((api P).call t.request).key →
      (j, ⟨.inr (.query (.findIntent paymentIntentId)), .ok found⟩) ∈ s.log →
      refundPlan P paymentIntentId dto u.request.merchantId found = .ok plan →
      (j, ⟨.inr (plan.call dto), .ok refundResult⟩) ∈ s.log → row ∈ s.world.app.db.refunds.rows →
      row.paymentIntentId = plan.intent.id → Decimal.ofNumber plan.requestedAmount = some row.amount →
      row.gatewayRefundId = some refundResult.gatewayRefundId → row.status = refundResult.status →
      response = plan.response row → RefundTold P s t response

/-- No client is told of a refund that no provider has answered: in every run of the
API, with any keys and any failures, whatever answer shows a refund, fresh or replayed,
shows one that is stored with the provider's answer, be it SUCCEEDED, PENDING or FAILED,
or is a response of the first table. -/
theorem refunds_told {P : Platform} {meets : ApiService → ApiStep → Prop} {world : KeyWorld ApiBody World} {s : ApiService}
    (reach : Reach (apiSystem P) meets world s) {i : Nat} {t : KeyThread Op Op.Answer ApiBody ApiRequest}
    {reply : HttpReply ApiBody} {response : RefundResponse} (stands : s.threads[i]? = some t)
    (answer : t.prog.result = some (.ok reply)) (shows : reply.body = .refund response) :
    RefundTold P s t response ∨ ∃ key row, world.keys.find key = some row ∧ row.responseBody = some (.refund response) := by
  rcases answer_genuine (api_returning P) reach stands answer with ⟨j, u, inner, genuine, _⟩ | ⟨key, row, _, first, holds, _⟩
  · left
    have returned := genuine.returned
    unfold ApiRequest.returning at returned
    cases endpoint : u.request.endpoint with
    | createSession dto isAvailable randomHex =>
      simp only [endpoint] at returned
    | createRefund id dto =>
      simp only [endpoint] at returned
      obtain ⟨own, same, returned⟩ := returned
      cases shows.symm.trans same
      cases returned with
      | @recorded found plan refundResult newRefund accepted read asked recorded =>
        have chronicle := api_chronicle reach
        obtain ⟨stored, amount, held, made⟩ := recordRefund_shape chronicle (mem_inward (genuine.seen _ recorded))
        refine .told genuine.stands endpoint genuine.keyed (genuine.seen _ read) accepted (genuine.seen _ asked) stored ?_ ?_ ?_ ?_ rfl
        · rw [made]
          rfl
        · rw [made]
          exact held
        all_goals rw [made]; rfl
  · rw [shows] at holds
    exact Or.inr ⟨key, row, first, holds⟩

/-- The repetition of a refund tells of the refund that was recorded. -/
theorem refunds_told_sample : ∃ t, RefundTold plainPlatform
    ((Pool.initial ⟨Table.empty, 0, ⟨twoMerchants, []⟩⟩).run (apiSystem plainPlatform) repeatedRefund) t
      ⟨calmEnv.id, (sampleIntent .captured).id, 100, "USD", .succeeded, some calmEnv.refund.gatewayRefundId, 0, true⟩ := by
  have met : (Pool.initial ⟨Table.empty, 0, ⟨twoMerchants, []⟩⟩).Meets (apiSystem plainPlatform) (fun _ _ => True) repeatedRefund := by
    decide +kernel
  have answer : (((Pool.initial ⟨Table.empty, 0, ⟨twoMerchants, []⟩⟩).run (apiSystem plainPlatform) repeatedRefund).threads[1]?.bind
      fun t => t.prog.result) = some (.ok ⟨200, .refund ⟨calmEnv.id, (sampleIntent .captured).id, 100, "USD", .succeeded,
        some calmEnv.refund.gatewayRefundId, 0, true⟩, true⟩) := by
    decide +kernel
  obtain ⟨t, stands, answer⟩ := Option.bind_eq_some_iff.mp answer
  rcases refunds_told (.run .start met) stands answer rfl with told | ⟨_, _, first, _⟩
  · exact ⟨t, told⟩
  · cases first

end PayBridge
