import Mathlib.Data.Set.Function
import PayBridge.WebhookDelivery

namespace PayBridge
open Await Codec

/-- `crypto.timingSafeEqual`. -/
def timingSafeEqual (a b : List Nat) : Except JsError Bool :=
  if a.length ≠ b.length then .error ⟨.rangeError, "Input buffers must have the same byte length"⟩
  else .ok (a = b)

/-- The verifier the README gives to merchants, at a reading of their clock. -/
def verifyPaybridgeSignature (hmac : Hmac) (rawPayload signatureHeader secret : String) (toleranceSeconds : ℚ)
    (dateNow : Timestamp) : Except JsError Bool :=
  let parts := signatureHeader.toList.splitOn ','
  match parts.find? (['t', '='].isPrefixOf ·), parts.find? (['v', '1', '='].isPrefixOf ·) with
  | some timestampPart, some signaturePart =>
    let timestamp := parseInt (String.ofList (timestampPart.drop 2))
    let signature := signaturePart.drop 3
    let now := dateNow / 1000
    if timestamp.any fun t => toleranceSeconds < |((now - t : ℤ) : ℚ)| then .ok false
    else
      let expectedPayload := (timestamp.map toString).getD "NaN" ++ "." ++ rawPayload
      let expectedSignature := hmac secret expectedPayload
      timingSafeEqual (hexBytes signature) (hexBytes expectedSignature.chars)
  | _, _ => .ok false

theorem timestamp_plain {timestamp : Int} {c : Char} (special : c = ',' ∨ c = '.') : c ∉ (toString timestamp).toList := by
  intro member
  rcases toString_chars member with digit | sign
  · rcases special with rfl | rfl <;> cases digit
  · rcases special with rfl | rfl <;> cases sign

theorem hmac_plain {digest : HexText 32} : ',' ∉ digest.chars := by
  intro member
  have digit := digest.lower ',' member
  exact absurd digit (by decide)

/-- The parts of an emitted header. -/
theorem signature_parts (hmac : Hmac) (body secret : String) (timestamp : Int) :
    (generateSignature hmac body secret timestamp).toList.splitOn ',' =
      ['t' :: '=' :: (toString timestamp).toList,
        'v' :: '1' :: '=' :: (hmac secret (signaturePayload timestamp body)).chars] := by
  have chars : (generateSignature hmac body secret timestamp).toList = ('t' :: '=' :: (toString timestamp).toList) ++
      ',' :: 'v' :: '1' :: '=' :: (hmac secret (signaturePayload timestamp body)).chars := by
    simp [generateSignature]
  have first : ',' ∉ 't' :: '=' :: (toString timestamp).toList := by
    simp only [List.mem_cons, not_or]
    exact ⟨by decide, by decide, timestamp_plain (Or.inl rfl)⟩
  have second : ',' ∉ 'v' :: '1' :: '=' :: (hmac secret (signaturePayload timestamp body)).chars := by
    simp only [List.mem_cons, not_or]
    exact ⟨by decide, by decide, by decide, hmac_plain⟩
  rw [chars, List.splitOn_append_cons_self, List.splitOn_eq_singleton first, List.splitOn_eq_singleton second]
  rfl

/-- What the verifier says of an emitted header. -/
theorem verify_generated (hmac : Hmac) (body secret : String) (timestamp : Int) (rawPayload secret' : String)
    (toleranceSeconds : ℚ) (dateNow : Timestamp) :
    verifyPaybridgeSignature hmac rawPayload (generateSignature hmac body secret timestamp) secret' toleranceSeconds dateNow =
      .ok (decide (|((dateNow / 1000 - timestamp : ℤ) : ℚ)| ≤ toleranceSeconds ∧
        hmac secret (signaturePayload timestamp body) = hmac secret' (signaturePayload timestamp rawPayload))) := by
  have timestampPart : ∀ digits digest : List Char, ['t' :: '=' :: digits, 'v' :: '1' :: '=' :: digest].find?
      (['t', '='].isPrefixOf ·) = some ('t' :: '=' :: digits) := fun _ _ => rfl
  have signaturePart : ∀ digits digest : List Char, ['t' :: '=' :: digits, 'v' :: '1' :: '=' :: digest].find?
      (['v', '1', '='].isPrefixOf ·) = some ('v' :: '1' :: '=' :: digest) := fun _ _ => rfl
  have read : parseInt (String.ofList (toString timestamp).toList) = some timestamp := by
    rw [String.ofList_toList, parseInt_toString]
  have compared : ∀ a b : HexText 32, timingSafeEqual (hexBytes a.chars) (hexBytes b.chars) = .ok (decide (a = b)) := by
    intro a b
    have lengths : a.toBytes.length = b.toBytes.length := by simp
    exact (if_neg (not_not.mpr lengths)).trans (congrArg Except.ok (decide_eq_decide.mpr HexText.toBytes_inj))
  simp only [verifyPaybridgeSignature, signature_parts, timestampPart, signaturePart, List.drop_succ_cons, List.drop_zero,
    read, Option.any_some, Option.map_some, Option.getD_some, compared, decide_eq_true_eq]
  split
  · next outside => rw [decide_eq_false fun accepted => absurd accepted.1 (not_le.mpr outside)]
  · next inside =>
    have bound := not_lt.mp inside
    exact congrArg Except.ok (decide_eq_decide.mpr ⟨fun same => ⟨bound, same⟩, fun accepted => accepted.2⟩)

/-- The signed text determines both of its parts. -/
theorem signaturePayload_inj {timestamp timestamp' : Int} {body body' : String}
    (same : signaturePayload timestamp body = signaturePayload timestamp' body') : timestamp = timestamp' ∧ body = body' := by
  have chars : (toString timestamp).toList ++ '.' :: body.toList = (toString timestamp').toList ++ '.' :: body'.toList := by
    have dot : ".".toList = ['.'] := rfl
    have lists := congrArg String.toList same
    simpa only [signaturePayload, String.toList_append, List.append_assoc, dot, List.singleton_append] using lists
  have cut : ∀ n (rest : List Char), ((toString (n : Int)).toList ++ '.' :: rest).takeWhile (· ≠ '.') = (toString n).toList := by
    intro n rest
    rw [List.takeWhile_append_of_pos fun c member => ?_, List.takeWhile_cons_of_neg (by simp), List.append_nil]
    have other : c ≠ '.' := fun dot => timestamp_plain (Or.inr rfl) (dot ▸ member)
    simpa using other
  have digits := congrArg (List.takeWhile (· ≠ '.')) chars
  rw [cut, cut] at digits
  have texts : toString timestamp = toString timestamp' := String.toList_injective digits
  have numbers := congrArg parseInt texts
  rw [parseInt_toString, parseInt_toString, Option.some.injEq] at numbers
  rw [digits] at chars
  have bodies := List.append_cancel_left chars
  exact ⟨numbers, String.toList_injective (List.cons.inj bodies).2⟩

/-- Every request of a delivery is accepted by the verifier while the clock of the
receiver is within the tolerance; the signed text determines its parts; and
where the HMAC has no collision, a header is accepted only with the body and the
secret it was made for. -/
theorem deliveries_verify (hmac : Hmac) :
    (∀ (job : OutboundWebhookJobData) (env : Nat → DeliveryOp → DeliveryEnv), ∃ request answer signature,
      (Async.play performDelivery env (processWebhookDelivery hmac job) [] ()).log =
        [⟨.fetch request, answer⟩, ⟨.now, (env 0 .now).now⟩] ∧
      request.body = job.payload.toJson.stringify ∧ request.headers.lookup "x-paybridge-signature" = some signature ∧
      ∀ (toleranceSeconds : ℚ) (dateNow : Timestamp),
        |((dateNow / 1000 - (env 0 .now).now / 1000 : ℤ) : ℚ)| ≤ toleranceSeconds →
        verifyPaybridgeSignature hmac request.body signature job.secret toleranceSeconds dateNow = .ok true) ∧
    (∀ timestamp timestamp' body body', signaturePayload timestamp body = signaturePayload timestamp' body' →
      timestamp = timestamp' ∧ body = body') ∧
    ∀ (inputs : Set (String × String)), Set.InjOn (Function.uncurry hmac) inputs →
      ∀ timestamp body secret rawPayload secret' toleranceSeconds dateNow, (secret, signaturePayload timestamp body) ∈ inputs →
        (secret', signaturePayload timestamp rawPayload) ∈ inputs →
        verifyPaybridgeSignature hmac rawPayload (generateSignature hmac body secret timestamp) secret' toleranceSeconds
          dateNow = .ok true → rawPayload = body ∧ secret' = secret := by
  refine ⟨fun job env => ?_, fun _ _ _ _ => signaturePayload_inj, ?_⟩
  · refine ⟨_, _, _, play_delivery hmac job env, rfl, rfl, fun toleranceSeconds dateNow inside => ?_⟩
    rw [deliveryRequest, verify_generated]
    exact congrArg Except.ok (decide_eq_true ⟨inside, rfl⟩)
  · intro inputs injective timestamp body secret rawPayload secret' toleranceSeconds dateNow signed checked accepted
    rw [verify_generated, Except.ok.injEq, decide_eq_true_eq] at accepted
    obtain ⟨secrets, texts⟩ := Prod.ext_iff.mp (injective signed checked accepted.2)
    exact ⟨(signaturePayload_inj texts).2.symm, secrets.symm⟩

def sampleJob : OutboundWebhookJobData where
  intentId := ⟨"2b9d4f60-8e1c-4f7a-b0d3-5a6c7e8f9012"⟩
  targetUrl := "https://shop.example.com/hook"
  secret := "whsec_sample"
  payload := ⟨"evt_1", .paymentSucceeded, 1700000000000, ⟨⟨"2b9d4f60-8e1c-4f7a-b0d3-5a6c7e8f9012"⟩, "ORD-1", 100, "USD",
    .captured, .stripe, "customer@example.com", some "pi_1", none⟩⟩

/-- The HMACs of the sample body and of an empty object, signed at one time. -/
def sampleHmac : Hmac := fun _ text =>
  if text = signaturePayload 1700000000 "\x7b\x7d" then
    ⟨"e859383343ea76dd5ac4a783679f37534388372a1c4eea88c1d9ab7fa4e1cacd".toList, lower_of_all (by decide +kernel), by decide +kernel⟩
  else ⟨"9e1909ac176bf8cb4760cacbd9f0f12649cb4fd9c9b9fff9f497248873a5e0d0".toList, lower_of_all (by decide +kernel), by decide +kernel⟩

/-- A minute later the sample delivery is accepted, and its header not for another body. -/
theorem deliveries_verify_sample :
    (∃ request answer signature,
      (Async.play performDelivery (fun _ _ => ⟨1700000000123, .ok ⟨true, 200, "OK"⟩⟩)
        (processWebhookDelivery sampleHmac sampleJob) [] ()).log = [⟨.fetch request, answer⟩, ⟨.now, 1700000000123⟩] ∧
      request.headers.lookup "x-paybridge-signature" = some signature ∧
      verifyPaybridgeSignature sampleHmac request.body signature sampleJob.secret 300 1700000060000 = .ok true) ∧
    verifyPaybridgeSignature sampleHmac "\x7b\x7d"
      (generateSignature sampleHmac sampleJob.payload.toJson.stringify sampleJob.secret 1700000000) sampleJob.secret 300
        1700000060000 ≠ .ok true := by
  obtain ⟨sends, _, only⟩ := deliveries_verify sampleHmac
  refine ⟨?_, fun accepted => ?_⟩
  · obtain ⟨request, answer, signature, log, _, header, accepts⟩ :=
      sends sampleJob fun _ _ => ⟨1700000000123, .ok ⟨true, 200, "OK"⟩⟩
    exact ⟨request, answer, signature, log, header, accepts 300 1700000060000 (by norm_num)⟩
  · have apart : sampleHmac sampleJob.secret (signaturePayload 1700000000 "\x7b\x7d") ≠
        sampleHmac sampleJob.secret (signaturePayload 1700000000 sampleJob.payload.toJson.stringify) := by decide +kernel
    have injective : Set.InjOn (Function.uncurry sampleHmac)
        {(sampleJob.secret, signaturePayload 1700000000 sampleJob.payload.toJson.stringify),
          (sampleJob.secret, signaturePayload 1700000000 "\x7b\x7d")} := by
      rintro a (rfl | rfl) b (rfl | rfl) same
      · rfl
      · exact absurd same.symm apart
      · exact absurd same apart
      · rfl
    obtain ⟨body, _⟩ := only _ injective 1700000000 sampleJob.payload.toJson.stringify sampleJob.secret "\x7b\x7d"
      sampleJob.secret 300 1700000060000 (Or.inl rfl) (Or.inr rfl) accepted
    exact absurd body (by decide +kernel)

end PayBridge
