import PayBridge.NoticeOrigin
import PayBridge.WebhookSignature

namespace PayBridge
open Store Await

/-- The application, and the requests that the worker of its outbound queue has sent. -/
structure Site where
  app : App
  sent : List HttpRequest

/-- A step of the application, or one attempt of the worker at a job that was
queued at some time: which job and how often is up to the queue. -/
inductive SiteStep
  | app (step : AppStep)
  | attempt (index : Nat) (env : Nat → DeliveryOp → DeliveryEnv)

/-- The requests in what a delivery has seen. -/
def fetched (seen : History DeliveryOp.Answer) : List HttpRequest :=
  seen.filterMap fun
    | ⟨.fetch request, _⟩ => some request
    | ⟨.now, _⟩ => none

section
variable (P : Platform) (orchestrator : OrchestratorService) (hmac : Hmac)

def Site.step (s : Site) : SiteStep → Site
  | .app step => { s with app := s.app.step (PayBridge.app P orchestrator) step }
  | .attempt index env => match s.app.world.queue[index]? with
    | some job => { s with sent := s.sent ++ fetched (Async.play performDelivery env (processWebhookDelivery hmac job) [] ()).log }
    | none => s

def Site.run (s : Site) (events : List SiteStep) : Site := events.foldl (Site.step P orchestrator hmac) s

end

/-- What a merchant's server gets: the job's payload, signed under the job's secret
at the time of the attempt, so that the verifier accepts it for as long as the
tolerance lasts. -/
structure Delivers (hmac : Hmac) (request : HttpRequest) (job : OutboundWebhookJobData) : Prop where
  url : request.url = job.targetUrl
  body : request.body = job.payload.toJson.stringify
  accepted : ∃ timestamp signature, request.headers.lookup "x-paybridge-timestamp" = some (toString timestamp) ∧
    request.headers.lookup "x-paybridge-signature" = some signature ∧ ∀ (toleranceSeconds : ℚ) (dateNow : Timestamp),
      |((dateNow / 1000 - timestamp : ℤ) : ℚ)| ≤ toleranceSeconds →
      verifyPaybridgeSignature hmac request.body signature job.secret toleranceSeconds dateNow = .ok true

theorem delivery_delivers (hmac : Hmac) (job : OutboundWebhookJobData) (timestamp : Int) :
    Delivers hmac (deliveryRequest hmac job timestamp) job := by
  refine ⟨rfl, rfl, timestamp, _, rfl, rfl, fun toleranceSeconds dateNow inside => ?_⟩
  rw [deliveryRequest, verify_generated]
  exact congrArg Except.ok (decide_eq_true ⟨inside, rfl⟩)

/-- An attempt sends one request. -/
theorem fetched_delivery (hmac : Hmac) (job : OutboundWebhookJobData) (env : Nat → DeliveryOp → DeliveryEnv) :
    fetched (Async.play performDelivery env (processWebhookDelivery hmac job) [] ()).log =
      [deliveryRequest hmac job ((env 0 .now).now / 1000)] := by
  rw [play_delivery]
  rfl

/-- What stands behind a job of the queue: it was there at the start, or a request of
the application has sent it, with a reason, about a stored intent and for its merchant. -/
inductive JobBacked (P : Platform) (world : World) (s : App) (job : OutboundWebhookJobData) : Prop
  | before : job ∈ world.queue → JobBacked P world s job
  | sent {i : Nat} {intent : PaymentIntent} : NoticeBacked s i job.dispatch → intent ∈ s.world.db.intents.rows →
      intent.id = job.intentId → SentFor P s i job.dispatch intent → JobBacked P world s job

theorem job_backed {P : Platform} {orchestrator : OrchestratorService} {meets : App → AppStep → Prop} {world : World} {s : App}
    (faithful : orchestrator.Faithful) (reach : Reach (app P orchestrator) meets world s)
    {job : OutboundWebhookJobData} (queued : job ∈ s.world.queue) : JobBacked P world s job := by
  rcases queued_from reach.chronicle queued with first | ⟨about, i, logged⟩
  · exact .before first
  · have backed := sent_backed faithful reach logged
    obtain ⟨intent, stored, named, addressed⟩ := sent_addressed faithful reach logged
    rw [← about] at backed named addressed
    exact .sent backed stored named addressed

/-- No operation takes a job off the list of those that were queued. -/
theorem perform_queue (P : Platform) (env : Env) (op : Op) (w : World) : w.queue <+: (perform P env op w).2.queue := by
  have did := app_performed P env op w
  generalize (perform P env op w).1 = answer at did
  generalize (perform P env op w).2 = after at did
  cases did with
  | created _ _ _ _ _ _ => exact List.prefix_refl _
  | settled did =>
    cases did with
    | enqueued _ => exact List.prefix_append _ _
    | _ => exact List.prefix_refl _

theorem chronicle_queue {P : Platform} {first now : World} {log : List (Nat × (op : Op) × op.Answer)}
    (chronicle : Chronicle (perform P) first now log) : first.queue <+: now.queue := by
  induction chronicle with
  | start => exact List.prefix_refl _
  | @next now log i env op _ ih => exact ih.trans (perform_queue P env op now)

section
variable (P : Platform) (orchestrator : OrchestratorService) (hmac : Hmac)

/-- Everything that was sent delivers a queued job. -/
def Site.Sound (s : Site) : Prop := ∀ request ∈ s.sent, ∃ job ∈ s.app.world.queue, Delivers hmac request job

variable {P orchestrator hmac}

theorem Site.Sound.step {s : Site} (sound : s.Sound hmac) (step : SiteStep) : (s.step P orchestrator hmac step).Sound hmac := by
  cases step with
  | app step =>
    intro request sent
    obtain ⟨job, queued, delivers⟩ := sound request sent
    obtain ⟨later, _, chronicle⟩ := Pool.run_chronicle (PayBridge.app P orchestrator) s.app [step]
    exact ⟨job, (chronicle_queue chronicle).subset queued, delivers⟩
  | attempt index env =>
    simp only [Site.step]
    split
    · next job found =>
      intro request sent
      rcases List.mem_append.mp sent with old | new
      · exact sound request old
      · rw [fetched_delivery, List.mem_singleton] at new
        rw [new]
        exact ⟨job, List.mem_of_getElem? found, delivery_delivers hmac job _⟩
    · exact sound

/-- The application of a site is one that the application's own steps reach, and what
the worker has sent are queued jobs. -/
theorem Site.run_reached {meets : App → AppStep → Prop} {world : World} {s : Site} (sound : s.Sound hmac)
    (reach : Reach (PayBridge.app P orchestrator) meets world s.app) {events : List SiteStep}
    (met : ∀ step, .app step ∈ events → ∀ now, meets now step) :
    (s.run P orchestrator hmac events).Sound hmac ∧
      Reach (PayBridge.app P orchestrator) meets world (s.run P orchestrator hmac events).app := by
  induction events generalizing s with
  | nil => exact ⟨sound, reach⟩
  | cons event rest ih =>
    refine ih (sound.step event) ?_ fun step inside => met step (List.mem_cons_of_mem event inside)
    cases event with
    | app step => exact .next reach (met step List.mem_cons_self s.app)
    | attempt index env =>
      simp only [Site.step]
      split <;> exact reach

theorem Site.initial_sound (world : World) : Site.Sound hmac ⟨.initial world, []⟩ := fun _ none =>
  absurd none List.not_mem_nil

/-- Whatever PayBridge sends to a merchant's server, in every run of the application
and its worker, with any failures and any repeated attempts: the request delivers a
queued job, correctly signed, and that job was sent by a request with a reason, about
a stored intent and for its merchant, or was queued before. -/
theorem posts_backed (faithful : orchestrator.Faithful) (world : World) (events : List SiteStep) :
    ∀ request ∈ (Site.run P orchestrator hmac ⟨.initial world, []⟩ events).sent,
      ∃ job ∈ (Site.run P orchestrator hmac ⟨.initial world, []⟩ events).app.world.queue, Delivers hmac request job ∧
        JobBacked P world (Site.run P orchestrator hmac ⟨.initial world, []⟩ events).app job := by
  have first : Reach (PayBridge.app P orchestrator) (fun _ _ => True) world (.initial world) := .start
  obtain ⟨sound, reach⟩ := Site.run_reached (Site.initial_sound world) first fun step (_ : .app step ∈ events) _ => trivial
  intro request sent
  obtain ⟨job, queued, delivers⟩ := sound request sent
  exact ⟨job, queued, delivers, job_backed faithful reach queued⟩

end

/-- After the sample run the worker has tried the first job twice and the second once. -/
def sampleAttempts : List SiteStep :=
  sampleSteps.map .app ++ [.attempt 0 fun _ _ => ⟨100001000, .error .aborted⟩, .attempt 0 fun _ _ => ⟨100013000, .ok ⟨true, 200, "OK"⟩⟩,
    .attempt 1 fun _ _ => ⟨100014000, .ok ⟨true, 200, "OK"⟩⟩]

theorem posts_backed_sample :
    let site := Site.run plainPlatform sampleOrchestrator sampleHmac ⟨.initial openWorld, []⟩ sampleAttempts
    site.sent.length = 3 ∧ ∀ request ∈ site.sent, ∃ job ∈ site.app.world.queue, Delivers sampleHmac request job ∧
      JobBacked plainPlatform openWorld site.app job :=
  ⟨by decide +kernel, posts_backed sampleOrchestrator_faithful openWorld sampleAttempts⟩

end PayBridge
