import PayBridge.Await.History
import PayBridge.Idempotency

namespace PayBridge
open Store Await

/-- Routes behind the interceptor: what their handlers run on, and how each
request calls its handler. -/
structure Routes (Op : Type) (Ans : Op → Type) (Body App Env Req : Type) where
  perform : Env → (op : Op) → App → Ans op × App
  call : Req → IdempotentCall Op Ans Body

/-- Any number of such requests at once over one key table. -/
abbrev KeyService (Op : Type) (Ans : Op → Type) (Body App Req : Type) :=
  Pool (KeyOp Body ⊕ Op) (Both (@KeyOp.Answer Body) Ans) (KeyWorld Body App) Req (Except JsError (HttpReply Body))

abbrev KeyThread (Op : Type) (Ans : Op → Type) (Body Req : Type) :=
  Thread (KeyOp Body ⊕ Op) (Both (@KeyOp.Answer Body) Ans) Req (Except JsError (HttpReply Body))

abbrev KeyStep (Env Req : Type) := Event Req (KeyEnv Env)

section
variable {Op : Type} {Ans : Op → Type} {Body App Env Req : Type}

def idempotent (idempotencyTtlSeconds : Option String) (routes : Routes Op Ans Body App Env Req) :
    System (KeyOp Body ⊕ Op) (Both (@KeyOp.Answer Body) Ans) (KeyWorld Body App) (KeyEnv Env) Req
      (Except JsError (HttpReply Body)) where
  perform := performIdempotent routes.perform
  start request := ExceptT.run (intercept idempotencyTtlSeconds (routes.call request))

/-- What is known of the handlers of all requests. -/
def Routes.Keep (routes : Routes Op Ans Body App Env Req) (spec : Req → HandlerSpec Op Ans Body) : Prop :=
  ∀ request, Async.Obeys (spec request).asks (spec request).returns (spec request).throws (routes.call request).handle []

/-- A specification every handler meets. -/
def anyHandler : HandlerSpec Op Ans Body := ⟨fun _ _ => True, fun _ _ => True, fun _ _ => True⟩

theorem Routes.keep_any (routes : Routes Op Ans Body App Env Req) : routes.Keep fun _ => anyHandler := by
  intro request
  refine Prog.Obeys.mono (fun _ _ _ => trivial) ?_ (Prog.obeys_trivial (ExceptT.run (routes.call request).handle) [])
  rintro seen (err | body) _ <;> trivial

variable {idempotencyTtlSeconds : Option String} {routes : Routes Op Ans Body App Env Req}
variable {spec : Req → HandlerSpec Op Ans Body}
variable {meets : KeyService Op Ans Body App Req → KeyStep Env Req → Prop} {world : KeyWorld Body App}

theorem idempotent_course (keep : routes.Keep spec) (request : Req) :
    ((idempotent idempotencyTtlSeconds routes).start request).Obeys
      (InterceptCourse idempotencyTtlSeconds (routes.call request) (spec request))
      (Answered idempotencyTtlSeconds (routes.call request) (spec request)) [] := by
  refine Prog.Obeys.mono (fun _ _ asks => asks) ?_ (intercept_course idempotencyTtlSeconds (keep request))
  rintro seen (err | reply) ends <;> exact ends

/-- The induction over a run: one request more, or one step of a request on its course. -/
theorem key_steps (keep : routes.Keep spec)
    {motive : (s : KeyService Op Ans Body App Req) → Reach (idempotent idempotencyTtlSeconds routes) meets world s → Prop}
    (initial : motive _ .start)
    (spawn : ∀ s request (before : Reach (idempotent idempotencyTtlSeconds routes) meets world s),
      meets s (.spawn request) → motive s before →
      ∀ after, motive { s with threads := s.threads ++ [⟨request, (idempotent idempotencyTtlSeconds routes).start request⟩] } after)
    (advance : ∀ s i env request op next answer w (before : Reach (idempotent idempotencyTtlSeconds routes) meets world s),
      meets s (.advance i env) → s.threads[i]? = some ⟨request, .await op next⟩ →
      InterceptCourse idempotencyTtlSeconds (routes.call request) (spec request) (own i s.log) op →
      KeyPerformed routes.perform env (s.world.later env.elapsed) op answer w → motive s before →
      ∀ after, motive ⟨w, s.threads.set i ⟨request, next answer⟩, (i, ⟨op, answer⟩) :: s.log⟩ after)
    {s : KeyService Op Ans Body App Req} (reach : Reach (idempotent idempotencyTtlSeconds routes) meets world s) :
    motive s reach := by
  refine Await.Reach.asked_steps (idempotent_course keep) initial spawn ?_ reach
  intro s i env request op next before met stands course ih after
  exact advance s i env request op next _ _ before met stands course (keyPerformed routes.perform env op s.world) ih after

end

end PayBridge
