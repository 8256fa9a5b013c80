import PayBridge.Reservation

namespace PayBridge
open Store Await

section
variable {Op : Type} {Ans : Op → Type} {Body App Env Req : Type}

/-- Whether thread `i` has reserved its key and is about to be failed by the
database, at storing its response or at giving the key up. -/
def losesKey (s : KeyService Op Ans Body App Req) (i : Nat) (env : KeyEnv Env) : Bool :=
  match s.threads[i]?.bind fun t => t.prog.waiting with
  | some (.inl op) => op.rewrites.isSome && (claimed (own i s.log)).isSome && env.fails
  | _ => false

/-- No request that has reserved its key is failed at its last step. -/
def Settles (s : KeyService Op Ans Body App Req) : KeyStep Env Req → Prop
  | .spawn _ => True
  | .advance i env => losesKey s i env = false

instance (s : KeyService Op Ans Body App Req) : (step : KeyStep Env Req) → Decidable (Settles s step)
  | .spawn _ => isTrue trivial
  | .advance i env => inferInstanceAs (Decidable (losesKey s i env = false))

section
variable {idempotencyTtlSeconds : Option String} {call : IdempotentCall Op Ans Body} {spec : HandlerSpec Op Ans Body}
variable {key : String} {inner : History Ans} {seen : KeyHistory Body Ans}

/-- The only creation that a handling request has seen is that of its own key. -/
theorem Handling.created_key (handling : Handling idempotencyTtlSeconds key inner seen) {k : String}
    {expiresAt : Option Timestamp} {answer : Except JsError (IdempotencyKey Body)}
    (member : (⟨.inl (.create k expiresAt), answer⟩ : KeyEntry Body Ans) ∈ seen) : k = key := by
  obtain ⟨cleared⟩ := handling
  rcases List.mem_append.mp member with handled | own
  · obtain ⟨_, _, same, _⟩ := mem_lifted handled
    cases same
  · rcases List.mem_cons.mp own with same | before
    · cases same
      rfl
    · cases cleared <;> simp at before

theorem Handling.same_key (handling : Handling idempotencyTtlSeconds key inner seen) {k : String} {inner' : History Ans}
    (again : Handling idempotencyTtlSeconds k inner' seen) : k = key := by
  obtain ⟨_, _, created⟩ := again.created
  exact handling.created_key created

theorem Handling.handled (handling : Handling idempotencyTtlSeconds key inner seen) (op : Op) (answer : Ans op) :
    Handling idempotencyTtlSeconds key (⟨op, answer⟩ :: inner) (⟨.inr op, answer⟩ :: seen) := by
  obtain ⟨cleared⟩ := handling
  exact .reserved cleared

theorem Handling.claimed (handling : Handling idempotencyTtlSeconds key inner seen) : (claimed seen).isSome := by
  obtain ⟨_⟩ := handling
  rw [claimed_lifted rfl]
  rfl

/-- A request that reserves its key has found it free. -/
theorem InterceptCourse.reserves {expiresAt : Option Timestamp}
    (course : InterceptCourse idempotencyTtlSeconds call spec seen (.inl (.create key expiresAt))) :
    call.key = some key ∧ ∃ started, expiresAt = expiry idempotencyTtlSeconds started ∧ Cleared key started seen := by
  cases course with
  | reserve named cleared => exact ⟨named, _, rfl, cleared⟩

/-- A request that handles goes on handling, or stores its response or gives up its own key. -/
theorem Handling.course {op : KeyOp Body} (handling : Handling idempotencyTtlSeconds key inner seen)
    (course : InterceptCourse idempotencyTtlSeconds call spec seen (.inl op)) : op.rewrites = some key := by
  obtain ⟨expiresAt, row, created⟩ := handling.created
  cases course with
  | reserve _ cleared => cases cleared <;> simp at created
  | keep _ again _ => rw [handling.same_key again]; rfl
  | release _ again _ => rw [handling.same_key again]; rfl
  | _ => simp at created

/-- A request that handles has not been answered. -/
theorem Handling.not_answered {reply : Except JsError (HttpReply Body)} (handling : Handling idempotencyTtlSeconds key inner seen) :
    ¬ Answered idempotencyTtlSeconds call spec seen reply := by
  intro answered
  obtain ⟨expiresAt, row, created⟩ := handling.created
  have unlifted : ∀ handled : History Ans, seen ≠ lifted handled := by
    rintro handled rfl
    obtain ⟨_, _, same, _⟩ := mem_lifted created
    cases same
  cases answered with
  | free _ _ => exact unlifted _ rfl
  | freeFailed _ _ => exact unlifted _ rfl
  | taken _ cleared _ => cases cleared <;> simp at created
  | unreserved _ cleared _ => cases cleared <;> simp at created
  | kept _ _ _ =>
    generalize same : (_ :: _ : KeyHistory Body Ans) = all at handling
    obtain ⟨_⟩ := handling
    cases inner <;> cases same
  | released _ _ _ =>
    generalize same : (_ :: _ : KeyHistory Body Ans) = all at handling
    obtain ⟨_⟩ := handling
    cases inner <;> cases same
  | _ => simp at created

end

/-- A step of a request that is refused its update has been failed, or has found no record. -/
theorem update_refused {perform : Env → (op : Op) → App → Ans op × App} {env : KeyEnv Env} {w : KeyWorld Body App} {key : String}
    {statusCode : Nat} {body : Body} {err : JsError}
    (refused : (performIdempotent perform env (.inl (.update key statusCode body)) w).1 = .error err) :
    env.fails = true ∨ w.keys.find key = none := by
  simp only [performIdempotent, performKey] at refused
  split at refused
  · next fails => exact Or.inl fails
  · split at refused
    · next absent => exact Or.inr absent
    · cases refused

/-- A record without a response after a step has just been reserved, or it stood
there before and the step has not managed to rewrite it. -/
theorem pending_before {perform : Env → (op : Op) → App → Ans op × App} {env : KeyEnv Env} {w : KeyWorld Body App}
    {op : KeyOp Body ⊕ Op} {key : String} {row : IdempotencyKey Body} (i : Nat) (log : List (Nat × KeyEntry Body Ans))
    (found : (performIdempotent perform env op w).2.keys.find key = some row) (pending : row.responseBody = none) :
    (∃ expiresAt made, (⟨op, (performIdempotent perform env op w).1⟩ : KeyEntry Body Ans) = ⟨.inl (.create key expiresAt), .ok made⟩) ∨
      w.keys.find key = some row ∧
        holder key ((i, (⟨op, (performIdempotent perform env op w).1⟩ : KeyEntry Body Ans)) :: log) = holder key log ∧
        ∀ keyOp, op = .inl keyOp → keyOp.rewrites = some key → env.fails = true := by
  have did := keyPerformed perform env op w
  generalize made : performIdempotent perform env op w = result at did found
  obtain ⟨answer, after⟩ := result
  cases did with
  | @created k expiresAt keys free find =>
    by_cases same : key = k
    · subst same
      exact Or.inl ⟨_, _, rfl⟩
    · have stood := find key
      rw [if_neg same] at stood
      exact Or.inr ⟨stood.symm.trans found, holder_other (Ne.symm same) _ _ _ _, by rintro _ ⟨⟩ ⟨⟩⟩
  | @updated k statusCode body old keys spared known find =>
    by_cases same : key = k
    · have now := find key
      rw [if_pos same] at now
      cases now.symm.trans found
      cases pending
    · have stood := find key
      rw [if_neg same] at stood
      refine Or.inr ⟨stood.symm.trans found, rfl, ?_⟩
      rintro _ ⟨⟩ ⟨⟩
      exact absurd rfl same
  | @deleted k old keys spared known find =>
    by_cases same : key = k
    · have now := find key
      rw [if_pos same] at now
      cases now.symm.trans found
    · have stood := find key
      rw [if_neg same] at stood
      refine Or.inr ⟨stood.symm.trans found, rfl, ?_⟩
      rintro _ ⟨⟩ ⟨⟩
      exact absurd rfl same
  | unchanged =>
    refine Or.inr ⟨found, rfl, ?_⟩
    rintro _ ⟨⟩ ⟨⟩
    rcases update_refused (congrArg Prod.fst made) with fails | absent
    · exact fails
    · cases absent.symm.trans found
  | undeleted why =>
    refine Or.inr ⟨found, rfl, ?_⟩
    rintro _ ⟨⟩ ⟨⟩
    rcases why with fails | absent
    · exact fails
    · cases absent.symm.trans found
  | _ => exact Or.inr ⟨found, rfl, by rintro _ ⟨⟩ ⟨⟩⟩

/-- Whose a record without a response is: nobody's, as at the start, or that of
the last request to reserve it, which still handles. -/
def Awaited (idempotencyTtlSeconds : Option String) (world : KeyWorld Body App) (s : KeyService Op Ans Body App Req)
    (key : String) (row : IdempotencyKey Body) : Prop :=
  holder key s.log = none ∧ world.keys.find key = some row ∨
    ∃ i inner, holder key s.log = some i ∧ Handling idempotencyTtlSeconds key inner (own i s.log)

variable {idempotencyTtlSeconds : Option String} {routes : Routes Op Ans Body App Env Req} {world : KeyWorld Body App}
variable {meets : KeyService Op Ans Body App Req → KeyStep Env Req → Prop} {s : KeyService Op Ans Body App Req}

theorem Awaited.advance {i : Nat} {env : KeyEnv Env} {request : Req} {op : KeyOp Body ⊕ Op}
    {next : Both (@KeyOp.Answer Body) Ans op →
      Prog (KeyOp Body ⊕ Op) (Both (@KeyOp.Answer Body) Ans) (Except JsError (HttpReply Body))}
    {key : String} {row : IdempotencyKey Body}
    (before : s.world.keys.find key = some row → Awaited idempotencyTtlSeconds world s key row)
    (settles : Settles s (.advance i env)) (stands : s.threads[i]? = some ⟨request, .await op next⟩)
    (course : InterceptCourse idempotencyTtlSeconds (routes.call request) anyHandler (own i s.log) op)
    (found : (performIdempotent routes.perform env op s.world).2.keys.find key = some row) (pending : row.responseBody = none)
    (w : KeyWorld Body App) (threads : List (KeyThread Op Ans Body Req)) : Awaited idempotencyTtlSeconds world
      ⟨w, threads, (i, ⟨op, (performIdempotent routes.perform env op s.world).1⟩) :: s.log⟩ key row := by
  rcases pending_before i s.log found pending with ⟨expiresAt, made, reserved⟩ | ⟨stood, sameHolder, fails⟩
  · obtain ⟨rfl, answered⟩ := Sigma.mk.inj_iff.mp reserved
    obtain ⟨_, started, rfl, cleared⟩ := course.reserves
    rw [eq_of_heq answered]
    refine Or.inr ⟨i, [], by simp [holder], ?_⟩
    rw [own_cons_self]
    exact .reserved cleared
  · rcases before stood with ⟨nobody, first⟩ | ⟨j, inner, holds, handling⟩
    · exact Or.inl ⟨sameHolder.trans nobody, first⟩
    · by_cases mine : i = j
      · subst mine
        cases op with
        | inr op =>
          have goesOn := handling.handled op (performIdempotent routes.perform env (.inr op) s.world).1
          rw [← own_cons_self] at goesOn
          exact Or.inr ⟨i, _, sameHolder.trans holds, goesOn⟩
        | inl op =>
          -- the last step of the request, which would have rewritten the record
          have rewrites := handling.course course
          have failed := fails op rfl rewrites
          simp [Settles, losesKey, stands, Prog.waiting, rewrites, handling.claimed, failed] at settles
      · refine Or.inr ⟨j, inner, sameHolder.trans holds, ?_⟩
        rw [own_cons_ne mine]
        exact handling

theorem awaited (settles : ∀ s step, meets s step → Settles s step)
    (reach : Reach (idempotent idempotencyTtlSeconds routes) meets world s) {key : String} {row : IdempotencyKey Body}
    (found : s.world.keys.find key = some row) (pending : row.responseBody = none) :
    Awaited idempotencyTtlSeconds world s key row := by
  refine Reach.asked_steps (idempotent_course routes.keep_any) (motive := fun s _ => ∀ key row, s.world.keys.find key = some row →
    row.responseBody = none → Awaited idempotencyTtlSeconds world s key row) ?initial ?spawn ?advance reach key row found pending
  case initial => exact fun key row found _ => Or.inl ⟨rfl, found⟩
  case spawn => exact fun s request _ _ ih _ => ih
  case advance =>
    intro s i env request op next before met stands course ih _ key row found pending
    exact Awaited.advance (fun stood => ih key row stood pending) (settles _ _ met) stands course found pending _ _

/-- No key is left behind: in every run in which no request is failed at its last
step, a record without a response was there from the start, or its request has not
finished yet. It may have been answered, as its response is stored without waiting. -/
theorem keys_released (settles : ∀ s step, meets s step → Settles s step)
    (reach : Reach (idempotent idempotencyTtlSeconds routes) meets world s) {key : String} {row : IdempotencyKey Body}
    (found : s.world.keys.find key = some row) (pending : row.responseBody = none) :
    world.keys.find key = some row ∨
      ∃ i t, s.threads[i]? = some t ∧ (routes.call t.request).key = some key ∧ t.prog.waiting.isSome ∧ holder key s.log = some i := by
  rcases awaited settles reach found pending with ⟨_, first⟩ | ⟨i, inner, holds, handling⟩
  · exact Or.inl first
  · obtain ⟨expiresAt, made, created⟩ := handling.created
    obtain ⟨t, earlier, stands, course, _⟩ := reach.asked_at (idempotent_course routes.keep_any) (mem_own.mp created)
    refine Or.inr ⟨i, t, stands, course.reserves.1, ?_, holds⟩
    have obeys := reach.obeys (idempotent_course routes.keep_any) stands
    cases running : t.prog with
    | await op next => rfl
    | done reply =>
      rw [running] at obeys
      exact absurd obeys handling.not_answered

end

/-- One request under `a` has been answered, one under `b` is in its handler. -/
def oneUnderway : List (KeyStep Unit String) :=
  [.spawn "a", .spawn "b", .advance 0 calmKeyEnv, .advance 0 calmKeyEnv, .advance 0 calmKeyEnv, .advance 0 calmKeyEnv,
    .advance 0 calmKeyEnv, .advance 1 calmKeyEnv, .advance 1 calmKeyEnv, .advance 1 calmKeyEnv]

theorem keys_released_sample : ∃ (i : Nat) (t : KeyThread Unit (fun _ => Unit) Unit String),
    ((Pool.initial ⟨Table.empty, 1, ()⟩).run (idempotent none plainRoutes) oneUnderway).threads[i]? = some t ∧
      (plainRoutes.call t.request).key = some "b" ∧ t.prog.waiting.isSome := by
  have met : (Pool.initial ⟨Table.empty, 1, ()⟩).Meets (idempotent none plainRoutes) (fun s step => Settles s step) oneUnderway := by
    decide +kernel
  have reach := Reach.start.run met
  have found : ((Pool.initial ⟨Table.empty, 1, ()⟩).run (idempotent none plainRoutes) oneUnderway).world.keys.find "b" =
      some ⟨"b", none, none, 86400001⟩ := by decide +kernel
  rcases keys_released (fun _ _ settles => settles) reach found rfl with first | ⟨i, t, stands, named, unanswered, _⟩
  · cases first
  · exact ⟨i, t, stands, named, unanswered⟩

end PayBridge
