import PayBridge.Api

namespace PayBridge
open Store Await

/-- A refund that the provider has accepted. -/
def providerRefunded : KeyEntry ApiBody Op.Answer → Bool
  | ⟨.inr (.refund _ _ _ _ _), .ok _⟩ => true
  | _ => false

def providerRefunds (s : ApiService) : Nat := s.log.countP fun entry => providerRefunded entry.2

/-- Whether no request is in progress. -/
def idle (s : ApiService) : Bool := s.threads.all fun t => t.prog.waiting.isNone

/-- The record under a key has not expired. -/
def InForce (key : String) (w : KeyWorld ApiBody World) : Prop :=
  match w.keys.find key with
  | none => True
  | some row => w.clock ≤ row.expiresAt

instance (key : String) (w : KeyWorld ApiBody World) : Decidable (InForce key w) := by
  unfold InForce
  split <;> infer_instance

section
variable (P : Platform) (id merchantId : Uuid) (key : String) (asked : CreateRefundDto → Prop)

/-- A refund request of one merchant for one intent under one key. -/
structure RefundUnder (request : ApiRequest) : Prop where
  merchant : request.merchantId = merchantId
  keyed : ((api P).call request).key = some key
  refund : ∃ text dto, request.endpoint = .createRefund text dto ∧ P.readUuid text = some id ∧ asked dto

/-- Such requests come one after another, before their key expires. -/
def OneAfterAnother (s : ApiService) : ApiStep → Prop
  | .spawn request => idle s = true ∧ RefundUnder P id merchantId key asked request
  | .advance i env => InForce key (s.step (apiSystem P) (.advance i env)).world

/-- The intent as it stands passes the checks of none of the requests. -/
def Refuses (db : Database) : Prop :=
  ∀ text dto plan, asked dto → refundPlan P text dto merchantId (db.shown id) ≠ .ok plan

/-- Whether thread `i` is about to give its key up although the provider has
accepted its refund. -/
def releasing (s : ApiService) (i : Nat) (env : KeyEnv Env) : Bool :=
  match s.threads[i]?.bind fun t => t.prog.waiting with
  | some (.inl (.delete _)) => !env.fails && (own i s.log).any providerRefunded
  | _ => false

/-- A key is given up after a successful refund only when no request can pass
the checks any more. -/
def ReleasesSpent (s : ApiService) : ApiStep → Prop
  | .spawn _ => True
  | .advance i env => releasing s i env = true → Refuses P id merchantId asked s.world.app.db

/-- What a request in progress knows of the record under its key. -/
structure Underway (seen : KeyHistory ApiBody Op.Answer) (w : KeyWorld ApiBody World) : Prop where
  held : ∀ expiresAt row, ⟨.inl (.create key expiresAt), .ok row⟩ ∈ seen → ∃ current, w.keys.find key = some current
  looked : ∀ row rest, seen = ⟨.inl (.findUnique key), .ok (some row)⟩ :: rest → w.keys.find key = some row
  live : ∀ row now rest, seen = ⟨.inl .now, now⟩ :: ⟨.inl (.findUnique key), .ok (some row)⟩ :: rest → ¬ row.expiresAt < now

/-- The key is taken, and by nobody but the request that was refunded. -/
def Guarded (seen : KeyHistory ApiBody Op.Answer) (w : KeyWorld ApiBody World) : Prop :=
  (∃ row, w.keys.find key = some row) ∧
    ∀ expiresAt row, ⟨.inl (.create key expiresAt), .ok row⟩ ∈ seen → seen.any providerRefunded = true

/-- The intent refuses every request, and that is what the request in progress has read. -/
def Spent (seen : KeyHistory ApiBody Op.Answer) (w : KeyWorld ApiBody World) : Prop :=
  Refuses P id merchantId asked w.app.db ∧
    ∀ text found, ⟨.inr (.query (.findIntent text)), .ok found⟩ ∈ seen → found = w.app.db.shown id

/-- Whether a step has reserved the key or read the intent. -/
def decisive : KeyEntry ApiBody Op.Answer → Bool
  | ⟨.inl (.create _ _), .ok _⟩ => true
  | ⟨.inr (.query (.findIntent _)), .ok _⟩ => true
  | _ => false

/-- Whether a step has found a record or read the clock. -/
def looksUp : KeyEntry ApiBody Op.Answer → Bool
  | ⟨.inl (.findUnique _), .ok (some _)⟩ => true
  | ⟨.inl .now, _⟩ => true
  | _ => false

/-- How far the requests have come after a number of accepted refunds. -/
def Phase (refunds : Nat) (seen : KeyHistory ApiBody Op.Answer) (w : KeyWorld ApiBody World) : Prop :=
  refunds = 0 ∨ refunds = 1 ∧ (Guarded key seen w ∨ Spent P id merchantId asked seen w)

end

section
variable {P : Platform} {id merchantId : Uuid} {key : String} {asked : CreateRefundDto → Prop}
variable {seen : KeyHistory ApiBody Op.Answer} {w w' : KeyWorld ApiBody World} {n : Nat}

theorem InForce.row {row : IdempotencyKey ApiBody} (force : InForce key w) (found : w.keys.find key = some row) :
    w.clock ≤ row.expiresAt := by
  unfold InForce at force
  rw [found] at force
  exact force

theorem Phase.nil (phase : Phase P id merchantId key asked n seen w) : Phase P id merchantId key asked n [] w := by
  rcases phase with zero | ⟨one, guarded | spent⟩
  · exact Or.inl zero
  · refine Or.inr ⟨one, Or.inl ⟨guarded.1, ?_⟩⟩
    intro expiresAt row member
    cases member
  · refine Or.inr ⟨one, Or.inr ⟨spent.1, ?_⟩⟩
    intro text found member
    cases member

theorem Guarded.cons {entry : KeyEntry ApiBody Op.Answer} (guarded : Guarded key seen w)
    (stays : (∃ row, w.keys.find key = some row) → ∃ row, w'.keys.find key = some row)
    (creates : ∀ expiresAt row, entry ≠ ⟨.inl (.create key expiresAt), .ok row⟩) : Guarded key (entry :: seen) w' := by
  refine ⟨stays guarded.1, ?_⟩
  intro expiresAt row member
  rcases List.mem_cons.mp member with new | old
  · exact absurd new.symm (creates expiresAt row)
  · rw [List.any_cons, guarded.2 expiresAt row old, Bool.or_true]

/-- A step that touches neither the record nor the database, and reads no intent. -/
theorem Phase.quiet {entry : KeyEntry ApiBody Op.Answer} (phase : Phase P id merchantId key asked n seen w)
    (stays : (∃ row, w.keys.find key = some row) → ∃ row, w'.keys.find key = some row) (db : w'.app.db = w.app.db)
    (plain : decisive entry = false) : Phase P id merchantId key asked n (entry :: seen) w' := by
  rcases phase with zero | ⟨one, guarded | spent⟩
  · exact Or.inl zero
  · refine Or.inr ⟨one, Or.inl (guarded.cons stays ?_)⟩
    intro expiresAt row same
    rw [same] at plain
    cases plain
  · refine Or.inr ⟨one, Or.inr ⟨by rw [db]; exact spent.1, ?_⟩⟩
    intro text found member
    rw [db]
    rcases List.mem_cons.mp member with new | old
    · rw [← new] at plain
      cases plain
    · exact spent.2 text found old

/-- What a request knows on its way to its reservation. -/
theorem Underway.unreserved (none : ∀ expiresAt row, ⟨.inl (.create key expiresAt), .ok row⟩ ∉ seen)
    (looked : ∀ row rest, seen = ⟨.inl (.findUnique key), .ok (some row)⟩ :: rest → w.keys.find key = some row)
    (live : ∀ row now rest, seen = ⟨.inl .now, now⟩ :: ⟨.inl (.findUnique key), .ok (some row)⟩ :: rest → ¬ row.expiresAt < now) :
    Underway key seen w :=
  ⟨fun expiresAt row member => absurd member (none expiresAt row), looked, live⟩

theorem Underway.started (now : Timestamp) : Underway key [⟨.inl .now, now⟩] w := by
  refine .unreserved (by simp) ?_ ?_
  · intro row rest same
    cases same
  · intro row now rest same
    cases same

/-- The record that the look-up finds is the one that is stored. -/
theorem Underway.found (started : Timestamp) :
    Underway key [⟨.inl (.findUnique key), .ok (w.keys.find key)⟩, ⟨.inl .now, started⟩] w := by
  refine .unreserved (by simp) ?_ ?_
  · intro row rest same
    simp only [List.cons.injEq, Sigma.mk.injEq, true_and] at same
    exact Except.ok.inj (eq_of_heq same.1)
  · intro row now rest same
    cases same

/-- A record that is found and in force has not expired when the clock is read. -/
theorem Underway.checked {row : IdempotencyKey ApiBody} {started now : Timestamp} (alive : now ≤ row.expiresAt) :
    Underway key [⟨.inl .now, now⟩, ⟨.inl (.findUnique key), .ok (some row)⟩, ⟨.inl .now, started⟩] w := by
  refine .unreserved (by simp) ?_ ?_
  · intro row rest same
    cases same
  · intro row now rest same
    cases same
    exact not_lt.mpr alive

/-- Past the look-up, a request has to know only that its reservation is kept. -/
theorem Underway.onward {entry : KeyEntry ApiBody Op.Answer} (plain : looksUp entry = false)
    (held : ∀ expiresAt row, ⟨.inl (.create key expiresAt), .ok row⟩ ∈ entry :: seen → ∃ current, w'.keys.find key = some current) :
    Underway key (entry :: seen) w' := by
  refine ⟨held, ?_, ?_⟩
  · intro row rest same
    rw [(List.cons.inj same).1] at plain
    cases plain
  · intro row now rest same
    rw [(List.cons.inj same).1] at plain
    cases plain

/-- A request that has its reservation keeps a record under its key. -/
theorem Underway.handled {op : Op} {answer : op.Answer} (underway : Underway key seen w)
    (stays : (∃ row, w.keys.find key = some row) → ∃ row, w'.keys.find key = some row) : Underway key (⟨.inr op, answer⟩ :: seen) w' := by
  refine .onward rfl ?_
  intro expiresAt row member
  rcases List.mem_cons.mp member with new | old
  · cases new
  · exact stays (underway.held expiresAt row old)

/-- A request cleared to reserve its key has not been to a provider. -/
theorem Cleared.not_refunded {started : Timestamp} {before : KeyHistory ApiBody Op.Answer}
    (cleared : Cleared key started before) : before.any providerRefunded = false := by
  cases cleared <;> rfl

/-- A step of the handler. The provider accepts a refund once: after that the
request has been to the provider, and a later one is refused. -/
theorem Phase.handled {idempotencyTtlSeconds : Option String} {text : String} {dto : CreateRefundDto}
    {inner : History Op.Answer} {op : Op} {env : Env} {answer : op.Answer} (named : P.readUuid text = some id)
    (asks : asked dto) (handling : Handling idempotencyTtlSeconds key inner seen)
    (course : RefundCourse P text dto merchantId inner op) (did : Performed P env w.app op answer w'.app)
    (stays : (∃ row, w.keys.find key = some row) → ∃ row, w'.keys.find key = some row) (underway : Underway key seen w)
    (phase : Phase P id merchantId key asked n seen w) :
    Phase P id merchantId key asked (n + if providerRefunded ⟨.inr op, answer⟩ then 1 else 0) (⟨.inr op, answer⟩ :: seen) w' := by
  obtain ⟨expiresAt, row, created⟩ := handling.created
  have guardedAfter : Guarded key seen w → Guarded key (⟨.inr op, answer⟩ :: seen) w' := by
    intro guarded
    refine guarded.cons stays ?_
    intro expiresAt row same
    cases same
  obtain ⟨cleared⟩ := handling
  generalize appAfter : w'.app = app at did
  cases course with
  | read =>
    cases did with
    | refused _ =>
      exact phase.quiet stays (by rw [appAfter]) rfl
    | readIntent read =>
      cases named.symm.trans read
      rcases phase with zero | ⟨one, guarded | spent⟩
      · exact Or.inl zero
      · exact Or.inr ⟨one, Or.inl (guardedAfter guarded)⟩
      · refine Or.inr ⟨one, Or.inr ⟨by rw [appAfter]; exact spent.1, ?_⟩⟩
        intro text' found member
        rw [appAfter]
        rcases List.mem_cons.mp member with new | old
        · cases new
          rfl
        · exact spent.2 text' found old
  | @ask found plan accepted =>
    cases did with
    | paidBack answered =>
      cases answer with
      | error err =>
        exact phase.quiet stays (by rw [appAfter]) rfl
      | ok refundResult =>
        rcases phase with zero | ⟨one, guarded | spent⟩
        · refine Or.inr ⟨by rw [zero]; rfl, Or.inl ⟨stays (underway.held _ _ created), ?_⟩⟩
          intro _ _ _
          rfl
        · have refunded := guarded.2 _ _ created
          simp [providerRefunded, cleared.not_refunded] at refunded
        · have shown := spent.2 text found (by simp)
          rw [shown] at accepted
          exact absurd accepted (spent.1 text dto plan asks)
  | @record found plan refundResult accepted =>
    rcases phase with zero | ⟨one, guarded | spent⟩
    · exact Or.inl zero
    · exact Or.inr ⟨one, Or.inl (guardedAfter guarded)⟩
    · have shown := spent.2 text found (by simp)
      rw [shown] at accepted
      exact absurd accepted (spent.1 text dto plan asks)
  | report _ shape =>
    rcases shape with ⟨merchant, rfl⟩ | ⟨url, secret, rfl⟩
    · have db : w'.app.db = w.app.db := by
        rw [appAfter]
        cases did <;> rfl
      exact phase.quiet stays db rfl
    · have db : w'.app.db = w.app.db := by
        rw [appAfter]
        cases did <;> rfl
      exact phase.quiet stays db rfl

/-- A request not yet past its reservation has reserved nothing. -/
theorem Cleared.no_create {started : Timestamp} {before : KeyHistory ApiBody Op.Answer} {k : String}
    {expiresAt : Option Timestamp} {row : IdempotencyKey ApiBody} (cleared : Cleared key started before) :
    (⟨.inl (.create k expiresAt), .ok row⟩ : KeyEntry ApiBody Op.Answer) ∉ before := by
  cases cleared <;> simp

/-- A reservation goes through only while the key is free; refused, it leaves
everything as it was. -/
theorem Phase.reserved {started : Timestamp} {expiresAt : Option Timestamp} {env : KeyEnv Env}
    {answer : Except JsError (IdempotencyKey ApiBody)} (cleared : Cleared key started seen)
    (did : KeyPerformed (api P).perform env (w.later env.elapsed) (.inl (.create key expiresAt)) answer w')
    (phase : Phase P id merchantId key asked n seen w) :
    Underway key (⟨.inl (.create key expiresAt), answer⟩ :: seen) w' ∧
      Phase P id merchantId key asked n (⟨.inl (.create key expiresAt), answer⟩ :: seen) w' := by
  have refused : ∀ {err : JsError} {current : KeyWorld ApiBody World},
      Underway key (⟨.inl (.create key expiresAt), .error err⟩ :: seen) current := by
    intro err current
    refine .onward rfl ?_
    intro expiresAt row member
    rcases List.mem_cons.mp member with new | old
    · cases new
    · exact absurd old cleared.no_create
  cases did with
  | created free find =>
    refine ⟨.onward rfl fun _ _ _ => ⟨_, by rw [find, if_pos rfl]⟩, ?_⟩
    rcases phase with zero | ⟨one, guarded | spent⟩
    · exact Or.inl zero
    · obtain ⟨row, found⟩ := guarded.1
      cases free.symm.trans found
    · refine Or.inr ⟨one, Or.inr ⟨spent.1, ?_⟩⟩
      intro text found member
      rcases List.mem_cons.mp member with new | old
      · cases new
      · exact spent.2 text found old
  | taken _ _ => exact ⟨refused, phase.quiet (fun present => present) rfl rfl⟩
  | uncreated _ => exact ⟨refused, phase.quiet (fun present => present) rfl rfl⟩

/-- A step by which a request does not give up its key. -/
theorem Phase.advance {idempotencyTtlSeconds : Option String} {request : ApiRequest} {op : KeyOp ApiBody ⊕ Op}
    {env : KeyEnv Env} {answer : Both (@KeyOp.Answer ApiBody) Op.Answer op}
    (under : RefundUnder P id merchantId key asked request)
    (course : InterceptCourse idempotencyTtlSeconds ((api P).call request) (request.spec P) seen op)
    (did : KeyPerformed (api P).perform env (w.later env.elapsed) op answer w') (force : InForce key w')
    (keeps : ∀ k, op ≠ .inl (.delete k)) (underway : Underway key seen w) (phase : Phase P id merchantId key asked n seen w) :
    Underway key (⟨op, answer⟩ :: seen) w' ∧
      Phase P id merchantId key asked (n + if providerRefunded ⟨op, answer⟩ then 1 else 0) (⟨op, answer⟩ :: seen) w' := by
  obtain ⟨text, dto, endpoint, named, asks⟩ := under.refund
  cases course with
  | free blank _ =>
    rw [under.keyed] at blank
    cases blank
  | start keyed =>
    cases did with
    | timed => exact ⟨.started _, phase.quiet (fun present => present) rfl rfl⟩
  | lookup keyed =>
    cases under.keyed.symm.trans keyed
    cases did with
    | read spared => exact ⟨.found _, phase.quiet (fun present => present) rfl rfl⟩
    | unread =>
      refine ⟨.onward rfl ?_, phase.quiet (fun present => present) rfl rfl⟩
      intro expiresAt row member
      simp at member
  | check keyed =>
    cases under.keyed.symm.trans keyed
    cases did with
    | timed =>
      -- the record it has found is still there, and in force
      have found := underway.looked _ _ rfl
      exact ⟨.checked (force.row found), phase.quiet (fun present => present) rfl rfl⟩
  | clear _ _ => exact absurd rfl (keeps _)
  | @reserve _ started _ keyed cleared =>
    cases under.keyed.symm.trans keyed
    exact phase.reserved cleared did
  | @handle _ inner _ op keyed handling asks' =>
    cases under.keyed.symm.trans keyed
    have course : RefundCourse P text dto merchantId inner op := by
      simpa only [ApiRequest.spec, endpoint, under.merchant] using asks'
    have ran := (show Course P (.refund text dto merchantId) inner op from course).performed env.app w.app
    cases did with
    | handled =>
      exact ⟨underway.handled fun present => present,
        phase.handled named asks handling course ran (fun present => present) underway⟩
  | keep keyed handling _ =>
    cases under.keyed.symm.trans keyed
    cases did with
    | @updated _ _ _ row keys spared found find =>
      have stays : ∃ current, keys.find key = some current := ⟨_, by rw [find, if_pos rfl]⟩
      exact ⟨.onward rfl fun _ _ _ => stays, phase.quiet (fun _ => stays) rfl rfl⟩
    | unchanged =>
      refine ⟨.onward rfl ?_, phase.quiet (fun present => present) rfl rfl⟩
      intro expiresAt row member
      rcases List.mem_cons.mp member with new | old
      · cases new
      · exact underway.held expiresAt row old
  | release _ _ _ => exact absurd rfl (keeps _)

/-- A request gives its key up only at its end. -/
theorem Phase.released {idempotencyTtlSeconds : Option String} {request : ApiRequest} {k : String} {env : KeyEnv Env}
    {answer : Except JsError (IdempotencyKey ApiBody)} (under : RefundUnder P id merchantId key asked request)
    (course : InterceptCourse idempotencyTtlSeconds ((api P).call request) (request.spec P) seen (.inl (.delete k)))
    (did : KeyPerformed (api P).perform env (w.later env.elapsed) (.inl (.delete k)) answer w')
    (release : env.fails = false → seen.any providerRefunded = true → Refuses P id merchantId asked w.app.db)
    (underway : Underway key seen w) (phase : Phase P id merchantId key asked n seen w) :
    Phase P id merchantId key asked n [] w' ∧
      ∀ later, ¬ InterceptCourse idempotencyTtlSeconds ((api P).call request) (request.spec P)
        (⟨.inl (.delete k), answer⟩ :: seen) later := by
  cases course with
  | clear keyed expired =>
    cases under.keyed.symm.trans keyed
    exact absurd expired (underway.live _ _ _ rfl)
  | release keyed handling _ =>
    cases under.keyed.symm.trans keyed
    refine ⟨?_, fun later => handling.not_after_release⟩
    obtain ⟨expiresAt, row, created⟩ := handling.created
    cases did with
    | deleted spared found find =>
      rcases phase with zero | ⟨one, guarded | spent⟩
      · exact Or.inl zero
      · have refuses := release spared (guarded.2 _ _ created)
        exact Or.inr ⟨one, Or.inr ⟨refuses, fun _ _ member => by cases member⟩⟩
      · exact Or.inr ⟨one, Or.inr ⟨spent.1, fun _ _ member => by cases member⟩⟩
    | undeleted _ => exact phase.nil

/-- What holds after any number of requests: at most one is in progress, and how
far they have come is known both to it and to the next one. -/
structure Retried (P : Platform) (id merchantId : Uuid) (key : String) (asked : CreateRefundDto → Prop)
    (s : ApiService) : Prop where
  under : ∀ (i : Nat) t, s.threads[i]? = some t → RefundUnder P id merchantId key asked t.request
  alone : ∀ (i j : Nat) t u, s.threads[i]? = some t → s.threads[j]? = some u → t.prog.waiting ≠ none → u.prog.waiting ≠ none → i = j
  between : Phase P id merchantId key asked (providerRefunds s) [] s.world
  during : ∀ (i : Nat) t, s.threads[i]? = some t → t.prog.waiting ≠ none →
    Underway key (own i s.log) s.world ∧ Phase P id merchantId key asked (providerRefunds s) (own i s.log) s.world

variable {s : ApiService}

theorem idle_thread {i : Nat} {t : KeyThread Op Op.Answer ApiBody ApiRequest} (quiet : idle s = true)
    (atI : s.threads[i]? = some t) : t.prog.waiting = none := by
  have ended := List.all_eq_true.mp quiet t (List.mem_of_getElem? atI)
  exact Option.isNone_iff_eq_none.mp ended

theorem providerRefunds_cons (w : KeyWorld ApiBody World) (threads : List (KeyThread Op Op.Answer ApiBody ApiRequest))
    (i : Nat) (entry : KeyEntry ApiBody Op.Answer) :
    providerRefunds ⟨w, threads, (i, entry) :: s.log⟩ = providerRefunds s + if providerRefunded entry then 1 else 0 := by
  simp only [providerRefunds, List.countP_cons]

/-- A new request finds none in progress. -/
theorem Retried.spawn {request : ApiRequest} (retried : Retried P id merchantId key asked s) (quiet : idle s = true)
    (under : RefundUnder P id merchantId key asked request) (fresh : own s.threads.length s.log = []) :
    Retried P id merchantId key asked { s with threads := s.threads ++ [⟨request, (apiSystem P).start request⟩] } := by
  have last : ∀ {i : Nat} {t : KeyThread Op Op.Answer ApiBody ApiRequest},
      (s.threads ++ [⟨request, (apiSystem P).start request⟩])[i]? = some t → t.prog.waiting ≠ none → i = s.threads.length := by
    intro i t atI waits
    rcases Pool.spawn_thread (apiSystem P) atI with old | ⟨here, _⟩
    · exact absurd (idle_thread quiet old) waits
    · exact here
  refine ⟨?_, ?_, retried.between, ?_⟩
  · intro i t atI
    rcases Pool.spawn_thread (apiSystem P) atI with old | ⟨_, rfl⟩
    · exact retried.under i t old
    · exact under
  · intro i j t u atI atJ waitsT waitsU
    have first := last atI waitsT
    have second := last atJ waitsU
    omega
  · intro i t atI waits
    have here := last atI waits
    subst here
    rw [fresh]
    refine ⟨⟨?_, ?_, ?_⟩, retried.between⟩
    · intro expiresAt row member
      cases member
    · intro row rest same
      cases same
    · intro row now rest same
      cases same

/-- A step of the request in progress. -/
theorem Retried.advance {i : Nat} {env : KeyEnv Env} {request : ApiRequest} {op : KeyOp ApiBody ⊕ Op}
    {next : Both (@KeyOp.Answer ApiBody) Op.Answer op → Prog (KeyOp ApiBody ⊕ Op) (Both KeyOp.Answer Op.Answer)
      (Except JsError (HttpReply ApiBody))} {answer : Both (@KeyOp.Answer ApiBody) Op.Answer op}
    (retried : Retried P id merchantId key asked s)
    (stands : s.threads[i]? = some ⟨request, .await op next⟩)
    (course : InterceptCourse P.processEnv.idempotencyTtlSeconds ((api P).call request) (request.spec P) (own i s.log) op)
    (after : (next answer).Obeys (InterceptCourse P.processEnv.idempotencyTtlSeconds ((api P).call request) (request.spec P))
      (Answered P.processEnv.idempotencyTtlSeconds ((api P).call request) (request.spec P)) (⟨op, answer⟩ :: own i s.log))
    (did : KeyPerformed (api P).perform env (s.world.later env.elapsed) op answer w) (force : InForce key w)
    (spends : ReleasesSpent P id merchantId asked s (.advance i env)) :
    Retried P id merchantId key asked ⟨w, s.threads.set i ⟨request, next answer⟩, (i, ⟨op, answer⟩) :: s.log⟩ := by
  have waited : (⟨request, .await op next⟩ : KeyThread Op Op.Answer ApiBody ApiRequest).prog.waiting ≠ none := by
    intro impossible
    cases impossible
  have only : ∀ {j : Nat} {t : KeyThread Op Op.Answer ApiBody ApiRequest},
      (s.threads.set i ⟨request, next answer⟩)[j]? = some t → t.prog.waiting ≠ none → j = i := by
    intro j t atJ waits
    rcases Pool.set_thread atJ with ⟨here, _⟩ | ⟨other, old⟩
    · exact here
    · exact absurd (retried.alone j i _ _ old stands waits waited) other
  obtain ⟨underway, phase⟩ := retried.during i _ stands waited
  have under := retried.under i _ stands
  have moved : Phase P id merchantId key asked (providerRefunds s + if providerRefunded ⟨op, answer⟩ then 1 else 0) [] w ∧
      ∀ later, InterceptCourse P.processEnv.idempotencyTtlSeconds ((api P).call request) (request.spec P)
          (⟨op, answer⟩ :: own i s.log) later → Underway key (⟨op, answer⟩ :: own i s.log) w ∧
        Phase P id merchantId key asked (providerRefunds s + if providerRefunded ⟨op, answer⟩ then 1 else 0)
          (⟨op, answer⟩ :: own i s.log) w := by
    by_cases gives : ∃ k, op = .inl (.delete k)
    · obtain ⟨k, rfl⟩ := gives
      have release : env.fails = false → (own i s.log).any providerRefunded = true →
          Refuses P id merchantId asked s.world.app.db := by
        intro spared refunded
        refine spends ?_
        simp only [releasing, stands, Option.bind_some, Prog.waiting, spared, refunded, Bool.not_false, Bool.and_self]
      obtain ⟨between, ended⟩ := phase.released under course did release underway
      exact ⟨between, fun later asks => absurd asks (ended later)⟩
    · have keeps : ∀ k, op ≠ .inl (.delete k) := fun k same => gives ⟨k, same⟩
      obtain ⟨underwayAfter, phaseAfter⟩ := phase.advance under course did force keeps underway
      exact ⟨phaseAfter.nil, fun _ _ => ⟨underwayAfter, phaseAfter⟩⟩
  obtain ⟨between, during⟩ := moved
  refine ⟨?_, ?_, ?_, ?_⟩
  · intro j t atJ
    rcases Pool.set_thread atJ with ⟨_, rfl⟩ | ⟨_, old⟩
    · exact under
    · exact retried.under j t old
  · intro j k t u atJ atK waitsT waitsU
    have first := only atJ waitsT
    have second := only atK waitsU
    omega
  · rw [providerRefunds_cons]
    exact between
  · intro j t atJ waits
    have here := only atJ waits
    subst here
    rw [providerRefunds_cons, own_cons_self]
    rcases Pool.set_thread atJ with ⟨_, rfl⟩ | ⟨other, _⟩
    · obtain ⟨later, asks⟩ := Option.ne_none_iff_exists'.mp waits
      exact during later (after.asked asks)
    · exact absurd rfl other

/-- The requests keep this in every run. -/
theorem retried {world : KeyWorld ApiBody World}
    (reach : Reach (apiSystem P) (fun s step => OneAfterAnother P id merchantId key asked s step ∧
      ReleasesSpent P id merchantId asked s step) world s) : Retried P id merchantId key asked s := by
  induction reach using Await.Reach.steps with
  | initial =>
    refine ⟨?_, ?_, Or.inl rfl, ?_⟩
    · intro i t atI
      simp [Pool.initial] at atI
    · intro i j t u atI
      simp [Pool.initial] at atI
    · intro i t atI
      simp [Pool.initial] at atI
  | spawn s request before met ih after => exact ih.spawn met.1.1 met.1.2 before.own_fresh
  | advance s i env request op next before met stands ih after =>
    have obeys := before.obeys (idempotent_course (api_keep P)) stands
    have force : InForce key (s.step (apiSystem P) (.advance i env)).world := met.1
    rw [Pool.step_advance _ stands] at force
    exact ih.advance stands obeys.1 (obeys.2 _) (keyPerformed (api P).perform env op s.world) force met.2

/-- Refund requests for one intent that come one after another under one key
have the provider refund it at most once, if the key is given up after an
accepted refund only when the intent passes the checks of none of them. -/
theorem refunded_once {world : KeyWorld ApiBody World}
    (reach : Reach (apiSystem P) (fun s step => OneAfterAnother P id merchantId key asked s step ∧
      ReleasesSpent P id merchantId asked s step) world s) : providerRefunds s ≤ 1 := by
  rcases (retried reach).between with zero | ⟨one, _⟩
  · omega
  · omega

/-- An intent that is not captured refuses every request. -/
theorem refuses_uncaptured {db : Database} (other : ∀ row, db.intents.find id = some row → row.status ≠ .captured) :
    Refuses P id merchantId asked db := by
  intro text dto plan _ accepted
  obtain ⟨refunds, shown, _, captured, _⟩ := refundPlan_ok accepted
  obtain ⟨row, found, same⟩ := Option.map_eq_some_iff.mp shown
  cases same
  exact other _ found captured

end

/-- A refund of the sample intent under a key. -/
def refundUnder (amount : JsOptional ℚ) : ApiRequest :=
  ⟨sampleMerchant.id, some "refund-1", .createRefund (sampleIntent .captured).id.text ⟨amount, .undefined⟩⟩

/-- Repetitions of that refund come one after another. -/
abbrev repeated (amount : JsOptional ℚ) : ApiService → ApiStep → Prop :=
  OneAfterAnother plainPlatform (sampleIntent .captured).id sampleMerchant.id "refund-1" fun dto => dto = ⟨amount, .undefined⟩

abbrev spent (amount : JsOptional ℚ) : ApiService → ApiStep → Prop :=
  ReleasesSpent plainPlatform (sampleIntent .captured).id sampleMerchant.id fun dto => dto = ⟨amount, .undefined⟩

def failingApi : KeyEnv Env := { calmApi with app := { calmEnv with fails := true } }

/-- A refund that is recorded but whose outbound event fails, sent again. -/
def sentAgain (amount : JsOptional ℚ) : List ApiStep :=
  .spawn (refundUnder amount) :: List.replicate 7 (.advance 0 calmApi) ++ .advance 0 failingApi :: .advance 0 calmApi ::
    .spawn (refundUnder amount) :: List.replicate 5 (.advance 1 calmApi)

def refundWorld : KeyWorld ApiBody World := ⟨Table.empty, 0, ⟨sampleDatabase .captured, []⟩⟩

/-- Whether a step of the run above comes in its turn. -/
def inTurn (s : ApiService) : ApiStep → Bool
  | .spawn _ => idle s
  | .advance i env => decide (InForce "refund-1" (s.step (apiSystem plainPlatform) (.advance i env)).world)

/-- Whether a key that is given up after a refund finds its intent captured no longer. -/
def givesUpSpent (s : ApiService) : ApiStep → Bool
  | .spawn _ => true
  | .advance i env =>
    !releasing s i env || (s.world.app.db.intents.find (sampleIntent .captured).id).all fun row => row.status ≠ .captured

theorem repeated_of_inTurn {amount : JsOptional ℚ} {s : ApiService} {step : ApiStep} (member : step ∈ sentAgain amount)
    (turn : inTurn s step = true) : repeated amount s step := by
  cases step with
  | spawn request =>
    have same : request = refundUnder amount := by simpa [sentAgain] using member
    have keyed : ((api plainPlatform).call (refundUnder .undefined)).key = some "refund-1" := by decide +kernel
    have named : plainPlatform.readUuid (sampleIntent .captured).id.text = some (sampleIntent .captured).id := by decide +kernel
    rw [same]
    exact ⟨turn, rfl, keyed, _, _, rfl, named, rfl⟩
  | advance i env =>
    have force : InForce "refund-1" (s.step (apiSystem plainPlatform) (.advance i env)).world := of_decide_eq_true turn
    exact force

theorem spent_of_givesUpSpent {amount : JsOptional ℚ} {s : ApiService} {step : ApiStep}
    (checked : givesUpSpent s step = true) : spent amount s step := by
  cases step with
  | spawn request => trivial
  | advance i env =>
    intro releases
    simp only [givesUpSpent, releases, Bool.not_true, Bool.false_or] at checked
    refine refuses_uncaptured fun row found => ?_
    simpa [found] using checked

theorem refunded_once_sample :
    providerRefunds ((Pool.initial refundWorld).run (apiSystem plainPlatform) (sentAgain .undefined)) ≤ 1 := by
  have checked : (Pool.initial refundWorld).Meets (apiSystem plainPlatform)
      (fun s step => inTurn s step = true ∧ givesUpSpent s step = true) (sentAgain .undefined) := by decide +kernel
  have met : (Pool.initial refundWorld).Meets (apiSystem plainPlatform)
      (fun s step => repeated .undefined s step ∧ spent .undefined s step) (sentAgain .undefined) :=
    checked.imp _ fun _ _ member both => ⟨repeated_of_inTurn member both.1, spent_of_givesUpSpent both.2⟩
  exact refunded_once (.run .start met)

/-- A refund of a part of the amount whose outbound event fails gives its key
up, and its repetition is refunded again. -/
theorem refunded_again : ¬ ∀ (P : Platform) (id merchantId : Uuid) (key : String) (asked : CreateRefundDto → Prop)
    (world : KeyWorld ApiBody World) (s : ApiService),
    Reach (apiSystem P) (OneAfterAnother P id merchantId key asked) world s → providerRefunds s ≤ 1 := by
  intro always
  have checked : (Pool.initial refundWorld).Meets (apiSystem plainPlatform) (fun s step => inTurn s step = true)
      (sentAgain (.value 30)) := by decide +kernel
  have met : (Pool.initial refundWorld).Meets (apiSystem plainPlatform) (repeated (.value 30)) (sentAgain (.value 30)) :=
    checked.imp _ fun _ _ member turn => repeated_of_inTurn member turn
  have once := always _ _ _ _ _ refundWorld _ (.run .start met)
  have twice : providerRefunds ((Pool.initial refundWorld).run (apiSystem plainPlatform) (sentAgain (.value 30))) = 2 := by
    decide +kernel
  omega

end PayBridge
