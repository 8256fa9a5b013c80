import Mathlib.Data.List.Induction
import PayBridge.Await.Program

namespace Await

/-- What a pool of programs runs on: each operation acts on the shared world
in one step, and `env` supplies everything the world does not decide. -/
structure System (Op : Type) (Ans : Op → Type) (World Env Req Reply : Type) where
  perform : Env → (op : Op) → World → Ans op × World
  start : Req → Prog Op Ans Reply

structure Thread (Op : Type) (Ans : Op → Type) (Req Reply : Type) where
  request : Req
  prog : Prog Op Ans Reply

/-- Running requests over one world. The log keeps every operation performed,
newest first, with the position of the thread that performed it. -/
structure Pool (Op : Type) (Ans : Op → Type) (World Req Reply : Type) where
  world : World
  threads : List (Thread Op Ans Req Reply)
  log : List (Nat × (op : Op) × Ans op)

inductive Event (Req Env : Type)
  | spawn (request : Req)
  | advance (i : Nat) (env : Env)

/-- What one thread has seen, newest first. -/
def own {Op : Type} {Ans : Op → Type} (i : Nat) (log : List (Nat × (op : Op) × Ans op)) : History Ans :=
  log.filterMap fun entry => if entry.1 = i then some entry.2 else none

section
variable {Op : Type} {Ans : Op → Type}

@[simp] theorem own_nil (i : Nat) : (own i [] : History Ans) = [] := rfl

theorem own_cons (i j : Nat) (entry : (op : Op) × Ans op) (log : List (Nat × (op : Op) × Ans op)) :
    own i ((j, entry) :: log) = if j = i then entry :: own i log else own i log := by
  by_cases same : j = i <;> simp [own, same]

@[simp] theorem own_cons_self (i : Nat) (entry : (op : Op) × Ans op) (log : List (Nat × (op : Op) × Ans op)) :
    own i ((i, entry) :: log) = entry :: own i log := by simp [own_cons]

theorem own_cons_ne {i j : Nat} (other : j ≠ i) (entry : (op : Op) × Ans op)
    (log : List (Nat × (op : Op) × Ans op)) : own i ((j, entry) :: log) = own i log := by
  simp [own_cons, other]

theorem mem_own {i : Nat} {entry : (op : Op) × Ans op} {log : List (Nat × (op : Op) × Ans op)} :
    entry ∈ own i log ↔ (i, entry) ∈ log := by
  simp only [own, List.mem_filterMap]
  constructor
  · rintro ⟨⟨j, found⟩, member, kept⟩
    split at kept
    · rename_i same
      cases kept
      simpa only [← same] using member
    · cases kept
  · intro member
    exact ⟨(i, entry), member, by simp⟩

/-- The last thing a thread has seen is in the log. -/
theorem mem_of_own_cons {i : Nat} {entry : (op : Op) × Ans op} {rest : History Ans}
    {log : List (Nat × (op : Op) × Ans op)} (last : own i log = entry :: rest) : (i, entry) ∈ log := by
  refine mem_own.mp ?_
  rw [last]
  exact List.mem_cons_self ..

end

/-- A world and a log, as single operations have made them of a first world one after another. -/
inductive Chronicle {Op : Type} {Ans : Op → Type} {World Env : Type} (perform : Env → (op : Op) → World → Ans op × World)
    (first : World) : World → List (Nat × (op : Op) × Ans op) → Prop
  | start : Chronicle perform first first []
  | next {now log} (i : Nat) (env : Env) (op : Op) : Chronicle perform first now log →
      Chronicle perform first (perform env op now).2 ((i, ⟨op, (perform env op now).1⟩) :: log)

/-- What stands in a chronicle was answered in some world. -/
theorem Chronicle.answered {Op : Type} {Ans : Op → Type} {World Env : Type} {perform : Env → (op : Op) → World → Ans op × World}
    {first now : World} {log : List (Nat × (op : Op) × Ans op)} (chronicle : Chronicle perform first now log) {i : Nat} {op : Op}
    {answer : Ans op} (member : (i, ⟨op, answer⟩) ∈ log) : ∃ env w, (perform env op w).1 = answer := by
  induction chronicle with
  | start => cases member
  | @next now log j env op' _ ih =>
    rcases List.mem_cons.mp member with same | old
    · cases same
      exact ⟨env, now, rfl⟩
    · exact ih old

namespace Pool
variable {Op : Type} {Ans : Op → Type} {World Env Req Reply : Type}
variable (S : System Op Ans World Env Req Reply)

def initial (world : World) : Pool Op Ans World Req Reply := ⟨world, [], []⟩

/-- Thread `i` performs the operation it stands at and runs to its next one. -/
def resume (s : Pool Op Ans World Req Reply) (i : Nat) (request : Req) (op : Op)
    (next : Ans op → Prog Op Ans Reply) (env : Env) : Pool Op Ans World Req Reply where
  world := (S.perform env op s.world).2
  threads := s.threads.set i ⟨request, next (S.perform env op s.world).1⟩
  log := (i, ⟨op, (S.perform env op s.world).1⟩) :: s.log

def step (s : Pool Op Ans World Req Reply) : Event Req Env → Pool Op Ans World Req Reply
  | .spawn request => { s with threads := s.threads ++ [⟨request, S.start request⟩] }
  | .advance i env =>
    match s.threads[i]? with
    | some ⟨request, .await op next⟩ => s.resume S i request op next env
    | _ => s

def run (s : Pool Op Ans World Req Reply) (events : List (Event Req Env)) : Pool Op Ans World Req Reply :=
  events.foldl (step S) s

/-- Whether all the steps of a run meet a condition. -/
def Meets (meets : Pool Op Ans World Req Reply → Event Req Env → Prop) (s : Pool Op Ans World Req Reply) :
    List (Event Req Env) → Prop
  | [] => True
  | event :: rest => meets s event ∧ Meets meets (s.step S event) rest

instance decidableMeets (meets : Pool Op Ans World Req Reply → Event Req Env → Prop)
    [∀ s event, Decidable (meets s event)] : (s : Pool Op Ans World Req Reply) → (events : List (Event Req Env)) →
    Decidable (s.Meets S meets events)
  | _, [] => isTrue trivial
  | s, event :: rest =>
    have := decidableMeets meets (s.step S event) rest
    inferInstanceAs (Decidable (meets s event ∧ Meets S meets (s.step S event) rest))

/-- A condition that follows from another one at every event of a run. -/
theorem Meets.imp {meets meets' : Pool Op Ans World Req Reply → Event Req Env → Prop} {s : Pool Op Ans World Req Reply}
    {events : List (Event Req Env)} (met : s.Meets S meets events)
    (implies : ∀ s, ∀ event ∈ events, meets s event → meets' s event) : s.Meets S meets' events := by
  induction events generalizing s with
  | nil => trivial
  | cons event rest ih =>
    have first := implies s event (List.mem_cons_self ..) met.1
    exact ⟨first, ih met.2 fun s' later member => implies s' later (List.mem_cons_of_mem _ member)⟩

theorem step_advance {s : Pool Op Ans World Req Reply} {i : Nat} {request : Req} {op : Op}
    {next : Ans op → Prog Op Ans Reply} (stands : s.threads[i]? = some ⟨request, .await op next⟩) (env : Env) :
    s.step S (.advance i env) = s.resume S i request op next env := by
  simp only [step, stands]

/-- All a step can do: start a request, let one thread perform the operation
it stands at, or nothing. -/
theorem step_cases (s : Pool Op Ans World Req Reply) (event : Event Req Env) :
    (∃ request, event = .spawn request ∧
      s.step S event = { s with threads := s.threads ++ [⟨request, S.start request⟩] }) ∨
    (∃ i env request op next, event = .advance i env ∧ s.threads[i]? = some ⟨request, .await op next⟩ ∧
      s.step S event = s.resume S i request op next env) ∨
    s.step S event = s := by
  cases event with
  | spawn request => exact Or.inl ⟨request, rfl, rfl⟩
  | advance i env =>
    right
    simp only [step]
    split
    · next request op next stands => exact Or.inl ⟨i, env, request, op, next, rfl, stands, rfl⟩
    · exact Or.inr rfl

/-- The threads after one of them has moved: that one, and the others as they were. -/
theorem set_thread {threads : List (Thread Op Ans Req Reply)} {i j : Nat} {new t : Thread Op Ans Req Reply}
    (atJ : (threads.set i new)[j]? = some t) : j = i ∧ t = new ∨ j ≠ i ∧ threads[j]? = some t := by
  rw [List.getElem?_set] at atJ
  by_cases same : i = j
  · rw [if_pos same] at atJ
    split at atJ
    · exact Or.inl ⟨same.symm, (Option.some.inj atJ).symm⟩
    · cases atJ
  · rw [if_neg same] at atJ
    exact Or.inr ⟨fun h => same h.symm, atJ⟩

theorem spawn_thread {s : Pool Op Ans World Req Reply} {request : Req} {j : Nat} {t : Thread Op Ans Req Reply}
    (atJ : (s.threads ++ [⟨request, S.start request⟩])[j]? = some t) :
    s.threads[j]? = some t ∨ j = s.threads.length ∧ t = ⟨request, S.start request⟩ := by
  rw [List.getElem?_append] at atJ
  split at atJ
  · exact Or.inl atJ
  · obtain ⟨bound, value⟩ := List.getElem?_eq_some_iff.mp atJ
    simp only [List.length_singleton] at bound
    have last : j - s.threads.length = 0 := by omega
    simp only [last, List.getElem_cons_zero] at value
    exact Or.inr ⟨by omega, value.symm⟩

/-- Some request has ended with a reply of a kind. -/
def Ended (s : Pool Op Ans World Req Reply) (kind : Req → Reply → Prop) : Prop :=
  ∃ t ∈ s.threads, ∃ reply, t.prog.result = some reply ∧ kind t.request reply

theorem ended_spawn {s : Pool Op Ans World Req Reply} {kind : Req → Reply → Prop} {request : Req} :
    Ended { s with threads := s.threads ++ [⟨request, S.start request⟩] } kind ↔
      s.Ended kind ∨ ∃ reply, (S.start request).result = some reply ∧ kind request reply := by
  unfold Ended
  simp only [List.mem_append, List.mem_singleton, or_and_right, exists_or, exists_eq_left]

/-- Only the thread that moves can come to its end. -/
theorem ended_resume {s : Pool Op Ans World Req Reply} {kind : Req → Reply → Prop} {i : Nat} {request : Req} {op : Op}
    {next : Ans op → Prog Op Ans Reply} (stands : s.threads[i]? = some ⟨request, .await op next⟩) (env : Env) :
    (s.resume S i request op next env).Ended kind ↔
      s.Ended kind ∨ ∃ reply, (next (S.perform env op s.world).1).result = some reply ∧ kind request reply := by
  obtain ⟨inside, atI⟩ := List.getElem?_eq_some_iff.mp stands
  constructor
  · rintro ⟨t, member, reply, ended, fits⟩
    obtain ⟨j, atJ⟩ := List.mem_iff_getElem?.mp member
    rcases set_thread atJ with ⟨rfl, rfl⟩ | ⟨other, old⟩
    · exact Or.inr ⟨reply, ended, fits⟩
    · exact Or.inl ⟨t, List.mem_of_getElem? old, reply, ended, fits⟩
  · rintro (⟨t, member, reply, ended, fits⟩ | ⟨reply, ended, fits⟩)
    · obtain ⟨j, atJ⟩ := List.mem_iff_getElem?.mp member
      have other : i ≠ j := by
        rintro rfl
        rw [stands] at atJ
        cases atJ
        cases ended
      exact ⟨t, List.mem_of_getElem? ((List.getElem?_set_ne other).trans atJ), reply, ended, fits⟩
    · exact ⟨_, List.mem_set inside _, reply, ended, fits⟩

theorem ended_spawn_quiet {s : Pool Op Ans World Req Reply} {kind : Req → Reply → Prop} {request : Req}
    (quiet : ∀ reply, (S.start request).result = some reply → ¬ kind request reply) :
    Ended { s with threads := s.threads ++ [⟨request, S.start request⟩] } kind ↔ s.Ended kind := by
  refine (ended_spawn S).trans (or_iff_left ?_)
  rintro ⟨reply, ended, fits⟩
  exact quiet reply ended fits

/-- A thread that does not end, or ends otherwise, adds nothing of the kind. -/
theorem ended_resume_quiet {s : Pool Op Ans World Req Reply} {kind : Req → Reply → Prop} {i : Nat} {request : Req}
    {op : Op} {next : Ans op → Prog Op Ans Reply} (stands : s.threads[i]? = some ⟨request, .await op next⟩) (env : Env)
    (quiet : ∀ reply, (next (S.perform env op s.world).1).result = some reply → ¬ kind request reply) :
    (s.resume S i request op next env).Ended kind ↔ s.Ended kind := by
  refine (ended_resume S stands env).trans (or_iff_left ?_)
  rintro ⟨reply, ended, fits⟩
  exact quiet reply ended fits

/-- A thread that ends adds its reply. -/
theorem ended_resume_reply {s : Pool Op Ans World Req Reply} {kind : Req → Reply → Prop} {i : Nat} {request : Req}
    {op : Op} {next : Ans op → Prog Op Ans Reply} (stands : s.threads[i]? = some ⟨request, .await op next⟩) (env : Env)
    {reply : Reply} (ended : (next (S.perform env op s.world).1).result = some reply) :
    (s.resume S i request op next env).Ended kind ↔ s.Ended kind ∨ kind request reply := by
  refine (ended_resume S stands env).trans (or_congr_right ⟨?_, fun fits => ⟨reply, ended, fits⟩⟩)
  rintro ⟨other, again, fits⟩
  cases ended.symm.trans again
  exact fits

/-- What has ended stays ended. -/
theorem Ended.run {s : Pool Op Ans World Req Reply} {kind : Req → Reply → Prop} (ended : s.Ended kind)
    (events : List (Event Req Env)) : (s.run S events).Ended kind := by
  induction events generalizing s with
  | nil => exact ended
  | cons event rest ih =>
    refine ih ?_
    rcases s.step_cases S event with ⟨request, _, same⟩ | ⟨i, env, request, op, next, _, stands, same⟩ | same
    · rw [same]
      exact (ended_spawn S).mpr (Or.inl ended)
    · rw [same]
      exact (ended_resume S stands env).mpr (Or.inl ended)
    · rw [same]
      exact ended

/-- A run only adds to the log what it has done to the world. -/
theorem run_chronicle (s : Pool Op Ans World Req Reply) (events : List (Event Req Env)) :
    ∃ later, (s.run S events).log = later ++ s.log ∧ Chronicle S.perform s.world (s.run S events).world later := by
  induction events using List.reverseRecOn with
  | nil => exact ⟨[], rfl, .start⟩
  | append_singleton events event ih =>
    obtain ⟨later, log, chronicle⟩ := ih
    have ran : s.run S (events ++ [event]) = (s.run S events).step S event := by
      simp only [run, List.foldl_append, List.foldl_cons, List.foldl_nil]
    rw [ran]
    rcases (s.run S events).step_cases S event with ⟨request, _, same⟩ | ⟨i, env, request, op, next, _, _, same⟩ | same
    · rw [same]
      exact ⟨later, log, chronicle⟩
    · rw [same]
      exact ⟨_ :: later, congrArg (List.cons _) log, .next i env op chronicle⟩
    · rw [same]
      exact ⟨later, log, chronicle⟩

end Pool

/-- The pools reached from a world by steps that all meet a condition on the
step and the pool before it. -/
inductive Reach {Op : Type} {Ans : Op → Type} {World Env Req Reply : Type}
    (S : System Op Ans World Env Req Reply) (meets : Pool Op Ans World Req Reply → Event Req Env → Prop)
    (world : World) : Pool Op Ans World Req Reply → Prop
  | start : Reach S meets world (.initial world)
  | next {s event} : Reach S meets world s → meets s event → Reach S meets world (s.step S event)

namespace Reach
variable {Op : Type} {Ans : Op → Type} {World Env Req Reply : Type}
variable {S : System Op Ans World Env Req Reply} {world : World}
variable {meets : Pool Op Ans World Req Reply → Event Req Env → Prop}
variable {s : Pool Op Ans World Req Reply}

/-- The induction over a run, by what a step can do. -/
theorem steps {motive : (s : Pool Op Ans World Req Reply) → Reach S meets world s → Prop}
    (initial : motive _ .start)
    (spawn : ∀ s request (before : Reach S meets world s), meets s (.spawn request) → motive s before →
      ∀ after, motive { s with threads := s.threads ++ [⟨request, S.start request⟩] } after)
    (advance : ∀ s i env request op next (before : Reach S meets world s), meets s (.advance i env) →
      s.threads[i]? = some ⟨request, .await op next⟩ → motive s before →
      ∀ after, motive (s.resume S i request op next env) after)
    (reach : Reach S meets world s) : motive s reach := by
  induction reach with
  | start => exact initial
  | @next s event before met ih =>
    have land : ∀ t (after : Reach S meets world t), s.step S event = t → motive t after := by
      intro t after landed
      rcases s.step_cases S event with ⟨request, rfl, same⟩ | ⟨i, env, request, op, next, rfl, stands, same⟩ | same
      · cases same.symm.trans landed; exact spawn s request before met ih after
      · cases same.symm.trans landed; exact advance s i env request op next before met stands ih after
      · cases same.symm.trans landed; exact ih
    exact land _ _ rfl

/-- A run whose events all meet the condition stays in reach. -/
theorem run {events : List (Event Req Env)} (reach : Reach S meets world s) (met : s.Meets S meets events) :
    Reach S meets world (s.run S events) := by
  induction events generalizing s with
  | nil => exact reach
  | cons event rest ih => exact ih (.next reach met.1) met.2

/-- Two conditions that come to the same in every reached pool come to the same over a run. -/
theorem meets_congr {meets' meets'' : Pool Op Ans World Req Reply → Event Req Env → Prop}
    (same : ∀ s event, Reach S (fun _ _ => True) world s → (meets' s event ↔ meets'' s event))
    (events : List (Event Req Env)) (reach : Reach S (fun _ _ => True) world s) :
    s.Meets S meets' events ↔ s.Meets S meets'' events := by
  induction events generalizing s with
  | nil => rfl
  | cons event rest ih => exact and_congr (same s event reach) (ih (.next reach trivial))

theorem run_free (events : List (Event Req Env)) (reach : Reach S (fun _ _ => True) world s) :
    Reach S (fun _ _ => True) world (s.run S events) := by
  induction events generalizing s with
  | nil => exact reach
  | cons event rest ih => exact ih (.next reach trivial)

/-- Only threads of the pool appear in its log. -/
theorem log_thread (reach : Reach S meets world s) {i : Nat} {entry : (op : Op) × Ans op}
    (member : (i, entry) ∈ s.log) : i < s.threads.length := by
  induction reach using steps with
  | initial => cases member
  | spawn s request _ _ ih _ =>
    have inside := ih member
    simp only [List.length_append, List.length_singleton]
    omega
  | advance s j env request op next _ _ stands ih _ =>
    obtain ⟨inside, _⟩ := List.getElem?_eq_some_iff.mp stands
    simp only [Pool.resume, List.length_set] at member ⊢
    rcases List.mem_cons.mp member with same | old
    · cases same; exact inside
    · exact ih old

theorem chronicle (reach : Reach S meets world s) : Chronicle S.perform world s.world s.log := by
  induction reach using steps with
  | initial => exact .start
  | spawn s request _ _ ih _ => exact ih
  | advance s i env request op next _ _ _ ih _ => exact .next i env op ih

theorem own_fresh (reach : Reach S meets world s) : own s.threads.length s.log = [] := by
  refine List.eq_nil_iff_forall_not_mem.mpr fun entry member => ?_
  exact (Nat.lt_irrefl _) (reach.log_thread (mem_own.mp member))

/-- What the spawned requests have, the requests of all threads have. -/
theorem requested {holds : Req → Prop} (met : ∀ s request, meets s (.spawn request) → holds request)
    (reach : Reach S meets world s) {i : Nat} {t : Thread Op Ans Req Reply} (atI : s.threads[i]? = some t) : holds t.request := by
  induction reach using steps generalizing i t with
  | initial => simp [Pool.initial] at atI
  | spawn s request before spawned ih _ =>
    rcases Pool.spawn_thread S atI with old | ⟨rfl, rfl⟩
    · exact ih old
    · exact met s request spawned
  | advance s j env request op next _ _ stands ih _ =>
    rcases Pool.set_thread atI with ⟨rfl, rfl⟩ | ⟨_, old⟩
    · exact ih (t := ⟨request, .await op next⟩) stands
    · exact ih old

/-- What every thread has at its start and keeps with each of its own answers,
the threads of a reached pool have. What the other threads do does not matter. -/
theorem each_thread (keeps : Req → Prog Op Ans Reply → History Ans → Prop) (start : ∀ request, keeps request (S.start request) [])
    (step : ∀ request op next seen, keeps request (.await op next) seen → ∀ answer,
      keeps request (next answer) (⟨op, answer⟩ :: seen))
    (reach : Reach S meets world s) {i : Nat} {t : Thread Op Ans Req Reply} (atI : s.threads[i]? = some t) :
    keeps t.request t.prog (own i s.log) := by
  induction reach using steps generalizing i t with
  | initial => simp [Pool.initial] at atI
  | spawn s request before _ ih _ =>
    rcases Pool.spawn_thread S atI with old | ⟨rfl, rfl⟩
    · exact ih old
    · simpa only [before.own_fresh] using start request
  | advance s j env request op next _ _ stands ih _ =>
    rcases Pool.set_thread atI with ⟨rfl, rfl⟩ | ⟨other, old⟩
    · simp only [Pool.resume, own_cons_self]
      exact step request op next _ (ih stands) _
    · simp only [Pool.resume, own_cons_ne (Ne.symm other)]
      exact ih old

section
variable {asks : Req → History Ans → Op → Prop} {ends : Req → History Ans → Reply → Prop}

/-- Every thread of a reached pool still obeys what its request obeys from the
start, after what it has seen itself. -/
theorem obeys (start : ∀ request, (S.start request).Obeys (asks request) (ends request) []) (reach : Reach S meets world s)
    {i : Nat} {t : Thread Op Ans Req Reply} (atI : s.threads[i]? = some t) :
    t.prog.Obeys (asks t.request) (ends t.request) (own i s.log) :=
  reach.each_thread (fun request prog seen => prog.Obeys (asks request) (ends request) seen) start
    (fun _ _ _ _ obeys answer => obeys.2 answer) atI

/-- The induction over a run of programs that obey what their requests do: each
operation is one that its request asks where it stands. -/
theorem asked_steps (start : ∀ request, (S.start request).Obeys (asks request) (ends request) [])
    {motive : (s : Pool Op Ans World Req Reply) → Reach S meets world s → Prop} (initial : motive _ .start)
    (spawn : ∀ s request (before : Reach S meets world s), meets s (.spawn request) → motive s before →
      ∀ after, motive { s with threads := s.threads ++ [⟨request, S.start request⟩] } after)
    (advance : ∀ s i env request op next (before : Reach S meets world s), meets s (.advance i env) →
      s.threads[i]? = some ⟨request, .await op next⟩ → asks request (own i s.log) op → motive s before →
      ∀ after, motive (s.resume S i request op next env) after)
    (reach : Reach S meets world s) : motive s reach := by
  induction reach using steps with
  | initial => exact initial
  | spawn s request before met ih after => exact spawn s request before met ih after
  | advance s i env request op next before met stands ih after =>
    exact advance s i env request op next before met stands (before.obeys start stands).1 ih after

end

end Reach

end Await
