import PayBridge.Await.Layered
import PayBridge.Await.Serial

namespace Await

namespace Prog
variable {Op : Type} {Ans : Op → Type} {World Env α β : Type}
variable (perform : Env → (op : Op) → World → Ans op × World) (env : Nat → Op → Env)

/-- Runs a program alone, behind what has been seen before it. `env` is the
environment an operation meets at its place in the run. -/
def play : Prog Op Ans α → History Ans → World → Outcome Ans World α
  | done value, seen, world => ⟨value, world, seen⟩
  | await op next, seen, world =>
    (next (perform (env seen.length op) op world).1).play
      (⟨op, (perform (env seen.length op) op world).1⟩ :: seen) (perform (env seen.length op) op world).2

theorem play_bind (p : Prog Op Ans α) (f : α → Prog Op Ans β) (seen : History Ans) (world : World) :
    (p.bind f).play perform env seen world =
      (f (p.play perform env seen world).value).play perform env (p.play perform env seen world).log
        (p.play perform env seen world).world := by
  induction p generalizing seen world with
  | done value => rfl
  | await op next ih => exact ih _ _ _

/-- In an environment that only depends on the operation, a program runs as it
does alone from the start. -/
theorem play_run (given : Op → Env) (p : Prog Op Ans α) (seen : History Ans) (world : World) :
    p.play perform (fun _ op => given op) seen world = (p.run perform given world).after seen := by
  induction p generalizing seen world with
  | done value => rfl
  | await op next ih =>
    simp only [play, run, ih, Outcome.after_after, List.singleton_append]

variable {p : Prog Op Ans α} {seen : History Ans}
variable {asks : History Ans → Op → Prop} {ends : History Ans → α → Prop}

/-- What every operation of a course keeps, a run keeps. -/
theorem Obeys.kept {I : History Ans → World → Prop} (obeys : p.Obeys asks ends seen)
    (step : ∀ seen op world, asks seen op → I seen world →
      I (⟨op, (perform (env seen.length op) op world).1⟩ :: seen) (perform (env seen.length op) op world).2)
    (world : World) (start : I seen world) :
    let o := p.play perform env seen world
    I o.log o.world ∧ ends o.log o.value := by
  induction p generalizing seen world with
  | done value => exact ⟨start, obeys⟩
  | await op next ih =>
    have first := step seen op world obeys.1 start
    exact ih _ (obeys.2 _) _ first

/-- Two worlds that every operation of a course answers alike, and leaves
related, make for the same run. -/
theorem Obeys.coupled {R : History Ans → World → World → Prop} (obeys : p.Obeys asks ends seen)
    (step : ∀ seen op left right, asks seen op → R seen left right →
      let l := perform (env seen.length op) op left
      let r := perform (env seen.length op) op right
      l.1 = r.1 ∧ R (⟨op, l.1⟩ :: seen) l.2 r.2)
    {left right : World} (start : R seen left right) :
    let l := p.play perform env seen left
    let r := p.play perform env seen right
    l.value = r.value ∧ l.log = r.log ∧ R l.log l.world r.world := by
  induction p generalizing seen left right with
  | done value => exact ⟨rfl, rfl, start⟩
  | await op next ih =>
    obtain ⟨same, related⟩ := step seen op left right obeys.1 start
    have rest := ih _ (obeys.2 _) related
    simp only [play]
    rw [← same]
    exact rest

end Prog

namespace Async
variable {Op : Type} {Ans : Op → Type} {World Env ε α β : Type}
variable (perform : Env → (op : Op) → World → Ans op × World) (env : Nat → Op → Env)

def play (x : Async Op Ans ε α) (seen : History Ans) (world : World) : Outcome Ans World (Except ε α) :=
  Prog.play perform env (ExceptT.run x) seen world

@[simp] theorem play_pure (value : α) (seen : History Ans) (world : World) :
    play perform env (pure value : Async Op Ans ε α) seen world = ⟨.ok value, world, seen⟩ := rfl

@[simp] theorem play_throw (err : ε) (seen : History Ans) (world : World) :
    play perform env (throw err : Async Op Ans ε α) seen world = ⟨.error err, world, seen⟩ := rfl

@[simp] theorem play_ofExcept (value : Except ε α) (seen : History Ans) (world : World) :
    play perform env (ofExcept value : Async Op Ans ε α) seen world = ⟨value, world, seen⟩ := rfl

@[simp] theorem play_request (op : Op) (read : Ans op → Except ε α) (seen : History Ans) (world : World) :
    play perform env (request op read) seen world =
      ⟨read (perform (env seen.length op) op world).1, (perform (env seen.length op) op world).2,
        ⟨op, (perform (env seen.length op) op world).1⟩ :: seen⟩ := rfl

theorem play_bind (x : Async Op Ans ε α) (f : α → Async Op Ans ε β) (seen : History Ans) (world : World) :
    play perform env (x >>= f) seen world = match (play perform env x seen world).value with
      | .ok value => play perform env (f value) (play perform env x seen world).log (play perform env x seen world).world
      | .error err => ⟨.error err, (play perform env x seen world).world, (play perform env x seen world).log⟩ := by
  refine (Prog.play_bind perform env (ExceptT.run x) _ seen world).trans ?_
  unfold play
  split
  · next value same => rw [same]; rfl
  · next err same => rw [same]; rfl

theorem play_tryCatch (x : Async Op Ans ε α) (f : ε → Async Op Ans ε α) (seen : History Ans) (world : World) :
    play perform env (tryCatch x f) seen world = match (play perform env x seen world).value with
      | .ok value => ⟨.ok value, (play perform env x seen world).world, (play perform env x seen world).log⟩
      | .error err => play perform env (f err) (play perform env x seen world).log (play perform env x seen world).world := by
  refine (Prog.play_bind perform env (ExceptT.run x) _ seen world).trans ?_
  unfold play
  split
  · next value same => rw [same]; rfl
  · next err same => rw [same]; rfl

section
variable {perform env} {x : Async Op Ans ε α} {f : α → Async Op Ans ε β} {seen : History Ans} {world : World}

/-- A bind whose first part returns goes on from where that part ended. -/
theorem play_bind_ok {value : α} (returned : (play perform env x seen world).value = .ok value) :
    play perform env (x >>= f) seen world =
      play perform env (f value) (play perform env x seen world).log (play perform env x seen world).world := by
  rw [play_bind, returned]

theorem play_bind_error {err : ε} (thrown : (play perform env x seen world).value = .error err) :
    play perform env (x >>= f) seen world =
      ⟨.error err, (play perform env x seen world).world, (play perform env x seen world).log⟩ := by
  rw [play_bind, thrown]

/-- A bind behind one operation goes on with what is read out of the answer. -/
theorem play_bind_request {op : Op} {read : Ans op → Except ε α} {after : World} {answer : Ans op}
    (did : perform (env seen.length op) op world = (answer, after)) :
    play perform env (request op read >>= f) seen world = match read answer with
      | .ok value => play perform env (f value) (⟨op, answer⟩ :: seen) after
      | .error err => ⟨.error err, after, ⟨op, answer⟩ :: seen⟩ := by
  rw [play_bind, play_request, did]

end

variable {x : Async Op Ans ε α} {seen : History Ans}
variable {asks : History Ans → Op → Prop} {returns : History Ans → α → Prop} {throws : History Ans → ε → Prop}

theorem Obeys.kept {I : History Ans → World → Prop} (obeys : Obeys asks returns throws x seen)
    (step : ∀ seen op world, asks seen op → I seen world →
      I (⟨op, (perform (env seen.length op) op world).1⟩ :: seen) (perform (env seen.length op) op world).2)
    (world : World) (start : I seen world) :
    let o := play perform env x seen world
    I o.log o.world ∧ match o.value with
      | .ok value => returns o.log value
      | .error err => throws o.log err :=
  Prog.Obeys.kept perform env obeys step world start

theorem Obeys.coupled {R : History Ans → World → World → Prop} (obeys : Obeys asks returns throws x seen)
    (step : ∀ seen op left right, asks seen op → R seen left right →
      let l := perform (env seen.length op) op left
      let r := perform (env seen.length op) op right
      l.1 = r.1 ∧ R (⟨op, l.1⟩ :: seen) l.2 r.2)
    {left right : World} (start : R seen left right) :
    let l := play perform env x seen left
    let r := play perform env x seen right
    l.value = r.value ∧ l.log = r.log ∧ R l.log l.world r.world :=
  Prog.Obeys.coupled perform env obeys step start

end Async

/-- A layer keeps the inner operations to the part of the world they are about:
they answer and act there as they do alone, and leave the rest as `rest` says. -/
structure Embeds {Op₁ Op₂ : Type} {Ans₁ : Op₁ → Type} {Ans₂ : Op₂ → Type} {World Inner Env₁ Env₂ : Type}
    (outer : Env₁ → (op : Op₁ ⊕ Op₂) → World → Both Ans₁ Ans₂ op × World)
    (inner : Env₂ → (op : Op₂) → Inner → Ans₂ op × Inner) (view : World → Inner) (part : Env₁ → Env₂)
    (rest : World → World → Prop) : Prop where
  answer : ∀ env op world, (outer env (.inr op) world).1 = (inner (part env) op (view world)).1
  moves : ∀ env op world, view (outer env (.inr op) world).2 = (inner (part env) op (view world)).2
  keeps : ∀ env op world, rest world (outer env (.inr op) world).2
  refl : ∀ world, rest world world
  trans : ∀ {a b c}, rest a b → rest b c → rest a c

section
variable {Op₁ Op₂ : Type} {Ans₁ : Op₁ → Type} {Ans₂ : Op₂ → Type} {World Inner Env₁ Env₂ ε α : Type}
variable {outer : Env₁ → (op : Op₁ ⊕ Op₂) → World → Both Ans₁ Ans₂ op × World}
variable {inner : Env₂ → (op : Op₂) → Inner → Ans₂ op × Inner} {view : World → Inner} {part : Env₁ → Env₂}
variable {rest : World → World → Prop}

/-- What surrounds the inner operations of a run that starts behind `before` others. -/
def within (part : Env₁ → Env₂) (env : Nat → Op₁ ⊕ Op₂ → Env₁) (before : Nat) : Nat → Op₂ → Env₂ :=
  fun n op => part (env (n + before) (.inr op))

/-- A lifted program runs on its part of the world as it does alone. -/
theorem Prog.play_lift (embeds : Embeds outer inner view part rest) (env : Nat → Op₁ ⊕ Op₂ → Env₁)
    (p : Prog Op₂ Ans₂ α) (own : History Ans₂) (earlier : History (Both Ans₁ Ans₂)) (world : World) :
    let o := p.lift.play outer env (lifted own ++ earlier) world
    let alone := p.play inner (within part env earlier.length) own (view world)
    o.value = alone.value ∧ view o.world = alone.world ∧ o.log = lifted alone.log ++ earlier ∧ rest world o.world := by
  induction p generalizing own world with
  | done value => exact ⟨rfl, rfl, rfl, embeds.refl world⟩
  | await op next ih =>
    have place : (lifted own ++ earlier : History (Both Ans₁ Ans₂)).length = own.length + earlier.length := by
      simp [lifted]
    let met := env (own.length + earlier.length) (.inr op)
    have same := embeds.answer met op world
    have moved := embeds.moves met op world
    have kept := embeds.keeps met op world
    obtain ⟨value, moves, log, left⟩ := ih (inner (part met) op (view world)).1
      (⟨op, (inner (part met) op (view world)).1⟩ :: own) (outer met (.inr op) world).2
    simp only [lift, play, place, within]
    rw [same, ← moved]
    exact ⟨value, moves, log, embeds.trans kept left⟩

theorem Async.play_lift (embeds : Embeds outer inner view part rest) (env : Nat → Op₁ ⊕ Op₂ → Env₁)
    (x : Async Op₂ Ans₂ ε α) (earlier : History (Both Ans₁ Ans₂)) (world : World) :
    let o := Async.play outer env (Async.lift x) earlier world
    let alone := Async.play inner (within part env earlier.length) x [] (view world)
    o.value = alone.value ∧ view o.world = alone.world ∧ o.log = lifted alone.log ++ earlier ∧ rest world o.world :=
  Prog.play_lift embeds env (ExceptT.run x) [] earlier world

end

end Await
