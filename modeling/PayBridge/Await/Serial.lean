import PayBridge.Await.Program

namespace Await

/-- What a program leaves when it has run alone to its end. The log keeps
what it performed, newest first. -/
structure Outcome {Op : Type} (Ans : Op → Type) (World α : Type) where
  value : α
  world : World
  log : History Ans

namespace Outcome
variable {Op : Type} {Ans : Op → Type} {World α : Type}

/-- The same outcome behind operations performed earlier. -/
def after (earlier : History Ans) (o : Outcome Ans World α) : Outcome Ans World α :=
  { o with log := o.log ++ earlier }

@[simp] theorem after_nil (o : Outcome Ans World α) : o.after [] = o := by
  simp [after]

@[simp] theorem after_after (first second : History Ans) (o : Outcome Ans World α) :
    (o.after second).after first = o.after (second ++ first) := by
  simp [after]

@[simp] theorem after_value (earlier : History Ans) (o : Outcome Ans World α) :
    (o.after earlier).value = o.value := rfl

@[simp] theorem after_world (earlier : History Ans) (o : Outcome Ans World α) :
    (o.after earlier).world = o.world := rfl

@[simp] theorem after_log (earlier : History Ans) (o : Outcome Ans World α) :
    (o.after earlier).log = o.log ++ earlier := rfl

end Outcome

namespace Prog
variable {Op : Type} {Ans : Op → Type} {World Env α β : Type}
variable (perform : Env → (op : Op) → World → Ans op × World) (env : Op → Env)

/-- Runs a program alone. `env` is the environment each operation meets. -/
def run : Prog Op Ans α → World → Outcome Ans World α
  | done value, world => ⟨value, world, []⟩
  | await op next, world =>
    ((next (perform (env op) op world).1).run (perform (env op) op world).2).after
      [⟨op, (perform (env op) op world).1⟩]

theorem run_bind (p : Prog Op Ans α) (f : α → Prog Op Ans β) (world : World) :
    (p.bind f).run perform env world =
      ((f (p.run perform env world).value).run perform env (p.run perform env world).world).after
        (p.run perform env world).log := by
  induction p generalizing world with
  | done value => simp [bind, run]
  | await op next ih => simp [bind, run, ih]

end Prog

namespace Async
variable {Op : Type} {Ans : Op → Type} {World Env ε α β : Type}
variable (perform : Env → (op : Op) → World → Ans op × World) (env : Op → Env)

def run (x : Async Op Ans ε α) (world : World) : Outcome Ans World (Except ε α) :=
  Prog.run perform env (ExceptT.run x) world

@[simp] theorem run_pure (value : α) (world : World) :
    run perform env (pure value : Async Op Ans ε α) world = ⟨.ok value, world, []⟩ := rfl

@[simp] theorem run_throw (err : ε) (world : World) :
    run perform env (throw err : Async Op Ans ε α) world = ⟨.error err, world, []⟩ := rfl

@[simp] theorem run_ofExcept (value : Except ε α) (world : World) :
    run perform env (ofExcept value : Async Op Ans ε α) world = ⟨value, world, []⟩ := rfl

@[simp] theorem run_request (op : Op) (read : Ans op → Except ε α) (world : World) :
    run perform env (request op read) world =
      ⟨read (perform (env op) op world).1, (perform (env op) op world).2, [⟨op, (perform (env op) op world).1⟩]⟩ := rfl

theorem run_bind (x : Async Op Ans ε α) (f : α → Async Op Ans ε β) (world : World) :
    run perform env (x >>= f) world = match (run perform env x world).value with
      | .ok value => (run perform env (f value) (run perform env x world).world).after (run perform env x world).log
      | .error err => ⟨.error err, (run perform env x world).world, (run perform env x world).log⟩ := by
  refine (Prog.run_bind perform env (ExceptT.run x) _ world).trans ?_
  unfold run
  split
  · next value same => rw [same]; rfl
  · next err same => rw [same]; rfl

theorem run_tryCatch (x : Async Op Ans ε α) (f : ε → Async Op Ans ε α) (world : World) :
    run perform env (tryCatch x f) world = match (run perform env x world).value with
      | .ok value => ⟨.ok value, (run perform env x world).world, (run perform env x world).log⟩
      | .error err => (run perform env (f err) (run perform env x world).world).after (run perform env x world).log := by
  refine (Prog.run_bind perform env (ExceptT.run x) _ world).trans ?_
  unfold run
  split
  · next value same => rw [same]; rfl
  · next err same => rw [same]; rfl

end Async

end Await
