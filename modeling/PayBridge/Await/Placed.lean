import PayBridge.Await.Played

namespace Await

namespace Prog
variable {Op : Type} {Ans : Op → Type} {World Env α : Type}
variable {perform : Env → (op : Op) → World → Ans op × World} {env given : Nat → Op → Env}
variable {asks : History Ans → Op → Prop} {ends : History Ans → α → Prop}

/-- A run only adds to the log. -/
theorem play_grows (perform : Env → (op : Op) → World → Ans op × World) (env : Nat → Op → Env) (p : Prog Op Ans α)
    (seen : History Ans) (world : World) : ∃ new, (p.play perform env seen world).log = new ++ seen := by
  induction p generalizing seen world with
  | done value => exact ⟨[], rfl⟩
  | await op next ih =>
    obtain ⟨new, log⟩ := ih (perform (env seen.length op) op world).1
      (⟨op, (perform (env seen.length op) op world).1⟩ :: seen) (perform (env seen.length op) op world).2
    exact ⟨new ++ [⟨op, (perform (env seen.length op) op world).1⟩], by rw [play, log, List.append_assoc]; rfl⟩

/-- A program runs behind what has been seen as it does alone, in two worlds
that answer it alike, if its steps meet at their places what they meet alone. -/
theorem Obeys.placed {R : History Ans → World → World → Prop} {p : Prog Op Ans α} {own seen : History Ans}
    (obeys : p.Obeys asks ends own)
    (step : ∀ own op left right, asks own op → R own left right →
      let l := perform (given own.length op) op left
      let r := perform (given own.length op) op right
      l.1 = r.1 ∧ R (⟨op, l.1⟩ :: own) l.2 r.2)
    {left right : World} (start : R own left right)
    (met : ∀ n op, own.length ≤ n → seen.length + n < (p.play perform env (own ++ seen) left).log.length →
      env (seen.length + n) op = given n op) :
    let l := p.play perform env (own ++ seen) left
    let r := p.play perform given own right
    l.value = r.value ∧ l.log = r.log ++ seen ∧ R r.log l.world r.world := by
  induction p generalizing own left right with
  | done value => exact ⟨rfl, rfl, start⟩
  | await op next ih =>
    have place : (own ++ seen).length = seen.length + own.length := by
      rw [List.length_append, Nat.add_comm]
    simp only [play, place] at met ⊢
    have here : env (seen.length + own.length) op = given own.length op := by
      refine met own.length op (Nat.le_refl _) ?_
      obtain ⟨new, log⟩ := play_grows perform env (next (perform (env (seen.length + own.length) op) op left).1)
        (⟨op, (perform (env (seen.length + own.length) op) op left).1⟩ :: (own ++ seen))
        (perform (env (seen.length + own.length) op) op left).2
      rw [log, List.length_append, List.length_cons, place]
      omega
    obtain ⟨same, related⟩ := step own op left right obeys.1 start
    rw [here] at met ⊢
    rw [← same]
    exact ih _ (obeys.2 _) related fun n op later inside => met n op (by rw [List.length_cons] at later; omega) inside

/-- A run depends on what its own steps meet. -/
theorem play_congr {p : Prog Op Ans α} {seen : History Ans} {world : World}
    (met : ∀ n op, seen.length ≤ n → n < (p.play perform env seen world).log.length → env n op = given n op) :
    p.play perform env seen world = p.play perform given seen world := by
  have alike : (p.play perform env (seen ++ []) world).value = (p.play perform given seen world).value ∧
      (p.play perform env (seen ++ []) world).log = (p.play perform given seen world).log ++ [] ∧
      (p.play perform env (seen ++ []) world).world = (p.play perform given seen world).world :=
    (obeys_trivial p seen).placed (R := fun _ left right => left = right)
      (fun own op left right _ same => by subst same; exact ⟨rfl, rfl⟩) rfl (by simpa using met)
  simp only [List.append_nil] at alike
  generalize p.play perform env seen world = left at alike ⊢
  generalize p.play perform given seen world = right at alike ⊢
  obtain ⟨value, world, log⟩ := left
  obtain ⟨rfl, rfl, rfl⟩ := alike
  rfl

end Prog

namespace Async
variable {Op : Type} {Ans : Op → Type} {World Env ε α : Type}
variable {perform : Env → (op : Op) → World → Ans op × World} {env given : Nat → Op → Env}
variable {asks : History Ans → Op → Prop} {returns : History Ans → α → Prop} {throws : History Ans → ε → Prop}

theorem play_grows (perform : Env → (op : Op) → World → Ans op × World) (env : Nat → Op → Env) (x : Async Op Ans ε α)
    (seen : History Ans) (world : World) : ∃ new, (play perform env x seen world).log = new ++ seen :=
  Prog.play_grows perform env (ExceptT.run x) seen world

/-- A run alone, and the same behind what has been seen. -/
theorem Obeys.placed {R : World → World → Prop} {x : Async Op Ans ε α} {seen : History Ans}
    (obeys : Obeys asks returns throws x [])
    (step : ∀ own op left right, asks own op → R left right →
      let l := perform (given own.length op) op left
      let r := perform (given own.length op) op right
      l.1 = r.1 ∧ R l.2 r.2)
    {left right : World} (start : R left right)
    (met : ∀ n op, seen.length + n < (play perform env x seen left).log.length → env (seen.length + n) op = given n op) :
    let l := play perform env x seen left
    let r := play perform given x [] right
    l.value = r.value ∧ l.log = r.log ++ seen ∧ R l.world r.world :=
  Prog.Obeys.placed (R := fun _ => R) obeys step start fun n op _ inside => met n op inside

theorem play_congr {x : Async Op Ans ε α} {seen : History Ans} {world : World}
    (met : ∀ n op, seen.length ≤ n → n < (play perform env x seen world).log.length → env n op = given n op) :
    play perform env x seen world = play perform given x seen world :=
  Prog.play_congr met

end Async

end Await
