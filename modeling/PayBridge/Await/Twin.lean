import PayBridge.Await.Played

namespace Await

/-- Two outcomes that return related values or throw the same. -/
inductive Together {ε α β : Type} (V : α → β → Prop) : Except ε α → Except ε β → Prop
  | returned {a : α} {b : β} : V a b → Together V (.ok a) (.ok b)
  | thrown (err : ε) : Together V (.error err) (.error err)

theorem Together.eq {ε α : Type} {x y : Except ε α} (together : Together Eq x y) : x = y := by
  cases together with
  | returned same => rw [same]
  | thrown err => rfl

namespace Async
variable {Op : Type} {Ans : Op → Type} {World Env ε α β γ δ : Type}

/-- Two programs that, from related worlds and at the same place of a run, end
together, in related worlds and at the same place. The operations they ask may
differ; each meets what its place in the run gives. -/
def Twins (perform : Env → (op : Op) → World → Ans op × World) (env : Nat → Env) (R : World → World → Prop)
    (V : α → β → Prop) (x : Async Op Ans ε α) (y : Async Op Ans ε β) : Prop :=
  ∀ (seen seen' : History Ans) (left right : World), seen.length = seen'.length → R left right →
    let l := play perform (fun n _ => env n) x seen left
    let r := play perform (fun n _ => env n) y seen' right
    Together V l.value r.value ∧ l.log.length = r.log.length ∧ R l.world r.world

variable {perform : Env → (op : Op) → World → Ans op × World} {env : Nat → Env} {R : World → World → Prop}
variable {V : α → β → Prop} {W : γ → δ → Prop}

theorem Twins.pure {a : α} {b : β} (related : V a b) :
    Twins perform env R V (Pure.pure a : Async Op Ans ε α) (Pure.pure b) := by
  intro seen seen' left right place worlds
  exact ⟨.returned related, place, worlds⟩

theorem Twins.request {op op' : Op} {read : Ans op → Except ε α} {read' : Ans op' → Except ε β}
    (step : ∀ e left right, R left right → Together V (read (perform e op left).1) (read' (perform e op' right).1) ∧
      R (perform e op left).2 (perform e op' right).2) :
    Twins perform env R V (Async.request op read) (Async.request op' read') := by
  intro seen seen' left right place worlds
  obtain ⟨together, after⟩ := step (env seen.length) left right worlds
  simp only [play_request, List.length_cons]
  rw [← place]
  exact ⟨together, rfl, after⟩

theorem Twins.bind {x : Async Op Ans ε α} {y : Async Op Ans ε β} {f : α → Async Op Ans ε γ} {g : β → Async Op Ans ε δ}
    (first : Twins perform env R V x y) (next : ∀ a b, V a b → Twins perform env R W (f a) (g b)) :
    Twins perform env R W (x >>= f) (y >>= g) := by
  intro seen seen' left right place worlds
  obtain ⟨together, later, after⟩ := first seen seen' left right place worlds
  simp only [play_bind]
  generalize (play perform (fun n _ => env n) x seen left).value = a at together ⊢
  generalize (play perform (fun n _ => env n) y seen' right).value = b at together ⊢
  cases together with
  | returned related => exact next _ _ related _ _ _ _ later after
  | thrown err => exact ⟨.thrown err, later, after⟩

theorem Twins.tryCatch {x : Async Op Ans ε α} {y : Async Op Ans ε β} {f : ε → Async Op Ans ε α} {g : ε → Async Op Ans ε β}
    (first : Twins perform env R V x y) (handle : ∀ err, Twins perform env R V (f err) (g err)) :
    Twins perform env R V (MonadExcept.tryCatch x f) (MonadExcept.tryCatch y g) := by
  intro seen seen' left right place worlds
  obtain ⟨together, later, after⟩ := first seen seen' left right place worlds
  simp only [play_tryCatch]
  generalize (play perform (fun n _ => env n) x seen left).value = a at together ⊢
  generalize (play perform (fun n _ => env n) y seen' right).value = b at together ⊢
  cases together with
  | returned related => exact ⟨.returned related, later, after⟩
  | thrown err => exact handle err _ _ _ _ later after

end Async

end Await
