import PayBridge.Await.Played

namespace Await

section
variable {Op : Type} {Ans : Op → Type} {World Env Req Reply : Type}
variable (S : System Op Ans World Env Req Reply)

/-- What a call leaves that is made while nothing else runs. -/
def System.alone (request : Req) (env : Nat → Op → Env) (world : World) : Outcome Ans World Reply :=
  (S.start request).play S.perform env [] world

variable (drift : World → World → Prop) (meets : Req → (Nat → Op → Env) → World → Prop) (world : World)

/-- The worlds after calls made one after the other, with all that the calls
have seen, newest first. Between two calls the world may drift. -/
inductive Series : History Ans → World → Prop
  | start : Series [] world
  | between {seen before after} : Series seen before → drift before after → Series seen after
  | call {seen before} (request env) : Series seen before → meets request env before →
      Series ((S.alone request env before).log ++ seen) (S.alone request env before).world

end

namespace Series
variable {Op : Type} {Ans : Op → Type} {World Env Req Reply : Type}
variable {S : System Op Ans World Env Req Reply} {drift : World → World → Prop}
variable {meets : Req → (Nat → Op → Env) → World → Prop} {world : World}

/-- What drifting and every call keep, a series keeps. -/
theorem keeps {I : History Ans → World → Prop} (start : I [] world)
    (drifts : ∀ seen before after, I seen before → drift before after → I seen after)
    (calls : ∀ seen before request env, I seen before → meets request env before →
      I ((S.alone request env before).log ++ seen) (S.alone request env before).world)
    {seen : History Ans} {after : World} (series : Series S drift meets world seen after) : I seen after := by
  induction series with
  | start => exact start
  | between _ drifted ih => exact drifts _ _ _ ih drifted
  | call _ _ _ met ih => exact calls _ _ _ _ ih met

end Series

end Await
