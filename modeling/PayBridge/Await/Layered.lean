import PayBridge.Await.Pool

namespace Await

/-- The answers to the operations of two sets. -/
abbrev Both {Op₁ Op₂ : Type} (Ans₁ : Op₁ → Type) (Ans₂ : Op₂ → Type) : Op₁ ⊕ Op₂ → Type
  | .inl op => Ans₁ op
  | .inr op => Ans₂ op

section
variable {Op₁ Op₂ : Type} {Ans₁ : Op₁ → Type} {Ans₂ : Op₂ → Type} {α ε : Type}

/-- A history of the inner operations, as one of both. -/
def lifted (seen : History Ans₂) : History (Both Ans₁ Ans₂) := seen.map fun entry => ⟨.inr entry.1, entry.2⟩

@[simp] theorem lifted_nil : (lifted [] : History (Both Ans₁ Ans₂)) = [] := rfl

@[simp] theorem lifted_cons (op : Op₂) (answer : Ans₂ op) (seen : History Ans₂) :
    (lifted (⟨op, answer⟩ :: seen) : History (Both Ans₁ Ans₂)) = ⟨.inr op, answer⟩ :: lifted seen := rfl

theorem mem_lifted {entry : (op : Op₁ ⊕ Op₂) × Both Ans₁ Ans₂ op} {seen : History Ans₂} (member : entry ∈ lifted seen) :
    ∃ op answer, entry = ⟨.inr op, answer⟩ ∧ ⟨op, answer⟩ ∈ seen := by
  obtain ⟨⟨op, answer⟩, inside, rfl⟩ := List.mem_map.mp member
  exact ⟨op, answer, rfl, inside⟩

theorem mem_lifted_of {op : Op₂} {answer : Ans₂ op} {seen : History Ans₂} (member : ⟨op, answer⟩ ∈ seen) :
    (⟨.inr op, answer⟩ : (op : Op₁ ⊕ Op₂) × Both Ans₁ Ans₂ op) ∈ (lifted seen : History (Both Ans₁ Ans₂)) :=
  List.mem_map.mpr ⟨_, member, rfl⟩

/-- What was done with the inner operations, in a log of both. -/
def inward (log : List (Nat × (op : Op₁ ⊕ Op₂) × Both Ans₁ Ans₂ op)) : List (Nat × (op : Op₂) × Ans₂ op) :=
  log.filterMap fun
    | (i, ⟨.inr op, answer⟩) => some (i, ⟨op, answer⟩)
    | (_, ⟨.inl _, _⟩) => none

@[simp] theorem inward_inl (i : Nat) (op : Op₁) (answer : Ans₁ op) (log : List (Nat × (op : Op₁ ⊕ Op₂) × Both Ans₁ Ans₂ op)) :
    inward ((i, ⟨.inl op, answer⟩) :: log) = inward log := rfl

@[simp] theorem inward_inr (i : Nat) (op : Op₂) (answer : Ans₂ op) (log : List (Nat × (op : Op₁ ⊕ Op₂) × Both Ans₁ Ans₂ op)) :
    inward ((i, ⟨.inr op, answer⟩) :: log) = (i, ⟨op, answer⟩) :: inward log := rfl

theorem mem_inward {i : Nat} {op : Op₂} {answer : Ans₂ op} {log : List (Nat × (op : Op₁ ⊕ Op₂) × Both Ans₁ Ans₂ op)}
    (member : (i, (⟨.inr op, answer⟩ : (op : Op₁ ⊕ Op₂) × Both Ans₁ Ans₂ op)) ∈ log) : (i, ⟨op, answer⟩) ∈ inward log :=
  List.mem_filterMap.mpr ⟨_, member, rfl⟩

theorem of_mem_inward {i : Nat} {entry : (op : Op₂) × Ans₂ op} {log : List (Nat × (op : Op₁ ⊕ Op₂) × Both Ans₁ Ans₂ op)}
    (member : (i, entry) ∈ inward log) : (i, (⟨.inr entry.1, entry.2⟩ : (op : Op₁ ⊕ Op₂) × Both Ans₁ Ans₂ op)) ∈ log := by
  obtain ⟨⟨j, op, answer⟩, inside, kept⟩ := List.mem_filterMap.mp member
  cases op with
  | inl op => cases kept
  | inr op =>
    cases kept
    exact inside

namespace Prog

/-- A program over the inner operations run among the outer ones. -/
def lift : Prog Op₂ Ans₂ α → Prog (Op₁ ⊕ Op₂) (Both Ans₁ Ans₂) α
  | done value => done value
  | await op next => await (.inr op) fun answer => (next answer).lift

/-- A lifted program asks and ends as it does alone, behind what came before it. -/
theorem obeys_lift {asks : History (Both Ans₁ Ans₂) → Op₁ ⊕ Op₂ → Prop} {ends : History (Both Ans₁ Ans₂) → α → Prop}
    (p : Prog Op₂ Ans₂ α) (inner : History Ans₂) (earlier : History (Both Ans₁ Ans₂)) :
    p.lift.Obeys asks ends (lifted inner ++ earlier) ↔
      p.Obeys (fun seen op => asks (lifted seen ++ earlier) (.inr op)) (fun seen value => ends (lifted seen ++ earlier) value)
        inner := by
  induction p generalizing inner with
  | done value => rfl
  | await op next ih => exact and_congr_right fun _ => forall_congr' fun answer => ih answer (⟨op, answer⟩ :: inner)

end Prog

namespace Async

def lift (x : Async Op₂ Ans₂ ε α) : Async (Op₁ ⊕ Op₂) (Both Ans₁ Ans₂) ε α := ExceptT.mk (Prog.lift (ExceptT.run x))

theorem obeys_lift {asks : History (Both Ans₁ Ans₂) → Op₁ ⊕ Op₂ → Prop}
    {returns : History (Both Ans₁ Ans₂) → α → Prop} {throws : History (Both Ans₁ Ans₂) → ε → Prop}
    {course : History Ans₂ → Op₂ → Prop} {value : History Ans₂ → α → Prop} {error : History Ans₂ → ε → Prop}
    {x : Async Op₂ Ans₂ ε α} (obeys : Obeys course value error x []) (earlier : History (Both Ans₁ Ans₂))
    (ask : ∀ seen op, course seen op → asks (lifted seen ++ earlier) (.inr op))
    (ret : ∀ seen a, value seen a → returns (lifted seen ++ earlier) a)
    (thr : ∀ seen err, error seen err → throws (lifted seen ++ earlier) err) :
    Obeys asks returns throws (lift x) earlier := by
  refine (Prog.obeys_lift (ExceptT.run x) [] earlier).mpr (Prog.Obeys.mono ask ?_ obeys)
  rintro seen (err | a) held
  · exact thr seen err held
  · exact ret seen a held

/-- With nothing before it, a lifted computation asks what it asks alone. -/
theorem obeys_lift_alone {course : History Ans₂ → Op₂ → Prop} {value : History Ans₂ → α → Prop} {error : History Ans₂ → ε → Prop}
    {x : Async Op₂ Ans₂ ε α} (obeys : Obeys course value error x []) :
    Obeys (fun (seen : History (Both Ans₁ Ans₂)) op => ∃ inner own, op = .inr own ∧ seen = lifted inner ∧ course inner own)
      (fun _ _ => True) (fun _ _ => True) (lift x) [] := by
  refine obeys_lift obeys [] (fun inner op asks => ⟨inner, op, rfl, ?_, asks⟩) (fun _ _ _ => trivial) fun _ _ _ => trivial
  rw [List.append_nil]

end Async

/-- A history of the outer operations, as one of both. -/
def liftedLeft (seen : History Ans₁) : History (Both Ans₁ Ans₂) := seen.map fun entry => ⟨.inl entry.1, entry.2⟩

@[simp] theorem liftedLeft_nil : (liftedLeft [] : History (Both Ans₁ Ans₂)) = [] := rfl

@[simp] theorem liftedLeft_cons (op : Op₁) (answer : Ans₁ op) (seen : History Ans₁) :
    (liftedLeft (⟨op, answer⟩ :: seen) : History (Both Ans₁ Ans₂)) = ⟨.inl op, answer⟩ :: liftedLeft seen := rfl

/-- A program over the outer operations run among the inner ones. -/
def Prog.liftLeft : Prog Op₁ Ans₁ α → Prog (Op₁ ⊕ Op₂) (Both Ans₁ Ans₂) α
  | done value => done value
  | await op next => await (.inl op) fun answer => (next answer).liftLeft

theorem Prog.obeys_liftLeft {asks : History (Both Ans₁ Ans₂) → Op₁ ⊕ Op₂ → Prop} {ends : History (Both Ans₁ Ans₂) → α → Prop}
    (p : Prog Op₁ Ans₁ α) (outer : History Ans₁) :
    p.liftLeft.Obeys asks ends (liftedLeft outer) ↔
      p.Obeys (fun seen op => asks (liftedLeft seen) (.inl op)) (fun seen value => ends (liftedLeft seen) value) outer := by
  induction p generalizing outer with
  | done value => rfl
  | await op next ih => exact and_congr_right fun _ => forall_congr' fun answer => ih answer (⟨op, answer⟩ :: outer)

def Async.liftLeft (x : Async Op₁ Ans₁ ε α) : Async (Op₁ ⊕ Op₂) (Both Ans₁ Ans₂) ε α := ExceptT.mk (Prog.liftLeft (ExceptT.run x))

theorem Async.obeys_liftLeft {asks : History (Both Ans₁ Ans₂) → Op₁ ⊕ Op₂ → Prop}
    {returns : History (Both Ans₁ Ans₂) → α → Prop} {throws : History (Both Ans₁ Ans₂) → ε → Prop}
    {course : History Ans₁ → Op₁ → Prop} {value : History Ans₁ → α → Prop} {error : History Ans₁ → ε → Prop}
    {x : Async Op₁ Ans₁ ε α} (obeys : Obeys course value error x [])
    (ask : ∀ seen op, course seen op → asks (liftedLeft seen) (.inl op))
    (ret : ∀ seen a, value seen a → returns (liftedLeft seen) a)
    (thr : ∀ seen err, error seen err → throws (liftedLeft seen) err) :
    Obeys asks returns throws (liftLeft x) [] := by
  refine (Prog.obeys_liftLeft (ExceptT.run x) []).mpr (Prog.Obeys.mono ask ?_ obeys)
  rintro seen (err | a) held
  · exact thr seen err held
  · exact ret seen a held

end

end Await
