import Mathlib.Data.List.Basic

namespace Await

/-- A program that stops at every operation it awaits and goes on with the
answer. Between two operations it runs without interruption. -/
inductive Prog (Op : Type) (Ans : Op → Type) (α : Type) : Type
  | done (value : α)
  | await (op : Op) (next : Ans op → Prog Op Ans α)

/-- The operations a program has performed with their answers, newest first. -/
abbrev History {Op : Type} (Ans : Op → Type) := List ((op : Op) × Ans op)

namespace Prog
variable {Op : Type} {Ans : Op → Type} {α β : Type}

def bind : Prog Op Ans α → (α → Prog Op Ans β) → Prog Op Ans β
  | done value, f => f value
  | await op next, f => await op fun answer => (next answer).bind f

instance : Monad (Prog Op Ans) where
  pure := done
  bind := bind

/-- The operation the program stands at; none once it has ended. -/
def waiting : Prog Op Ans α → Option Op
  | done _ => none
  | await op _ => some op

def result : Prog Op Ans α → Option α
  | done value => some value
  | await _ _ => none

/-- Along every path of answers the program asks only what `asks` allows
after what it has seen, and ends only as `ends` allows. -/
def Obeys (asks : History Ans → Op → Prop) (ends : History Ans → α → Prop) :
    Prog Op Ans α → History Ans → Prop
  | done value, seen => ends seen value
  | await op next, seen => asks seen op ∧ ∀ answer, (next answer).Obeys asks ends (⟨op, answer⟩ :: seen)

theorem obeys_bind {asks : History Ans → Op → Prop} {ends : History Ans → β → Prop}
    (p : Prog Op Ans α) (f : α → Prog Op Ans β) (seen : History Ans) :
    (p.bind f).Obeys asks ends seen ↔
      p.Obeys asks (fun later value => (f value).Obeys asks ends later) seen := by
  induction p generalizing seen with
  | done value => rfl
  | await op next ih => exact and_congr_right fun _ => forall_congr' fun answer => ih answer _

theorem Obeys.mono {asks asks' : History Ans → Op → Prop} {ends ends' : History Ans → α → Prop}
    (ask : ∀ seen op, asks seen op → asks' seen op) (finish : ∀ seen value, ends seen value → ends' seen value)
    {p : Prog Op Ans α} {seen : History Ans} (obeys : p.Obeys asks ends seen) :
    p.Obeys asks' ends' seen := by
  induction p generalizing seen with
  | done value => exact finish _ _ obeys
  | await op next ih => exact ⟨ask _ _ obeys.1, fun answer => ih answer (obeys.2 answer)⟩

/-- All that a history has asked behind an earlier one is of a kind. -/
def Since (kind : Op → Prop) (start seen : History Ans) : Prop := ∃ later, seen = later ++ start ∧ ∀ entry ∈ later, kind entry.1

theorem Since.refl (kind : Op → Prop) (start : History Ans) : Since kind start start :=
  ⟨[], rfl, fun _ member => absurd member List.not_mem_nil⟩

theorem Since.next {kind : Op → Prop} {start seen : History Ans} (since : Since kind start seen) {op : Op} (asked : kind op)
    (answer : Ans op) : Since kind start (⟨op, answer⟩ :: seen) := by
  obtain ⟨later, rfl, each⟩ := since
  refine ⟨⟨op, answer⟩ :: later, rfl, fun entry member => ?_⟩
  rcases List.mem_cons.mp member with rfl | old
  · exact asked
  · exact each entry old

/-- A program that asks only what is of a kind sees only that. -/
theorem Obeys.since {kind : Op → Prop} {ends : History Ans → α → Prop} {p : Prog Op Ans α} {start seen : History Ans}
    (obeys : p.Obeys (fun _ op => kind op) ends seen) (since : Since kind start seen) :
    p.Obeys (fun later op => kind op ∧ Since kind start later) (fun later value => ends later value ∧ Since kind start later)
      seen := by
  induction p generalizing seen with
  | done value => exact ⟨obeys, since⟩
  | await op next ih => exact ⟨⟨obeys.1, since⟩, fun answer => ih answer (obeys.2 answer) (since.next obeys.1 answer)⟩

theorem obeys_trivial (p : Prog Op Ans α) (seen : History Ans) : p.Obeys (fun _ _ => True) (fun _ _ => True) seen := by
  induction p generalizing seen with
  | done value => trivial
  | await op next ih => exact ⟨trivial, fun answer => ih answer _⟩

theorem Obeys.asked {asks : History Ans → Op → Prop} {ends : History Ans → α → Prop}
    {p : Prog Op Ans α} {seen : History Ans} {op : Op} (obeys : p.Obeys asks ends seen)
    (stands : p.waiting = some op) : asks seen op := by
  cases p with
  | done value => cases stands
  | await op' next => cases stands; exact obeys.1

theorem Obeys.ended {asks : History Ans → Op → Prop} {ends : History Ans → α → Prop}
    {p : Prog Op Ans α} {seen : History Ans} {value : α} (obeys : p.Obeys asks ends seen)
    (finished : p.result = some value) : ends seen value := by
  cases p with
  | done v => cases finished; exact obeys
  | await op next => cases finished

/-- Where nothing more may be asked, the program has ended. -/
theorem Obeys.finished {asks : History Ans → Op → Prop} {ends : History Ans → α → Prop}
    {p : Prog Op Ans α} {seen : History Ans} (obeys : p.Obeys asks ends seen) (silent : ∀ op, ¬ asks seen op) :
    ∃ value, p.result = some value ∧ ends seen value := by
  cases p with
  | done value => exact ⟨value, rfl, obeys⟩
  | await op next => exact absurd obeys.1 (silent op)

end Prog

/-- Programs that may throw. -/
abbrev Async (Op : Type) (Ans : Op → Type) (ε : Type) := ExceptT ε (Prog Op Ans)

namespace Async
variable {Op : Type} {Ans : Op → Type} {ε α β : Type}

/-- Awaits one operation and reads a value or an exception out of its answer. -/
def request (op : Op) (read : Ans op → Except ε α) : Async Op Ans ε α :=
  ExceptT.mk (.await op fun answer => .done (read answer))

def ofExcept (value : Except ε α) : Async Op Ans ε α := ExceptT.mk (.done value)

/-- `Prog.Obeys` with separate demands on returning and on throwing. -/
def Obeys (asks : History Ans → Op → Prop) (returns : History Ans → α → Prop)
    (throws : History Ans → ε → Prop) (x : Async Op Ans ε α) (seen : History Ans) : Prop :=
  Prog.Obeys asks (fun later outcome => match outcome with
    | .ok value => returns later value
    | .error err => throws later err) x.run seen

variable {asks : History Ans → Op → Prop} {throws : History Ans → ε → Prop}

@[simp] theorem obeys_pure {returns : History Ans → α → Prop} (value : α) (seen : History Ans) :
    Obeys asks returns throws (pure value) seen ↔ returns seen value := Iff.rfl

@[simp] theorem obeys_throw {returns : History Ans → α → Prop} (err : ε) (seen : History Ans) :
    Obeys asks returns throws (throw err) seen ↔ throws seen err := Iff.rfl

@[simp] theorem obeys_bind {returns : History Ans → β → Prop} (x : Async Op Ans ε α)
    (f : α → Async Op Ans ε β) (seen : History Ans) :
    Obeys asks returns throws (x >>= f) seen ↔
      Obeys asks (fun later value => Obeys asks returns throws (f value) later) throws x seen := by
  refine (Prog.obeys_bind x.run _ seen).trans ?_
  refine iff_of_eq (congrArg (fun ends => Prog.Obeys asks ends x.run seen) ?_)
  funext later outcome
  cases outcome <;> rfl

@[simp] theorem obeys_tryCatch {returns : History Ans → α → Prop} (x : Async Op Ans ε α)
    (f : ε → Async Op Ans ε α) (seen : History Ans) :
    Obeys asks returns throws (tryCatch x f) seen ↔
      Obeys asks returns (fun later err => Obeys asks returns throws (f err) later) x seen := by
  refine (Prog.obeys_bind x.run _ seen).trans ?_
  refine iff_of_eq (congrArg (fun ends => Prog.Obeys asks ends x.run seen) ?_)
  funext later outcome
  cases outcome <;> rfl

@[simp] theorem obeys_request {returns : History Ans → α → Prop} (op : Op) (read : Ans op → Except ε α)
    (seen : History Ans) :
    Obeys asks returns throws (request op read) seen ↔
      asks seen op ∧ ∀ answer, match read answer with
        | .ok value => returns (⟨op, answer⟩ :: seen) value
        | .error err => throws (⟨op, answer⟩ :: seen) err := Iff.rfl

@[simp] theorem obeys_ofExcept {returns : History Ans → α → Prop} (value : Except ε α) (seen : History Ans) :
    Obeys asks returns throws (ofExcept value) seen ↔ match value with
      | .ok value => returns seen value
      | .error err => throws seen err := Iff.rfl

theorem Obeys.mono {asks' : History Ans → Op → Prop} {returns returns' : History Ans → α → Prop}
    {throws' : History Ans → ε → Prop} (ask : ∀ seen op, asks seen op → asks' seen op)
    (ret : ∀ seen value, returns seen value → returns' seen value)
    (thr : ∀ seen err, throws seen err → throws' seen err) {x : Async Op Ans ε α} {seen : History Ans}
    (obeys : Obeys asks returns throws x seen) : Obeys asks' returns' throws' x seen := by
  refine Prog.Obeys.mono ask ?_ obeys
  rintro later (err | value) held
  · exact thr later err held
  · exact ret later value held

end Async

end Await
