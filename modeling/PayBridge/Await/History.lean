import Mathlib.Algebra.BigOperators.Group.Finset.Basic
import Mathlib.Algebra.Order.BigOperators.Group.Finset
import PayBridge.Await.Pool

namespace Await

/-- Every operation of a history was allowed after what had been seen before it. -/
def Follows {Op : Type} {Ans : Op → Type} (asks : History Ans → Op → Prop) : History Ans → Prop
  | [] => True
  | ⟨op, _⟩ :: earlier => asks earlier op ∧ Follows asks earlier

namespace Follows
variable {Op : Type} {Ans : Op → Type} {asks : History Ans → Op → Prop}

theorem suffix {later earlier : History Ans} (follows : Follows asks (later ++ earlier)) : Follows asks earlier := by
  induction later with
  | nil => exact follows
  | cons entry later ih => exact ih follows.2

/-- Two counts over a history compare when they compare after each operation,
the histories before it being compared already. -/
theorem count_le {p q : (op : Op) × Ans op → Bool} {history : History Ans} (follows : Follows asks history)
    (step : ∀ entry earlier, entry :: earlier <:+ history → asks earlier entry.1 → Follows asks earlier →
      (∀ older, older <:+ earlier → older.countP p ≤ older.countP q) →
      List.countP p (entry :: earlier) ≤ List.countP q (entry :: earlier)) :
    history.countP p ≤ history.countP q := by
  have all : ∀ length older, older.length ≤ length → older <:+ history → older.countP p ≤ older.countP q := by
    intro length
    induction length with
    | zero =>
      intro older short _
      have none : older = [] := List.length_eq_zero_iff.mp (by omega)
      simp [none]
    | succ length ih =>
      intro older short inside
      cases older with
      | nil => simp
      | cons entry earlier =>
        obtain ⟨later, rfl⟩ := inside
        have before := follows.suffix
        refine step entry earlier (List.suffix_append later _) before.1 before.2 fun oldest within => ?_
        have bound := within.length_le
        simp only [List.length_cons] at short
        exact ih oldest (by omega) (within.trans ((List.suffix_cons entry earlier).trans (List.suffix_append later _)))
  exact all history.length history (Nat.le_refl _) (List.suffix_refl history)

/-- What is asked for only where nothing of its kind has been seen is asked for once. -/
theorem at_most_once {kind : (op : Op) × Ans op → Bool} {history : History Ans} (follows : Follows asks history)
    (once : ∀ seen op answer, asks seen op → kind ⟨op, answer⟩ = true → ∀ earlier ∈ seen, kind earlier = false) :
    history.countP kind ≤ 1 := by
  induction history with
  | nil => simp
  | cons entry earlier ih =>
    obtain ⟨op, answer⟩ := entry
    by_cases fits : kind ⟨op, answer⟩ = true
    · have none : earlier.countP kind = 0 :=
        List.countP_eq_zero.mpr fun old member => by simp [once earlier op answer follows.1 fits old member]
      simp [fits, none]
    · rw [List.countP_cons_of_neg fits]
      exact ih follows.2

end Follows

/-- Every thread of a reached pool has followed its own course. -/
theorem Reach.follows {Op : Type} {Ans : Op → Type} {World Env Req Reply : Type}
    {S : System Op Ans World Env Req Reply} {world : World}
    {meets : Pool Op Ans World Req Reply → Event Req Env → Prop} {s : Pool Op Ans World Req Reply}
    {asks : Req → History Ans → Op → Prop} {ends : Req → History Ans → Reply → Prop}
    (start : ∀ request, (S.start request).Obeys (asks request) (ends request) [])
    (reach : Reach S meets world s) {i : Nat} {t : Thread Op Ans Req Reply} (atI : s.threads[i]? = some t) :
    Follows (asks t.request) (own i s.log) := by
  have both := reach.each_thread
    (fun request prog seen => prog.Obeys (asks request) (ends request) seen ∧ Follows (asks request) seen)
    (fun request => ⟨start request, trivial⟩)
    (fun request op next seen ⟨obeys, follows⟩ answer => ⟨obeys.2 answer, obeys.1, follows⟩) atI
  exact both.2

/-- Everything in the log was asked by a thread, after what allowed it to. -/
theorem Reach.asked_after {Op : Type} {Ans : Op → Type} {World Env Req Reply : Type}
    {S : System Op Ans World Env Req Reply} {world : World}
    {meets : Pool Op Ans World Req Reply → Event Req Env → Prop} {s : Pool Op Ans World Req Reply}
    {asks : Req → History Ans → Op → Prop} {ends : Req → History Ans → Reply → Prop}
    (start : ∀ request, (S.start request).Obeys (asks request) (ends request) [])
    (reach : Reach S meets world s) {i : Nat} {op : Op} {answer : Ans op} (member : (i, ⟨op, answer⟩) ∈ s.log) :
    ∃ t earlier, s.threads[i]? = some t ∧ asks t.request earlier op ∧ ∃ later, own i s.log = later ++ ⟨op, answer⟩ :: earlier := by
  have standing := List.getElem?_eq_getElem (reach.log_thread member)
  have follows := reach.follows start standing
  obtain ⟨later, earlier, split⟩ := List.append_of_mem (mem_own.mpr member)
  rw [split] at follows
  exact ⟨_, earlier, standing, follows.suffix.1, later, split⟩

/-- Everything in the log was asked by a thread, where its course allows it. -/
theorem Reach.asked_at {Op : Type} {Ans : Op → Type} {World Env Req Reply : Type}
    {S : System Op Ans World Env Req Reply} {world : World}
    {meets : Pool Op Ans World Req Reply → Event Req Env → Prop} {s : Pool Op Ans World Req Reply}
    {asks : Req → History Ans → Op → Prop} {ends : Req → History Ans → Reply → Prop}
    (start : ∀ request, (S.start request).Obeys (asks request) (ends request) [])
    (reach : Reach S meets world s) {i : Nat} {op : Op} {answer : Ans op} (member : (i, ⟨op, answer⟩) ∈ s.log) :
    ∃ t earlier, s.threads[i]? = some t ∧ asks t.request earlier op ∧ ∀ entry ∈ earlier, (i, entry) ∈ s.log := by
  obtain ⟨t, earlier, standing, course, later, split⟩ := reach.asked_after start member
  refine ⟨t, earlier, standing, course, fun entry inside => mem_own.mp ?_⟩
  rw [split]
  exact List.mem_append_right _ (List.mem_cons_of_mem _ inside)

/-- Where every request asks for something at most once, every thread has. -/
theorem Reach.at_most_once {Op : Type} {Ans : Op → Type} {World Env Req Reply : Type}
    {S : System Op Ans World Env Req Reply} {world : World}
    {meets : Pool Op Ans World Req Reply → Event Req Env → Prop} {s : Pool Op Ans World Req Reply}
    {asks : Req → History Ans → Op → Prop} {ends : Req → History Ans → Reply → Prop} {kind : (op : Op) × Ans op → Bool}
    (start : ∀ request, (S.start request).Obeys (asks request) (ends request) [])
    (reach : Reach S meets world s) (i : Nat)
    (once : ∀ request seen op answer, asks request seen op → kind ⟨op, answer⟩ = true → ∀ earlier ∈ seen, kind earlier = false) :
    (own i s.log).countP kind ≤ 1 := by
  cases standing : s.threads[i]? with
  | none =>
    have silent : own i s.log = [] := by
      refine List.eq_nil_iff_forall_not_mem.mpr fun entry member => ?_
      have inside := reach.log_thread (mem_own.mp member)
      rw [List.getElem?_eq_getElem inside] at standing
      cases standing
    rw [silent]
    exact Nat.zero_le _
  | some t => exact (reach.follows start standing).at_most_once (once t.request)

section
variable {Op : Type} {Ans : Op → Type} {ρ : Type} (made : (op : Op) × Ans op → Option ρ)

/-- What the entries of a log have made, in order, with the threads that have made it. -/
def gather (log : List (Nat × (op : Op) × Ans op)) : List (Nat × ρ) :=
  log.reverse.filterMap fun entry => (made entry.2).map (Prod.mk entry.1)

variable {made}

theorem gather_cons (i : Nat) (entry : (op : Op) × Ans op) (log : List (Nat × (op : Op) × Ans op)) :
    gather made ((i, entry) :: log) = gather made log ++ ((made entry).map (Prod.mk i)).toList := by
  simp only [gather, List.reverse_cons, List.filterMap_append, List.filterMap_cons, List.filterMap_nil]
  cases made entry <;> rfl

theorem mem_gather {log : List (Nat × (op : Op) × Ans op)} {i : Nat} {row : ρ} :
    (i, row) ∈ gather made log ↔ ∃ entry, (i, entry) ∈ log ∧ made entry = some row := by
  simp only [gather, List.mem_filterMap, List.mem_reverse, Option.map_eq_some_iff]
  constructor
  · rintro ⟨⟨j, entry⟩, member, value, same, made⟩
    cases made
    exact ⟨entry, member, same⟩
  · rintro ⟨entry, member, same⟩
    exact ⟨(i, entry), member, row, same, rfl⟩

theorem gather_count (log : List (Nat × (op : Op) × Ans op)) (i : Nat) :
    ((gather made log).map Prod.fst).count i = (own i log).countP fun entry => (made entry).isSome := by
  induction log with
  | nil => rfl
  | cons head rest ih =>
    obtain ⟨j, entry⟩ := head
    rw [gather_cons, List.map_append, List.count_append, ih, own_cons]
    by_cases same : j = i
    · subst same
      rw [if_pos rfl, List.countP_cons]
      cases made entry <;> simp
    · rw [if_neg same]
      cases made entry <;> simp [same]

/-- Where no thread makes more than one, all are made by different threads. -/
theorem gather_nodup {log : List (Nat × (op : Op) × Ans op)}
    (once : ∀ i, ((own i log).countP fun entry => (made entry).isSome) ≤ 1) : ((gather made log).map Prod.fst).Nodup := by
  refine List.nodup_iff_count_le_one.mpr fun i => ?_
  rw [gather_count]
  exact once i

end

section
open Finset
variable {Op : Type} {Ans : Op → Type}

/-- A count over the log is the sum of the counts over what each thread has seen. -/
theorem countP_log (p : Nat → (op : Op) × Ans op → Bool) {log : List (Nat × (op : Op) × Ans op)} {n : Nat}
    (inside : ∀ i entry, (i, entry) ∈ log → i < n) :
    log.countP (fun e => p e.1 e.2) = ∑ i ∈ range n, (own i log).countP (p i) := by
  induction log with
  | nil => simp
  | cons head rest ih =>
    obtain ⟨j, entry⟩ := head
    have member : j ∈ range n := mem_range.mpr (inside j entry (List.mem_cons_self ..))
    have others : ∀ i ∈ (range n).erase j, (own i ((j, entry) :: rest)).countP (p i) = (own i rest).countP (p i) := by
      intro i away
      rw [own_cons_ne (Finset.ne_of_mem_erase away).symm]
    rw [List.countP_cons, ih fun i e old => inside i e (List.mem_cons_of_mem _ old),
      ← add_sum_erase _ _ member, ← add_sum_erase _ _ member, sum_congr rfl others, own_cons_self,
      List.countP_cons]
    simp only
    omega

/-- Counts over the log compare when they compare for every thread. -/
theorem countP_log_le (p q : Nat → (op : Op) × Ans op → Bool) (log : List (Nat × (op : Op) × Ans op))
    (each : ∀ i, (own i log).countP (p i) ≤ (own i log).countP (q i)) :
    log.countP (fun e => p e.1 e.2) ≤ log.countP (fun e => q e.1 e.2) := by
  obtain ⟨n, inside⟩ : ∃ n, ∀ i entry, (i, entry) ∈ log → i < n := by
    refine ⟨(log.map Prod.fst).sum + 1, fun i entry member => ?_⟩
    have below := List.le_sum_of_mem (List.mem_map_of_mem (f := Prod.fst) member)
    simp only at below
    omega
  rw [countP_log p inside, countP_log q inside]
  exact sum_le_sum fun i _ => each i

end

end Await
