import Mathlib.Algebra.BigOperators.Group.List.Basic
import PayBridge.Store.Table

namespace Store
namespace Table
variable {κ ρ : Type} [DecidableEq κ] {key : ρ → κ}

/-- An `upsert` rewrites a row that is there, or adds one at the end. -/
theorem upsert_rows (t : Table key) (first : ρ) (f : ρ → ρ) (keeps : ∀ r, key (f r) = key r) :
    (∃ old, t.find (key first) = some old ∧ t.upsert first f keeps = t.modify (key first) f keeps) ∨
      t.find (key first) = none ∧ (t.upsert first f keeps).rows = t.rows ++ [f first] := by
  unfold upsert
  split
  · next old found => exact .inl ⟨old, found, rfl⟩
  · next absent => exact .inr ⟨absent, rfl⟩

theorem find_upsert (t : Table key) (first : ρ) (f : ρ → ρ) (keeps : ∀ r, key (f r) = key r) (k : κ) :
    (t.upsert first f keeps).find k = if k = key first then some (f ((t.find k).getD first)) else t.find k := by
  rcases upsert_rows t first f keeps with ⟨old, found, rewritten⟩ | ⟨absent, added⟩
  · rw [rewritten, find_modify]
    by_cases same : k = key first
    · rw [if_pos same, if_pos same, same, found]
      rfl
    · rw [if_neg same, if_neg same]
  · rw [(find_append added).2 k, keeps]
    by_cases same : k = key first
    · rw [if_pos same, if_pos same, same, absent]
      rfl
    · rw [if_neg same, if_neg same]

/-- What one row gains, the sum over the table gains. -/
theorem sum_upsert {M : Type} [AddCommMonoid M] (t : Table key) (first : ρ) (f : ρ → ρ)
    (keeps : ∀ r, key (f r) = key r) (g : ρ → M) (gain : M)
    (gains : ∀ r, key r = key first → g (f r) = g r + gain) (zero : g first = 0) :
    ((t.upsert first f keeps).rows.map g).sum = (t.rows.map g).sum + gain := by
  rcases upsert_rows t first f keeps with ⟨old, found, rewritten⟩ | ⟨absent, added⟩
  · obtain ⟨member, named⟩ := find_some.mp found
    obtain ⟨before, after, cut⟩ := List.append_of_mem member
    have distinct := t.distinct
    rw [cut, List.map_append, List.map_cons, List.nodup_append, List.nodup_cons] at distinct
    have others : ∀ r ∈ before ++ after, key r ≠ key first := by
      intro r held same
      have taken : key r = key old := same.trans named.symm
      rcases List.mem_append.mp held with left | right
      · exact distinct.2.2 _ (List.mem_map_of_mem left) _ List.mem_cons_self taken
      · exact distinct.2.1.1 (taken ▸ List.mem_map_of_mem right)
    have spared : ∀ rows : List ρ, (∀ r ∈ rows, key r ≠ key first) →
        (rows.map fun r => if key r = key first then f r else r) = rows := by
      intro rows other
      rw [List.map_congr_left fun r held => if_neg (other r held), List.map_id']
    have left := spared before fun r held => others r (List.mem_append_left _ held)
    have right := spared after fun r held => others r (List.mem_append_right _ held)
    rw [rewritten]
    simp only [modify, cut, List.map_append, List.map_cons, left, right, if_pos named, List.sum_append, List.sum_cons,
      gains old named]
    rw [add_right_comm (g old), ← add_assoc]
  · rw [added, List.map_append, List.sum_append]
    simp only [List.map_cons, List.map_nil, List.sum_cons, List.sum_nil, gains first rfl, zero, zero_add, add_zero]

section
variable {α : Type}

/-- Takes a list into a table, each element into the row under its key. -/
def groupInto (group : α → κ) (first : κ → ρ) (f : α → ρ → ρ) (keeps : ∀ x r, key (f x r) = key r) (t : Table key)
    (l : List α) : Table key :=
  l.foldl (fun t x => t.upsert (first (group x)) (f x) (keeps x)) t

variable {group : α → κ} {first : κ → ρ} {f : α → ρ → ρ} {keeps : ∀ x r, key (f x r) = key r}

/-- The row under a key is what the elements of its group make of it. -/
theorem find_groupInto (named : ∀ k, key (first k) = k) (t : Table key) (l : List α) (k : κ) :
    (groupInto group first f keeps t l).find k =
      if l.filter (fun x => group x = k) = [] then t.find k
      else some ((l.filter fun x => group x = k).foldl (fun r x => f x r) ((t.find k).getD (first k))) := by
  unfold groupInto
  induction l generalizing t with
  | nil => rfl
  | cons x l ih =>
    rw [List.foldl_cons, ih, find_upsert, named]
    by_cases same : group x = k
    · rw [List.filter_cons_of_pos (by simpa using same), if_pos same.symm, if_neg (List.cons_ne_nil _ _), same]
      split
      · next alone => rw [alone]; rfl
      · rfl
    · have skip : ¬ k = group x := fun other => same other.symm
      rw [List.filter_cons_of_neg (by simpa using same), if_neg skip]

/-- There is a row under a key, if and only if some element has it. -/
theorem find_groupInto_empty (named : ∀ k, key (first k) = k) (l : List α) (k : κ) :
    (groupInto group first f keeps empty l).find k =
      if l.filter (fun x => group x = k) = [] then none
      else some ((l.filter fun x => group x = k).foldl (fun r x => f x r) (first k)) := by
  rw [find_groupInto named, find_empty, Option.getD_none]

/-- The keys of the rows are those of the elements. -/
theorem mem_groupInto_empty (named : ∀ k, key (first k) = k) (l : List α) (k : κ) :
    (∃ r ∈ (groupInto group first f keeps empty l).rows, key r = k) ↔ ∃ x ∈ l, group x = k := by
  have found : (groupInto group first f keeps empty l).find k = _ := find_groupInto_empty named l k
  have some : l.filter (fun x => group x = k) ≠ [] ↔ ∃ x ∈ l, group x = k := by
    rw [ne_eq, List.filter_eq_nil_iff]
    simp
  rw [← some]
  constructor
  · rintro ⟨r, member, rfl⟩ none
    rw [if_pos none, find_mem member] at found
    cases found
  · intro other
    rw [if_neg other] at found
    exact ⟨_, find_some.mp found⟩

/-- The sum over the rows is what all elements add. -/
theorem sum_groupInto {M : Type} [AddCommMonoid M] (named : ∀ k, key (first k) = k) (g : ρ → M) (gain : α → M)
    (gains : ∀ x r, key r = group x → g (f x r) = g r + gain x) (zero : ∀ k, g (first k) = 0) (t : Table key) (l : List α) :
    ((groupInto group first f keeps t l).rows.map g).sum = (t.rows.map g).sum + (l.map gain).sum := by
  unfold groupInto
  induction l generalizing t with
  | nil => rw [List.map_nil, List.sum_nil, add_zero, List.foldl_nil]
  | cons x l ih =>
    have own : ∀ r, key r = key (first (group x)) → g (f x r) = g r + gain x := fun r same => gains x r (same.trans (named _))
    rw [List.foldl_cons, ih, sum_upsert t _ _ _ g (gain x) own (zero _), List.map_cons, List.sum_cons, add_assoc]

theorem sum_filter {β M : Type} [AddCommMonoid M] (p : β → Bool) (g : β → M) (l : List β) :
    ((l.filter p).map g).sum = (l.map fun x => if p x then g x else 0).sum := by
  induction l with
  | nil => rfl
  | cons x l ih =>
    rw [List.filter_cons, List.map_cons, List.sum_cons, ← ih]
    split
    · rw [List.map_cons, List.sum_cons]
    · rw [zero_add]

/-- The sum over the rows with some keys is what the elements with these keys add. -/
theorem sum_filter_groupInto {M : Type} [AddCommMonoid M] (named : ∀ k, key (first k) = k) (g : ρ → M) (gain : α → M)
    (gains : ∀ x r, key r = group x → g (f x r) = g r + gain x) (zero : ∀ k, g (first k) = 0) (p : κ → Bool) (l : List α) :
    (((groupInto group first f keeps empty l).rows.filter fun r => p (key r)).map g).sum =
      ((l.filter fun x => p (group x)).map gain).sum := by
  have gains' : ∀ x r, key r = group x → (if p (key (f x r)) then g (f x r) else 0) =
      (if p (key r) then g r else 0) + if p (group x) then gain x else 0 := by
    intro x r same
    rw [keeps, gains x r same, same]
    split
    · rfl
    · rw [zero_add]
  have zero' : ∀ k, (if p (key (first k)) then g (first k) else 0) = 0 := by
    intro k
    rw [zero, ite_self]
  have sums : ((groupInto group first f keeps empty l).rows.map fun r => if p (key r) then g r else 0).sum =
      0 + (l.map fun x => if p (group x) then gain x else 0).sum :=
    sum_groupInto named (fun r => if p (key r) then g r else 0) (fun x => if p (group x) then gain x else 0) gains' zero'
      empty l
  rw [sum_filter, sum_filter, sums]
  exact zero_add _

end

section
variable {α κ' ρ' : Type} [DecidableEq κ'] {key' : ρ' → κ'} {conv : ρ → ρ'} {rename : κ → κ'}
variable (distinct : Function.Injective rename) (keyed : ∀ r, key' (conv r) = rename (key r))
include distinct keyed

theorem find_rekey {t : Table key} {t' : Table key'} (same : t'.rows = t.rows.map conv) (k : κ) :
    t'.find (rename k) = (t.find k).map conv := by
  have test : ((fun r => decide (key' r = rename k)) ∘ conv) = fun r => decide (key r = k) := by
    funext r
    simp only [Function.comp_apply, keyed, distinct.eq_iff]
  rw [find, same, List.find?_map, test, find]

theorem upsert_rekey {t : Table key} {t' : Table key'} (same : t'.rows = t.rows.map conv) {first : ρ} {f : ρ → ρ}
    {keeps : ∀ r, key (f r) = key r} {f' : ρ' → ρ'} {keeps' : ∀ r, key' (f' r) = key' r}
    (moved : ∀ r, f' (conv r) = conv (f r)) :
    (t'.upsert (conv first) f' keeps').rows = (t.upsert first f keeps).rows.map conv := by
  have found := find_rekey distinct keyed same (key first)
  rw [← keyed] at found
  rcases upsert_rows t first f keeps with ⟨old, held, rewritten⟩ | ⟨absent, added⟩
  · rcases upsert_rows t' (conv first) f' keeps' with ⟨_, _, rewritten'⟩ | ⟨absent', _⟩
    · have each : ∀ r, (if key' (conv r) = key' (conv first) then f' (conv r) else conv r) =
          conv (if key r = key first then f r else r) := by
        intro r
        simp only [keyed, distinct.eq_iff, moved]
        split <;> rfl
      simp only [rewritten, rewritten', modify, same, List.map_map]
      exact List.map_congr_left fun r _ => each r
    · rw [found, held] at absent'
      cases absent'
  · rcases upsert_rows t' (conv first) f' keeps' with ⟨_, held', _⟩ | ⟨_, added'⟩
    · rw [found, absent] at held'
      cases held'
    · rw [added, added', same, moved, List.map_append]
      rfl

/-- Grouping under other keys, that are as different, gives the same rows in another form. -/
theorem groupInto_rekey {group : α → κ} {first : κ → ρ} {f : α → ρ → ρ} {keeps : ∀ x r, key (f x r) = key r}
    {group' : α → κ'} {first' : κ' → ρ'} {f' : α → ρ' → ρ'} {keeps' : ∀ x r, key' (f' x r) = key' r}
    (grouped : ∀ x, group' x = rename (group x)) (started : ∀ k, first' (rename k) = conv (first k))
    (moved : ∀ x r, f' x (conv r) = conv (f x r)) {t : Table key} {t' : Table key'} (same : t'.rows = t.rows.map conv)
    (l : List α) : (groupInto group' first' f' keeps' t' l).rows = (groupInto group first f keeps t l).rows.map conv := by
  unfold groupInto
  induction l generalizing t t' with
  | nil => exact same
  | cons x l ih =>
    rw [List.foldl_cons, List.foldl_cons]
    refine ih ?_
    rw [grouped, started]
    exact upsert_rekey distinct keyed same (moved x)

end

theorem find_perm {t u : Table key} (same : t.rows.Perm u.rows) (k : κ) : t.find k = u.find k := by
  refine Option.ext fun r => ?_
  rw [find_some, find_some, same.mem_iff]

/-- Tables with the same rows under all keys, and the keys in one order, are the same. -/
theorem eq_of_find {t u : Table key} (keys : t.rows.map key = u.rows.map key) (same : ∀ k, t.find k = u.find k) : t = u := by
  have length : t.rows.length = u.rows.length := by simpa using congrArg List.length keys
  refine ext (List.ext_getElem length fun n left right => ?_)
  have named : key t.rows[n] = key u.rows[n] := by
    have there := List.getElem_map key (l := t.rows) (i := n) (h := by simpa using left)
    have here := List.getElem_map key (l := u.rows) (i := n) (h := by simpa using right)
    rw [← there, ← here]
    simp only [keys]
  have found := find_mem (List.getElem_mem left)
  rw [same, named, find_mem (List.getElem_mem right)] at found
  exact (Option.some.inj found).symm

/-- Tables with the same rows under all keys have the same rows. -/
theorem perm_of_find {t u : Table key} (same : ∀ k, t.find k = u.find k) : t.rows.Perm u.rows := by
  refine (List.perm_ext_iff_of_nodup (List.Nodup.of_map key t.distinct) (List.Nodup.of_map key u.distinct)).mpr ?_
  intro r
  constructor
  · intro member
    exact (find_some.mp (same (key r) ▸ find_mem member)).1
  · intro member
    exact (find_some.mp ((same (key r)).symm ▸ find_mem member)).1

end Table
end Store
