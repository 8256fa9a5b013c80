import Mathlib.Data.List.Sort
import PayBridge.Arrange.Stable

namespace Arrange
variable {α κ : Type} [LinearOrder κ]

/-- A list in descending order of a key; what has the same key stands in any order. -/
def Descending (key : α → κ) (l : List α) : Prop := l.Pairwise fun first second => key second ≤ key first

/-- One of the ways to bring a list into descending order. -/
structure Arrangement (key : α → κ) (l m : List α) : Prop where
  perm : m.Perm l
  descending : Descending key m

/-- The `n`-th page, from zero on, of a list cut into pages. -/
def page (limit n : Nat) (l : List α) : List α := (l.drop (n * limit)).take limit

/-- A place at which elements of one key are cut apart. -/
def Splits (key : α → κ) (l : List α) (place : Nat) : Prop :=
  ∃ k, (l.countP fun x => k < key x) < place ∧ place < l.countP fun x => k ≤ key x

variable {key : α → κ} {l m other : List α}

theorem descending_map : Descending key m ↔ (m.map key).Pairwise (· ≥ ·) :=
  (List.pairwise_map (R := (· ≥ ·))).symm

theorem Arrangement.keys (left : Arrangement key l m) (right : Arrangement key l other) : m.map key = other.map key := by
  have perm : (m.map key).Perm (other.map key) := (left.perm.trans right.perm.symm).map key
  exact perm.eq_of_pairwise' (descending_map.mp left.descending) (descending_map.mp right.descending)

/-- What has a key above a bound comes first. -/
theorem Descending.take_above (descending : Descending key m) {p : κ → Bool} (upward : ∀ a b, a ≤ b → p a → p b) :
    m.take (m.countP fun x => p (key x)) = m.filter fun x => p (key x) := by
  have cut := filter_append_of_ahead (p := fun x => p (key x))
    (descending.imp fun below held => upward _ _ below held)
  have length : (m.filter fun x => p (key x)).length = m.countP fun x => p (key x) := List.countP_eq_length_filter.symm
  conv_lhs => rw [← length]
  conv_lhs => arg 2; rw [← cut]
  exact List.take_left

/-- A bound on the keys holds of an element, if and only if it holds of more than stand before it. -/
theorem Descending.countP_at {front back : List α} {x : α} (descending : Descending key (front ++ x :: back))
    {p : κ → Bool} (upward : ∀ a b, a ≤ b → p a → p b) :
    (front.length < (front ++ x :: back).countP fun y => p (key y)) ↔ p (key x) := by
  obtain ⟨_, behind, before⟩ := List.pairwise_append.mp descending
  rw [List.countP_append, List.countP_cons]
  cases held : p (key x) with
  | true =>
    have earlier : front.countP (fun y => p (key y)) = front.length := by
      rw [List.countP_eq_length]
      exact fun y member => upward _ _ (before y member x List.mem_cons_self) held
    simp only [earlier, if_true, iff_true]
    omega
  | false =>
    have later : back.countP (fun y => p (key y)) = 0 := by
      rw [List.countP_eq_zero]
      intro y member above
      have lifted := upward _ _ ((List.pairwise_cons.mp behind).1 y member) above
      rw [held] at lifted
      cases lifted
    have most : front.countP (fun y => p (key y)) ≤ front.length := List.countP_le_length
    simp only [later, Bool.false_eq_true, if_false, iff_false]
    omega

theorem lt_upward (k a b : κ) (below : a ≤ b) (above : decide (k < a)) : decide (k < b) :=
  decide_eq_true (lt_of_lt_of_le (of_decide_eq_true above) below)

theorem le_upward (k a b : κ) (below : a ≤ b) (above : decide (k ≤ a)) : decide (k ≤ b) :=
  decide_eq_true (le_trans (of_decide_eq_true above) below)

theorem split_at {place : Nat} (inside : place < l.length) :
    ∃ front x back, l = front ++ x :: back ∧ front.length = place :=
  ⟨l.take place, l[place], l.drop (place + 1), by rw [← List.drop_eq_getElem_cons inside, List.take_append_drop],
    List.length_take_of_le (by omega)⟩

/-- At a place that splits no key, all arrangements have the same elements before it. -/
theorem Arrangement.take_perm (left : Arrangement key l m) (right : Arrangement key l other) {place : Nat}
    (whole : ¬ Splits key l place) : (m.take place).Perm (other.take place) := by
  have same : m.Perm other := left.perm.trans right.perm.symm
  by_cases inside : place < m.length
  · obtain ⟨front, x, back, rfl, size⟩ := split_at inside
    have strict := left.descending.countP_at (lt_upward (key x))
    have weak := left.descending.countP_at (le_upward (key x))
    rw [left.perm.countP_eq, size] at strict weak
    simp only [lt_irrefl, decide_false, Bool.false_eq_true, iff_false, not_lt, le_refl, decide_true, iff_true] at strict weak
    have reached : place = l.countP fun y => key x < key y := by
      by_contra short
      exact whole ⟨key x, by omega, weak⟩
    have first := left.descending.take_above (lt_upward (key x))
    have second := right.descending.take_above (lt_upward (key x))
    rw [left.perm.countP_eq, ← reached] at first
    rw [right.perm.countP_eq, ← reached] at second
    rw [first, second]
    exact same.filter _
  · have length := same.length_eq
    rw [List.take_of_length_le (by omega), List.take_of_length_le (by omega)]
    exact same

theorem page_length (limit n : Nat) (l : List α) : (page limit n l).length = min limit (l.length - n * limit) := by
  rw [page, List.length_take, List.length_drop]

theorem take_page (limit n : Nat) (l : List α) : l.take ((n + 1) * limit) = l.take (n * limit) ++ page limit n l := by
  rw [Nat.succ_mul, List.take_add, page]

/-- Pages that are each cut from an arrangement of their own. -/
def pages (limit count : Nat) (arranged : Nat → List α) : List α :=
  (List.range count).flatMap fun n => page limit n (arranged n)

theorem pages_succ (limit count : Nat) (arranged : Nat → List α) :
    pages limit (count + 1) arranged = pages limit count arranged ++ page limit count (arranged count) := by
  rw [pages, List.range_succ, List.flatMap_append, List.flatMap_singleton, pages]

section
variable {arranged : Nat → List α} (each : ∀ n, Arrangement key l (arranged n))
include each

/-- The keys come out in order, from whatever arrangements the pages are cut. -/
theorem pages_keys (limit count : Nat) (m : Arrangement key l other) :
    (pages limit count arranged).map key = (other.map key).take (count * limit) := by
  induction count with
  | zero => rw [Nat.zero_mul, List.take_zero]; rfl
  | succ count ih =>
    have same := (each count).keys m
    rw [pages_succ, List.map_append, ih, ← List.map_take, ← List.map_take, take_page, List.map_append, List.append_cancel_left_eq]
    simp only [page, List.map_take, List.map_drop, same]

theorem pages_descending (limit count : Nat) : Descending key (pages limit count arranged) := by
  rw [descending_map, pages_keys each limit count (each 0)]
  exact (descending_map.mp (each 0).descending).sublist (List.take_sublist _ _)

/-- Without a key that a page ends in the middle of, the pages are those of one arrangement. -/
theorem pages_perm (limit count : Nat) (m : Arrangement key l other)
    (whole : ∀ n ≤ count, ¬ Splits key l (n * limit)) :
    (pages limit count arranged).Perm (other.take (count * limit)) := by
  induction count with
  | zero => rw [Nat.zero_mul, List.take_zero]; exact List.Perm.refl _
  | succ count ih =>
    have before := ih fun n below => whole n (by omega)
    have here := (each count).take_perm m (whole count (by omega))
    have next := (each count).take_perm m (whole (count + 1) le_rfl)
    rw [take_page, take_page] at next
    have cut : (page limit count (arranged count)).Perm (page limit count other) :=
      (List.perm_append_left_iff _).mp (next.trans (here.symm.append_right _))
    rw [pages_succ, take_page]
    exact before.append cut

end

theorem Arrangement.swap {front back : List α} {x y : α} (m : Arrangement key l (front ++ x :: y :: back))
    (same : key x = key y) : Arrangement key l (front ++ y :: x :: back) := by
  refine ⟨((List.Perm.swap x y back).append_left front).trans m.perm, descending_map.mpr ?_⟩
  have sorted := descending_map.mp m.descending
  simpa only [List.map_append, List.map_cons, same] using sorted

/-- A place that splits a key has two elements of it on its two sides. -/
theorem Splits.between {place : Nat} (splits : Splits key l (place + 1)) (m : Arrangement key l other) :
    ∃ front x y back, other = front ++ x :: y :: back ∧ front.length = place ∧ key x = key y := by
  obtain ⟨k, above, below⟩ := splits
  rw [← m.perm.countP_eq] at above below
  have most : (other.countP fun x => k ≤ key x) ≤ other.length := List.countP_le_length
  obtain ⟨front, x, rest, rfl, size⟩ : ∃ front x back, other = front ++ x :: back ∧ front.length = place :=
    split_at (by omega)
  have more : 0 < rest.length := by
    rw [List.length_append, List.length_cons] at most
    omega
  obtain ⟨y, back, rfl⟩ := List.exists_cons_of_length_pos more
  have joined : front ++ x :: y :: back = (front ++ [x]) ++ y :: back := by simp
  have atX := m.descending.countP_at (lt_upward k)
  have atY := (joined ▸ m.descending).countP_at (le_upward k)
  rw [← joined, List.length_append, List.length_singleton] at atY
  simp only [decide_eq_true_eq, size] at atX atY
  have upper : key x ≤ k := not_lt.mp fun greater => absurd (atX.mpr greater) (by omega)
  have lower : k ≤ key y := atY.mp below
  have order : key y ≤ key x :=
    (List.pairwise_cons.mp (List.pairwise_append.mp m.descending).2.1).1 y List.mem_cons_self
  exact ⟨front, x, y, back, rfl, size, le_antisymm (upper.trans lower) order⟩

theorem mem_page_end {limit n : Nat} (some : 0 < limit) {front back : List α} {x : α}
    (size : front.length + 1 = (n + 1) * limit) : x ∈ page limit n (front ++ x :: back) := by
  have joined : front ++ x :: back = (front ++ [x]) ++ back := by simp
  have taken : (front ++ x :: back).take ((n + 1) * limit) = front ++ [x] := by
    rw [joined, ← size]
    exact List.take_left' (by simp)
  have place := Nat.add_one_mul n limit
  rw [page, List.take_drop, ← place, taken, List.drop_append_of_le_length (by omega)]
  exact List.mem_append_right _ (List.mem_singleton_self x)

theorem mem_page_start {limit n : Nat} (some : 0 < limit) {front back : List α} {x : α}
    (size : front.length = n * limit) : x ∈ page limit n (front ++ x :: back) := by
  obtain ⟨rest, rfl⟩ := Nat.exists_eq_add_of_lt some
  rw [page, List.drop_left' size, List.take_cons (by omega)]
  exact List.mem_cons_self

/-- Where a page ends in the middle of a key, the next page can begin with what this one ends with. -/
theorem pages_repeat {limit n : Nat} (some : 0 < limit) (m : Arrangement key l other)
    (splits : Splits key l ((n + 1) * limit)) :
    ∃ arranged : Nat → List α, (∀ i, Arrangement key l (arranged i)) ∧
      ∀ count, n + 1 < count → ¬ (pages limit count arranged).Nodup := by
  have place := Nat.add_one_mul n limit
  obtain ⟨last, size⟩ : ∃ last, (n + 1) * limit = last + 1 := ⟨(n + 1) * limit - 1, by omega⟩
  obtain ⟨front, x, y, back, rfl, length, same⟩ := (size ▸ splits).between m
  refine ⟨fun i => if i = n + 1 then front ++ y :: x :: back else front ++ x :: y :: back, fun i => ?_, fun count more distinct => ?_⟩
  · by_cases next : i = n + 1
    · simpa only [if_pos next] using m.swap same
    · simpa only [if_neg next] using m
  · have ends : x ∈ page limit n (front ++ x :: y :: back) := mem_page_end some (by omega)
    have begins : x ∈ page limit (n + 1) ((front ++ [y]) ++ x :: back) :=
      mem_page_start some (by rw [List.length_append, List.length_singleton]; omega)
    have joined : (front ++ [y]) ++ x :: back = front ++ y :: x :: back := by simp
    obtain ⟨_, apart⟩ := List.nodup_flatMap.mp distinct
    have first : n < (List.range count).length := by rw [List.length_range]; omega
    have second : n + 1 < (List.range count).length := by rw [List.length_range]; omega
    have disjoint := List.pairwise_iff_getElem.mp apart n (n + 1) first second (Nat.lt_succ_self n)
    simp only [List.getElem_range, Function.onFun, if_true, if_neg (Nat.ne_of_lt (Nat.lt_succ_self n))] at disjoint
    exact disjoint ends (joined ▸ begins)

end Arrange
