import Mathlib.Data.List.Nodup

namespace Store

/-- A table whose rows have pairwise different keys. -/
structure Table {κ ρ : Type} (key : ρ → κ) where
  rows : List ρ
  distinct : (rows.map key).Nodup

namespace Table
variable {κ ρ : Type} {key : ρ → κ}

@[ext] theorem ext {t u : Table key} (same : t.rows = u.rows) : t = u := by
  cases t
  cases u
  cases same
  rfl

def empty : Table key := ⟨[], List.nodup_nil⟩

/-- In a table a key determines its row. -/
theorem row_unique (t : Table key) {r r' : ρ} (left : r ∈ t.rows) (right : r' ∈ t.rows)
    (same : key r = key r') : r = r' :=
  List.inj_on_of_nodup_map t.distinct left right same

/-- A unique column beside the key. -/
def Unique {τ : Type} (t : Table key) (column : ρ → τ) : Prop := (t.rows.map column).Nodup

theorem Unique.row {t : Table key} {τ : Type} {column : ρ → τ} (unique : t.Unique column) {r r' : ρ} (left : r ∈ t.rows)
    (right : r' ∈ t.rows) (same : column r = column r') : r = r' :=
  List.inj_on_of_nodup_map unique left right same

section
variable {τ : Type} [DecidableEq τ]

def findBy (t : Table key) (column : ρ → τ) (v : τ) : Option ρ := t.rows.find? fun r => column r = v

theorem findBy_some {t : Table key} {column : ρ → τ} (unique : t.Unique column) {v : τ} {r : ρ} :
    t.findBy column v = some r ↔ r ∈ t.rows ∧ column r = v := by
  constructor
  · intro found
    exact ⟨List.mem_of_find?_eq_some found, by simpa using List.find?_some found⟩
  · rintro ⟨member, same⟩
    cases found : t.findBy column v with
    | none =>
      have absent := List.find?_eq_none.mp found r member
      simp [same] at absent
    | some r' =>
      have other := List.mem_of_find?_eq_some found
      have named : column r' = v := by simpa using List.find?_some found
      rw [unique.row other member (named.trans same.symm)]

end

variable [DecidableEq κ]

def find (t : Table key) (k : κ) : Option ρ := t.rows.find? fun r => key r = k

theorem find_some {t : Table key} {k : κ} {r : ρ} : t.find k = some r ↔ r ∈ t.rows ∧ key r = k :=
  findBy_some (show t.Unique key from t.distinct)

theorem find_none {t : Table key} {k : κ} : t.find k = none ↔ ∀ r ∈ t.rows, key r ≠ k := by
  simp [find, List.find?_eq_none]

theorem find_mem {t : Table key} {r : ρ} (member : r ∈ t.rows) : t.find (key r) = some r :=
  find_some.mpr ⟨member, rfl⟩

theorem find_key {t : Table key} {k : κ} {r : ρ} (found : t.find k = some r) : key r = k :=
  (find_some.mp found).2

@[simp] theorem find_empty (k : κ) : (empty : Table key).find k = none := rfl

/-- Adds a row, unless its key is taken. -/
def insert (t : Table key) (r : ρ) : Option (Table key) :=
  if taken : key r ∈ t.rows.map key then none
  else some ⟨t.rows ++ [r], by
    rw [List.map_append, List.nodup_append]
    refine ⟨t.distinct, List.nodup_singleton _, ?_⟩
    rintro a left b right rfl
    simp only [List.map_cons, List.map_nil, List.mem_singleton] at right
    exact taken (right ▸ left)⟩

theorem insert_none {t : Table key} {r : ρ} : t.insert r = none ↔ ∃ old, t.find (key r) = some old := by
  unfold insert
  constructor
  · intro refused
    split at refused
    · next taken =>
      obtain ⟨old, member, same⟩ := List.mem_map.mp taken
      exact ⟨old, find_some.mpr ⟨member, same⟩⟩
    · cases refused
  · rintro ⟨old, found⟩
    obtain ⟨member, same⟩ := find_some.mp found
    rw [dif_pos (same ▸ List.mem_map_of_mem member)]

theorem insert_rows {t u : Table key} {r : ρ} (inserted : t.insert r = some u) :
    u.rows = t.rows ++ [r] ∧ t.find (key r) = none := by
  unfold insert at inserted
  split at inserted
  · cases inserted
  · next fresh =>
    cases inserted
    refine ⟨rfl, find_none.mpr fun old member same => ?_⟩
    exact fresh (List.mem_map.mpr ⟨old, member, same⟩)

theorem insert_fresh {t : Table key} {r : ρ} (fresh : t.find (key r) = none) :
    ∃ u, t.insert r = some u ∧ u.rows = t.rows ++ [r] := by
  cases inserted : t.insert r with
  | none =>
    obtain ⟨old, found⟩ := insert_none.mp inserted
    rw [fresh] at found
    cases found
  | some u => exact ⟨u, rfl, (insert_rows inserted).1⟩

/-- One row more, in a table, has a key of its own. -/
theorem find_append {t u : Table key} {r : ρ} (rows : u.rows = t.rows ++ [r]) :
    t.find (key r) = none ∧ ∀ k, u.find k = if k = key r then some r else t.find k := by
  have distinct := u.distinct
  rw [rows, List.map_append, List.nodup_append] at distinct
  refine ⟨find_none.mpr fun old member same => ?_, fun k => ?_⟩
  · exact distinct.2.2 _ (List.mem_map_of_mem member) (key r) (by simp) same
  · by_cases same : k = key r
    · subst same
      rw [if_pos rfl]
      exact find_some.mpr ⟨by rw [rows]; exact List.mem_append_right _ (List.mem_singleton_self r), rfl⟩
    · rw [if_neg same]
      have skip : ¬ key r = k := fun h => same h.symm
      simp [find, rows, List.find?_append, skip]

theorem find_insert {t u : Table key} {r : ρ} (inserted : t.insert r = some u) (k : κ) :
    u.find k = if k = key r then some r else t.find k :=
  (find_append (insert_rows inserted).1).2 k

/-- Rewrites the row under a key, keeping the key. -/
def modify (t : Table key) (k : κ) (f : ρ → ρ) (keeps : ∀ r, key (f r) = key r) : Table key where
  rows := t.rows.map fun r => if key r = k then f r else r
  distinct := by
    have keys : (t.rows.map fun r => if key r = k then f r else r).map key = t.rows.map key := by
      rw [List.map_map]
      refine List.map_congr_left fun r _ => ?_
      simp only [Function.comp_apply]
      split
      · exact keeps r
      · rfl
    rw [keys]
    exact t.distinct

theorem find_modify (t : Table key) (k : κ) (f : ρ → ρ) (keeps : ∀ r, key (f r) = key r) (j : κ) :
    (t.modify k f keeps).find j = if j = k then (t.find j).map f else t.find j := by
  have skim : ((fun r => decide (key r = j)) ∘ fun r => if key r = k then f r else r) =
      fun r => decide (key r = j) := by
    funext r
    simp only [Function.comp_apply]
    split
    · rw [keeps]
    · rfl
  simp only [find, modify, List.find?_map, skim]
  cases found : t.rows.find? fun r => key r = j with
  | none => simp
  | some r =>
    have named : key r = j := by simpa using List.find?_some found
    by_cases same : j = k
    · simp [named, same]
    · simp [named, same]

theorem mem_modify {t : Table key} {k : κ} {f : ρ → ρ} {keeps : ∀ r, key (f r) = key r} {r : ρ} :
    r ∈ (t.modify k f keeps).rows ↔
      (r ∈ t.rows ∧ key r ≠ k) ∨ ∃ old ∈ t.rows, key old = k ∧ r = f old := by
  simp only [modify, List.mem_map]
  constructor
  · rintro ⟨old, member, rfl⟩
    split
    · next same => exact Or.inr ⟨old, member, same, rfl⟩
    · next other => exact Or.inl ⟨member, other⟩
  · rintro (⟨member, other⟩ | ⟨old, member, same, rfl⟩)
    · exact ⟨r, member, if_neg other⟩
    · exact ⟨old, member, if_pos same⟩

/-- Rewrites the row under a key, or adds a first one and rewrites that. -/
def upsert (t : Table key) (first : ρ) (f : ρ → ρ) (keeps : ∀ r, key (f r) = key r) : Table key :=
  match absent : t.find (key first) with
  | some _ => t.modify (key first) f keeps
  | none => ⟨t.rows ++ [f first], by
    rw [List.map_append, List.nodup_append]
    refine ⟨t.distinct, List.nodup_singleton _, ?_⟩
    rintro a left b right rfl
    obtain ⟨old, member, same⟩ := List.mem_map.mp left
    simp only [List.map_cons, List.map_nil, List.mem_singleton, keeps] at right
    exact find_none.mp absent old member (same.trans right)⟩

def filter (t : Table key) (p : ρ → Bool) : Table key where
  rows := t.rows.filter p
  distinct := t.distinct.sublist (List.filter_sublist.map key)

def erase (t : Table key) (k : κ) : Table key where
  rows := t.rows.filter fun r => key r ≠ k
  distinct := t.distinct.sublist (List.filter_sublist.map key)

theorem find_erase (t : Table key) (k j : κ) :
    (t.erase k).find j = if j = k then none else t.find j := by
  by_cases same : j = k
  · subst same
    rw [if_pos rfl, find_none]
    intro r member
    simpa using (List.mem_filter.mp member).2
  · rw [if_neg same]
    simp only [find, erase, List.find?_filter]
    congr 1
    funext r
    by_cases named : key r = j
    · simp [named, same]
    · simp [named]

section
variable {τ : Type}

theorem Unique.insert {t u : Table key} {r : ρ} {column : ρ → τ} (unique : t.Unique column)
    (inserted : t.insert r = some u) (fresh : ∀ old ∈ t.rows, column old ≠ column r) : u.Unique column := by
  have rows := (insert_rows inserted).1
  unfold Unique
  rw [rows, List.map_append, List.nodup_append]
  refine ⟨unique, List.nodup_singleton _, ?_⟩
  intro a left b right same
  obtain ⟨old, member, rfl⟩ := List.mem_map.mp left
  simp only [List.map_cons, List.map_nil, List.mem_singleton] at right
  exact fresh old member (same.trans right)

theorem Unique.modify {t : Table key} {column : ρ → τ} (unique : t.Unique column) (k : κ) (f : ρ → ρ)
    (keeps : ∀ r, key (f r) = key r)
    (fresh : ∀ r ∈ t.rows, key r = k → ∀ old ∈ t.rows, key old ≠ k → column old ≠ column (f r)) :
    (t.modify k f keeps).Unique column := by
  have nodup : t.rows.Nodup := List.Nodup.of_map key t.distinct
  unfold Unique Table.modify
  rw [List.map_map]
  refine nodup.map_on fun a left b right same => ?_
  simp only [Function.comp_apply] at same
  split at same <;> split at same
  · next first second => exact t.row_unique left right (first.trans second.symm)
  · next first second => exact absurd same.symm (fresh a left first b right second)
  · next first second => exact absurd same (fresh b right second a left first)
  · exact unique.row left right same

end

end Table

end Store
