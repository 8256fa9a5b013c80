import Mathlib.Data.List.Perm.Basic

namespace Arrange
variable {α : Type} {p : α → Bool}

/-- One list is another with what `p` holds of moved to the front, and with the
order kept on both sides. -/
structure StablePartition (p : α → Bool) (before after : List α) : Prop where
  perm : after.Perm before
  ahead : after.Pairwise fun first second => p second → p first
  kept : after.filter p = before.filter p
  rest : (after.filter fun x => !p x) = before.filter fun x => !p x

/-- A list in which what `p` holds of comes first is cut in two by `p`. -/
theorem filter_append_of_ahead {l : List α} (ahead : l.Pairwise fun first second => p second → p first) :
    l.filter p ++ l.filter (fun x => !p x) = l := by
  induction l with
  | nil => rfl
  | cons x l ih =>
    obtain ⟨first, later⟩ := List.pairwise_cons.mp ahead
    cases held : p x with
    | true =>
      rw [List.filter_cons_of_pos held, List.filter_cons_of_neg (by simp [held]), List.cons_append, ih later]
    | false =>
      have none : l.filter p = [] := by
        refine List.filter_eq_nil_iff.mpr fun y member other => ?_
        rw [first y member other] at held
        cases held
      have all := ih later
      rw [none, List.nil_append] at all
      rw [List.filter_cons_of_neg (by simp [held]), List.filter_cons_of_pos (by simp [held]), none, List.nil_append, all]

theorem StablePartition.append (p : α → Bool) (l : List α) :
    StablePartition p l (l.filter p ++ l.filter fun x => !p x) where
  perm := List.filter_append_perm p l
  ahead := by
    refine List.pairwise_append.mpr ⟨?_, ?_, ?_⟩
    · exact List.pairwise_of_forall_mem_list fun x left _ _ _ => (List.mem_filter.mp left).2
    · refine List.pairwise_of_forall_mem_list fun _ _ y right held => ?_
      simp only [List.mem_filter, held, Bool.not_true, Bool.false_eq_true, and_false] at right
    · exact fun x left _ _ _ => (List.mem_filter.mp left).2
  kept := by simp [List.filter_append, List.filter_filter]
  rest := by simp [List.filter_append, List.filter_filter]

/-- What `p` holds nowhere of stays as it is. -/
theorem StablePartition.of_none {l : List α} (none : l.filter p = []) : StablePartition p l l := by
  have all : l.filter (fun x => !p x) = l := by
    rw [List.filter_eq_self]
    intro x member
    simpa using List.filter_eq_nil_iff.mp none x member
  have partition := StablePartition.append p l
  rwa [none, all, List.nil_append] at partition

theorem StablePartition.nodup {before after : List α} (partition : StablePartition p before after)
    (distinct : before.Nodup) : after.Nodup :=
  partition.perm.nodup_iff.mpr distinct

/-- If `p` holds of anything, it holds of the first. -/
theorem StablePartition.head {before rest : List α} {first : α} (partition : StablePartition p before (first :: rest))
    {x : α} (member : x ∈ before) (held : p x) : p first := by
  rcases List.mem_cons.mp (partition.perm.mem_iff.mpr member) with rfl | later
  · exact held
  · exact (List.pairwise_cons.mp partition.ahead).1 x later held

/-- A first element that `p` holds of stays the first. -/
theorem StablePartition.head_kept {x first : α} {before rest : List α}
    (partition : StablePartition p (x :: before) (first :: rest)) (held : p x) : first = x := by
  have foremost : p first := partition.head List.mem_cons_self held
  have same := partition.kept
  simp only [List.filter_cons, foremost, held, if_true, List.cons.injEq] at same
  exact same.1

end Arrange
