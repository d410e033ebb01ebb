import JavacLauncher.Text.Basic

/-!
# Lists cut at a separator

Names stand between slashes, lines between newlines and the entries of a path list between colons. They
are the pieces of a list that is cut at a separator. Joining the pieces gives the list back
(`exists_splitOn_eq_cons`), and joining lists that have separators of their own gives the pieces of all
of them (`splitOn_append_flatMap`).
-/

namespace JavacLauncher

variable {α : Type} [BEq α] [LawfulBEq α] {sep : α}

/-- What was cut at a separator does not hold it. -/
theorem notMem_of_mem_splitOn {l piece : List α} (h : piece ∈ l.splitOn sep) : sep ∉ piece := by
  induction l generalizing piece with
  | nil =>
    rw [List.splitOn_nil, List.mem_singleton] at h
    rw [h]
    exact List.not_mem_nil
  | cons a l ih =>
    rw [List.splitOn_cons_eq_if_modifyHead] at h
    split at h
    · rcases List.mem_cons.mp h with rfl | h
      · exact List.not_mem_nil
      · exact ih h
    · -- the first piece begins one element earlier, the others are those of the rest
      rename_i ha
      obtain ⟨first, more, hpieces⟩ := List.exists_cons_of_ne_nil (List.splitOn_ne_nil sep l)
      rw [hpieces] at h ih
      rcases List.mem_cons.mp h with rfl | h
      · rw [List.mem_cons, not_or]
        exact ⟨fun hsep => ha (beq_iff_eq.mpr hsep.symm), ih List.mem_cons_self⟩
      · exact ih (List.mem_cons_of_mem _ h)

/-- Up to the first separator there is one piece. -/
theorem splitOn_append_cons {first : List α} (h : sep ∉ first) (rest : List α) :
    (first ++ sep :: rest).splitOn sep = first :: rest.splitOn sep := by
  rw [List.splitOn_append_cons_self, List.splitOn_eq_singleton h]
  rfl

variable (sep)

/-- Joined entries fall into the pieces of the entries. -/
theorem splitOn_append_flatMap (first : List α) (others : List (List α)) :
    (first ++ others.flatMap (sep :: ·)).splitOn sep =
      (first :: others).flatMap (·.splitOn sep) := by
  induction others generalizing first with
  | nil => simp
  | cons next others ih =>
    rw [List.flatMap_cons, List.cons_append, List.splitOn_append_cons_self, ih]
    rfl

/-- A list is its pieces, joined. -/
theorem exists_splitOn_eq_cons (l : List α) : ∃ first others,
    l.splitOn sep = first :: others ∧ l = first ++ others.flatMap (sep :: ·) := by
  obtain ⟨first, others, hpieces⟩ := List.exists_cons_of_ne_nil (List.splitOn_ne_nil sep l)
  refine ⟨first, others, hpieces, ?_⟩
  have hjoin : [sep].intercalate (l.splitOn sep) = l := List.intercalate_splitOn sep
  rw [hpieces, intercalate_eq_append_flatMap] at hjoin
  exact hjoin.symm

end JavacLauncher
