/-!
# Every element once

Dropping repetitions from a list; the first appearance of an element keeps its place.
-/

namespace FragmentWeaver

variable {α : Type} [DecidableEq α]

/-- Every element once, in the order of first appearance. -/
def distinct (xs : List α) : List α :=
  xs.foldl (fun acc x => if acc.contains x then acc else acc ++ [x]) []

/-- Only repetitions are lost. -/
theorem mem_distinct {x : α} {xs : List α} : x ∈ distinct xs ↔ x ∈ xs := by
  have hfold (acc : List α) :
      x ∈ xs.foldl (fun acc x => if acc.contains x then acc else acc ++ [x]) acc ↔
        x ∈ acc ∨ x ∈ xs := by
    induction xs generalizing acc with
    | nil => simp
    | cons y xs ih =>
        rw [List.foldl_cons, ih, List.mem_cons, ← or_assoc]
        refine or_congr_left ?_
        by_cases hy : y ∈ acc
        · rw [if_pos (List.contains_iff_mem.mpr hy)]
          exact (or_iff_left_of_imp fun hx => hx ▸ hy).symm
        · rw [if_neg (mt List.contains_iff_mem.mp hy), List.mem_append, List.mem_singleton]
  rw [distinct, hfold, or_iff_right List.not_mem_nil]

theorem nodup_distinct (xs : List α) : (distinct xs).Nodup := by
  have hfold (acc : List α) (hacc : acc.Nodup) :
      (xs.foldl (fun acc x => if acc.contains x then acc else acc ++ [x]) acc).Nodup := by
    induction xs generalizing acc with
    | nil => exact hacc
    | cons y xs ih =>
        rw [List.foldl_cons]
        split
        · exact ih acc hacc
        · next hy =>
            rw [List.contains_iff_mem] at hy
            exact ih _ (List.nodup_append.mpr
              ⟨hacc, by simp, fun a ha b hb hab => hy (by simp_all)⟩)
  exact hfold [] List.nodup_nil

end FragmentWeaver
