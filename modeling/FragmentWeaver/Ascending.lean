/-!
# Lists in order

Elements are put in order one by one, so that lists in order can be computed with. Elements that may
stand on either side of one another keep their order.
-/

namespace FragmentWeaver

variable {α : Type} (upTo : α → α → Bool)

/-- Put an element before the first one that it may stand before. -/
def insertAscending (a : α) : List α → List α
  | [] => [a]
  | b :: bs => if upTo a b then a :: b :: bs else b :: insertAscending a bs

/-- The elements in ascending order. -/
def ascending : List α → List α
  | [] => []
  | a :: as => insertAscending upTo a (ascending as)

theorem insertAscending_perm (a : α) (bs : List α) :
    (insertAscending upTo a bs).Perm (a :: bs) := by
  induction bs with
  | nil => exact .refl _
  | cons b bs ih =>
      rw [insertAscending]
      split
      · exact .refl _
      · exact (ih.cons b).trans (.swap a b bs)

/-- Nothing is lost and nothing is added. -/
theorem ascending_perm (as : List α) : (ascending upTo as).Perm as := by
  induction as with
  | nil => exact .refl _
  | cons a as ih => exact (insertAscending_perm upTo a _).trans (ih.cons a)

variable {upTo}

/-- The elements are in order. -/
theorem pairwise_ascending (htrans : ∀ a b c, upTo a b = true → upTo b c = true → upTo a c = true)
    (htotal : ∀ a b, (upTo a b || upTo b a) = true) (as : List α) :
    (ascending upTo as).Pairwise (upTo · · = true) := by
  have hinsert (a : α) (bs : List α) (h : bs.Pairwise (upTo · · = true)) :
      (insertAscending upTo a bs).Pairwise (upTo · · = true) := by
    induction bs with
    | nil => exact List.pairwise_singleton _ _
    | cons b bs ih =>
        obtain ⟨hb, hbs⟩ := List.pairwise_cons.mp h
        rw [insertAscending]
        split
        · next hab =>
            refine List.pairwise_cons.mpr ⟨fun c hc => ?_, h⟩
            rcases List.mem_cons.mp hc with rfl | hc
            · exact hab
            · exact htrans a b c hab (hb c hc)
        · next hab =>
            have hba : upTo b a = true := (Bool.or_eq_true _ _ ▸ htotal a b).resolve_left hab
            refine List.pairwise_cons.mpr ⟨fun c hc => ?_, ih hbs⟩
            rcases List.mem_cons.mp ((insertAscending_perm upTo a bs).mem_iff.mp hc) with rfl | hc
            · exact hba
            · exact hb c hc
  induction as with
  | nil => exact .nil
  | cons a as ih => exact hinsert a _ ih

end FragmentWeaver
