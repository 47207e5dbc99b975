import FragmentWeaver.Ascending

/-!
# Texts in order

Texts are sorted by the code points of their characters.
-/

namespace FragmentWeaver.Text

/-- Does a text not come after another one? -/
def upTo (a b : String) : Bool :=
  decide (a ≤ b)

/-- Texts in ascending order. -/
def sorted (texts : List String) : List String :=
  ascending upTo texts

theorem sorted_perm (texts : List String) : (sorted texts).Perm texts :=
  ascending_perm upTo texts

theorem upTo_trans (a b c : String) (hab : upTo a b = true) (hbc : upTo b c = true) :
    upTo a c = true :=
  decide_eq_true (String.le_trans (of_decide_eq_true hab) (of_decide_eq_true hbc))

theorem upTo_total (a b : String) : (upTo a b || upTo b a) = true := by
  rcases String.le_total a b with h | h <;> simp [upTo, h]

theorem pairwise_sorted (texts : List String) : (sorted texts).Pairwise (upTo · · = true) :=
  pairwise_ascending upTo_trans upTo_total texts

end FragmentWeaver.Text
