/-!
# Decimal texts of whole numbers
-/

namespace FragmentWeaver.Number

/-- The digits of a natural number, the first one first. -/
def digitsOf (n : Nat) : List Char :=
  Nat.toDigits 10 n

/-- The characters of a whole number: its digits, after a minus where it is negative. -/
def wholeChars (i : Int) : List Char :=
  if i < 0 then '-' :: digitsOf i.natAbs else digitsOf i.natAbs

/-- The text of a whole number. -/
def wholeText (i : Int) : String :=
  String.ofList (wholeChars i)

theorem wholeChars_ne_nil (i : Int) : wholeChars i ≠ [] := by
  unfold wholeChars digitsOf
  split
  · simp
  · exact Nat.toDigits_ne_nil

/-- Only digits and the minus stand in the text of a whole number. -/
theorem mem_wholeChars {i : Int} {c : Char} (h : c ∈ wholeChars i) : c = '-' ∨ c.isDigit := by
  unfold wholeChars digitsOf at h
  split at h
  · rcases List.mem_cons.1 h with h | h
    · exact .inl h
    · exact .inr (Nat.isDigit_of_mem_toDigits (by decide) (by decide) h)
  · exact .inr (Nat.isDigit_of_mem_toDigits (by decide) (by decide) h)

end FragmentWeaver.Number
