/-!
# Linear orders of ancestors

A class with several bases resolves names along one list of ancestors. The list is merged from the
lists of the bases and the list of the bases themselves: the next class is always the first head
that stands in no tail.
-/

namespace FragmentWeaver.Linearization

variable {α : Type} [DecidableEq α]

/-- The first head of a list that stands in the tail of none. -/
def head? (lists : List (List α)) : Option α :=
  lists.findSome? fun
    | [] => none
    | c :: _ => if lists.all fun l => !l.tail.contains c then some c else none

/-- The lists without a class at their head. -/
def dropHead (c : α) (lists : List (List α)) : List (List α) :=
  lists.map fun
    | [] => []
    | d :: l => if d = c then l else d :: l

/-- Merge lists in at most so many steps; nothing when they contradict each other. -/
def mergeWithin : Nat → List (List α) → Option (List α)
  | steps, lists =>
      if lists.all List.isEmpty then some []
      else
        match steps with
        | 0 => none
        | steps + 1 =>
            match head? lists with
            | none => none
            | some c => (mergeWithin steps (dropHead c lists)).map (c :: ·)

/-- Merge lists; every step takes at least one class away. -/
def merge (lists : List (List α)) : Option (List α) :=
  mergeWithin (lists.foldr (fun l n => l.length + n) 0) lists

end FragmentWeaver.Linearization
