import FragmentWeaver.World

/-!
# Regular nested lists

A nested list is regular when it is finite, none of its lists is empty and all its leaves lie at the
same depth. It is read level by level. The lists of every level are remembered by their places: a
list that comes up again on a later level contains itself or is nested to different depths, so the
levels stop before they outnumber the heap.
-/

namespace FragmentWeaver

/-- Is the value a list and nothing more special? -/
def Value.isList : Value → Bool
  | .object _ c => c = .list
  | _ => false

/-- The places of the objects among some values. -/
def Value.places (vs : List Value) : List Address :=
  vs.filterMap fun
    | .object a _ => some a
    | _ => none

namespace Heap

/-- The items of a list object. -/
def itemsOf (h : Heap) : Value → List Value
  | .object a _ => h.items a
  | _ => []

/-- Read levels of lists until one holds something else: the count of levels and the leaves, if the
    lists are regular. -/
def levels (h : Heap) : Nat → Nat → List Address → List Value → Option (Nat × List Value)
  | rounds, depth, seen, level =>
      if level.all Value.isList then
        match rounds with
        | 0 => none
        | rounds + 1 =>
            if level.any fun v => (h.itemsOf v).isEmpty then none
            else if (Value.places level).any seen.contains then none
            else h.levels rounds (depth + 1) (seen ++ Value.places level) (level.flatMap h.itemsOf)
      else if level.any Value.isList then none
      else some (depth, level)

/-- Depth and leaves of a regular nested list. -/
def nestedList (h : Heap) (v : Value) : Option (Nat × List Value) :=
  h.levels (h.size + 1) 0 [] [v]

end Heap

end FragmentWeaver
