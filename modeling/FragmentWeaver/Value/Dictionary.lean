import FragmentWeaver.Fault

/-!
# Building dictionaries

A dictionary keeps its keys in the order of their first appearance; of several values under one key
the last one counts, and the key keeps its first spelling.
-/

namespace FragmentWeaver.World

/-- Entries with their keys, one entry for each key. -/
def keyedEntries (w : World) (pairs : List (Value × Value)) :
    Except Fault (List (Key × Value × Value)) :=
  pairs.foldlM (fun acc (name, value) =>
    match w.key name with
    | .error u => .error (.unhashable u)
    | .ok k =>
        if k.isLoose then .ok (acc ++ [(k, name, value)])
        else
          let spelled := ((Assoc.find? acc k).map Prod.fst).getD name
          .ok (Assoc.put acc k (spelled, value))) []

/-- The entries of the dictionary that some pairs make. -/
def entriesOf (w : World) (pairs : List (Value × Value)) : Except Fault (List (Value × Value)) :=
  (w.keyedEntries pairs).map (List.map Prod.snd)

end FragmentWeaver.World
