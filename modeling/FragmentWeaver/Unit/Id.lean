import FragmentWeaver.Number.Whole
import FragmentWeaver.Text.Character
import FragmentWeaver.Text.Split

/-!
# Unit identities

A unit is known by a namespace and a simple name. Both are non-empty and the simple name holds no
dot, so the qualified name can be taken apart again at its last dot.
-/

namespace FragmentWeaver

/-- Why two texts are no unit identity. -/
inductive UnitFault where
  | missingPart
  | dottedName (name : String)
  deriving DecidableEq, Repr

/-- The wording of a fault. -/
def UnitFault.message : UnitFault → String
  | .missingPart => "UnitId requires a namespace and a simple name"
  | .dottedName name => "Unit simple name must not be dotted: " ++ name

/-- The identity of a unit: the namespace its module lives in and its simple name. -/
structure UnitId where
  space : String
  name : String
  space_ne : space ≠ ""
  name_ne : name ≠ ""
  name_undotted : '.' ∉ name.toList
  deriving DecidableEq

namespace UnitId

/-- The namespace of units that name none. -/
def defaultSpace : String := "woven"

/-- The opening of the simple names that are handed out by number. -/
def numberedOpening : String := "gen"

/-- The unit of a namespace and a simple name, if they make one. -/
def ofParts (space name : String) : Except UnitFault UnitId :=
  if hs : space = "" then .error .missingPart
  else if hn : name = "" then .error .missingPart
  else if hd : '.' ∈ name.toList then .error (.dottedName name)
  else .ok ⟨space, name, hs, hn, hd⟩

/-- Namespace and simple name with a dot between them. -/
def qualifiedName (u : UnitId) : String :=
  u.space ++ "." ++ u.name

instance : ToString UnitId := ⟨qualifiedName⟩

/-- Namespace and simple name of a written name: the parts around its last dot; without a dot the
    namespace is empty. -/
def partsOf (written : String) : String × String :=
  match Text.cutLast '.' written.toList with
  | some (space, name) => (String.ofList space, String.ofList name)
  | none => ("", written)

/-- Read a unit from a written name; white space around it is dropped, and an empty namespace stands
    for the default one. -/
def parse (written : String) : Except UnitFault UnitId :=
  let (space, name) := partsOf (Text.strip written)
  ofParts (if space = "" then defaultSpace else space) name

theorem numbered_undotted (n : Int) :
    '.' ∉ (numberedOpening ++ Number.wholeText n).toList := by
  intro h
  simp only [numberedOpening, Number.wholeText, String.toList_append, List.mem_append,
    String.toList_ofList] at h
  rcases h with h | h
  · exact absurd h (by decide)
  · rcases Number.mem_wholeChars h with h | h <;> exact absurd h (by decide)

/-- The unit handed out under a number. -/
def numbered (n : Int) : UnitId where
  space := defaultSpace
  name := numberedOpening ++ Number.wholeText n
  space_ne := by decide
  name_ne := by
    intro h
    have := congrArg String.toList h
    simp [numberedOpening] at this
  name_undotted := numbered_undotted n

theorem ofParts_ok {space name : String} {u : UnitId} (h : ofParts space name = .ok u) :
    u.space = space ∧ u.name = name := by
  unfold ofParts at h
  split at h
  · cases h
  · split at h
    · cases h
    · split at h
      · cases h
      · cases h
        exact ⟨rfl, rfl⟩

/-- The parts of a unit make the unit again. -/
theorem ofParts_parts (u : UnitId) : ofParts u.space u.name = .ok u := by
  unfold ofParts
  rw [dif_neg u.space_ne, dif_neg u.name_ne, dif_neg u.name_undotted]

end UnitId

end FragmentWeaver
