import FragmentWeaver.Fault
import FragmentWeaver.Log
import FragmentWeaver.Text.Sorted

/-!
# The binding store

Values on their way into a unit. They are kept by unit and name; a value is put there before the
unit is compiled and taken out once while the unit is loaded. A unit without values has no entry,
and units stand in the order in which their entries were made.
-/

namespace FragmentWeaver

/-- A staged value and the name it was put under. -/
structure Staged where
  name : Value
  value : Value
  deriving DecidableEq

/-- The values staged for one unit, by the keys of their names, in the order of the names. -/
abbrev Partition := List (Key × Staged)

namespace Partition

/-- Put a value under a name; a name that is already there keeps its place and its spelling. -/
def put (p : Partition) (k : Key) (name value : Value) : Partition :=
  if k.isLoose then p ++ [(k, ⟨name, value⟩)]
  else
    match Assoc.find? p k with
    | some old => Assoc.put p k ⟨old.name, value⟩
    | none => Assoc.put p k ⟨name, value⟩

/-- The value under a name. -/
def find? (p : Partition) (k : Key) : Option Value :=
  if k.isLoose then none else (Assoc.find? p k).map Staged.value

/-- The names. -/
def names (p : Partition) : List Value :=
  p.map fun (_, s) => s.name

end Partition

/-- Values in ascending order. -/
def World.sortValues (w : World) (vs : List Value) : Except Fault (List Value) :=
  match Value.texts? vs with
  | some texts => .ok ((Text.sorted texts).map .text)
  | none => (sortBy w.below vs).mapError .unordered

/-- The values staged for all units. -/
structure Store where
  units : List (String × Partition) := []
  deriving Inhabited

namespace Store

/-- The values staged for a unit. -/
def partition (s : Store) (unit : String) : Partition :=
  (Assoc.find? s.units unit).getD []

/-- Put a value under a name of a unit; nothing is put under no name. A name that cannot be a key is
    refused after the entry of the unit has been made. -/
def put (s : Store) (w : World) (unit : String) (name value : Value) : Except Fault Unit × Store :=
  if name = .null then (.ok (), s)
  else
    match w.key name with
    | .error u => (.error (.unhashable u), ⟨Assoc.put s.units unit (s.partition unit)⟩)
    | .ok k => (.ok (), ⟨Assoc.put s.units unit ((s.partition unit).put k name value)⟩)

/-- What is given and reported when a value is asked for that is not there. The report shows the name,
    so a name without a written form is refused. -/
def missing (w : World) (unit : String) (name : Value) : Except Fault Value × List LogRecord :=
  match w.shown name with
  | .error u => (.error (.unwritten u), [])
  | .ok shown =>
      (.ok .missing, [⟨.warning, "codeweave.bindings",
        "No binding '" ++ shown ++ "' for unit '" ++ unit ++ "'"⟩])

/-- Take the value under a name of a unit. The entry of a unit goes with its last value. -/
def steal (s : Store) (w : World) (unit : String) (name : Value) :
    Except Fault Value × Store × List LogRecord :=
  match Assoc.find? s.units unit with
  | none =>
      let (r, log) := missing w unit name
      (r, s, log)
  | some p =>
      match w.key name with
      | .error u => (.error (.unhashable u), s, [])
      | .ok k =>
          match p.find? k with
          | none =>
              let (r, log) := missing w unit name
              (r, s, log)
          | some v =>
              let rest := Assoc.erase p k
              (.ok v,
                ⟨if rest.isEmpty then Assoc.erase s.units unit else Assoc.put s.units unit rest⟩,
                [])

/-- Drop all values of a unit; how many there were. -/
def discard (s : Store) (unit : String) : Nat × Store :=
  ((s.partition unit).length, ⟨Assoc.erase s.units unit⟩)

/-- The sorted names of a unit. -/
def pendingOf (s : Store) (w : World) (unit : String) : Except Fault (List Value) :=
  w.sortValues (s.partition unit).names

/-- The sorted names of all units. -/
def pending (s : Store) (w : World) : Except Fault (List (String × List Value)) :=
  s.units.mapM fun (unit, p) => do return (unit, ← w.sortValues p.names)

/-- What is staged for all units but some. -/
def without (s : Store) (units : List String) : List (String × Partition) :=
  s.units.filter fun (u, _) => !units.contains u

/-- How many values are staged. -/
def size (s : Store) : Nat :=
  s.units.foldr (fun (_, p) n => p.length + n) 0

/-- Stores that agree outside some units agree outside more of them. -/
theorem without_mono {s t : Store} {us vs : List String} (h : us ⊆ vs)
    (hs : t.without us = s.without us) : t.without vs = s.without vs := by
  have split (r : Store) :
      r.without vs = (r.without us).filter fun (u, _) => !vs.contains u := by
    rw [without, without, List.filter_filter]
    apply List.filter_congr
    rintro ⟨u, p⟩ -
    by_cases hu : u ∈ us
    · simp [hu, h hu]
    · simp [hu]
  rw [split, split, hs]

theorem put_without {us : List String} {unit : String} (h : unit ∈ us) (s : Store) (w : World)
    (name value : Value) : (s.put w unit name value).2.without us = s.without us := by
  have hp : ∀ p : Partition, (!us.contains unit) = false := by simp [h]
  unfold put
  split
  · rfl
  · split <;> exact Assoc.filter_put hp _ _

theorem steal_without {us : List String} {unit : String} (h : unit ∈ us) (s : Store) (w : World)
    (name : Value) : (s.steal w unit name).2.1.without us = s.without us := by
  have hp : ∀ p : Partition, (!us.contains unit) = false := by simp [h]
  unfold steal
  split
  · rfl
  · split
    · rfl
    · split
      · rfl
      · simp only [without]
        split
        · exact Assoc.filter_erase hp _
        · exact Assoc.filter_put hp _ _

theorem discard_without {us : List String} {unit : String} (h : unit ∈ us) (s : Store) :
    (s.discard unit).2.without us = s.without us :=
  Assoc.filter_erase (by simp [h]) _

end Store

end FragmentWeaver
