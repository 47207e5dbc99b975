import FragmentWeaver.Fault

/-!
# Units from values

The unit that is handed out under a number takes its simple name from the shown form of the number.
-/

namespace FragmentWeaver.World

/-- The unit with a number of any kind. -/
def numberedUnit (w : World) (number : Value) : Except Fault UnitId :=
  match w.shown number with
  | .error u => .error (.unwritten u)
  | .ok shown =>
      (UnitId.ofParts UnitId.defaultSpace (UnitId.numberedOpening ++ shown)).mapError .unitName

end FragmentWeaver.World
