import FragmentWeaver.Class.PublicName
import FragmentWeaver.Fault

/-!
# Extra imports

An extra import is given as a statement, the name of a module, a module or a class, and becomes one
line of the source. A class is imported by the outermost part of its name, from a module that leads
to it or, failing that, from the module it says it comes from.
-/

namespace FragmentWeaver.Source

/-- The first part of a dotted name. -/
def firstPart (dotted : String) : String :=
  String.ofList (dotted.toList.takeWhile (· ≠ '.'))

/-- The import line of a written entry. -/
def importOfText (entry : String) : String :=
  let text := Text.strip entry
  if Text.beginsWith "import " text || Text.beginsWith "from " text then text
  else "import " ++ text

/-- The import line of a class. -/
def importOfClass (w : World) (c : ClassId) : String :=
  let i := w.classInfo c
  match w.publicName c with
  | some ⟨some module, dotted⟩ =>
      let name := String.ofList (dotted.toList.drop (module.length + 1))
      "from " ++ module ++ " import " ++ firstPart name
  | _ => "from " ++ i.space.getD "None" ++ " import " ++ firstPart i.name

/-- The line for an extra import. -/
def renderImport (w : World) (entry : Value) : Except Fault String :=
  match w.opened entry with
  | .text s => .ok (importOfText s)
  | .module m => .ok ("import " ++ w.moduleName m)
  | .cls c => .ok (importOfClass w c)
  | _ =>
      match w.written entry with
      | .ok written => .error (.importEntry written)
      | .error u => .error (.unwritten u)

end FragmentWeaver.Source
