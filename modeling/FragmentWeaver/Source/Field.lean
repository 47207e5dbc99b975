import FragmentWeaver.Descriptor.Infer
import FragmentWeaver.Fault
import FragmentWeaver.Text.Identifier
import FragmentWeaver.Text.Quoted

/-!
# Fields of a unit

Every binding becomes a field of the unit's module. Its line declares the field, takes the value out
of the binding store and checks it. All names that the check needs are private names of the unit, so
that a binding that shares its name with a module or a built-in class cannot redirect later checks.
-/

namespace FragmentWeaver.Source

/-- The opening of the names that a unit keeps for itself. -/
def privateOpening : String := "_cw_"

/-- A binding of a unit: its name, its value and the type it is declared with. -/
structure BindingRecord where
  name : String
  value : Value
  descriptor : Descriptor
  deriving DecidableEq

/-- The private name of a module. -/
def privateAlias (module : String) : String :=
  privateOpening ++ String.ofList (module.toList.map fun c => if c = '.' then '_' else c)

/-- The module that the checked class of a descriptor is reached through. -/
def castModule? (d : Descriptor) : Option String :=
  d.modules.find? fun m => Text.beginsWith (m ++ ".") d.castName

/-- The expression for the checked class of a descriptor. -/
def castTarget (d : Descriptor) : String :=
  match castModule? d with
  | some m => privateAlias m ++ String.ofList (d.castName.toList.drop m.length)
  | none => privateOpening ++ "builtins." ++ d.castName

/-- The name of the check of a descriptor. -/
def checkName (d : Descriptor) : String :=
  privateOpening ++ (if d.kind = .boxed then "unbox" else "cast")

/-- The line of a field. -/
def fieldLine (unit : UnitId) (r : BindingRecord) : String :=
  r.name ++ ": typing.Final[" ++ r.descriptor.typeName ++ "] = " ++
    checkName r.descriptor ++ "(" ++ castTarget r.descriptor ++ ", " ++
    privateOpening ++ "steal(" ++ Text.quote unit.qualifiedName ++ ", " ++ Text.quote r.name ++ "))"

/-- Is the name one that a binding of the unit may have? -/
def checkBindingName (w : World) (unit : UnitId) (name : Value) : Except Fault String :=
  let written (f : String → Fault) : Fault :=
    match w.written name with
    | .ok s => f s
    | .error u => .unwritten u
  match w.opened name with
  | .text s =>
      if !Text.isIdentifier s || Text.isKeyword s then .error (written .bindingName)
      else if Text.beginsWith privateOpening s || s = unit.name then
        .error (written fun s => .reservedName s unit.qualifiedName)
      else .ok s
  | _ => .error (written .bindingName)

/-- The records of some bindings; those without a name are left out. -/
def records (w : World) (unit : UnitId) :
    List (Value × Value) → Except Fault (List BindingRecord)
  | [] => .ok []
  | (name, value) :: rest =>
      if name = .null then records w unit rest
      else do
        let name ← checkBindingName w unit name
        return ⟨name, value, w.infer value⟩ :: (← records w unit rest)

end FragmentWeaver.Source
