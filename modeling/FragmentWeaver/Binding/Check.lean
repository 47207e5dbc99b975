import FragmentWeaver.Fault

/-!
# Checking bound values

A unit checks every value it takes against the class its field was declared with. A missing binding
passes for the class above all only. Boxed numbers have to be of the very class and are opened.
-/

namespace FragmentWeaver.World

/-- The name of a class in the messages of a check. -/
def declaredName (w : World) (c : ClassId) : String :=
  (w.classInfo c).name

/-- Check a value against a class. -/
def cast (w : World) (c : ClassId) (v : Value) : Except Fault Value :=
  if v = .missing then
    if c = .object then .ok .null else .error (.castMissing (w.declaredName c))
  else if w.isInstance v c then .ok v
  else .error (.wrongBinding (w.declaredName (w.typeOf v)) (w.declaredName c))

/-- What a class keeps under the name of the held value. -/
def heldByClass (w : World) (c : ClassId) : Except Fault Value :=
  match w.classAttribute? c "value" with
  | some inner => .ok inner
  | none =>
      if w.isBelow c "_ctypes._SimpleCData" then
        .ok (.native (.other "value" (.standard "getset_descriptor")))
      else if w.isBelow c "StopIteration" then
        .ok (.native (.other "value" (.standard "member_descriptor")))
      else if w.isBelow c "enum.Enum" then
        .error (.script (.noSuchName "value"))
      else .error (.script (.classAttribute (w.classInfo c).shown "value"))

/-- What a value holds. -/
def held (w : World) (v : Value) : Except Fault Value :=
  let absent : Fault := .script (.objectAttribute (w.shownClass v) "value")
  match v with
  | .cls c => w.heldByClass c
  | .module m => .error (.script (.moduleAttribute (some (w.moduleName m)) "value"))
  | .native (.member _ value) => .ok value.value
  | .object a c =>
      match w.attribute? v "value", w.heap[a]? with
      | some inner, _ => .ok inner
      | none, some (.boxed (some inner)) => .ok inner
      | none, some (.boxed none) => .error .emptyBox
      | none, some (.items args) =>
          if w.isBelow c "StopIteration" then .ok (args.headD .null) else .error absent
      | none, _ => .error absent
  | _ => .error absent

/-- Check a boxed value against its exact class and open it. -/
def unbox (w : World) (c : ClassId) (v : Value) : Except Fault Value :=
  if v = .missing then .error (.unboxMissing (w.declaredName c))
  else if w.typeOf v = c then w.held v
  else .error (.wrongBinding (w.declaredName (w.typeOf v)) (w.declaredName c))

end FragmentWeaver.World
