import FragmentWeaver.Host
import FragmentWeaver.Loading.Scope

/-!
# Loading units

The modules of a unit's helpers are loaded, then that of the unit; the class of the unit's name is
called and gives the handle. All this happens in a context of its own, which is closed in every
case. A fault is told to the host and comes out wrapped, with the step that failed; only what no
handler for ordinary faults catches passes as it is.
-/

namespace FragmentWeaver.Loading

/-- A unit that was loaded: its handle, and the modules that were run for it, in order. -/
structure LoadedUnit where
  handle : Value
  unit : UnitId
  modules : List String
  deriving DecidableEq

/-- Carry out a step of loading a unit. -/
def step {α : Type} (host : Option Host) (unit : UnitId) (phase : LoadPhase) (action : Run α) :
    Run α := do
  try action
  catch f => do
    if f.isOrdinary (← Run.world) then
      Host.told host unit f
      Run.fail (.unloaded unit phase f)
    else Run.fail f

/-- Load modules one after the other. -/
def loadAll (c : Nat) (names : List String) : Run Unit :=
  names.forM fun name => do
    let _ ← load c name

/-- Load the modules of a unit; what its module keeps under the unit's name. -/
def factory (c : Nat) (unit : UnitId) : Run Value := do
  loadAll c (← helperModules c unit)
  let m ← load c unit.qualifiedName
  Script.attributeOf importModule (.module m) unit.name

/-- Load a unit in a context that is open. -/
def loadIn (host : Option Host) (c : Nat) (unit : UnitId) : Run LoadedUnit := do
  let maker ← step host unit .load (factory c unit)
  let handle ← step host unit .instantiate (Script.callValue importModule maker [])
  return ⟨handle, unit, (← contextOf c).loaded⟩

/-- Load a unit from below a staging root. -/
def loadUnit (host : Option Host) (root : Files.Path) (unit : UnitId) : Run LoadedUnit := do
  let c ← newContext root unit.space
  openContext c
  andFinally (loadIn host c unit) (closeContext c)

end FragmentWeaver.Loading
