import FragmentWeaver.Binding.Store

/-!
# Calls on a binding store

The operations of the store as data, so that runs of them can be spoken of. A unit may be given by
any value; it stands for the shown form of that value.
-/

namespace FragmentWeaver

/-- An operation on a binding store. -/
inductive StoreCall where
  | put (unit name value : Value)
  | steal (unit name : Value)
  | discard (unit : Value)
  /-- The names of one unit, or of all units. -/
  | pending (unit : Value)
  | clear
  | size
  deriving DecidableEq

/-- What an operation answers. -/
inductive StoreAnswer where
  | done
  | value (v : Value)
  | count (n : Nat)
  | names (units : List (String × List Value))
  deriving DecidableEq

/-- The name of the unit that a value stands for. -/
def World.unitName (w : World) (unit : Value) : Except Fault String :=
  (w.shown unit).mapError .unwritten

namespace Store

/-- Carry out an operation. -/
def run (s : Store) (w : World) : StoreCall → Except Fault StoreAnswer × Store × List LogRecord
  | .put unit name value =>
      if name = .null then (.ok .done, s, [])
      else
        match w.unitName unit with
        | .error f => (.error f, s, [])
        | .ok u =>
            let (r, s) := s.put w u name value
            (r.map fun _ => .done, s, [])
  | .steal unit name =>
      match w.unitName unit with
      | .error f => (.error f, s, [])
      | .ok u =>
          let (r, s, log) := s.steal w u name
          (r.map .value, s, log)
  | .discard unit =>
      match w.unitName unit with
      | .error f => (.error f, s, [])
      | .ok u =>
          let (n, s) := s.discard u
          (.ok (.count n), s, [])
  | .pending unit =>
      if unit = .null then (s.pending w |>.map .names, s, [])
      else
        match w.unitName unit with
        | .error f => (.error f, s, [])
        | .ok u => (s.pendingOf w u |>.map fun names => .names [(u, names)], s, [])
  | .clear => (.ok .done, {}, [])
  | .size => (.ok (.count s.size), s, [])

end Store

end FragmentWeaver
