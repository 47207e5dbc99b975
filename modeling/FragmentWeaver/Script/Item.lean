import FragmentWeaver.Script.Object

/-!
# Items

Reading, setting and dropping what stands under a key or at an index. Sequences count from zero, and
negative indices count from the end; dictionaries look their keys up; classes and forms take type
arguments.
-/

namespace FragmentWeaver.Script

/-- The place in a sequence that an index means; negative indices count from the end. -/
def placeOf? (size : Nat) (i : Int) : Option Nat :=
  let place := if i < 0 then (size : Int) + i else i
  if 0 ≤ place && place < size then some place.toNat else none

/-- A sequence whose items can be read by their places: how many there are, the item at a place, what is
    said of an index beyond them, and what is said of an index of another class. -/
structure Indexed where
  size : Nat
  item? : Nat → Option Value
  beyond : ScriptFault
  unfit : String → ScriptFault

/-- The sequence of a list of values, with the usual words for a kind of sequence. -/
def Indexed.ofList (kind : String) (xs : List Value) : Indexed where
  size := xs.length
  item? i := xs[i]?
  beyond := .indexOutOfRange kind
  unfit := .badIndex kind

/-- The characters of a text as texts. -/
def characters (s : String) : List Value :=
  s.toList.map fun c => .text (String.singleton c)

/-- The sequence that a value is. -/
def indexed? (w : World) (v : Value) : Option Indexed :=
  match w.opened v with
  | .text s => some (.ofList "string" (characters s))
  | .loose ps => some (.ofList "string" (ps.map fun p => .ofPoints [p]))
  | .bytes bs =>
      some { Indexed.ofList "byte" (World.byteItems bs) with beyond := .indexOutOfRange "" }
  | .object a c =>
      match w.layout c, w.heap[a]? with
      | .list, some (.items xs) => some (.ofList "list" xs)
      | .tuple, some (.items xs) => some (.ofList "tuple" xs)
      | .deque, some (.items xs) =>
          some { Indexed.ofList "deque" xs with
            unfit := fun other => .refused ("sequence index must be integer, not '" ++ other ++ "'") }
      | _, some (.array _ xs) =>
          some { Indexed.ofList "array" xs with
            unfit := fun _ => .refused "array indices must be integers" }
      | _, some (.exact (.buffer bs)) =>
          let items := World.byteItems bs
          if w.isBelow c "memoryview" then
            some { Indexed.ofList "memoryview" items with
              beyond := .beyondBounds, unfit := fun _ => .refused "memoryview: invalid slice key" }
          else some (.ofList "bytearray" items)
      | _, some (.exact (.range start stop step)) =>
          some {
            size := Exact.rangeLength start stop step
            item? := fun i => some (.whole (start + step * i))
            beyond := .indexOutOfRange "range object"
            unfit := .badIndex "range" }
      | _, _ => none
  | _ => none

/-- The greatest number that an index can be. -/
def indexLimit : Nat := Number.pow2 63

/-- The item of a sequence at an index. -/
def Indexed.read (s : Indexed) (w : World) (key : Value) : Except ScriptFault Value :=
  match (w.opened key).whole? with
  | none => .error (s.unfit (w.shownClass key))
  | some i =>
      match (placeOf? s.size i).bind s.item? with
      | some x => .ok x
      | none =>
          if i.natAbs < indexLimit || s.beyond = .indexOutOfRange "range object" then .error s.beyond
          else .error (.indexTooLarge (w.shownClass key))

/-- The name in the module table that a key stands for. -/
def tableKey (key : Value) : String :=
  match key with
  | .text s => s
  | _ => ""

/-- What stands under a key in some entries. -/
def entry? (kvs : List (Value × Value)) (key : Value) : Act (Option Value) := do
  let w ← Act.world
  match w.key key with
  | .error u => Act.fail (.unhashable u)
  | .ok _ => return (kvs.find? fun (k, _) => w.sameKey k key).map Prod.snd

/-- The dictionaries that a value looks a key up in, one after the other. -/
def dictionaries (w : World) (v : Value) : List (List (Value × Value)) :=
  match v with
  | .object a c =>
      if w.layout c = .dict then [w.heap.entries a]
      else if w.isBelow c "collections.ChainMap" || w.isBelow c "collections.UserDict" then
        (w.heap.items a).map fun
          | .object m _ => w.heap.entries m
          | _ => []
      else []
  | _ => []

/-- Read an item. -/
def readItem (v key : Value) : Act Value := do
  let w ← Act.world
  let refused : Act Value := Act.fail (.script (.notSubscriptable (w.shownClass v)))
  match v, indexed? w v, dictionaries w v with
  | _, some s, _ => Act.lift ((s.read w key).mapError .script)
  | _, none, kvs :: more => do
      match ← (kvs :: more).findSomeM? fun kvs => entry? kvs key with
      | some x => return x
      | none =>
          if w.isOf v "collections.Counter" then return .whole 0
          else Act.fail (.script (.keyMissing key))
  | .cls c, _, _ => subscribeListed c key
  | .native (.other n (.standard cls) _), _, _ =>
      if Standard.isTypeForm (.standard cls) then subscribeForm n cls key else refused
  | .moduleTable, _, _ =>
      match w.imported? (tableKey key) with
      | some m => return .module m
      | none => Act.fail (.script (.keyMissing key))
  | .object a c, _, _ =>
      match w.heap[a]? with
      | some (.applied _) => subscribeApplied v key
      | some (.items [.object inner _]) =>
          if w.isBelow c "collections.UserList" then
            Act.lift (((Indexed.ofList "list" (w.heap.items inner)).read w key).mapError .script)
          else refused
      | _ => refused
  | _, _, _ => refused

/-- Some entries with another value under a key; a new key comes last. -/
def entriesWith (w : World) (kvs : List (Value × Value)) (key x : Value) : List (Value × Value) :=
  if kvs.any fun (k, _) => w.sameKey k key then
    kvs.map fun (k, old) => if w.sameKey k key then (k, x) else (k, old)
  else kvs ++ [(key, x)]

/-- The place in a list that can be changed; what is said of an index beyond it starts with a word for
    the list. -/
def changeablePlace (kind : String) (size : Nat) (key : Value) : Act Nat := do
  let w ← Act.world
  match (w.opened key).whole? with
  | none => Act.fail (.script (.badIndex kind (w.shownClass key)))
  | some i =>
      match placeOf? size i with
      | some place => return place
      | none =>
          Act.fail (.script (.indexOutOfRange (if kind = "list" then "list assignment" else kind)))

/-- Set an item. -/
def setItem (v key x : Value) : Act Unit := do
  let w ← Act.world
  let refused : Act Unit := Act.fail (.script (.noItemAssignment (w.shownClass v)))
  let write (a : Address) (c : Content) : Act Unit :=
    Act.changeWorld fun w => { w with heap := w.heap.write a c }
  match v, w.content? v with
  | .moduleTable, _ =>
      match x with
      | .module m => Act.enter (tableKey key) m
      | _ => Act.fail (.script (.unsupported "the module table holds modules"))
  | .object a c, some (.entries kvs) =>
      if w.layout c = .dict then do
        let _ ← Act.lift ((w.key key).mapError .unhashable)
        write a (.entries (entriesWith w kvs key x))
      else refused
  | .object a c, some (.items xs) =>
      match w.layout c with
      | .list => do
          let place ← changeablePlace "list" xs.length key
          write a (.items (xs.set place x))
      | .deque => do
          let place ← changeablePlace "deque" xs.length key
          write a (.items (xs.set place x))
      | _ => refused
  | .object a c, some (.exact (.buffer bs)) =>
      if w.isBelow c "bytearray" then do
        let place ← changeablePlace "bytearray" bs.length key
        let i ← Act.lift ((w.wholeOf x).mapError .refused)
        if 0 ≤ i && i < 256 then
          write a (.exact (.buffer (bs.set place (UInt8.ofNat i.toNat))))
        else Act.fail (.refused (.value "byte must be in range(0, 256)"))
      else refused
  | _, _ => refused

/-- Drop an item. -/
def dropItem (v key : Value) : Act Unit := do
  let w ← Act.world
  let refused : Act Unit :=
    Act.fail (.script (.refused ("'" ++ w.shownClass v ++ "' object doesn't support item deletion")))
  let write (a : Address) (c : Content) : Act Unit :=
    Act.changeWorld fun w => { w with heap := w.heap.write a c }
  match v, w.content? v with
  | .moduleTable, _ =>
      match w.imported? (tableKey key) with
      | some _ => Act.leave (tableKey key)
      | none => Act.fail (.script (.keyMissing key))
  | .object a c, some (.entries kvs) =>
      if w.layout c = .dict then do
        match ← entry? kvs key with
        | some _ => write a (.entries (kvs.filter fun (k, _) => !w.sameKey k key))
        | none => Act.fail (.script (.keyMissing key))
      else refused
  | .object a c, some (.items xs) =>
      match w.layout c with
      | .list => do
          let place ← changeablePlace "list" xs.length key
          write a (.items (xs.eraseIdx place))
      | .deque => do
          let place ← changeablePlace "deque" xs.length key
          write a (.items (xs.eraseIdx place))
      | _ => refused
  | .object a c, some (.exact (.buffer bs)) =>
      if w.isBelow c "bytearray" then do
        let place ← changeablePlace "bytearray" bs.length key
        write a (.exact (.buffer (bs.eraseIdx place)))
      else refused
  | _, _ => refused

/-- Refuse a count of items that is not the one expected. -/
def exactly (expected : Nat) (xs : List Value) : Act (List Value) :=
  if xs.length < expected then Act.fail (.script (.tooFewValues expected xs.length))
  else if expected < xs.length then Act.fail (.script (.tooManyValues expected))
  else return xs

end FragmentWeaver.Script
