import FragmentWeaver.Value.Written

/-!
# What counts as true

Numbers count by being other than zero, containers and texts by not being empty, boxed numbers by
the bits they hold. Everything else counts as true, except what stands for nothing.
-/

namespace FragmentWeaver

/-- Does a value count as true that has no parts? -/
def Value.counts : Value → Bool
  | .null | .missing => false
  | .truth b => b
  | .whole i => i != 0
  | .float x => !x.isZero
  | .complex re im => !(re.isZero && im.isZero)
  | .text s => !s.isEmpty
  | .bytes bs => !bs.isEmpty
  | _ => true

namespace World

/-- Does the content of a box have a bit that is set? What points somewhere has. -/
def boxCounts : Option Value → Bool
  | none => false
  | some .null => false
  | some (.truth b) => b
  | some (.whole i) => i != 0
  | some (.float x) => x != .zeroOf false
  | some (.text s) => s != "\x00"
  | some (.bytes bs) => bs != [0]
  | some _ => true

/-- Does a value count as true? -/
def counts (w : World) (v : Value) : Bool :=
  match v with
  | .object a c =>
      match w.heap[a]? with
      | some (.plain inner) => inner.counts
      | some (.exact e) => e.counts
      | some (.entries kvs) => !kvs.isEmpty
      | some (.array _ xs) => !xs.isEmpty
      | some (.boxed inner) =>
          if w.isBelow c "ctypes.py_object" then inner.isSome
          else if w.isBelow c "ctypes.c_char_p" then inner != some .null
          else boxCounts inner
      | some (.items xs) =>
          match w.layout c with
          | .exception => true
          | .other =>
              if w.isBelow c "collections.ChainMap" || w.isBelow c "collections.UserDict" then
                xs.any fun
                  | .object m _ => !(w.heap.entries m).isEmpty
                  | _ => true
              else
                ["slice", "functools.partial", "property"].any (w.isBelow c) || !xs.isEmpty
          | _ => !xs.isEmpty
      | _ => true
  | .native (.member cls value) =>
      if w.isBelow (.standard cls) "enum.Flag" then value.value.counts else (w.opened v).counts
  | v => v.counts

/-- The greatest count of numbers that a range is run through. -/
def rangeLimit : Nat := 65536

/-- The numbers of a range, unless there are too many. -/
def rangeItems? (start stop step : Int) : Option (List Value) :=
  let n := Exact.rangeLength start stop step
  if rangeLimit < n then none
  else some ((List.range n).map fun (i : Nat) => .whole (start + step * i))

/-- Bytes as whole numbers. -/
def byteItems (bs : List UInt8) : List Value := bs.map fun b => .whole b.toNat

/-- What is met when a value is run through. -/
def runThrough? (w : World) (v : Value) : Option (List Value) :=
  match w.opened v with
  | .text s => some (s.toList.map fun c => .text (String.singleton c))
  | .loose ps => some (ps.map fun p => .ofPoints [p])
  | .bytes bs => some (byteItems bs)
  | .object a c =>
      match w.heap[a]? with
      | some (.entries kvs) => some (kvs.map Prod.fst)
      | some (.array _ xs) => some xs
      | some (.exact (.buffer bs)) => some (byteItems bs)
      | some (.exact (.range start stop step)) => rangeItems? start stop step
      | some (.items xs) =>
          match w.layout c with
          | .exception => none
          | .other => if w.isBelow c "dict_keys" then some xs else none
          | _ => some xs
      | _ => none
  | _ => none

end World

end FragmentWeaver
