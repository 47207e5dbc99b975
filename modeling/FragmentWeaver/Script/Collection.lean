import FragmentWeaver.Fault
import FragmentWeaver.Value.Dictionary

/-!
# Sets, dictionaries and tallies

Sets differ by the items of the one that are not in the other, and their union holds the items of
both; the keys of a dictionary count as a set beside anything that can be run through. The union of
two dictionaries holds the entries of both, and what stands in the second one counts. Tallies are
added and subtracted count by count, and only what is left over of a count stays; their union holds
the greater one of two counts.
-/

namespace FragmentWeaver.Script

/-- Values that are not among others. -/
def without (w : World) (xs ys : List Value) : List Value :=
  xs.filter fun x => !ys.any fun y => w.sameKey x y

/-- The distinct items of a value that has to allow being run through. -/
def itemsOf (w : World) (v : Value) : Except Fault (List Value) :=
  match w.runThrough? v with
  | none => .error (.refused (.type ("'" ++ w.shownClass v ++ "' object is not iterable")))
  | some xs => do return (← w.entriesOf (xs.map fun x => (x, .null))).map Prod.fst

/-- The kind of set that a value is. -/
def setKind? (w : World) (v : Value) : Option ClassId :=
  let c := w.typeOf v
  if w.isBelow c "set" then some (.standard "set")
  else if w.isBelow c "frozenset" then some (.standard "frozenset")
  else none

/-- The difference of two sets. -/
def setDifference? (w : World) (x y : Value) : Option (Except Fault (Value × World)) :=
  let keys (v : Value) : Bool := w.isBelow (w.typeOf v) "dict_keys"
  let kind? := if keys x || keys y then some (.standard "set")
    else if (setKind? w y).isSome then setKind? w x else none
  kind?.map fun kind => do
    let xs ← itemsOf w x
    let ys ← itemsOf w y
    return w.allocate (.items (without w xs ys)) kind

/-- The union of two sets. -/
def setUnion? (w : World) (x y : Value) : Option (Except Fault (Value × World)) :=
  let keys (v : Value) : Bool := w.isBelow (w.typeOf v) "dict_keys"
  let kind? := if keys x || keys y then some (.standard "set")
    else if (setKind? w x).isSome && (setKind? w y).isSome then some (w.typeOf x) else none
  kind?.map fun kind => do
    let xs ← itemsOf w x
    let ys ← itemsOf w y
    return w.allocate (.items (xs ++ without w ys xs)) kind

/-- The class of the union of two dictionaries: that of the first one of them that keeps an order or a
    value for missing keys, or else that of all dictionaries. -/
def dictionaryKind (w : World) (x y : Value) : ClassId :=
  let keeps (v : Value) : Bool :=
    ["collections.OrderedDict", "collections.defaultdict"].any (w.isBelow (w.typeOf v))
  if keeps x then w.typeOf x else if keeps y then w.typeOf y else .standard "dict"

/-- The union of two dictionaries. -/
def dictionaryUnion? (w : World) (x y : Value) : Option (Except Fault (Value × World)) :=
  match w.content? x, w.content? y with
  | some (.entries xs), some (.entries ys) =>
      if w.isBelow (w.typeOf x) "dict" && w.isBelow (w.typeOf y) "dict" then
        some do
          let kvs ← w.entriesOf (xs ++ ys)
          return w.allocate (.entries kvs) (dictionaryKind w x y)
      else none
  | _, _ => none

/-- The counts of a tally. -/
def tally? (w : World) (v : Value) : Option (List (Value × Int)) :=
  match w.content? v with
  | some (.entries kvs) =>
      if w.isBelow (w.typeOf v) "collections.Counter" then
        kvs.mapM fun kv => do
          let n ← (w.opened kv.2).whole?
          return (kv.1, n)
      else none
  | _ => none

/-- What is left over of the counts of two tallies, the second one taken a number of times. -/
def leftOver (w : World) (times : Int) (xs ys : List (Value × Int)) : List (Value × Int) :=
  let count (kvs : List (Value × Int)) (k : Value) : Int :=
    ((kvs.find? fun (k', _) => w.sameKey k k').map Prod.snd).getD 0
  let new := ys.filter fun (k, _) => !xs.any fun (k', _) => w.sameKey k k'
  let all : List (Value × Int) :=
    xs.map (fun kv => (kv.1, kv.2 + times * count ys kv.1)) ++
      new.map fun kv => (kv.1, times * kv.2)
  all.filter fun kv => 0 < kv.2

/-- The greater one of two counts for everything that is counted. -/
def greaterCounts (w : World) (xs ys : List (Value × Int)) : List (Value × Int) :=
  let count (kvs : List (Value × Int)) (k : Value) : Int :=
    ((kvs.find? fun (k', _) => w.sameKey k k').map Prod.snd).getD 0
  let new := ys.filter fun (k, _) => !xs.any fun (k', _) => w.sameKey k k'
  let all := xs.map (fun kv => (kv.1, max kv.2 (count ys kv.1))) ++ new
  all.filter fun kv => 0 < kv.2

/-- A tally as a value. -/
def tallyValue (w : World) (counts : List (Value × Int)) : Value × World :=
  w.allocate (.entries (counts.map fun (k, n) => (k, .whole n))) (.standard "collections.Counter")

/-- The value of an operator on sets, dictionaries and tallies, if it is for the two sides. -/
def collectionOutcome? (w : World) (op : Operator) (x y : Value) :
    Option (Except Fault (Value × World)) :=
  match op, tally? w x, tally? w y with
  | .add, some xs, some ys => some (.ok (tallyValue w (leftOver w 1 xs ys)))
  | .sub, some xs, some ys => some (.ok (tallyValue w (leftOver w (-1) xs ys)))
  | .union, some xs, some ys => some (.ok (tallyValue w (greaterCounts w xs ys)))
  | .sub, _, _ => setDifference? w x y
  | .union, _, _ => (setUnion? w x y).or (dictionaryUnion? w x y)
  | _, _, _ => none

/-- What is left over of the counts of a tally with a sign before it. -/
def signedTally? (w : World) (minus : Bool) (v : Value) : Option (Value × World) :=
  (tally? w v).map fun counts => tallyValue w (leftOver w (if minus then -1 else 1) [] counts)

end FragmentWeaver.Script
