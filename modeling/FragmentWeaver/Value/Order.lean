import FragmentWeaver.Value.Key
import FragmentWeaver.Value.Boxed

/-!
# The order of keys

Sorting compares values in a fixed order of comparisons, so that of several pairs that cannot be
compared always the same one is reported: first the run at the start is followed, then every further
value is placed by halving.
-/

namespace FragmentWeaver

/-- Two values that have no order, by the names of their classes in messages. -/
inductive Unordered where
  | classes (left right : String)
  /-- An undefined decimal, or a decimal beside an undefined number. -/
  | undefined
  /-- A moment and a day do not compare, although every moment is a day of a kind. -/
  | momentAndDay (moment day : String)
  deriving DecidableEq, Repr

/-- Is an amount below another one? -/
def Amount.below : Amount → Amount → Bool
  | .ratio p, .ratio q => p < q
  | .infinite n, .infinite m => n && !m
  | .infinite n, .ratio _ => n
  | .ratio _, .infinite m => !m

/-- The amount of a number on the line, if the value is one; nothing inside for an undefined
    number. -/
def Value.amount? : Value → Option (Option Amount)
  | .truth b => some (some (.ratio (if b then 1 else 0)))
  | .whole i => some (some (.ratio i))
  | .float x => some (Amount.ofBinary? x)
  | _ => none

/-- Is a list of bytes before another one? -/
def bytesBelow : List UInt8 → List UInt8 → Bool
  | _, [] => false
  | [], _ :: _ => true
  | a :: as, b :: bs => if a = b then bytesBelow as bs else a < b

/-- Is a list of code points below another one in the order of a dictionary? -/
def pointsBelow : List Nat → List Nat → Bool
  | _, [] => false
  | [], _ :: _ => true
  | a :: as, b :: bs => if a = b then pointsBelow as bs else a < b

namespace World

/-- The amount of a number on the line, if the value stands for one; nothing inside for an undefined
    number. -/
def amount? (w : World) (v : Value) : Option (Option Amount) :=
  match w.exactOf? v with
  | some (.ratio q) => some (some (.ratio q))
  | some (.decimal x) => some (Amount.ofExtended? x)
  | some _ => none
  | none => (w.opened v).amount?

/-- Is the value a decimal? -/
def isDecimal (w : World) (v : Value) : Bool :=
  match w.exactOf? v with
  | some (.decimal _) => true
  | _ => false

/-- The items of a set. -/
def setItems? (w : World) : Value → Option (List Value)
  | .object a c => if w.layout c = .set then some (w.heap.items a) else none
  | _ => none

/-- The items of a tuple. -/
def tupleItems? (w : World) : Value → Option (List Value)
  | .object a c =>
      if (w.lineage c).contains (.standard "tuple") then some (w.heap.items a) else none
  | _ => none

/-- Are two values the same key? -/
def sameKey (w : World) (x y : Value) : Bool :=
  match w.key x, w.key y with
  | .ok k, .ok k' => k = k' && !Key.isLoose k
  | _, _ => false

/-- The first place at which two lists differ, or their lengths. -/
def firstDifference (w : World) : List Value → List Value → (Value × Value) ⊕ Bool
  | x :: xs, y :: ys => if w.sameKey x y then w.firstDifference xs ys else .inl (x, y)
  | [], _ :: _ => .inr true
  | _, [] => .inr false

/-- The order of two exact values. -/
def exactBelow (w : World) (x y : Value) (d e : Exact) : Except Unordered Bool :=
  let shown (v : Value) : String := (w.classInfo (w.typeOf v)).shown
  match d, e with
  | .moment _, .date _ => .error (.momentAndDay (shown x) (shown y))
  | .date _, .moment _ => .error (.momentAndDay (shown y) (shown x))
  | d, e =>
      match d.below? e with
      | some r => .ok r
      | none => .error (.classes (shown x) (shown y))

/-- Is a value below another one? Tuples may be nested to a given depth. -/
def belowWithin (w : World) (depth : Nat) (x y : Value) : Except Unordered Bool :=
  let unordered : Unordered :=
    .classes (w.classInfo (w.typeOf x)).shown (w.classInfo (w.typeOf y)).shown
  match w.amount? x, w.amount? y with
  | some a, some b =>
      match a, b with
      | some a, some b => .ok (a.below b)
      | _, _ => if w.isDecimal x || w.isDecimal y then .error .undefined else .ok false
  | _, _ =>
      match w.exactOf? x, w.exactOf? y with
      | some d, some e => w.exactBelow x y d e
      | _, _ =>
          match w.opened x, w.opened y with
          | .text s, .text t => .ok (pointsBelow (Text.pointsOf s) (Text.pointsOf t))
          | .text s, .loose t => .ok (pointsBelow (Text.pointsOf s) t)
          | .loose s, .text t => .ok (pointsBelow s (Text.pointsOf t))
          | .loose s, .loose t => .ok (pointsBelow s t)
          | .bytes s, .bytes t => .ok (bytesBelow s t)
          | _, _ =>
              match w.setItems? x, w.setItems? y with
              | some xs, some ys =>
                  .ok (decide (xs.length < ys.length) && xs.all fun v => ys.any (w.sameKey v))
              | _, _ =>
                  match w.tupleItems? x, w.tupleItems? y, depth with
                  | some xs, some ys, depth + 1 =>
                      match w.firstDifference xs ys with
                      | .inl (a, b) => w.belowWithin depth a b
                      | .inr shorter => .ok shorter
                  | _, _, _ => .error unordered

/-- Is a value below another one? -/
def below (w : World) (x y : Value) : Except Unordered Bool :=
  w.belowWithin (w.heap.size + 1) x y

end World

/-- The length of the run at the start after its first element, and whether the run descends. -/
def runLength {ε α : Type} (below : α → α → Except ε Bool) (descending : Bool) :
    α → List α → Except ε Nat
  | _, [] => .ok 0
  | prev, x :: rest => do
      if (← below x prev) = descending then
        return (← runLength below descending x rest) + 1
      else return 0

/-- The place of a value in a sorted list, found by halving. -/
def placeOf {ε α : Type} (below : α → α → Except ε Bool) (x : α) (sorted : Array α) :
    Nat → Nat → Nat → Except ε Nat
  | 0, low, _ => .ok low
  | fuel + 1, low, high =>
      if low < high then
        let middle := (low + high) / 2
        match sorted[middle]? with
        | none => .ok low
        | some pivot => do
            if (← below x pivot) then placeOf below x sorted fuel low middle
            else placeOf below x sorted fuel (middle + 1) high
      else .ok low

/-- Sort by the order of comparisons described above. -/
def sortBy {ε α : Type} (below : α → α → Except ε Bool) : List α → Except ε (List α)
  | [] => .ok []
  | [x] => .ok [x]
  | x :: y :: rest => do
      let descending ← below y x
      let more ← runLength below descending y rest
      let run := (x :: y :: rest).take (more + 2)
      let start := if descending then run.reverse else run
      (rest.drop more).foldlM (fun acc z => do
        let sorted := acc.toArray
        let place ← placeOf below z sorted sorted.size 0 sorted.size
        return acc.take place ++ z :: acc.drop place) start

end FragmentWeaver
