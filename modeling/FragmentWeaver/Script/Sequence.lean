import FragmentWeaver.Fault
import FragmentWeaver.Value.Memory

/-!
# Sequences

Texts, bytes, lists, tuples, queues and typed arrays can be joined to their own kind and repeated a
count of times. A whole sequence that is not changed by that is given back as the same object, if
its kind cannot be changed.
-/

namespace FragmentWeaver.Script

/-- A sequence that can be joined and repeated. -/
inductive Sequence where
  | text (s : String)
  /-- A text with code points in it that are no characters. -/
  | loose (points : List Nat)
  | bytes (bs : List UInt8)
  /-- Bytes that can be changed. -/
  | buffer (bs : List UInt8) (cls : ClassId)
  | list (xs : List Value)
  | tuple (xs : List Value)
  | deque (xs : List Value) (cls : ClassId)
  | array (code : Char) (xs : List Value)

namespace Sequence

/-- The sequence that a value stands for. -/
def ofValue? (w : World) (v : Value) : Option Sequence :=
  match w.opened v with
  | .text s => some (.text s)
  | .loose ps => some (.loose ps)
  | .bytes bs => some (.bytes bs)
  | .object a c =>
      match w.layout c, w.heap[a]? with
      | .list, some (.items xs) => some (.list xs)
      | .tuple, some (.items xs) => some (.tuple xs)
      | .deque, some (.items xs) => some (.deque xs c)
      | _, some (.array code xs) => some (.array code xs)
      | _, some (.exact (.buffer bs)) =>
          if w.isBelow c "bytearray" then some (.buffer bs c) else none
      | _, _ => none
  | _ => none

/-- How many items a sequence has. -/
def size : Sequence → Nat
  | .text s => s.length
  | .loose ps => ps.length
  | .bytes bs | .buffer bs _ => bs.length
  | .list xs | .tuple xs | .deque xs _ | .array _ xs => xs.length

/-- Is a sequence of such a kind that it never changes? -/
def isFixed : Sequence → Bool
  | .text _ | .loose _ | .bytes _ | .tuple _ => true
  | _ => false

/-- A sequence as a value. -/
def value (w : World) : Sequence → Value × World
  | .text s => (.text s, w)
  | .loose ps => (.ofPoints ps, w)
  | .bytes bs => (.bytes bs, w)
  | .buffer bs c => w.allocate (.exact (.buffer bs)) c
  | .list xs => w.newList xs
  | .tuple xs => w.newTuple xs
  | .deque xs c => w.allocate (.items xs) c
  | .array code xs => w.allocate (.array code xs) (.standard "array.array")

/-- A sequence a count of times. -/
def times (n : Nat) : Sequence → Sequence
  | .text s => .text (String.ofList (List.replicate n s.toList).flatten)
  | .loose ps => .loose (List.replicate n ps).flatten
  | .bytes bs => .bytes (List.replicate n bs).flatten
  | .buffer bs c => .buffer (List.replicate n bs).flatten c
  | .list xs => .list (List.replicate n xs).flatten
  | .tuple xs => .tuple (List.replicate n xs).flatten
  | .deque xs c => .deque (List.replicate n xs).flatten c
  | .array code xs => .array code (List.replicate n xs).flatten

/-- Is the value a fixed sequence of a class that gives it back unchanged? -/
def isOwn (w : World) (s : Sequence) (v : Value) : Bool :=
  s.isFixed && w.typeOf v = w.typeOf (s.value w).1

/-- A sequence that nothing is joined to, or `none` when something is. -/
def untouched? (w : World) (s : Sequence) (x : Value) (t : Sequence) (y : Value) : Option Value :=
  if t.size = 0 && s.isOwn w x then some x
  else if s.size = 0 && s.isFixed && t.isOwn w y then some y
  else none

/-- Two sequences, one after the other. What is joined to bytes can be of any kind that holds
    bytes. -/
def append (w : World) (s : Sequence) (y : Value) : Except ScriptFault Sequence :=
  let other := w.shownClass y
  match s, ofValue? w y with
  | .text s, some (.text t) => .ok (.text (s ++ t))
  | .text s, some (.loose t) => .ok (.loose (Text.pointsOf s ++ t))
  | .loose s, some (.text t) => .ok (.loose (s ++ Text.pointsOf t))
  | .loose s, some (.loose t) => .ok (.loose (s ++ t))
  | .text _, _ | .loose _, _ => .error (.joinTexts "str" other)
  | .bytes s, _ =>
      match w.memory? y with
      | some t => .ok (.bytes (s ++ t))
      | none => .error (.joinBytes other "bytes")
  | .buffer s c, _ =>
      match w.memory? y with
      | some t => .ok (.buffer (s ++ t) c)
      | none => .error (.joinBytes other "bytearray")
  | .list xs, some (.list ys) => .ok (.list (xs ++ ys))
  | .list _, _ => .error (.joinTexts "list" other)
  | .tuple xs, some (.tuple ys) => .ok (.tuple (xs ++ ys))
  | .tuple _, _ => .error (.joinTexts "tuple" other)
  | .deque xs c, some (.deque ys _) => .ok (.deque (xs ++ ys) c)
  | .deque _ _, _ => .error (.joinTexts "deque" other)
  | .array code xs, some (.array code' ys) =>
      if code = code' then .ok (.array code (xs ++ ys)) else .error .mixedArrays
  | .array _ _, _ => .error (.joinArray other)

/-- The greatest count that a sequence can be repeated by. -/
def countLimit : Nat := Number.pow2 63 - 1

/-- The most items of a sequence that there is room for. -/
def roomLimit : Nat := Number.pow2 30

/-- A sequence repeated; the count is a value of a class. -/
def repeated (s : Sequence) (cls : String) (i : Int) : Except ScriptFault Sequence :=
  if i ≤ 0 || s.size = 0 then
    if countLimit < i.natAbs then .error (.countTooLarge cls) else .ok (s.times 0)
  else if countLimit < i.toNat then .error (.countTooLarge cls)
  else if roomLimit < s.size * i.toNat then .error .outOfMemory
  else .ok (s.times i.toNat)

/-- Join a sequence and a value. -/
def joinTo (w : World) (s : Sequence) (x y : Value) : Except ScriptFault (Value × World) := do
  let u ← s.append w y
  match (ofValue? w y).bind fun t => untouched? w s x t y with
  | some v => return (v, w)
  | none => return u.value w

/-- Repeat a sequence by a value. -/
def repeatBy (w : World) (s : Sequence) (x count : Value) : Except ScriptFault (Value × World) := do
  match (w.opened count).whole? with
  | some i => do
      let u ← s.repeated (w.shownClass count) i
      if i = 1 && s.isOwn w x then return (x, w)
      return u.value w
  | none => throw (.repeatBy (w.shownClass count))

end Sequence

/-- The value of an operator on sequences, if one of the sides is one and the operator is for
    them. -/
def sequenceOutcome? (w : World) (op : Operator) (x y : Value) :
    Option (Except ScriptFault (Value × World)) :=
  match op, Sequence.ofValue? w x, Sequence.ofValue? w y with
  | .add, some s, _ => some (s.joinTo w x y)
  | .mul, some s, _ => some (s.repeatBy w x y)
  | .mul, none, some t => some (t.repeatBy w y x)
  | _, _, _ => none

end FragmentWeaver.Script
