import FragmentWeaver.Value.Written

/-!
# Values as keys

Two values are the same key when they are equal: numbers by what they amount to, whatever their
class, texts and bytes by their characters, tuples part by part, and objects that do not compare by
their place. A key is the flat list of what such a comparison looks at. Values that can change, such
as lists, are no keys.
-/

namespace FragmentWeaver

/-- A part of a number: an exact ratio or an infinity. -/
inductive Amount where
  | ratio (q : Rat)
  | infinite (negative : Bool)
  deriving DecidableEq

/-- One piece of what a key is compared by. -/
inductive KeyPart where
  | null
  | missing
  | number (re im : Amount)
  | text (s : String)
  | loose (points : List Nat)
  | bytes (bs : List UInt8)
  | unit (u : UnitId)
  | cls (c : ClassId)
  | module (m : ModuleId)
  | native (f : Native)
  | place (a : Address)
  | exact (e : Exact)
  /-- The parts of a tuple follow, or those of a set. -/
  | first (ordered : Bool)
  /-- The parts of a type with arguments follow; which types are compared is told by a word. -/
  | applied (word : String)
  | last
  | never
  deriving DecidableEq

/-- What a value is looked up by. -/
abbrev Key := List KeyPart

/-- A key that equals nothing, not even itself: it holds an undefined number. -/
def Key.isLoose (k : Key) : Bool :=
  k.contains .never

/-- The amount of a float, unless it is undefined. -/
def Amount.ofBinary? : Number.Binary → Option Amount
  | .finite n m e =>
      let (num, den) := Number.Binary.ratio m e
      some (.ratio (mkRat (if n then -(num : Int) else num) den))
  | .infinite n => some (.infinite n)
  | .undefined => none

/-- The amount of a decimal, unless it is undefined. What is far too large to be written out counts
    as infinite, and what is far too small as nothing. -/
def Amount.ofExtended? : Number.Extended → Option Amount
  | .infinite n => some (.infinite n)
  | .undefined _ _ _ => none
  | .finite x =>
      match Number.Extended.ratio? (.finite x) with
      | some q => some (.ratio q)
      | none => some (if x.exponent < 0 then .ratio 0 else .infinite x.negative)

/-- The key of a number. -/
def numberKey (re im : Option Amount) : Key :=
  match re, im with
  | some re, some im => [.number re im]
  | _, _ => [.never]

/-- The key of a value without parts. -/
def Value.plainKey? : Value → Option Key
  | .null => some [.null]
  | .truth b => some (numberKey (some (.ratio (if b then 1 else 0))) (some (.ratio 0)))
  | .whole i => some (numberKey (some (.ratio i)) (some (.ratio 0)))
  | .float x => some (numberKey (Amount.ofBinary? x) (some (.ratio 0)))
  | .complex re im => some (numberKey (Amount.ofBinary? re) (Amount.ofBinary? im))
  | .text s => some [.text s]
  | .loose ps => some [.loose ps]
  | .bytes bs => some [.bytes bs]
  | .missing => some [.missing]
  | .unit u => some [.unit u]
  | .cls c => some [.cls c]
  | .module m => some [.module m]
  | .native f => some [.native f]
  | .moduleTable => none
  | .spec _ => none
  | .object _ _ => none

/-- The class that decides whether the instances of a class can be keys, and its decision. A class that
    was defined decides by an attribute: there are no keys if it stands for nothing. -/
def World.hashRule (w : World) (c : ClassId) : ClassId × Standard.HashRule :=
  ((w.lineage c).findSome? fun d =>
    match (w.classInfo d).hash, d, Assoc.find? (w.classInfo d).attributes "__hash__" with
    | .inherited, .defined _, some v => some (d, if v = .null then .refused else .given)
    | .inherited, _, _ => none
    | rule, _, _ => some (d, rule)).getD (.object, .given)

/-- Why a value is no key. -/
inductive Unhashable where
  /-- Its class refuses, which is named in messages. -/
  | ofClass (shown : String)
  /-- Boxed numbers do not name their class. -/
  | boxed
  /-- It is an undefined decimal that signals. -/
  | signaling
  /-- It was not set up, and lacks an attribute that the key is made of. -/
  | lacking (shown name : String)
  deriving DecidableEq, Repr

namespace World

/-- The key of an object that stands for an exact value. -/
def exactKey (a : Address) : Exact → Except Unhashable Key
  | .ratio q => .ok (numberKey (some (.ratio q)) (some (.ratio 0)))
  | .decimal x =>
      match x, x.ratio? with
      | .undefined _ true _, _ => .error .signaling
      | .undefined _ false _, _ => .ok [.place a]
      | .finite _, none => .ok [.exact (.decimal x.trimmed)]
      | x, _ => .ok (numberKey (Amount.ofExtended? x) (some (.ratio 0)))
  | .buffer bs => .ok [.bytes bs]
  | e => .ok [.exact e.canonical]

/-- The key of an object that stands for a plain value. An undefined number is equal to itself only
    as the same object. -/
def ownedKey (a : Address) (inner : Value) : Key :=
  match inner.plainKey? with
  | some k => if k.isLoose then [.place a] else k
  | none => [.place a]

/-- What a type with arguments is compared by: a word for the types it is compared with, and values. A
    union is compared by its arguments, an annotated type by its remarks as well, and a choice of
    values by their classes as well. -/
def appliedParts (w : World) (c : ClassId) (t : Applied) : String × List Value :=
  let isA (key : String) : Bool := w.isBelow c key
  if isA "types.UnionType" || isA "typing._UnionGenericAlias" then ("union", t.args)
  else if isA "typing._LiteralGenericAlias" then
    ("choice", t.args.flatMap fun v => [v, .cls (w.typeOf v)])
  else if isA "typing._AnnotatedAlias" then ("annotated", t.args ++ t.remarks)
  else if isA "types.GenericAlias" then ("type", t.origin.toList ++ t.args)
  else ("form", t.origin.toList ++ t.args)

/-- A member of an enumeration as the number or text that it is equal to, anything else as it is. -/
def memberOpened (w : World) (v : Value) : Value :=
  match v with
  | .native (.member _ _) => w.opened v
  | v => v

/-- The key of a value; tuples may be nested to a given depth. -/
def keyWithin (w : World) : Nat → Value → Except Unhashable Key
  | depth, v =>
      match (w.memberOpened v).plainKey?, v with
      | some k, _ => .ok k
      | none, .object a c =>
          match w.hashRule c with
          | (_, .refused) => .error (.ofClass (w.classInfo c).shown)
          | (rule, _) =>
              if rule = .standard "_ctypes._CData" then .error .boxed
              else
                match w.heap[a]?, depth with
                | some (.plain inner), _ => .ok (ownedKey a inner)
                | some (.exact e), _ => exactKey a e
                | some (.applied t), depth + 1 => do
                    let (word, vs) := w.appliedParts c t
                    let parts ← vs.mapM (w.keyWithin depth)
                    return .applied word :: parts.flatten ++ [.last]
                | some (.instance [("__forward_arg__", .text s)]), _ =>
                    return [.applied "reference", .text s]
                | some (.instance []), _ =>
                    match w.neededAttribute? c with
                    | some name => .error (.lacking (w.classInfo c).shown name)
                    | none => .ok [.place a]
                | some (.items xs), depth + 1 =>
                    if rule = .standard "tuple" || rule = .standard "frozenset" then do
                      let parts ← xs.mapM (w.keyWithin depth)
                      return .first (rule = .standard "tuple") :: parts.flatten ++ [.last]
                    else .ok [.place a]
                | _, _ => .ok [.place a]
      | none, v => .error (.ofClass (w.classInfo (w.typeOf v)).shown)

/-- The key of a value. -/
def key (w : World) (v : Value) : Except Unhashable Key :=
  w.keyWithin (w.heap.size + 1) v

end World

end FragmentWeaver
