import FragmentWeaver.Value.Truth

/-!
# Values of a fixed width

A box holds a value of one kind: a whole number cut to some bits, a rounded float, a character, or
an address. The items of a typed array are of such kinds too, but they have to fit. What does not
fit is refused, with the class of the fault and its wording.
-/

namespace FragmentWeaver

/-- Why an instance of a class is not made: the class of the fault, and its wording. -/
structure Refusal where
  kind : String
  message : String
  deriving DecidableEq, Repr

namespace Refusal

/-- A value is of the wrong class. -/
def type (message : String) : Refusal := ⟨"TypeError", message⟩

/-- A value is of the right class and still does not fit. -/
def value (message : String) : Refusal := ⟨"ValueError", message⟩

/-- A number is too large or too small. -/
def overflow (message : String) : Refusal := ⟨"OverflowError", message⟩

/-- A whole number was expected. -/
def noWhole (cls : String) : Refusal :=
  type ("'" ++ cls ++ "' object cannot be interpreted as an integer")

/-- A real number was expected. -/
def noReal (cls : String) : Refusal := type ("must be real number, not " ++ cls)

/-- A whole number is beyond all floats. -/
def tooLarge : Refusal := overflow "int too large to convert to float"

/-- An operation on decimals has no result. -/
def ofTrap (t : Number.Trap) : Refusal := ⟨t.kind, t.message⟩

end Refusal

/-- A whole number or a truth value as a whole number. -/
def Value.whole? : Value → Option Int
  | .whole i => some i
  | .truth b => some (if b then 1 else 0)
  | _ => none

namespace World

/-- The name of the class of a value, in messages. -/
def shownClass (w : World) (v : Value) : String :=
  (w.classInfo (w.typeOf v)).shown

/-- The whole number that a value stands for. -/
def wholeOf (w : World) (v : Value) : Except Refusal Int :=
  match (w.opened v).whole? with
  | some i => .ok i
  | none => .error (.noWhole (w.shownClass v))

/-- The exact value that an object stands for. -/
def exactOf? (w : World) : Value → Option Exact
  | .object a _ =>
      match w.heap[a]? with
      | some (.exact e) => some e
      | _ => none
  | _ => none

/-- A ratio as a float; nothing when it is beyond all floats. -/
def floatOfRatio? (q : Rat) : Option Number.Binary :=
  match Number.Binary.ofSigned q.num q.den with
  | .infinite _ => none
  | x => some x

/-- A decimal as a float. -/
def floatOfDecimal : Number.Extended → Except Refusal Number.Binary
  | .finite x => .ok (Number.ofDecimal x.negative x.coefficient x.exponent)
  | .infinite negative => .ok (.infinite negative)
  | .undefined _ signals _ =>
      if signals then .error (.value "cannot convert signaling NaN to float") else .ok .undefined

/-- The real number that a value stands for, as a float; `refusal` is for values that are none. -/
def floatOr (w : World) (refusal : Refusal) (v : Value) : Except Refusal Number.Binary :=
  match w.opened v, w.exactOf? v with
  | .float x, _ => .ok x
  | _, some (.ratio q) =>
      match floatOfRatio? q with
      | some x => .ok x
      | none => .error (.overflow "integer division result too large for a float")
  | _, some (.decimal x) => floatOfDecimal x
  | inner, _ =>
      match inner.whole? with
      | none => .error refusal
      | some i =>
          match Number.Binary.ofInt? i with
          | some x => .ok x
          | none => .error .tooLarge

/-- The real number that a value stands for, as a float. -/
def floatOf (w : World) (v : Value) : Except Refusal Number.Binary :=
  w.floatOr (.noReal (w.shownClass v)) v

/-- The bytes that a value stands for. -/
def bytes? (w : World) (v : Value) : Option (List UInt8) :=
  match w.opened v, w.exactOf? v with
  | .bytes bs, _ => some bs
  | _, some (.buffer bs) => some bs
  | _, _ => none

/-- The boxed class that a class stands below. -/
def boxedBase? (w : World) (c : ClassId) : Option String :=
  if w.isBelow c "_ctypes._SimpleCData" then
    (w.lineage c).findSome? fun
      | .standard key => some key
      | .defined _ => none
  else none

end World

/-- The bits and the sign of the whole numbers in a boxed class. -/
def boxWidth? : String → Option (Nat × Bool)
  | "ctypes.c_byte" => some (8, true)
  | "ctypes.c_ubyte" => some (8, false)
  | "ctypes.c_short" => some (16, true)
  | "ctypes.c_ushort" => some (16, false)
  | "ctypes.c_int" => some (32, true)
  | "ctypes.c_uint" => some (32, false)
  | "ctypes.c_long" => some (64, true)
  | "ctypes.c_ulong" => some (64, false)
  | _ => none

/-- A whole number cut to a count of bits. -/
def wrapped (bits : Nat) (signed : Bool) (i : Int) : Int :=
  if signed then Int.bmod i (Number.pow2 bits) else i % Number.pow2 bits

/-- What a boxed class holds at first. -/
def boxZero : String → Option Value
  | "ctypes.c_bool" => some (.truth false)
  | "ctypes.c_char" => some (.bytes [0])
  | "ctypes.c_wchar" => some (.text "\x00")
  | "ctypes.c_float" | "ctypes.c_double" | "ctypes.c_longdouble" =>
      some (.float (Number.Binary.zeroOf false))
  | "ctypes.c_char_p" | "ctypes.c_void_p" => some .null
  | "ctypes.py_object" => none
  | _ => some (.whole 0)

namespace World

/-- The one byte that a box for bytes takes. -/
def boxByte (w : World) (v : Value) : Except Refusal Value :=
  let refused : Except Refusal Value :=
    .error (.type "one character bytes, bytearray or integer expected")
  match (w.opened v).whole?, w.bytes? v with
  | some i, _ => if 0 ≤ i && i < 256 then .ok (.bytes [UInt8.ofNat i.toNat]) else refused
  | none, some [b] => if w.isBelow (w.typeOf v) "memoryview" then refused else .ok (.bytes [b])
  | none, _ => refused

/-- The one character that a box for characters takes. -/
def boxCharacter (w : World) (v : Value) : Except Refusal Value :=
  match w.opened v with
  | .text s =>
      if s.length = 1 then .ok (.text s) else .error (.type "one character unicode string expected")
  | _ => .error (.type ("unicode string expected instead of " ++ w.shownClass v ++ " instance"))

/-- What a box for an address of text takes: the bytes up to the first zero. -/
def boxTextAddress (w : World) (v : Value) : Except Refusal Value :=
  match w.opened v with
  | .null => .ok .null
  | .bytes bs => .ok (.bytes (bs.takeWhile (· ≠ 0)))
  | inner =>
      match inner.whole? with
      | some i =>
          let place := wrapped 64 false i
          .ok (if place = 0 then .null else .whole place)
      | none =>
          .error (.type ("bytes or integer address expected instead of " ++ w.shownClass v ++
            " instance"))

/-- What a box for any address takes. -/
def boxAddress (w : World) (v : Value) : Except Refusal Value :=
  match w.opened v with
  | .null => .ok .null
  | inner =>
      match inner.whole? with
      | some i =>
          let place := wrapped 64 false i
          .ok (if place = 0 then .null else .whole place)
      | none => .error (.type "cannot be converted to pointer")

/-- What a boxed class makes of a value. -/
def boxValue (w : World) (key : String) (v : Value) : Except Refusal Value :=
  match boxWidth? key with
  | some (bits, signed) => do return .whole (wrapped bits signed (← w.wholeOf v))
  | none =>
      match key with
      | "ctypes.c_bool" => .ok (.truth (w.counts v))
      | "ctypes.c_char" => w.boxByte v
      | "ctypes.c_wchar" => w.boxCharacter v
      | "ctypes.c_float" => do return .float (← w.floatOf v).narrowed
      | "ctypes.c_double" | "ctypes.c_longdouble" => do return .float (← w.floatOf v)
      | "ctypes.c_char_p" => w.boxTextAddress v
      | "ctypes.c_void_p" => w.boxAddress v
      | _ => .ok v

/-- A new box of a class. -/
def box (w : World) (key : String) (v : Option Value) : Except Refusal (Value × World) := do
  let inner ← match v with
    | some v => some <$> w.boxValue key v
    | none => pure (boxZero key)
  return w.allocate (.boxed inner) (.standard key)

end World

/-- The bounds of the whole numbers in an array, with the words for those below and above them that
    are still of the next width, and what is said of all others. -/
structure ItemRange where
  least : Int
  most : Int
  below : String
  above : String

/-- The bounds for a type code, the narrowest first. -/
def itemRanges : Char → List ItemRange
  | 'b' => short ++ [within 8 "signed char"]
  | 'B' => short ++ [⟨0, 255, "unsigned byte integer is less than minimum",
      "unsigned byte integer is greater than maximum"⟩]
  | 'h' => short
  | 'H' => int ++ [⟨0, 65535, "unsigned short is less than minimum",
      "unsigned short is greater than maximum"⟩]
  | 'i' => int
  | 'l' => long
  | 'I' => unsigned ++ [⟨0, Number.pow2 32 - 1, "", "unsigned int is greater than maximum"⟩]
  | 'L' => unsigned
  | 'q' =>
      [⟨-Number.pow2 63, Number.pow2 63 - 1, "int too big to convert", "int too big to convert"⟩]
  | 'Q' => [⟨0, Number.pow2 64 - 1, "can't convert negative int to unsigned",
      "int too big to convert"⟩]
  | _ => []
where
  /-- Bounds of signed numbers of some bits. -/
  within (bits : Nat) (what : String) : ItemRange :=
    ⟨-Number.pow2 (bits - 1), Number.pow2 (bits - 1) - 1, what ++ " is less than minimum",
      what ++ " is greater than maximum"⟩
  /-- Numbers that have an address width. -/
  long : List ItemRange :=
    [⟨-Number.pow2 63, Number.pow2 63 - 1, "Python int too large to convert to C long",
      "Python int too large to convert to C long"⟩]
  /-- Numbers of 32 bits. -/
  int : List ItemRange := long ++ [within 32 "signed integer"]
  /-- Numbers of 16 bits. -/
  short : List ItemRange := long ++ [within 16 "signed short integer"]
  /-- Numbers of 64 bits without a sign. -/
  unsigned : List ItemRange :=
    [⟨0, Number.pow2 64 - 1, "can't convert negative value to unsigned int",
      "Python int too large to convert to C unsigned long"⟩]

namespace World

/-- What an array with a type code takes as an item. -/
def arrayItem (w : World) (code : Char) (v : Value) : Except Refusal Value :=
  match code with
  | 'f' => do return .float (← w.floatOf v).narrowed
  | 'd' => do return .float (← w.floatOf v)
  | 'u' =>
      match w.opened v with
      | .text s =>
          if s.length = 1 then .ok (.text s)
          else .error (.type "array item must be unicode character")
      | _ => .error (.type "array item must be unicode character")
  | code => do
      let i ← w.wholeOf v
      match (itemRanges code).find? fun r => i < r.least || r.most < i with
      | some r => .error (.overflow (if i < r.least then r.below else r.above))
      | none => return .whole i

/-- The type codes of arrays. -/
def typeCodes : List Char := "bBuhHiIlLqQfd".toList

/-- A new array. -/
def newArray (w : World) (c : ClassId) (code : Char) (items : List Value) :
    Except Refusal (Value × World) := do
  if !typeCodes.contains code then
    throw (.value "bad typecode (must be b, B, u, h, H, i, I, l, L, q, Q, f or d)")
  return w.allocate (.array code (← items.mapM (w.arrayItem code))) c

end World

end FragmentWeaver
