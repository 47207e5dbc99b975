import FragmentWeaver.Number.Binary
import FragmentWeaver.Value.Boxed

/-!
# Values in memory

Bytes, typed arrays and boxes can be seen as the bytes they take in memory. Whole and binary numbers
lie there with the low byte first, and of a binary number the fraction below the exponent below the
sign. The exponent counts from one for the least one, zero marks mantissas that are too small for it,
and the greatest count marks the infinities and the undefined number.
-/

namespace FragmentWeaver.Number

/-- The bytes of a natural number, the low one first. -/
def littleEndian : Nat → Nat → List UInt8
  | 0, _ => []
  | count + 1, n => UInt8.ofNat (n % 256) :: littleEndian count (n / 256)

theorem length_littleEndian (count n : Nat) : (littleEndian count n).length = count := by
  induction count generalizing n with
  | zero => rfl
  | succ count ih => simp [littleEndian, ih]

/-- The exponent of a format as it is counted in memory, where the greatest one is followed by a
    mark for what is not finite. -/
def Format.mark (f : Format) : Nat :=
  (f.greatest - f.least + 2).toNat

/-- The bits of a binary number in a format; `width` is the count of bits. -/
def Binary.bits (f : Format) (width : Nat) (x : Binary) : Nat :=
  let fraction := pow2 (f.digits - 1)
  let packed (negative : Bool) (exponent mantissa : Nat) : Nat :=
    (if negative then pow2 (width - 1) else 0) + exponent * fraction + mantissa % fraction
  match x with
  | .undefined => packed false f.mark (fraction / 2)
  | .infinite n => packed n f.mark 0
  | .finite n m e => packed n (if m < fraction then 0 else (e - f.least + 1).toNat) m

/-- The bits of a binary number that is first rounded to the format. -/
def Binary.bitsIn (f : Format) (width : Nat) (x : Binary) : Nat :=
  match x with
  | .finite n m e =>
      let (num, den) := Binary.ratio m e
      (Binary.ofRatio f n num den).bits f width
  | x => x.bits f width

end FragmentWeaver.Number

namespace FragmentWeaver

/-- How many bytes an item of an array takes. -/
def itemSize : Char → Nat
  | 'b' | 'B' => 1
  | 'h' | 'H' => 2
  | 'i' | 'I' | 'f' | 'u' => 4
  | _ => 8

/-- How many bytes a box takes. -/
def boxSize? : String → Option Nat
  | "ctypes.c_bool" | "ctypes.c_char" => some 1
  | "ctypes.c_wchar" | "ctypes.c_float" => some 4
  | "ctypes.c_double" => some 8
  | key => (boxWidth? key).map fun (bits, _) => bits / 8

/-- The bytes of a value of a fixed width. -/
def memoryOf (size : Nat) : Value → List UInt8
  | .whole i => Number.littleEndian size (i % Number.pow2 (8 * size)).toNat
  | .truth b => Number.littleEndian size (if b then 1 else 0)
  | .bytes bs => bs
  | .text s => s.toList.flatMap fun c => Number.littleEndian size c.toNat
  | .loose ps => ps.flatMap (Number.littleEndian size)
  | .float x =>
      Number.littleEndian size (if size = 4 then x.bitsIn .narrow 32 else x.bitsIn .wide 64)
  | _ => []

namespace World

/-- The bytes that a value takes in memory, if they can be seen. -/
def memory? (w : World) (v : Value) : Option (List UInt8) :=
  match w.content? v with
  | some (.array code xs) => some (xs.flatMap (memoryOf (itemSize code)))
  | some (.boxed (some inner)) =>
      ((w.boxedBase? (w.typeOf v)).bind boxSize?).map fun size => memoryOf size inner
  | _ => w.bytes? v

end World

end FragmentWeaver
