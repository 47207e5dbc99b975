/-!
# Reading bytes as text

Texts are stored in UTF-8. Bytes that are no such text are reported with the place where the first
bad sequence starts and ends, and what is wrong with it.
-/

namespace FragmentWeaver.Text

/-- What is wrong with a sequence of bytes. -/
inductive DecodeCause where
  | badStart | badContinuation | endsEarly
  deriving DecidableEq, Repr

/-- The wording of a cause. -/
def DecodeCause.message : DecodeCause → String
  | .badStart => "invalid start byte"
  | .badContinuation => "invalid continuation byte"
  | .endsEarly => "unexpected end of data"

/-- A bad sequence: its first byte, its place, its length, and what is wrong with it. -/
structure DecodeFault where
  byte : UInt8
  start : Nat
  length : Nat
  cause : DecodeCause
  deriving DecidableEq, Repr

/-- Can the byte stand inside a sequence? -/
def isContinuation (b : UInt8) : Bool :=
  0x80 ≤ b && b < 0xc0

/-- May the byte stand second after the given first one? Some first bytes exclude sequences that are
    longer than needed, surrogates, and code points that are too large. -/
def fitsSecond (first second : UInt8) : Bool :=
  isContinuation second &&
    (first != 0xe0 || 0xa0 ≤ second) && (first != 0xed || second < 0xa0) &&
    (first != 0xf0 || 0x90 ≤ second) && (first != 0xf4 || second < 0x90)

/-- How many bytes a sequence has that starts with the byte; none for a byte that starts no
    sequence. -/
def sequenceLength (b : UInt8) : Nat :=
  if b < 0x80 then 1
  else if b < 0xc2 then 0
  else if b < 0xe0 then 2
  else if b < 0xf0 then 3
  else if b < 0xf5 then 4
  else 0

/-- The bits of a first byte that belong to the code point. -/
def leadBits (b : UInt8) : Nat :=
  match sequenceLength b with
  | 1 => b.toNat
  | 2 => b.toNat % 32
  | 3 => b.toNat % 16
  | _ => b.toNat % 8

/-- The value of the bytes that continue a sequence, as far as they do; how many they are. -/
def continueSequence (first : UInt8) (acc taken : Nat) : Nat → List UInt8 → Nat × Nat
  | 0, _ => (acc, taken)
  | _ + 1, [] => (acc, taken)
  | more + 1, b :: rest =>
      let fits := if taken = 0 then fitsSecond first b else isContinuation b
      if fits then continueSequence first (64 * acc + b.toNat % 64) (taken + 1) more rest
      else (acc, taken)

/-- Read bytes as characters; `start` is the place of the first byte. -/
def decodeFrom : Nat → Nat → List UInt8 → Except DecodeFault (List Char)
  | 0, _, _ => .ok []
  | _ + 1, _, [] => .ok []
  | fuel + 1, start, b :: rest =>
      match sequenceLength b with
      | 0 => .error ⟨b, start, 1, .badStart⟩
      | size + 1 =>
          let (n, taken) := continueSequence b (leadBits b) 0 size rest
          if taken = size then
            (decodeFrom fuel (start + size + 1) (rest.drop size)).map (Char.ofNat n :: ·)
          else if taken = rest.length then .error ⟨b, start, taken + 1, .endsEarly⟩
          else .error ⟨b, start, taken + 1, .badContinuation⟩

/-- Read bytes as text. -/
def decode (bytes : List UInt8) : Except DecodeFault String :=
  (decodeFrom bytes.length 0 bytes).map String.ofList

/-- Every way to end a line becomes a line feed. -/
def unifyLineEnds : List Char → List Char
  | [] => []
  | '\r' :: '\n' :: rest => '\n' :: unifyLineEnds rest
  | '\r' :: rest => '\n' :: unifyLineEnds rest
  | c :: rest => c :: unifyLineEnds rest

end FragmentWeaver.Text
