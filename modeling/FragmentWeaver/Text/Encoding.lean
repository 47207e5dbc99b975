import FragmentWeaver.Text.Charset
import FragmentWeaver.Text.Coding
import FragmentWeaver.Text.Decoding

/-!
# Encodings by name

A text can be coded in UTF-8, in ASCII, with one byte for each of the first 256 characters, or in a
set of characters of one byte. An encoding goes by many names, in which case and the signs between
the parts do not matter.
-/

namespace FragmentWeaver.Text

/-- A way to code texts. -/
inductive Encoding where
  | utf8 | ascii | latin
  | charset (s : Charset)
  deriving DecidableEq, Repr

namespace Encoding

/-- A name in small letters, with one underscore for the signs between its parts; points are no
    such signs. `isOpen` says that a part stands before. -/
def plainFrom (isOpen : Bool) : List Char → List Char
  | [] => []
  | c :: rest =>
      if c.isAlphanum || c = '.' then c.toLower :: plainFrom true rest
      else
        let rest' := plainFrom false rest
        if isOpen && !rest'.isEmpty then '_' :: rest' else rest'

/-- The plain form of a name. -/
def plainName (name : String) : String :=
  String.ofList (plainFrom false name.toList)

/-- The names of the encodings that are no sets of one byte. -/
def names : List (Encoding × List String) := [
  (.utf8, ["utf_8", "utf8", "u8", "utf", "cp65001", "utf8_ucs2", "utf8_ucs4"]),
  (.ascii, [
      "ascii", "us_ascii", "646", "us", "ansi_x3.4_1968", "ansi_x3_4_1968", "ansi_x3.4_1986",
      "iso646_us", "iso_646.irv_1991", "iso_ir_6", "cp367", "ibm367", "csascii"]),
  (.latin, [
      "latin_1", "latin1", "latin", "l1", "iso_8859_1", "iso8859_1", "8859", "iso8859",
      "iso_8859_1_1987", "iso_ir_100", "cp819", "ibm819", "csisolatin1"])]

/-- The encoding that goes by a name; points in it may stand for underscores. -/
def ofName? (name : String) : Option Encoding :=
  let plain := plainName name
  let underscored := String.ofList (plain.toList.map fun c => if c = '.' then '_' else c)
  [plain, underscored].findSome? fun n =>
    ((names.find? fun (_, ns) => ns.contains n).map Prod.fst).or
      ((Charset.ofName? n).map .charset)

/-- The code points below this one have bytes. -/
def bound : Encoding → Nat
  | .utf8 | .charset _ => 0x110000
  | .ascii => 128
  | .latin => 256

/-- The name of an encoding in messages. -/
def title : Encoding → String
  | .utf8 => "utf-8"
  | .ascii => "ascii"
  | .latin => "latin-1"
  | .charset _ => "charmap"

/-- What is wrong with a character or a byte that the encoding does not have. -/
def outOfBounds : Encoding → String
  | .charset _ => "character maps to <undefined>"
  | e => "ordinal not in range(" ++ toString e.bound ++ ")"

/-- The byte of a character in an encoding with one byte each. -/
def byte? (e : Encoding) (c : Char) : Option UInt8 :=
  match e with
  | .charset s => if c = Charset.unused then none else (s.table.toList.reverse.idxOf? c).map fun i => UInt8.ofNat (255 - i)
  | e => if c.toNat < e.bound then some (UInt8.ofNat c.toNat) else none

/-- The character of a byte in an encoding with one byte each. -/
def char? (e : Encoding) (b : UInt8) : Option Char :=
  match e with
  | .charset s => Charset.char? s.table b
  | e => if b.toNat < e.bound then some (Char.ofNat b.toNat) else none

/-- The bytes of a text, or what is said when it has none. -/
def encode (e : Encoding) (s : String) : Except String (List UInt8) :=
  match e with
  | .utf8 => .ok s.toUTF8.data.toList
  | e =>
      let before := s.toList.takeWhile fun c => (e.byte? c).isSome
      match s.toList.drop before.length with
      | [] => .ok (s.toList.filterMap e.byte?)
      | c :: rest =>
          let run := (c :: rest).takeWhile fun c => (e.byte? c).isNone
          .error (unencodableText (some e.title) (some c) before.length
            (before.length + run.length) e.outOfBounds)

/-- The text of bytes, or what is said when they stand for none. -/
def decode (e : Encoding) (bs : List UInt8) : Except String String :=
  match e with
  | .utf8 =>
      (Text.decode bs).mapError fun f =>
        undecodableText e.title (some f.byte) f.start (f.start + f.length) f.cause.message
  | e =>
      let before := bs.takeWhile fun b => (e.char? b).isSome
      match bs.drop before.length with
      | [] => .ok (String.ofList (bs.filterMap e.char?))
      | b :: _ =>
          .error (undecodableText e.title (some b) before.length (before.length + 1) e.outOfBounds)

end Encoding

end FragmentWeaver.Text
