import FragmentWeaver.Document.Basic
import FragmentWeaver.Number.Decimal
import FragmentWeaver.Text.Quoted
import FragmentWeaver.Value.Written

/-!
# Reading JSON

The grammar of JSON, with three more numbers: `NaN`, `Infinity` and `-Infinity`. White space is
space, tab, line feed and carriage return. Control characters do not stand in texts, and whole
numbers have no more digits than can be written.
-/

namespace FragmentWeaver.Document

/-- White space between the parts of a document. -/
def isSpace (c : Char) : Bool :=
  c = ' ' || c = '\t' || c = '\n' || c = '\r'

/-- The rest behind white space. -/
def skipSpace (cs : List Char) : List Char :=
  cs.dropWhile isSpace

/-- The character that a backslash and one more character stand for. -/
def escape? : Char → Option Char
  | '"' => some '"'
  | '\\' => some '\\'
  | '/' => some '/'
  | 'b' => some '\x08'
  | 'f' => some '\x0c'
  | 'n' => some '\n'
  | 'r' => some '\r'
  | 't' => some '\t'
  | _ => none

/-- The code points of some code units: two halves of a pair make one character. -/
def pointsOfUnits : List Nat → List Nat
  | [] => []
  | [n] => [n]
  | n :: m :: rest =>
      if 0xd800 ≤ n && n < 0xdc00 && 0xdc00 ≤ m && m < 0xe000 then
        (0x10000 + (n - 0xd800) * 0x400 + (m - 0xdc00)) :: pointsOfUnits rest
      else n :: pointsOfUnits (m :: rest)

/-- The code units of a text up to its closing mark, and what follows it. -/
def readUnits : List Char → Option (List Nat × List Char)
  | [] => none
  | '"' :: rest => some ([], rest)
  | '\\' :: 'u' :: a :: b :: c :: d :: rest =>
      match Text.hexNumber? [a, b, c, d], readUnits rest with
      | some n, some (units, rest) => some (n :: units, rest)
      | _, _ => none
  | '\\' :: c :: rest =>
      match escape? c, readUnits rest with
      | some c, some (units, rest) => some (c.toNat :: units, rest)
      | _, _ => none
  | c :: rest =>
      if c.toNat < 0x20 || c = '\\' then none
      else (readUnits rest).map fun (units, rest) => (c.toNat :: units, rest)

/-- The code points of a text behind its opening mark, and what follows it. -/
def readText (cs : List Char) : Option (List Nat × List Char) :=
  (readUnits cs).map fun (units, rest) => (pointsOfUnits units, rest)

/-- Is the character a digit? -/
def isDigit (c : Char) : Bool := '0' ≤ c && c ≤ '9'

/-- The digits at the start of a text. -/
def digits (cs : List Char) : List Char × List Char :=
  (cs.takeWhile isDigit, cs.dropWhile isDigit)

/-- The part behind the point of a number, if it has one. -/
def readPart : List Char → List Char × List Char
  | '.' :: rest =>
      match digits rest with
      | ([], _) => ([], '.' :: rest)
      | (ds, rest) => ('.' :: ds, rest)
  | rest => ([], rest)

/-- The exponent of a number, if it has one. -/
def readExponent (cs : List Char) : List Char × List Char :=
  match cs with
  | mark :: rest =>
      if mark = 'e' || mark = 'E' then
        let (sign, rest) := match rest with
          | '-' :: rest => (['-'], rest)
          | '+' :: rest => (['+'], rest)
          | rest => ([], rest)
        match digits rest with
        | ([], _) => ([], cs)
        | (ds, rest) => (mark :: sign ++ ds, rest)
      else ([], cs)
  | [] => ([], [])

/-- The number that some digits stand for. -/
def valueOf (ds : List Char) : Nat :=
  ds.foldl (fun n c => 10 * n + (c.toNat - 48)) 0

/-- A number behind its sign, and what follows it. -/
def readNumber (negative : Bool) (cs : List Char) : Option (Document × List Char) :=
  let (ds, rest) := match cs with
    | '0' :: rest => (['0'], rest)
    | cs => digits cs
  if ds.isEmpty then none
  else
    let (part, rest) := readPart rest
    let (power, rest) := readExponent rest
    if part.isEmpty && power.isEmpty then
      if digitLimit < ds.length then none
      else
        let n : Int := valueOf ds
        some (.whole (if negative then -n else n), rest)
    else
      let sign := if negative then ['-'] else []
      (Number.read? (String.ofList (sign ++ ds ++ part ++ power))).map fun x => (.float x, rest)

/-- The words that stand for something. -/
def words : List (List Char × Document) := [
  ("null".toList, .null), ("true".toList, .truth true), ("false".toList, .truth false),
  ("NaN".toList, .float .undefined), ("Infinity".toList, .float (.infinite false)),
  ("-Infinity".toList, .float (.infinite true))]

/-- A word, and what follows it. -/
def readWord (cs : List Char) : Option (Document × List Char) :=
  (words.find? fun (w, _) => w.isPrefixOf cs).map fun (w, d) => (d, cs.drop w.length)

mutual

/-- A document, and what follows it. The first argument bounds the work. -/
def readOne : Nat → List Char → Option (Document × List Char)
  | 0, _ => none
  | work + 1, cs =>
      match cs with
      | '"' :: rest => (readText rest).map fun (ps, rest) => (.ofPoints ps, rest)
      | '[' :: rest =>
          match skipSpace rest with
          | ']' :: rest => some (.items [], rest)
          | rest => (readItems work rest).map fun (ds, rest) => (.items ds, rest)
      | '\x7b' :: rest =>
          match skipSpace rest with
          | '\x7d' :: rest => some (.entries [], rest)
          | rest => (readEntries work rest).map fun (kvs, rest) => (.entries kvs, rest)
      | '-' :: rest => (readWord cs).or (readNumber true rest)
      | cs => (readWord cs).or (readNumber false cs)

/-- The items of a list up to its closing bracket, and what follows it. -/
def readItems : Nat → List Char → Option (List Document × List Char)
  | 0, _ => none
  | work + 1, cs =>
      match readOne work cs with
      | none => none
      | some (d, rest) =>
          match skipSpace rest with
          | ']' :: rest => some ([d], rest)
          | ',' :: rest =>
              (readItems work (skipSpace rest)).map fun (ds, rest) => (d :: ds, rest)
          | _ => none

/-- The entries of a table up to its closing brace, and what follows it. -/
def readEntries : Nat → List Char → Option (List (String × Document) × List Char)
  | 0, _ => none
  | work + 1, cs =>
      match cs with
      | '"' :: rest =>
          match readText rest with
          | none => none
          | some (ps, rest) =>
              let k := String.ofList (ps.map Text.charOf)
              match skipSpace rest with
              | ':' :: rest =>
                  match readOne work (skipSpace rest) with
                  | none => none
                  | some (d, rest) =>
                      match skipSpace rest with
                      | '\x7d' :: rest => some ([(k, d)], rest)
                      | ',' :: rest =>
                          (readEntries work (skipSpace rest)).map fun (kvs, rest) =>
                            ((k, d) :: kvs, rest)
                      | _ => none
              | _ => none
      | _ => none

end

/-- The document that a text holds, if it holds one and nothing else. -/
def read? (s : String) : Option Document :=
  let cs := skipSpace s.toList
  match readOne (2 * cs.length + 2) cs with
  | some (d, rest) => if (skipSpace rest).isEmpty then some d else none
  | none => none

/-- What a text stands for: the document it holds, or else itself. -/
def ofArgument (s : String) : Document :=
  (read? s).getD (.text s)

end FragmentWeaver.Document
