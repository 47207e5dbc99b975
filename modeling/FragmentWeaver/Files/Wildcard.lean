/-!
# Wildcards

Patterns for single names: a star stands for any characters, a question mark for one, and brackets
for one out of a class. A class may hold ranges; after an exclamation mark it holds everything else.
A bracket that is never closed stands for itself.
-/

namespace FragmentWeaver.Files

/-- One piece of a pattern. -/
inductive Piece where
  | star
  | any
  | exactly (c : Char)
  | oneOf (negated : Bool) (ranges : List (Char × Char))
  | never
  deriving DecidableEq, Repr

namespace Wildcard

/-- Does the test hold for the list or a rest of it? -/
def anyRest (test : List Char → Bool) : List Char → Bool
  | [] => test []
  | c :: rest => test (c :: rest) || anyRest test rest

/-- Does the pattern fit the whole name? -/
def fits : List Piece → List Char → Bool
  | [], cs => cs.isEmpty
  | .star :: ps, cs => anyRest (fits ps) cs
  | .any :: ps, cs =>
      match cs with
      | _ :: rest => fits ps rest
      | [] => false
  | .exactly p :: ps, cs =>
      match cs with
      | c :: rest => c = p && fits ps rest
      | [] => false
  | .oneOf negated ranges :: ps, cs =>
      match cs with
      | c :: rest =>
          (ranges.any fun (low, high) => low.toNat ≤ c.toNat && c.toNat ≤ high.toNat) != negated &&
            fits ps rest
      | [] => false
  | .never :: _, _ => false

/-- The inside of a bracket and what follows it. The first character belongs to the inside even if
    it is a closing bracket. -/
def bracket? (cs : List Char) : Option (List Char × List Char) :=
  let (opening, rest) := match cs with
    | '!' :: rest => (['!'], rest)
    | rest => ([], rest)
  let (opening, rest) := match rest with
    | ']' :: rest => (opening ++ [']'], rest)
    | rest => (opening, rest)
  match rest.dropWhile (· ≠ ']') with
  | _ :: after => some (opening ++ rest.takeWhile (· ≠ ']'), after)
  | [] => none

/-- Cut the inside of a bracket at the hyphens that make ranges. The end of a range starts no other
    one; `skip` counts the characters that cannot be such a hyphen. -/
def chunksFrom : Nat → List Char → List Char → List (List Char)
  | _, chunk, [] => [chunk.reverse]
  | skip + 1, chunk, c :: rest => chunksFrom skip (c :: chunk) rest
  | 0, chunk, c :: rest =>
      if c = '-' then chunk.reverse :: chunksFrom 2 [] rest else chunksFrom 0 (c :: chunk) rest

/-- The chunks of the inside of a bracket; a hyphen at the end stands for itself. -/
def chunks (inside : List Char) : List (List Char) :=
  let skip := if inside.head? = some '!' then 2 else 1
  let all := chunksFrom skip [] inside
  match all.reverse with
  | [] :: last :: earlier => (((last ++ ['-']) :: earlier).reverse)
  | _ => all

/-- Join chunks whose range would be empty, the last ones first. -/
def joinEmpty : List (List Char) → List (List Char)
  | [] => []
  | chunk :: rest =>
      match joinEmpty rest with
      | [] => [chunk]
      | next :: more =>
          match chunk.getLast?, next.head? with
          | some low, some high =>
              if high.toNat < low.toNat then (chunk.dropLast ++ next.drop 1) :: more
              else chunk :: next :: more
          | _, _ => chunk :: next :: more

/-- The ranges of chunks: between two chunks lies a range, every other character stands alone. -/
def rangesOf : List (List Char) → List (Char × Char)
  | [] => []
  | chunk :: rest =>
      let alone := chunk.map fun c => (c, c)
      match chunk.getLast?, rest with
      | some low, next :: _ =>
          match next.head? with
          | some high => alone ++ (low, high) :: rangesOf rest
          | none => alone ++ rangesOf rest
      | _, _ => alone ++ rangesOf rest

/-- The piece for the inside of a bracket. -/
def classOf (inside : List Char) : Piece :=
  match joinEmpty (chunks inside) with
  | [[]] => .never
  | [['!']] => .any
  | ('!' :: chunk) :: rest => .oneOf true (rangesOf (chunk :: rest))
  | all => .oneOf false (rangesOf all)

/-- Read a pattern; at most so many pieces. -/
def parseWithin : Nat → List Char → List Piece
  | 0, _ => []
  | _, [] => []
  | fuel + 1, '*' :: rest => .star :: parseWithin fuel rest
  | fuel + 1, '?' :: rest => .any :: parseWithin fuel rest
  | fuel + 1, '[' :: rest =>
      match bracket? rest with
      | some (inside, after) => classOf inside :: parseWithin fuel after
      | none => .exactly '[' :: parseWithin fuel rest
  | fuel + 1, c :: rest => .exactly c :: parseWithin fuel rest

/-- Read a pattern. -/
def parse (s : String) : List Piece :=
  parseWithin s.length s.toList

/-- Does a name hold a character that makes it a pattern? -/
def isPattern (s : String) : Bool :=
  s.toList.any fun c => c = '*' || c = '?' || c = '['

end Wildcard

end FragmentWeaver.Files
