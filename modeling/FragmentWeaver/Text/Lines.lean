import FragmentWeaver.Text.Character
import FragmentWeaver.Text.Split

/-!
# Lines of a text

Two notions of a line live side by side. *Rows* end at a line feed only; *lines* end at any of the
Unicode line boundaries. Removing the common margin of a text works on rows, putting an opening in
front of every written line works on lines.
-/

namespace FragmentWeaver.Text

/-- A character after which a new line starts. -/
def isLineEnd (c : Char) : Bool :=
  let n := c.toNat
  (10 ≤ n && n ≤ 13) || (28 ≤ n && n ≤ 30) || n == 0x85 || n == 0x2028 || n == 0x2029

/-- The lines of a text, each with its line end; a carriage return and a line feed together are one
    line end. -/
def linesWithEnds : List Char → List (List Char)
  | [] => []
  | '\r' :: '\n' :: rest => ['\r', '\n'] :: linesWithEnds rest
  | c :: rest =>
      if isLineEnd c then [c] :: linesWithEnds rest
      else
        match linesWithEnds rest with
        | [] => [[c]]
        | line :: lines => (c :: line) :: lines

/-- A line without its line end. -/
def withoutEnd (line : List Char) : List Char :=
  (line.reverse.dropWhile isLineEnd).reverse

/-- The lines of a text without their line ends. -/
def lines (s : String) : List String :=
  (linesWithEnds s.toList).map fun line => String.ofList (withoutEnd line)

/-- A character that can stand in a margin. -/
def isMargin (c : Char) : Bool :=
  c = ' ' || c = '\t'

/-- A row of nothing but margin characters becomes empty. -/
def clearRow (row : List Char) : List Char :=
  if row.all isMargin then [] else row

/-- The longest opening that two lists share. -/
def commonOpening : List Char → List Char → List Char
  | a :: as, b :: bs => if a = b then a :: commonOpening as bs else []
  | _, _ => []

/-- The margin shared by all rows that hold anything. -/
def margin (rows : List (List Char)) : List Char :=
  match (rows.filter fun row => !row.isEmpty).map (List.takeWhile isMargin) with
  | [] => []
  | first :: others => others.foldl commonOpening first

/-- A row without the given margin, where it starts with it. -/
def dropMargin (m : List Char) (row : List Char) : List Char :=
  if m.isPrefixOf row then row.drop m.length else row

/-- The rows of a text, moved left together as far as they go; rows of margin characters only become
    empty. -/
def dedentRows (cs : List Char) : List (List Char) :=
  let rows := (cutAt '\n' cs).map clearRow
  rows.map (dropMargin (margin rows))

/-- A text moved left as far as it goes. -/
def dedent (cs : List Char) : List Char :=
  glue ['\n'] (dedentRows cs)

/-- Every line that holds more than white space gets the opening in front. -/
def indent (opening : List Char) (cs : List Char) : List Char :=
  (linesWithEnds cs).flatMap fun line => if allBlank line then line else opening ++ line

end FragmentWeaver.Text
