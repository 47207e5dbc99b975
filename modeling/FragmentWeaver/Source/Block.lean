import FragmentWeaver.Text.Lines

/-!
# Blocks of a source

A fragment comes with whatever margin it was written with. It is moved left as far as it goes, blank
rows around it are dropped, and every line that holds anything gets the margin of its new place.
-/

namespace FragmentWeaver.Source

/-- What stands in an empty block. -/
def emptyBlock : String := "pass"

/-- A fragment without its margin and without the empty rows around it. -/
def blockBody (fragment : List Char) : List Char :=
  Text.trimBy (· = '\n') (Text.dedent fragment)

/-- A fragment as a block with a margin. -/
def indentBlock (fragment : Option String) (margin : String) : String :=
  let body := blockBody ((fragment.getD "").toList)
  if Text.allBlank body then margin ++ emptyBlock
  else String.ofList (Text.indent margin.toList body)

end FragmentWeaver.Source
