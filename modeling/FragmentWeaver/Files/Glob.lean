import FragmentWeaver.Distinct
import FragmentWeaver.Files.Tree
import FragmentWeaver.Files.Wildcard

/-!
# Finding files by patterns

A pattern is a relative path whose names may hold wildcards. Two stars alone stand for any chain of
directories; beside anything else in a name they are refused.
-/

namespace FragmentWeaver.Files

/-- One name of a pattern. -/
inductive Step where
  | exactly (name : String)
  | up
  | wild (pieces : List Piece)
  | anyDepth
  deriving DecidableEq, Repr

/-- Do two stars stand side by side? -/
def hasTwoStars : List Char → Bool
  | '*' :: '*' :: _ => true
  | _ :: rest => hasTwoStars rest
  | [] => false

/-- Read one name of a pattern. -/
def Step.parse (name : String) : Except PatternFault Step :=
  if name = "**" then .ok .anyDepth
  else if name = ".." then .ok .up
  else if hasTwoStars name.toList then .error .starsInComponent
  else if Wildcard.isPattern name then .ok (.wild (Wildcard.parse name))
  else .ok (.exactly name)

/-- Read a pattern. -/
def parsePattern (pattern : String) : Except PatternFault (List Step) :=
  let p := Path.parse pattern
  if p.isAbsolute then .error .absolute else p.names.mapM Step.parse

namespace Tree

/-- The directories at and below a path, nested to a given depth. -/
def directoriesWithin (t : Tree) (cwd : List String) : Nat → Path → List Path
  | 0, p => [p]
  | depth + 1, p =>
      p :: ((t.list cwd p).filter fun n => t.isDirectory cwd (p.child n)).flatMap fun n =>
        t.directoriesWithin cwd depth (p.child n)

/-- The paths that some steps lead to from a directory. -/
def select (t : Tree) (cwd : List String) : List Step → Path → Except Fault (List Path)
  | [], p => .ok [p]
  | .exactly name :: rest, p => do
      let q := p.child name
      let goesOn := match ← t.probe cwd q with
        | some .directory => true
        | found => found.isSome && rest.isEmpty
      if goesOn then t.select cwd rest q else return []
  | .up :: rest, p => t.select cwd rest (p.child "..")
  | .wild pieces :: rest, p =>
      List.flatten <$> ((t.list cwd p).filter fun n =>
        Wildcard.fits pieces n.toList && (rest.isEmpty || t.isDirectory cwd (p.child n))).mapM
        fun n => t.select cwd rest (p.child n)
  | .anyDepth :: rest, p =>
      (distinct ∘ List.flatten) <$>
        (t.directoriesWithin cwd t.length p).mapM (t.select cwd rest)

/-- The paths in a directory that a pattern fits, in order. -/
def glob (t : Tree) (cwd : List String) (directory : Path) (pattern : String) :
    Except Fault (List Path) :=
  match parsePattern pattern with
  | .error f => .error (.pattern f)
  | .ok steps => do
      match ← t.probe cwd directory with
      | some .directory => Path.sorted <$> t.select cwd steps directory
      | _ => return []

end Tree

end FragmentWeaver.Files
