import FragmentWeaver.Assoc
import FragmentWeaver.Fault
import FragmentWeaver.Files.Path
import FragmentWeaver.Script.Term
import FragmentWeaver.Text.Sorted

/-!
# The tree of files

Directories and files by their names from the root. Finding a file follows a path name by name, so
every name on the way has to be a directory.
-/

namespace FragmentWeaver.Files

/-- What a file holds: text, other bytes, or compiled code. -/
inductive Contents where
  | text (s : String)
  | bytes (bs : List UInt8)
  | artifact (a : Script.Artifact)
  deriving Inhabited

/-- What a file holds, as text with its line ends made alike. -/
def Contents.asText : Contents → Except Fault String
  | .text s => .ok (String.ofList (Text.unifyLineEnds s.toList))
  | .bytes bs =>
      match Text.decode bs with
      | .ok s => .ok (String.ofList (Text.unifyLineEnds s.toList))
      | .error f => .error (.undecodable f)
  | .artifact _ => .error (.undecodable ⟨0xa7, 0, 1, .badStart⟩)

/-- What a file holds, as bytes; compiled code starts with bytes that no source has. -/
def Contents.asBytes : Contents → List UInt8
  | .text s => s.toUTF8.data.toList
  | .bytes bs => bs
  | .artifact _ => [0xa7, 0x0d, 0x0d, 0x0a, 0x00]

/-- What stands in the tree. -/
inductive Node where
  | directory
  | file (c : Contents)
  deriving Inhabited

/-- The nodes of a tree by their names from the root, in the order of these; the root itself is not
    listed. -/
abbrev Tree := List (List String × Node)

namespace Tree

/-- The node at a place. -/
def node? (t : Tree) (place : List String) : Option Node :=
  if place = [] then some .directory else Assoc.find? t place

/-- Put a node at a place. -/
def put (t : Tree) (place : List String) (n : Node) : Tree :=
  match t with
  | [] => [(place, n)]
  | (q, m) :: rest =>
      if place = q then (place, n) :: rest
      else if place < q then (place, n) :: (q, m) :: rest
      else (q, m) :: put rest place n

/-- The most bytes in a name. -/
def nameLimit : Nat := 255

/-- Follow names from a place. -/
def follow (t : Tree) (place : List String) : List String → Except FileCause (List String)
  | [] => .ok place
  | name :: rest =>
      match t.node? place with
      | some .directory =>
          if name = ".." then t.follow place.dropLast rest
          else if nameLimit < name.utf8ByteSize then .error .nameTooLong
          else t.follow (place ++ [name]) rest
      | some (.file _) => .error .notDirectory
      | none => .error .notFound

/-- The least count of bytes that is too long for a path. -/
def pathLimit : Nat := 4096

/-- The place of a path, seen from a directory; nothing needs to stand there. -/
def place (t : Tree) (cwd : List String) (p : Path) : Except FileCause (List String) :=
  if pathLimit ≤ p.text.utf8ByteSize then .error .nameTooLong
  else t.follow (if p.isAbsolute then [] else cwd) p.names

/-- The node at a path. -/
def stat (t : Tree) (cwd : List String) (p : Path) : Except FileCause Node := do
  let place ← t.place cwd p
  match t.node? place with
  | some n => .ok n
  | none => .error .notFound

/-- Does anything stand at the path? -/
def exists? (t : Tree) (cwd : List String) (p : Path) : Bool :=
  (t.stat cwd p).isOk

/-- Is there a directory at the path? -/
def isDirectory (t : Tree) (cwd : List String) (p : Path) : Bool :=
  match t.stat cwd p with
  | .ok .directory => true
  | _ => false

/-- Is there a file at the path? -/
def isFile (t : Tree) (cwd : List String) (p : Path) : Bool :=
  match t.stat cwd p with
  | .ok (.file _) => true
  | _ => false

/-- Does a place lie directly below another one? -/
def isChild (parent place : List String) : Bool :=
  place ≠ [] && place.dropLast = parent

/-- The names directly below a place, in order. -/
def namesBelow (t : Tree) (place : List String) : List String :=
  Text.sorted (t.filterMap fun (q, _) => if isChild place q then q.getLast? else none)

/-- The names in the directory at a path, in order; none when there is no directory. -/
def list (t : Tree) (cwd : List String) (p : Path) : List String :=
  match t.place cwd p with
  | .ok place => if t.isDirectory cwd p then t.namesBelow place else []
  | .error _ => []

/-- Put a fault of a cause on a path. -/
def blame {α : Type} (p : Path) (r : Except FileCause α) : Except Fault α :=
  r.mapError fun c => .file ⟨c, p.text⟩

/-- What stands at a path, if anything can be found there. Only a name that is too long is a
    fault. -/
def probe (t : Tree) (cwd : List String) (p : Path) : Except Fault (Option Node) :=
  match t.stat cwd p with
  | .ok n => .ok (some n)
  | .error .nameTooLong => .error (.file ⟨.nameTooLong, p.text⟩)
  | .error _ => .ok none

/-- Make a directory whose parent is there. -/
def makeOne (t : Tree) (cwd : List String) (p : Path) : Except FileCause Tree := do
  let place ← t.place cwd p
  match t.node? place with
  | some _ => .error .exists
  | none =>
      match t.node? place.dropLast with
      | some .directory => .ok (t.put place .directory)
      | some (.file _) => .error .notDirectory
      | none => .error .notFound

/-- Make a directory with all its parents, which are at most so many; a directory that is there is
    fine. The tree is given back with what was made, even when a step fails. -/
def makeWithin (t : Tree) (cwd : List String) : Nat → Path → Except Fault Unit × Tree
  | parents, p =>
      match t.makeOne cwd p with
      | .ok t => (.ok (), t)
      | .error .notFound =>
          match parents with
          | 0 => (.error (.file ⟨.notFound, p.text⟩), t)
          | parents + 1 =>
              match t.makeWithin cwd parents p.parent with
              | (.error f, t) => (.error f, t)
              | (.ok (), t) =>
                  match t.makeOne cwd p with
                  | .ok t => (.ok (), t)
                  | .error c =>
                      if t.isDirectory cwd p then (.ok (), t) else (.error (.file ⟨c, p.text⟩), t)
      | .error c => if t.isDirectory cwd p then (.ok (), t) else (.error (.file ⟨c, p.text⟩), t)

/-- Make a directory with all its parents; a directory that is there is fine. -/
def makeDirectory (t : Tree) (cwd : List String) (p : Path) : Except Fault Unit × Tree :=
  if p.isUnusable then (.error .nullCharacter, t) else t.makeWithin cwd p.names.length p

/-- Write a file; what was there before is replaced. -/
def write (t : Tree) (cwd : List String) (p : Path) (c : Contents) : Except Fault Tree :=
  if p.isUnusable then .error .nullCharacter
  else blame p do
    let place ← t.place cwd p
    match t.node? place with
    | some .directory => .error .isDirectory
    | some (.file _) => .ok (t.put place (.file c))
    | none =>
        match t.node? place.dropLast with
        | some .directory => .ok (t.put place (.file c))
        | some (.file _) => .error .notDirectory
        | none => .error .notFound

/-- Delete a file. -/
def delete (t : Tree) (cwd : List String) (p : Path) : Except Fault Tree :=
  if p.isUnusable then .error .nullCharacter
  else blame p do
    let place ← t.place cwd p
    match t.node? place with
    | some .directory => .error .isDirectory
    | some (.file _) => .ok (Assoc.erase t place)
    | none => .error .notFound

/-- What the file at a path holds. -/
def contents (t : Tree) (cwd : List String) (p : Path) : Except Fault Contents :=
  if p.isUnusable then .error .nullCharacter
  else blame p do
    match ← t.stat cwd p with
    | .directory => .error .isDirectory
    | .file c => .ok c

/-- Read the file at a path as text. -/
def read (t : Tree) (cwd : List String) (p : Path) : Except Fault String := do
  Contents.asText (← t.contents cwd p)

/-- Everything below a place: the names from there, and whether it is a directory. -/
def below (t : Tree) (place : List String) : List (List String × Bool) :=
  t.filterMap fun (q, n) =>
    if place.isPrefixOf q && place.length < q.length then
      some (q.drop place.length, match n with
        | .directory => true
        | .file _ => false)
    else none

/-- The listing of everything below a place: paths in order, a slash after those of directories. -/
def listing (t : Tree) (place : List String) : List String :=
  Text.sorted ((t.below place).map fun (names, isDirectory) =>
    Text.join "/" names ++ (if isDirectory then "/" else ""))

end Tree

end FragmentWeaver.Files
