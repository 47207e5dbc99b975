import FragmentWeaver.Loom
import FragmentWeaver.Number.Binary
import FragmentWeaver.Text.Quoted

/-!
# Documents

Plain data as it can be written in JSON, and the values made of it. Lists and tables of a document
become objects of their own. A name that is repeated keeps its first place and its last value.
-/

namespace FragmentWeaver

/-- A document. Entries stand in the order they were written in; a name can be repeated. -/
inductive Document where
  | null
  | truth (b : Bool)
  | whole (i : Int)
  | float (x : Number.Binary)
  | text (s : String)
  /-- A text with code points in it that are no characters. -/
  | loose (points : List Nat)
  | items (ds : List Document)
  | entries (kvs : List (String × Document))
  deriving Inhabited

/-- The document of some code points. -/
def Document.ofPoints (ps : List Nat) : Document :=
  match Text.ofPoints? ps with
  | some s => .text s
  | none => .loose ps

namespace Document

mutual

/-- The value of a document. -/
def value : Document → Run Value
  | .null => return .null
  | .truth b => return .truth b
  | .whole i => return .whole i
  | .float x => return .float x
  | .text s => return .text s
  | .loose ps => return .loose ps
  | .items ds => do
      let xs ← itemValues ds
      Run.withWorld fun w => w.newList xs
  | .entries kvs => do
      let kvs ← entryValues kvs
      let distinct := Assoc.putAll [] kvs
      Run.make (.entries (distinct.map fun (k, v) => (.text k, v))) (.standard "dict")

/-- The values of items. -/
def itemValues : List Document → Run (List Value)
  | [] => return []
  | d :: ds => return (← value d) :: (← itemValues ds)

/-- The values of entries. -/
def entryValues : List (String × Document) → Run (List (String × Value))
  | [] => return []
  | (k, d) :: kvs => return (k, ← value d) :: (← entryValues kvs)

end

end Document

end FragmentWeaver
