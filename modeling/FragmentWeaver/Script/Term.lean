import FragmentWeaver.Number.Binary
import FragmentWeaver.Text.Quoted

/-!
# Terms of the fragment language

The expressions and statements that staged sources are made of. Sources are Python; the terms cover
the part of it in which units, helpers and fragments are written.
-/

namespace FragmentWeaver.Script

/-- A value written out in a source. -/
inductive Literal where
  | null
  | truth (b : Bool)
  | ellipsis
  | whole (i : Int)
  | float (x : Number.Binary)
  | imaginary (x : Number.Binary)
  | text (s : String)
  /-- A text with code points in it that are no characters. -/
  | loose (points : List Nat)
  | bytes (bs : List UInt8)
  deriving DecidableEq, Repr, Inhabited

/-- The literal of some code points. -/
def Literal.ofPoints (ps : List Nat) : Literal :=
  match Text.ofPoints? ps with
  | some s => .text s
  | none => .loose ps

/-- The operators with two operands. -/
inductive Operator where
  | add | sub | mul | div | union
  deriving DecidableEq, Repr, Inhabited

/-- The sign of an operator. -/
def Operator.sign : Operator → String
  | .add => "+"
  | .sub => "-"
  | .mul => "*"
  | .div => "/"
  | .union => "|"

/-- An expression. -/
inductive Expr where
  | literal (l : Literal)
  | name (n : String)
  | attribute (e : Expr) (n : String)
  | item (e key : Expr)
  | call (f : Expr) (args : List Expr)
  | tuple (es : List Expr)
  | list (es : List Expr)
  | set (es : List Expr)
  | dict (entries : List (Expr × Expr))
  | negate (e : Expr)
  | positive (e : Expr)
  | binary (op : Operator) (l r : Expr)
  deriving Repr, Inhabited

/-- Names read one from the other. -/
def Expr.path : List String → Expr
  | [] => .literal .null
  | n :: rest => rest.foldl .attribute (.name n)

/-- A module that a statement imports: its dotted path and the name it is bound to, if one is
    given. -/
structure ImportItem where
  path : List String
  as? : Option String
  deriving DecidableEq, Repr, Inhabited

/-- A statement. -/
inductive Stmt where
  | pass
  | expr (e : Expr)
  | assign (targets : List Expr) (value : Expr)
  | annotate (target annotation : Expr) (value : Option Expr)
  | delete (target : Expr)
  | give (e : Option Expr)
  | throw (e : Option Expr)
  | check (test : Expr) (message : Option Expr)
  | branch (test : Expr) (yes no : List Stmt)
  | imports (items : List ImportItem)
  | importsFrom (level : Nat) (path : List String) (names : List (String × Option String))
  | importsAll (level : Nat) (path : List String)
  /-- A function, with what is declared about its parameters and about what it gives back. -/
  | define (name : String) (params : List (String × Option Expr)) (notes : List (String × Expr))
      (body : List Stmt) (decorators : List Expr)
  | classDef (name : String) (bases : List Expr) (body : List Stmt) (decorators : List Expr)
  | leaveLoop (word : String)
  deriving Repr, Inhabited

/-- The code of a function: its name, the names and defaults of its parameters, and its body. -/
structure Code where
  name : String
  params : List (String × Option Expr)
  body : List Stmt
  deriving Repr, Inhabited

/-- How code was compiled: from which file, whether its checks are kept, and whether what it declares
    is kept as it is written. -/
structure Mode where
  file : String := ""
  checks : Bool := true
  postponed : Bool := false
  deriving Repr, Inhabited

/-- Compiled code of a module: its body, and how it was compiled. -/
structure Artifact where
  body : List Stmt
  mode : Mode := {}
  deriving Repr, Inhabited

end FragmentWeaver.Script
