import FragmentWeaver.Distinct
import FragmentWeaver.Script.Constant

/-!
# Code and names as values

What the code of a function knows of itself, and the names of a module as a dictionary. Every module
that was run holds the built-in names in such a dictionary.
-/

namespace FragmentWeaver.Script

/-- A name in code: one of a variable, or one of an attribute or of a module. -/
inductive Mention where
  | variable (n : String)
  | attribute (n : String)
  deriving DecidableEq

/-- The name that is mentioned. -/
def Mention.name : Mention → String
  | .variable n | .attribute n => n

mutual

/-- The names in an expression, in the order in which they are needed. -/
def Expr.mentions : Expr → List Mention
  | .literal _ => []
  | .name n => [.variable n]
  | .attribute e n => e.mentions ++ [.attribute n]
  | .item e key => e.mentions ++ key.mentions
  | .call f args => f.mentions ++ mentionsAll args
  | .tuple es | .list es | .set es => mentionsAll es
  | .dict kvs => mentionsOfEntries kvs
  | .negate e | .positive e => e.mentions
  | .binary _ l r => l.mentions ++ r.mentions

/-- The names in expressions. -/
def mentionsAll : List Expr → List Mention
  | [] => []
  | e :: es => e.mentions ++ mentionsAll es

/-- The names in the entries of a dictionary. -/
def mentionsOfEntries : List (Expr × Expr) → List Mention
  | [] => []
  | (k, v) :: kvs => k.mentions ++ v.mentions ++ mentionsOfEntries kvs

end

/-- The names in an expression that may be missing. -/
def mentionsIn (e : Option Expr) : List Mention := (e.map Expr.mentions).getD []

mutual

/-- The names in a statement, in the order in which they are needed. -/
def Stmt.mentions : Stmt → List Mention
  | .expr e => e.mentions
  | .assign targets value => value.mentions ++ mentionsAll targets
  | .annotate target _ value => mentionsIn value ++ (if value.isSome then target.mentions else [])
  | .delete target => target.mentions
  | .give e | .throw e => mentionsIn e
  | .check test message => test.mentions ++ mentionsIn message
  | .branch test yes no => test.mentions ++ mentionsOfBody yes ++ mentionsOfBody no
  | .imports items => items.flatMap fun i =>
      [.attribute (Text.join "." i.path), .variable (i.as?.getD (i.path.headD ""))]
  | .importsFrom _ path names =>
      .attribute (Text.join "." path) ::
        names.flatMap fun (n, as?) => [.attribute n, .variable (as?.getD n)]
  | .define f params _ _ decorators =>
      mentionsAll decorators ++ mentionsOfDefaults params ++ [.variable f]
  | .classDef c bases _ decorators =>
      mentionsAll decorators ++ mentionsAll bases ++ [.variable c]
  | _ => []

/-- The names in statements. -/
def mentionsOfBody : List Stmt → List Mention
  | [] => []
  | s :: rest => s.mentions ++ mentionsOfBody rest

/-- The names in the defaults of parameters. -/
def mentionsOfDefaults : List (String × Option Expr) → List Mention
  | [] => []
  | (_, none) :: rest => mentionsOfDefaults rest
  | (_, some e) :: rest => e.mentions ++ mentionsOfDefaults rest

end

/-- The names in the code of a function that belong to the call, parameters first, and the other
    ones. -/
def Code.names (c : Code) (bound : List String) : List String × List String :=
  let mentioned := mentionsOfBody c.body
  let own := c.params.map Prod.fst ++ bound
  let isOwn : Mention → Bool
    | .variable n => own.contains n
    | .attribute _ => false
  let locals := (mentioned.filter isOwn).map Mention.name
  (distinct (c.params.map Prod.fst ++ locals),
    distinct ((mentioned.filter fun m => !isOwn m && m.name ≠ "__class__").map Mention.name))

/-- Does the code of a method ask for its class? -/
def Code.asksClass (c : Code) : Bool :=
  (mentionsOfBody c.body).any fun m => m = .variable "super" || m = .variable "__class__"

/-- What a place in the flags of code says of it: it is laid out for speed and has names of its own, it
    stands in another function, what it declares is kept as it is written. -/
def codeFlags (fn : Function) : Int :=
  let isInner := (fn.title.splitOn "<locals>").length > 1
  3 + (if isInner then 16 else 0) + (if fn.mode.postponed then 16777216 else 0)

/-- The code of a function as a value; `bound` are the names that its body binds. -/
def codeOf (fn : Function) (bound : List String) : Act Value := do
  let (locals, others) := fn.code.names bound
  let texts (ns : List String) : Act Value := Act.withWorld fun w => w.newTuple (ns.map .text)
  let number (i : Nat) : Value := .whole i
  let seen := if fn.owner.isSome && fn.code.asksClass then ["__class__"] else []
  Act.make (.instance [
    ("co_name", .text fn.code.name), ("co_qualname", .text fn.title),
    ("co_filename", .text fn.mode.file), ("co_argcount", number fn.code.params.length),
    ("co_posonlyargcount", number 0), ("co_kwonlyargcount", number 0),
    ("co_nlocals", number locals.length), ("co_flags", .whole (codeFlags fn)),
    ("co_varnames", ← texts locals), ("co_names", ← texts others),
    ("co_freevars", ← texts seen), ("co_cellvars", ← texts []),
    ("co_exceptiontable", .bytes [])]) (.standard "code")

/-- The names of a module with what they stand for, as a dictionary. -/
def tableOf (m : ModuleId) (names : List String) : Act Value := do
  let entries ← names.filterMapM fun n => do
    return (← readName? m n).map fun v => (Value.text n, v)
  Act.make (.entries entries) (.standard "dict")

/-- The built-in names, as a dictionary. -/
def builtinTable : Act Value :=
  tableOf World.builtins Standard.builtinOrder

/-- The name under which a module that was run holds the built-in names. -/
def builtinsName : String := "__builtins__"

/-- Read a name of a module, if it is there; the built-in names are put there when they are asked
    for. -/
def readModuleName? (m : ModuleId) (n : String) : Act (Option Value) := do
  match ← readName? m n with
  | some v => return some v
  | none => do
      let r := (← Act.world).modules.getD m { name := "" }
      if n = builtinsName && r.wasRun && !r.dropped.contains n then
        let v ← builtinTable
        Act.setModuleAttribute m n v
        return some v
      else return none

/-- The names that a module has before its body is run. -/
def firstNames : List String := [
  "__name__", "__doc__", "__package__", "__loader__", "__spec__", "__path__", "__file__",
  "__cached__"]

/-- The names of a module in order: the built-in names come right before those of its body. -/
def namesInOrder (names : List String) : List String :=
  let others := names.filter (· ≠ builtinsName)
  others.takeWhile firstNames.contains ++ names.filter (· = builtinsName) ++
    others.dropWhile firstNames.contains

/-- All the names of a module, as a dictionary. -/
def namesOf (m : ModuleId) : Act Value := do
  let _ ← readModuleName? m builtinsName
  tableOf m (namesInOrder ((← Act.world).modules.getD m { name := "" }).names)

end FragmentWeaver.Script
