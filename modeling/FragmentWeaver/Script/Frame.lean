import FragmentWeaver.Act
import FragmentWeaver.Script.Code
import FragmentWeaver.Script.Compile

/-!
# Frames

Where a statement is carried out: the module whose names it reads, the names of its own, and the
class it stands in. Names of a module live in the module; those of a class body or of a call live in
the frame.
-/

namespace FragmentWeaver.Script

/-- Where statements are carried out. -/
structure Frame where
  globals : ModuleId
  place : Place := .module
  /-- The names that belong to the call, whether they have a value yet or not. -/
  owned : List String := []
  names : List (String × Value) := []
  /-- What stands before the name of a class or function that is defined here. -/
  path : String := ""
  /-- The class that private names belong to. -/
  secret : Option String := none
  /-- The class whose method is called, and the object it is called on. -/
  owner : Option ClassId := none
  receiver : Option Value := none
  mode : Mode := {}
  deriving Inhabited

/-- How a statement ends: the next one follows, or a value is given back. -/
inductive Flow where
  | next
  | gave (v : Value)
  deriving Inhabited

/-- A name as it is kept: one that starts with two underscores and does not end with two belongs to
    the class it is written in. -/
def privateName (secret : Option String) (n : String) : String :=
  match secret with
  | none => n
  | some c =>
      let bare := String.ofList (c.toList.dropWhile (· = '_'))
      if Text.beginsWith "__" n && !("__".toList.isSuffixOf n.toList) && bare ≠ "" then
        "_" ++ bare ++ n
      else n

/-- Names side by side. -/
def Expr.boundNames : Expr → List String
  | .name n => [n]
  | .tuple es => all es
  | .list es => all es
  | _ => []
where
  /-- The names that targets bind. -/
  all : List Expr → List String
    | [] => []
    | e :: es => Expr.boundNames e ++ all es

mutual

/-- The names that a statement binds. -/
def Stmt.boundNames : Stmt → List String
  | .assign targets _ => targets.flatMap Expr.boundNames
  | .annotate target _ _ => target.boundNames
  | .delete target => target.boundNames
  | .branch _ yes no => boundByAll yes ++ boundByAll no
  | .imports items => items.map ImportItem.bound
  | .importsFrom _ _ names => names.map fun (n, as?) => as?.getD n
  | .define f _ _ _ _ => [f]
  | .classDef c _ _ _ => [c]
  | _ => []

/-- The names that statements bind. -/
def boundByAll : List Stmt → List String
  | [] => []
  | s :: rest => s.boundNames ++ boundByAll rest

end

mutual

/-- Does a statement declare a name? -/
def Stmt.declares : Stmt → Bool
  | .annotate _ _ _ => true
  | .branch _ yes no => anyDeclares yes || anyDeclares no
  | _ => false

/-- Does one of the statements declare a name? -/
def anyDeclares : List Stmt → Bool
  | [] => false
  | s :: rest => s.declares || anyDeclares rest

end

namespace Frame

/-- The name under which a written name is kept. -/
def key (f : Frame) (n : String) : String :=
  privateName f.secret n

/-- A name of the module or of the surroundings. -/
def global (f : Frame) (n : String) : Act Value := do
  match ← readModuleName? f.globals n with
  | some v => return v
  | none =>
      match (← Act.world).moduleAttribute? World.builtins n with
      | some v => return v
      | none => Act.fail (.script (.undefinedName n))

/-- The value of a name. -/
def read (f : Frame) (written : String) : Act Value := do
  let n := f.key written
  if n = fixedName then return .truth f.mode.checks
  match f.place with
  | .module => f.global n
  | .inClass =>
      match Assoc.find? f.names n with
      | some v => return v
      | none => f.global n
  | .inFunction =>
      if f.owned.contains n then
        match Assoc.find? f.names n with
        | some v => return v
        | none => Act.fail (.script (.unboundName n))
      else
        match f.owner with
        | some c => if n = "__class__" then return .cls c else f.global n
        | none => f.global n

/-- Bind a name. -/
def bind (f : Frame) (written : String) (v : Value) : Act Frame := do
  let n := f.key written
  match f.place with
  | .module =>
      Act.setModuleAttribute f.globals n v
      return f
  | _ => return { f with names := Assoc.put f.names n v }

/-- Is a name bound here? -/
def binds (f : Frame) (written : String) : Act Bool := do
  let n := f.key written
  match f.place with
  | .module => return ((← Act.world).moduleAttribute? f.globals n).isSome
  | _ => return (Assoc.find? f.names n).isSome

/-- Drop a name. -/
def drop (f : Frame) (written : String) : Act Frame := do
  let n := f.key written
  if ← f.binds written then
    match f.place with
    | .module =>
        Act.dropModuleAttribute f.globals n
        return f
    | _ => return { f with names := Assoc.erase f.names n }
  else if f.place = .inFunction then Act.fail (.script (.unboundName n))
  else Act.fail (.script (.undefinedName n))

/-- The name that the module of the frame gives itself. -/
def moduleName (f : Frame) : Act String := do
  match (← Act.world).moduleAttribute? f.globals "__name__" with
  | some (.text n) => return n
  | _ => return "builtins"

end Frame

end FragmentWeaver.Script
