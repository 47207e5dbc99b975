import FragmentWeaver.Script.Remark

/-!
# Compiling a source

A source that can be read still has to keep some rules: values are given back and loops are left
only where there is something to leave, no name is bound that is fixed, and the statements about the
language itself come first. What keeps them is compiled code; whether its checks are run is decided
here.
-/

namespace FragmentWeaver.Script

/-- Where a statement stands. -/
inductive Place where
  | module | inClass | inFunction
  deriving DecidableEq, Repr

/-- A name that cannot be bound. -/
def fixedName : String := "__debug__"

/-- Is the name of a target fixed? -/
def Expr.bindsFixed : Expr → Bool
  | .name n => n = fixedName
  | .attribute _ n => n = fixedName
  | .tuple es => any es
  | .list es => any es
  | _ => false
where
  /-- Is the name of one of the targets fixed? -/
  any : List Expr → Bool
    | [] => false
    | e :: es => Expr.bindsFixed e || any es

/-- What can be asked for from the language. -/
def languageFeatures : List String := [
  "nested_scopes", "generators", "division", "absolute_import", "with_statement",
  "print_function", "unicode_literals", "barry_as_FLUFL", "generator_stop", "annotations"]

/-- Does a list hold something twice? -/
def hasRepetition : List String → Bool
  | [] => false
  | x :: xs => xs.contains x || hasRepetition xs

/-- Is a parameter without a default behind one with a default? -/
def defaultsOutOfOrder : List (String × Option Expr) → Bool
  | [] => false
  | (_, none) :: rest => defaultsOutOfOrder rest
  | (_, some _) :: rest => rest.any fun (_, d) => d.isNone

/-- The name that an import binds. -/
def ImportItem.bound (i : ImportItem) : String :=
  i.as?.getD (i.path.headD "")

mutual

/-- Does the statement keep the rules of its place? -/
def Stmt.fits (place : Place) : Stmt → Bool
  | .give _ => place = .inFunction
  | .leaveLoop _ => false
  | .assign targets _ => !targets.any Expr.bindsFixed
  | .annotate target _ _ => !target.bindsFixed
  | .delete target => !target.bindsFixed
  | .branch _ yes no => fitsAll place yes && fitsAll place no
  | .imports items => items.all fun i => i.bound ≠ fixedName
  | .importsFrom level path names =>
      !(level = 0 && path = ["__future__"]) &&
        names.all fun (n, as?) => as?.getD n ≠ fixedName
  | .importsAll _ _ => place = .module
  | .define f params _ body _ =>
      f ≠ fixedName && !hasRepetition (params.map Prod.fst) && !defaultsOutOfOrder params &&
        (params.all fun (p, _) => p ≠ fixedName) && fitsAll .inFunction body
  | .classDef c _ body _ => c ≠ fixedName && fitsAll .inClass body
  | _ => true

/-- Do all statements keep the rules of their place? -/
def fitsAll (place : Place) : List Stmt → Bool
  | [] => true
  | s :: rest => s.fits place && fitsAll place rest

end

/-- The statements about the language at the start of a module, and those behind them; nothing when one
    asks for something that there is not. -/
def splitFeatures : List Stmt → Option (List Stmt × List Stmt)
  | .importsFrom 0 ["__future__"] names :: rest =>
      if names.all fun (n, _) => languageFeatures.contains n then
        (splitFeatures rest).map fun (asking, body) =>
          (.importsFrom 0 ["__future__"] names :: asking, body)
      else none
  | body => some ([], body)

/-- The start of a module, which is a text and statements about the language, and its body behind
    it. -/
def splitStart : List Stmt → Option (List Stmt × List Stmt)
  | .expr (.literal (.text s)) :: rest =>
      (splitFeatures rest).map fun (asking, body) => (.expr (.literal (.text s)) :: asking, body)
  | body => splitFeatures body

/-- Does a statement ask for declarations to be kept as they are written? -/
def Stmt.postpones : Stmt → Bool
  | .importsFrom 0 ["__future__"] names => names.any fun (n, _) => n = "annotations"
  | _ => false

/-- What the source in a file becomes: compiled code, and remarks about the source. Its checks are kept
    unless it is optimised; decimal numbers in it have at most `digits` digits, or any count if that is
    zero. -/
def compile (source : List UInt8) (file : String) (checks : Bool)
    (digits : Nat := Number.digitMaximum) : Except SourceFault (Artifact × List Remark) := do
  let some text := sourceText? source | .error .malformed
  let lexemes := Lexeme.ofSource digits text
  let body ← Parser.parse (lexemes.map (·.token))
  match splitStart body with
  | none => .error .malformed
  | some (start, body) =>
      let mode : Mode := { file := file, checks := checks, postponed := start.any Stmt.postpones }
      if fitsAll .module body then .ok (⟨start ++ body, mode⟩, Remark.ofLexemes lexemes)
      else .error .malformed

end FragmentWeaver.Script
