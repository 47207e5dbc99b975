import FragmentWeaver.Number.Decimal
import FragmentWeaver.Script.Term
import FragmentWeaver.Text.Quoted
import FragmentWeaver.Text.Split

/-!
# The text of terms

Expressions and statements as a source says them.
-/

namespace FragmentWeaver.Script

/-- The text of a written value. -/
def Literal.source : Literal → String
  | .null => "None"
  | .truth b => if b then "True" else "False"
  | .ellipsis => "..."
  | .whole i => Number.wholeText i
  | .float x =>
      match x with
      | .infinite n => if n then "-1e309" else "1e309"
      | .undefined => "(1e309 - 1e309)"
      | x => x.text
  | .imaginary x => x.text ++ "j"
  | .text s => Text.quote s
  | .loose ps => Text.quotePoints ps
  | .bytes bs => Text.quoteBytes bs

mutual

/-- The text of an expression. -/
def Expr.source : Expr → String
  | .literal l => l.source
  | .name n => n
  | .attribute e n => e.source ++ "." ++ n
  | .item e key =>
      e.source ++ "[" ++ (match key with
        | .tuple (k :: ks) => Text.join ", " (k.source :: sources ks)
        | key => key.source) ++ "]"
  | .call f args => f.source ++ "(" ++ Text.join ", " (sources args) ++ ")"
  | .tuple es =>
      match es with
      | [e] => "(" ++ e.source ++ ",)"
      | es => "(" ++ Text.join ", " (sources es) ++ ")"
  | .list es => "[" ++ Text.join ", " (sources es) ++ "]"
  | .set es => "\x7b" ++ Text.join ", " (sources es) ++ "\x7d"
  | .dict kvs => "\x7b" ++ Text.join ", " (entrySources kvs) ++ "\x7d"
  | .negate e => "-" ++ e.source
  | .positive e => "+" ++ e.source
  | .binary op l r => l.source ++ " " ++ op.sign ++ " " ++ r.source

/-- The texts of expressions. -/
def sources : List Expr → List String
  | [] => []
  | e :: es => e.source :: sources es

/-- The texts of the entries of a dictionary. -/
def entrySources : List (Expr × Expr) → List String
  | [] => []
  | (k, v) :: kvs => (k.source ++ ": " ++ v.source) :: entrySources kvs

end

/-- The text of a name that may be given anew. -/
def renamed (n : String) : Option String → String
  | none => n
  | some m => n ++ " as " ++ m

mutual

/-- The lines of a statement, behind a margin. -/
def Stmt.lines (margin : String) : Stmt → List String
  | .pass => [margin ++ "pass"]
  | .expr e => [margin ++ e.source]
  | .assign targets value =>
      [margin ++ Text.join " = " (sources targets ++ [value.source])]
  | .annotate target declared value =>
      [margin ++ target.source ++ ": " ++ declared.source ++
        (match value with
          | some v => " = " ++ v.source
          | none => "")]
  | .delete target => [margin ++ "del " ++ target.source]
  | .give e =>
      [margin ++ "return" ++ (match e with
        | some e => " " ++ e.source
        | none => "")]
  | .throw e =>
      [margin ++ "raise" ++ (match e with
        | some e => " " ++ e.source
        | none => "")]
  | .check test message =>
      [margin ++ "assert " ++ test.source ++ (match message with
        | some m => ", " ++ m.source
        | none => "")]
  | .branch test yes no =>
      (margin ++ "if " ++ test.source ++ ":") :: linesBelow margin yes ++
        (if no.isEmpty then [] else (margin ++ "else:") :: linesBelow margin no)
  | .imports items =>
      [margin ++ "import " ++
        Text.join ", " (items.map fun i => renamed (Text.join "." i.path) i.as?)]
  | .importsFrom level path names =>
      [margin ++ "from " ++ String.ofList (List.replicate level '.') ++ Text.join "." path ++
        " import " ++ Text.join ", " (names.map fun (n, as?) => renamed n as?)]
  | .importsAll level path =>
      [margin ++ "from " ++ String.ofList (List.replicate level '.') ++ Text.join "." path ++
        " import *"]
  | .define f params _ body decorators =>
      decoratorLines margin decorators ++
        (margin ++ "def " ++ f ++ "(" ++ Text.join ", " (paramSources params) ++ "):") ::
          linesBelow margin body
  | .classDef c bases body decorators =>
      decoratorLines margin decorators ++
        (margin ++ "class " ++ c ++
          (if bases.isEmpty then "" else "(" ++ Text.join ", " (sources bases) ++ ")") ++ ":") ::
          linesBelow margin body
  | .leaveLoop w => [margin ++ w]

/-- The lines of a block, four places behind the margin around it. -/
def linesBelow (margin : String) : List Stmt → List String
  | [] => [margin ++ "    pass"]
  | s :: rest => s.lines (margin ++ "    ") ++ linesAfter (margin ++ "    ") rest

/-- The lines of statements behind a margin. -/
def linesAfter (margin : String) : List Stmt → List String
  | [] => []
  | s :: rest => s.lines margin ++ linesAfter margin rest

/-- The lines of decorators. -/
def decoratorLines (margin : String) : List Expr → List String
  | [] => []
  | e :: es => (margin ++ "@" ++ e.source) :: decoratorLines margin es

/-- The texts of parameters. -/
def paramSources : List (String × Option Expr) → List String
  | [] => []
  | (p, none) :: rest => p :: paramSources rest
  | (p, some e) :: rest => (p ++ "=" ++ e.source) :: paramSources rest

end

/-- The source of a module. -/
def moduleSource (body : List Stmt) : String :=
  Text.join "\n" (linesAfter "" body ++ [""])

end FragmentWeaver.Script
