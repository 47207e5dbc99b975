import FragmentWeaver.Script.Parser
import FragmentWeaver.Text.Split

/-!
# References by text

A text that stands for a type is a reference to something that is named later: any expression of the
whole language will do, although only a part of the language can be run here. A recognizer takes an
expression off the front of the tokens and says nothing about its meaning; what it refuses is no
expression.
-/

namespace FragmentWeaver.Script.Reference

/-- Takes something off the front of the tokens, and says whether it can be assigned to. -/
abbrev Recognizer := List Token → Option (Bool × List Token)

/-- One given sign. -/
def sign (s : String) (ts : List Token) : Option (List Token) :=
  if Parser.nextIs s ts then some (ts.drop 1) else none

/-- One given word. -/
def word (w : String) (ts : List Token) : Option (List Token) :=
  if Parser.nextWord w ts then some (ts.drop 1) else none

/-- A name that is no reserved word. -/
def name? (ts : List Token) : Option (String × List Token) :=
  match Parser.name ts with
  | .ok r => some r
  | .error _ => none

/-- The signs between two operands of an operation. -/
def operationSigns : List String :=
  ["|", "^", "&", "<<", ">>", "+", "-", "*", "/", "//", "%", "@", "**"]

/-- The signs between two operands of a comparison. -/
def comparisonSigns : List String := ["<", ">", "==", ">=", "<=", "!="]

/-- The signs before an operand. -/
def leadingSigns : List String := ["+", "-", "~"]

/-- One of some signs. -/
def oneOf (signs : List String) : List Token → Option (List Token)
  | .sign s :: rest => if signs.contains s then some rest else none
  | _ => none

/-- What stands between the operands of a comparison. -/
def comparison : List Token → Option (List Token)
  | .name "in" :: rest => some rest
  | .name "not" :: .name "in" :: rest => some rest
  | .name "is" :: .name "not" :: rest => some rest
  | .name "is" :: rest => some rest
  | ts => oneOf comparisonSigns ts

/-- How an argument of a call is passed. -/
inductive Passing where
  | byPlace
  | spread
  | byName (name : String)
  | spreadNames
  deriving DecidableEq, Repr, Inhabited

/-- Can an argument follow the ones before it, the last one first? Names are given once, a plain
    argument comes before all named ones, and a spread one before all spread names. -/
def Passing.canFollow (before : List Passing) : Passing → Bool
  | .byPlace => before.all fun p => p = .byPlace || p = .spread
  | .spread => !before.contains .spreadNames
  | .byName n => n ≠ "__debug__" && !before.contains (.byName n)
  | .spreadNames => true

/-- How a parameter of a function without a name is declared. -/
inductive Parameter where
  | plain (name : String) (hasDefault : Bool)
  | placeEnd
  | rest (name : Option String)
  | restNames (name : String)
  deriving DecidableEq, Repr, Inhabited

/-- The name of a parameter. -/
def Parameter.name? : Parameter → Option String
  | .plain n _ | .restNames n => some n
  | .rest n => n
  | .placeEnd => none

/-- Can a parameter follow the ones before it, the last one first? -/
def Parameter.canFollow (before : List Parameter) (p : Parameter) : Bool :=
  let isRest : Parameter → Bool
    | .rest _ => true
    | _ => false
  let isLast : Parameter → Bool
    | .restNames _ => true
    | _ => false
  let hasDefault : Parameter → Bool
    | .plain _ d => d
    | _ => false
  let fresh := match p.name? with
    | some n => n ≠ "__debug__" && before.all fun q => q.name? ≠ some n
    | none => true
  fresh && !before.any isLast && match p with
    | .plain _ d => d || before.any isRest || !before.any hasDefault
    | .placeEnd => !before.isEmpty && !before.contains .placeEnd && !before.any isRest
    | .rest _ => !before.any isRest
    | .restNames _ => before.head? ≠ some (.rest none)

mutual

/-- An expression: a choice between two, a function without a name, or a chain of alternatives. -/
def expression : Nat → Recognizer
  | 0, _ => none
  | n + 1, ts =>
      if Parser.nextWord "lambda" ts then do
        let rest ← parameters n [] (ts.drop 1)
        let (_, rest) ← expression n rest
        some (false, rest)
      else do
        let (isTarget, rest) ← alternatives n ts
        if Parser.nextWord "if" rest then
          let (_, rest) ← alternatives n (rest.drop 1)
          let rest ← word "else" rest
          let (_, rest) ← expression n rest
          some (false, rest)
        else some (isTarget, rest)

/-- The parameters of a function without a name, up to the colon; `before` are those read so far,
    the last one first. -/
def parameters : Nat → List Parameter → List Token → Option (List Token)
  | 0, _, _ => none
  | n + 1, before, ts =>
      if Parser.nextIs ":" ts then
        if before.head? = some (.rest none) then none else sign ":" ts
      else do
        let (p, rest) ← match ts with
          | .sign "/" :: rest => some (Parameter.placeEnd, rest)
          | .sign "**" :: rest => (name? rest).map fun (x, rest) => (.restNames x, rest)
          | .sign "*" :: rest =>
              match name? rest with
              | some (x, rest) => some (.rest (some x), rest)
              | none => some (.rest none, rest)
          | ts => do
              let (x, rest) ← name? ts
              if Parser.nextIs "=" rest then
                let (_, rest) ← expression n (rest.drop 1)
                some (.plain x true, rest)
              else some (.plain x false, rest)
        if !p.canFollow before then none
        else if Parser.nextIs "," rest then parameters n (p :: before) (rest.drop 1)
        else if p = .rest none then none
        else sign ":" rest

/-- An expression that may be given a name on the way. -/
def named : Nat → Recognizer
  | 0, _ => none
  | n + 1, ts =>
      match ts with
      | .name x :: .sign ":=" :: rest =>
          if Text.isKeyword x || x = "__debug__" then none
          else (expression n rest).map fun (_, rest) => (false, rest)
      | ts => expression n ts

/-- Comparisons with words of logic before and between them. -/
def alternatives : Nat → Recognizer
  | 0, _ => none
  | n + 1, ts => do
      let (isTarget, rest) ← denial n ts
      if Parser.nextWord "or" rest || Parser.nextWord "and" rest then
        let (_, rest) ← alternatives n (rest.drop 1)
        some (false, rest)
      else some (isTarget, rest)

/-- A comparison, with words of denial before it. -/
def denial : Nat → Recognizer
  | 0, _ => none
  | n + 1, ts =>
      if Parser.nextWord "not" ts then (denial n (ts.drop 1)).map fun (_, rest) => (false, rest)
      else compared n ts

/-- Operands with comparisons between them. -/
def compared : Nat → Recognizer
  | 0, _ => none
  | n + 1, ts => do
      let (isTarget, rest) ← operation n ts
      match comparison rest with
      | some rest => (compared n rest).map fun (_, rest) => (false, rest)
      | none => some (isTarget, rest)

/-- Operands with operations between them. -/
def operation : Nat → Recognizer
  | 0, _ => none
  | n + 1, ts =>
      match oneOf leadingSigns ts with
      | some rest => (operation n rest).map fun (_, rest) => (false, rest)
      | none => do
          let (isTarget, rest) ← primary n ts
          match oneOf operationSigns rest with
          | some rest => (operation n rest).map fun (_, rest) => (false, rest)
          | none => some (isTarget, rest)

/-- An atom and what follows it directly. -/
def primary : Nat → Recognizer
  | 0, _ => none
  | n + 1, ts => do
      let (isTarget, rest) ← atom n ts
      trailers n isTarget rest

/-- Attributes, calls and items of what comes before. -/
def trailers : Nat → Bool → Recognizer
  | 0, _, _ => none
  | n + 1, isTarget, ts =>
      match ts with
      | .sign "." :: rest => do
          let (_, rest) ← name? rest
          trailers n true rest
      | .sign "(" :: rest => do
          let rest ← arguments n [] rest
          trailers n false rest
      | .sign "[" :: rest => do
          let rest ← slices n rest
          trailers n true rest
      | ts => some (isTarget, ts)

/-- A name, a literal, or something in brackets. -/
def atom : Nat → Recognizer
  | 0, _ => none
  | n + 1, ts =>
      match ts with
      | .literal l :: rest =>
          match Parser.joinLiterals l rest with
          | .ok (_, rest) => some (false, rest)
          | .error _ => none
      | .name x :: rest =>
          if ["None", "True", "False"].contains x then some (false, rest)
          else if Text.isKeyword x then none
          else some (true, rest)
      | .sign "..." :: rest => some (false, rest)
      | .sign "(" :: rest =>
          if Parser.nextIs ")" rest then some (true, rest.drop 1) else group n false ")" rest
      | .sign "[" :: rest =>
          if Parser.nextIs "]" rest then some (true, rest.drop 1) else group n true "]" rest
      | .sign "\x7b" :: rest =>
          if Parser.nextIs "\x7d" rest then some (false, rest.drop 1)
          else (braces n rest).map fun rest => (false, rest)
      | _ => none

/-- What stands in round or square brackets, and the bracket that closes them. A spread item stands
    alone only where that is allowed. -/
def group : Nat → Bool → String → Recognizer
  | 0, _, _, _ => none
  | n + 1, aloneAllowed, closer, ts => do
      let (isTarget, rest) ← item n ts
      if Parser.nextIs "," rest then items n isTarget closer (rest.drop 1)
      else if Parser.nextIs "*" ts then
        if aloneAllowed then (sign closer rest).map fun rest => (isTarget, rest) else none
      else if Parser.nextWord "for" rest then
        let rest ← clauses n rest
        (sign closer rest).map fun rest => (false, rest)
      else (sign closer rest).map fun rest => (isTarget, rest)

/-- Further items up to a closing bracket; `sofar` says that those before them can be assigned
    to. -/
def items : Nat → Bool → String → Recognizer
  | 0, _, _, _ => none
  | n + 1, sofar, closer, ts =>
      if Parser.nextIs closer ts then some (sofar, ts.drop 1)
      else do
        let (isTarget, rest) ← item n ts
        if Parser.nextIs "," rest then items n (sofar && isTarget) closer (rest.drop 1)
        else (sign closer rest).map fun rest => (sofar && isTarget, rest)

/-- An item that may be spread. -/
def item : Nat → Recognizer
  | 0, _ => none
  | n + 1, ts =>
      match ts with
      | .sign "*" :: rest => operation n rest
      | ts => named n ts

/-- What stands in braces, and the brace that closes them: entries, items, or clauses over one of
    them. -/
def braces : Nat → List Token → Option (List Token)
  | 0, _ => none
  | n + 1, ts =>
      if Parser.nextIs "**" ts then entries n ts
      else do
        let (_, rest) ← item n ts
        if Parser.nextIs "*" ts || !Parser.nextIs ":" rest then
          if Parser.nextIs "," rest then (items n false "\x7d" (rest.drop 1)).map Prod.snd
          else if Parser.nextWord "for" rest && !Parser.nextIs "*" ts then
            let rest ← clauses n rest
            sign "\x7d" rest
          else sign "\x7d" rest
        else
          let (_, rest) ← expression n (rest.drop 1)
          if Parser.nextIs "," rest then entries n (rest.drop 1)
          else if Parser.nextWord "for" rest then
            let rest ← clauses n rest
            sign "\x7d" rest
          else sign "\x7d" rest

/-- Entries up to the closing brace. -/
def entries : Nat → List Token → Option (List Token)
  | 0, _ => none
  | n + 1, ts =>
      if Parser.nextIs "\x7d" ts then some (ts.drop 1)
      else do
        let (_, rest) ← match ts with
          | .sign "**" :: rest => operation n rest
          | ts => do
              let (_, rest) ← expression n ts
              let rest ← sign ":" rest
              expression n rest
        if Parser.nextIs "," rest then entries n (rest.drop 1) else sign "\x7d" rest

/-- The clauses of a comprehension. What a clause runs through gives no names on the way. -/
def clauses : Nat → List Token → Option (List Token)
  | 0, _ => none
  | n + 1, ts => do
      let rest ← word "for" ts
      let rest ← targets n rest
      let rest ← word "in" rest
      let (_, after) ← alternatives n rest
      if (rest.take (rest.length - after.length)).contains (.sign ":=") then none
      let rest ← conditions n after
      if Parser.nextWord "for" rest then clauses n rest else some rest

/-- The conditions of a clause. -/
def conditions : Nat → List Token → Option (List Token)
  | 0, _ => none
  | n + 1, ts =>
      if Parser.nextWord "if" ts then do
        let (_, rest) ← alternatives n (ts.drop 1)
        conditions n rest
      else some ts

/-- Targets with commas between them, up to the word after them. A target that takes what is left
    over does not stand alone. -/
def targets : Nat → List Token → Option (List Token)
  | 0, _ => none
  | n + 1, ts => do
      let isSpread := Parser.nextIs "*" ts
      let (isTarget, rest) ← primary n (if isSpread then ts.drop 1 else ts)
      if !isTarget then none
      else if Parser.nextIs "," rest then
        if Parser.nextWord "in" (rest.drop 1) then some (rest.drop 1)
        else moreTargets n (rest.drop 1)
      else if isSpread then none
      else some rest

/-- Targets after the first one, up to the word after them. -/
def moreTargets : Nat → List Token → Option (List Token)
  | 0, _ => none
  | n + 1, ts => do
      let (isTarget, rest) ← primary n (if Parser.nextIs "*" ts then ts.drop 1 else ts)
      if !isTarget then none
      else if Parser.nextIs "," rest then
        if Parser.nextWord "in" (rest.drop 1) then some (rest.drop 1)
        else moreTargets n (rest.drop 1)
      else some rest

/-- The arguments of a call, up to the closing bracket; `before` are those read so far, the last one
    first. -/
def arguments : Nat → List Passing → List Token → Option (List Token)
  | 0, _, _ => none
  | n + 1, before, ts =>
      if Parser.nextIs ")" ts then some (ts.drop 1)
      else do
        let (passing, rest) ← match ts with
          | .sign "*" :: rest => (expression n rest).map fun (_, rest) => (Passing.spread, rest)
          | .sign "**" :: rest => (expression n rest).map fun (_, rest) => (.spreadNames, rest)
          | .name x :: .sign "=" :: rest =>
              if Text.isKeyword x then none
              else (expression n rest).map fun (_, rest) => (.byName x, rest)
          | ts => do
              let (_, rest) ← named n ts
              if Parser.nextWord "for" rest then
                let rest ← clauses n rest
                if before.isEmpty && Parser.nextIs ")" rest then some (.byPlace, rest) else none
              else some (.byPlace, rest)
        if !passing.canFollow before then none
        else if Parser.nextIs "," rest then arguments n (passing :: before) (rest.drop 1)
        else sign ")" rest

/-- The keys of an item, up to the closing bracket. -/
def slices : Nat → List Token → Option (List Token)
  | 0, _ => none
  | n + 1, ts => do
      let rest ← slice n ts
      if Parser.nextIs "," rest then
        if Parser.nextIs "]" (rest.drop 1) then some (rest.drop 2) else slices n (rest.drop 1)
      else sign "]" rest

/-- A key, or the bounds of a stretch with colons between them. -/
def slice : Nat → List Token → Option (List Token)
  | 0, _ => none
  | n + 1, ts => do
      let (_, rest) ←
        if Parser.nextIs ":" ts then some (false, ts)
        else if Parser.nextIs "*" ts then expression n (ts.drop 1)
        else named n ts
      if Parser.nextIs ":" rest && !Parser.nextIs "*" ts then
        let rest ← bound n (rest.drop 1)
        if Parser.nextIs ":" rest then bound n (rest.drop 1) else some rest
      else some rest

/-- A bound of a stretch, which may be left out. -/
def bound : Nat → List Token → Option (List Token)
  | 0, _ => none
  | n + 1, ts =>
      if Parser.nextIs ":" ts || Parser.nextIs "," ts || Parser.nextIs "]" ts then some ts
      else (expression n ts).map Prod.snd

end

/-- How deep the recognizers of an expression call each other for every token of it. -/
def depthPerToken : Nat := 16

/-- Expressions with commas between them and nothing after them. -/
def areExpressions : Nat → List Token → Bool
  | 0, _ => false
  | n + 1, ts =>
      match expression (depthPerToken * (ts.length + 1)) ts with
      | some (_, [.newline, .done]) => true
      | some (_, .sign "," :: rest) =>
          rest == [.newline, .done] || areExpressions n rest
      | _ => false

/-- Is a text one expression, or several with commas between them? It starts without a blank. A
    spread item at its start is taken for the only item of a tuple. -/
def isExpression (s : String) : Bool :=
  let whole := if Text.beginsWith "*" s then "(" ++ s ++ ",)[0]" else s
  let ts := Token.ofSource Number.digitMaximum whole
  !s.toList.contains strayMark && areExpressions ts.length ts

end FragmentWeaver.Script.Reference
