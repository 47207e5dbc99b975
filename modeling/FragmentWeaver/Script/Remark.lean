import FragmentWeaver.Script.Parser

/-!
# Remarks about a source

What is said about a source that can be compiled: that a backslash in a literal has no meaning, and
that something is written that cannot be meant, such as a call of a number or a check of a tuple.
Remarks about literals come first, and each kind in the order of the source.
-/

namespace FragmentWeaver.Script

/-- The kinds of remarks, by what they call in question. -/
inductive RemarkKind where
  /-- A way of writing that will go. -/
  | deprecation
  /-- Something that is well formed and makes no sense. -/
  | sense
  deriving DecidableEq, Repr, Inhabited

/-- The name of the class of warnings for a kind of remark. -/
def RemarkKind.name : RemarkKind → String
  | .deprecation => "DeprecationWarning"
  | .sense => "SyntaxWarning"

/-- A remark about a line of a source. -/
structure Remark where
  line : Nat
  kind : RemarkKind
  text : String
  deriving DecidableEq, Repr, Inhabited

namespace Remark

/-- The class of a literal. -/
def literalClass : Literal → String
  | .null => "NoneType"
  | .truth _ => "bool"
  | .ellipsis => "ellipsis"
  | .whole _ => "int"
  | .float _ => "float"
  | .imaginary _ => "complex"
  | .text _ | .loose _ => "str"
  | .bytes _ => "bytes"

/-- The class of the number that two numbers of given classes give. -/
def wider (a b : String) : Option String :=
  let order := ["bool", "int", "float", "complex"]
  if order.contains a && order.contains b then
    some (order.getD (max 1 (max (order.idxOf a) (order.idxOf b))) "int")
  else none

/-- The class of what an operator makes of two constants of given classes, if it makes something of
    them. -/
def combined (op : Operator) (a b : String) : Option String :=
  let isRow (c : String) : Bool := ["str", "bytes", "tuple"].contains c
  match op with
  | .add => if isRow a && a = b then some a else wider a b
  | .sub => wider a b
  | .mul =>
      if isRow a && (b = "int" || b = "bool") then some a
      else if isRow b && (a = "int" || a = "bool") then some b
      else wider a b
  | .div => wider a b >>= wider "float"
  | .union => none

mutual

/-- The class of a constant: an expression whose value is known before it is run. -/
def constantClass? : Expr → Option String
  | .literal l => some (literalClass l)
  | .tuple es => if allConstant es then some "tuple" else none
  | .negate e | .positive e => constantClass? e >>= wider "int"
  | .binary op l r => do
      combined op (← constantClass? l) (← constantClass? r)
  | .item (.literal (.text s)) (.literal (.whole i)) =>
      if -(s.length : Int) ≤ i && i < s.length then some "str" else none
  | .item (.literal (.loose ps)) (.literal (.whole i)) =>
      if -(ps.length : Int) ≤ i && i < ps.length then some "str" else none
  | .item (.literal (.bytes bs)) (.literal (.whole i)) =>
      if -(bs.length : Int) ≤ i && i < bs.length then some "int" else none
  | .item (.literal (.text s)) (.literal (.truth b)) =>
      if (if b then 1 else 0) < s.length then some "str" else none
  | .item (.literal (.loose ps)) (.literal (.truth b)) =>
      if (if b then 1 else 0) < ps.length then some "str" else none
  | .item (.literal (.bytes bs)) (.literal (.truth b)) =>
      if (if b then 1 else 0) < bs.length then some "int" else none
  | _ => none

/-- Are all expressions constants? -/
def allConstant : List Expr → Bool
  | [] => true
  | e :: es => (constantClass? e).isSome && allConstant es

end

/-- The class of an expression that can be seen without running it. -/
def classOf? : Expr → Option String
  | .tuple _ => some "tuple"
  | .list _ => some "list"
  | .set _ => some "set"
  | .dict _ => some "dict"
  | e => constantClass? e

/-- What stands behind every remark about something that makes no sense. -/
def commaAdvice : String := "; perhaps you missed a comma?"

/-- What is said when an expression is called. -/
def callRemark? (e : Expr) : Option String :=
  (classOf? e).map fun c => "'" ++ c ++ "' object is not callable" ++ commaAdvice

/-- What is said when an item of an expression is asked for. -/
def itemRemark? (e key : Expr) : Option String := do
  let c ← classOf? e
  if ["NoneType", "bool", "ellipsis", "int", "float", "complex", "set"].contains c then
    some ("'" ++ c ++ "' object is not subscriptable" ++ commaAdvice)
  else
    let k ← classOf? key
    if c = "dict" || k = "int" || k = "bool" then none
    else some (c ++ " indices must be integers or slices, not " ++ k ++ commaAdvice)

/-- What is said about the atom at the start of some tokens and what follows it. -/
def atomRemark? (ts : List Token) : Option String :=
  match Parser.atom Parser.anyExpr ts with
  | .ok (e, .sign "(" :: _) => callRemark? e
  | .ok (e, .sign "[" :: rest) =>
      match Parser.anyExprs rest with
      | .ok (key, .sign "]" :: _) => itemRemark? e key
      | _ => none
  | _ => none

/-- What is said about a check of the expression at the start of some tokens. -/
def checkRemark? (ts : List Token) : Option String :=
  match Parser.anyExpr ts with
  | .ok (.tuple (_ :: _), _) => some "assertion is always true, perhaps remove parentheses?"
  | _ => none

/-- May a token be the last one of an atom? -/
def endsAtom : Token → Bool
  | .literal _ => true
  | .name n => !Text.isKeyword n || n = "None" || n = "True" || n = "False"
  | .sign s => [")", "]", "\x7d", "..."].contains s
  | _ => false

/-- Remarks about what makes no sense; `afterAtom` says that an atom ends before the first token. -/
def ofSense : Bool → List Lexeme → List Remark
  | _, [] => []
  | afterAtom, l :: rest =>
      let following := rest.map (·.token)
      let said? :=
        if l.token == .name "assert" then checkRemark? following
        else if !afterAtom && Parser.startsExpr [l.token] then atomRemark? (l.token :: following)
        else none
      (said?.map fun text => ⟨l.line, .sense, text⟩).toList ++ ofSense (endsAtom l.token) rest

/-- The remarks about a source, from its tokens. -/
def ofLexemes (ls : List Lexeme) : List Remark :=
  (ls.filterMap fun l => l.strange.map fun c =>
    ⟨l.line, .deprecation, "invalid escape sequence '\\" ++ String.singleton c ++ "'"⟩) ++
    ofSense false ls

end Remark

end FragmentWeaver.Script
