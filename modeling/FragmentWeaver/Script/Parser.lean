import FragmentWeaver.Script.Token
import FragmentWeaver.Text.Composed

/-!
# Reading a source

Statements and expressions are read from tokens from left to right. What cannot be read is a fault
of the token at which reading stops: a change of the margin in the wrong place is a fault of the
margin, everything else is malformed.
-/

namespace FragmentWeaver.Script.Parser

/-- Reads something from the start of the tokens. -/
abbrev Reader (α : Type) := List Token → Except SourceFault (α × List Token)

/-- The fault of stopping at the first token. -/
def faultAt : List Token → SourceFault
  | .bad f :: _ => f
  | .indent :: _ | .dedent :: _ => .badIndentation
  | _ => .malformed

/-- Stop here. -/
def refuse {α : Type} : Reader α :=
  fun ts => .error (faultAt ts)

/-- Read one given sign. -/
def sign (s : String) : Reader Unit := fun ts =>
  match ts with
  | .sign t :: rest => if t = s then .ok ((), rest) else refuse ts
  | ts => refuse ts

/-- Read one given word. -/
def word (w : String) : Reader Unit := fun ts =>
  match ts with
  | .name t :: rest => if t = w then .ok ((), rest) else refuse ts
  | ts => refuse ts

/-- Does a given sign come next? -/
def nextIs (s : String) : List Token → Bool
  | .sign t :: _ => t = s
  | _ => false

/-- Does a given word come next? -/
def nextWord (w : String) : List Token → Bool
  | .name t :: _ => t = w
  | _ => false

/-- Read a name that is no reserved word. Reserved words are taken as they are spelled, names in
    their composed form. -/
def name : Reader String := fun ts =>
  match ts with
  | .name n :: rest => if Text.isKeyword n then refuse ts else .ok (Text.composed n, rest)
  | ts => refuse ts

/-- Can an expression start here? -/
def startsExpr : List Token → Bool
  | .literal _ :: _ => true
  | .name n :: _ => !Text.isKeyword n || n = "None" || n = "True" || n = "False"
  | .sign s :: _ => ["(", "[", "\x7b", "+", "-", "..."].contains s
  | _ => false

/-- Read operands with operators of one rank between them, from the left; at most so many. -/
def chain (operand : Reader Expr) (ops : List (String × Operator)) :
    Nat → Expr → Reader Expr
  | 0, left, ts => .ok (left, ts)
  | n + 1, left, ts =>
      match ts with
      | .sign s :: rest =>
          match ops.find? fun (t, _) => t == s with
          | some (_, op) => do
              let (right, rest) ← operand rest
              chain operand ops n (.binary op left right) rest
          | none => .ok (left, ts)
      | ts => .ok (left, ts)

/-- Read things with commas between them until no more can start: the things, and whether the last
    comma stands after all of them. -/
def commaList (item : Reader Expr) : Nat → Reader (List Expr × Bool)
  | 0, ts => refuse ts
  | n + 1, ts => do
      let (e, rest) ← item ts
      if nextIs "," rest then
        let rest := rest.drop 1
        if startsExpr rest then
          let ((es, trailing), rest) ← commaList item n rest
          .ok ((e :: es, trailing), rest)
        else .ok (([e], true), rest)
      else .ok (([e], false), rest)

/-- Read an expression or, where commas follow, a tuple without brackets. -/
def openTuple (item : Reader Expr) : Reader Expr := fun ts => do
  let ((es, trailing), rest) ← commaList item ts.length ts
  match es, trailing with
  | [e], false => .ok (e, rest)
  | es, _ => .ok (.tuple es, rest)

/-- Read entries of a dictionary with commas between them up to the closing brace. -/
def entryList (item : Reader Expr) : Nat → Reader (List (Expr × Expr))
  | 0, ts => refuse ts
  | n + 1, ts =>
      if nextIs "\x7d" ts then .ok ([], ts.drop 1)
      else do
        let (k, rest) ← item ts
        let ((), rest) ← sign ":" rest
        let (v, rest) ← item rest
        if nextIs "," rest then
          let (more, rest) ← entryList item n (rest.drop 1)
          .ok ((k, v) :: more, rest)
        else
          let ((), rest) ← sign "\x7d" rest
          .ok ([(k, v)], rest)

/-- Literals side by side are one literal; texts and bytes do not mix. -/
def joinLiterals : Literal → List Token → Except SourceFault (Literal × List Token)
  | .text a, .literal (.text b) :: rest => joinLiterals (.text (a ++ b)) rest
  | .text a, .literal (.loose b) :: rest => joinLiterals (.loose (Text.pointsOf a ++ b)) rest
  | .loose a, .literal (.text b) :: rest => joinLiterals (.loose (a ++ Text.pointsOf b)) rest
  | .loose a, .literal (.loose b) :: rest => joinLiterals (.loose (a ++ b)) rest
  | .bytes a, .literal (.bytes b) :: rest => joinLiterals (.bytes (a ++ b)) rest
  | .text _, .literal (.bytes b) :: rest | .loose _, .literal (.bytes b) :: rest =>
      refuse (.literal (.bytes b) :: rest)
  | .bytes _, .literal (.text b) :: rest => refuse (.literal (.text b) :: rest)
  | .bytes _, .literal (.loose b) :: rest => refuse (.literal (.loose b) :: rest)
  | l, ts => .ok (l, ts)

/-- Read an atom, given a reader for what stands in brackets. -/
def atom (inner : Reader Expr) : Reader Expr := fun ts =>
  match ts with
  | .literal l :: rest => do
      let (l, rest) ← joinLiterals l rest
      .ok (.literal l, rest)
  | .name "None" :: rest => .ok (.literal .null, rest)
  | .name "True" :: rest => .ok (.literal (.truth true), rest)
  | .name "False" :: rest => .ok (.literal (.truth false), rest)
  | .name n :: rest => if Text.isKeyword n then refuse ts else .ok (.name (Text.composed n), rest)
  | .sign "..." :: rest => .ok (.literal .ellipsis, rest)
  | .sign "(" :: rest =>
      if nextIs ")" rest then .ok (.tuple [], rest.drop 1)
      else do
        let (e, rest) ← openTuple inner rest
        let ((), rest) ← sign ")" rest
        .ok (e, rest)
  | .sign "[" :: rest =>
      if nextIs "]" rest then .ok (.list [], rest.drop 1)
      else do
        let ((es, _), rest) ← commaList inner rest.length rest
        let ((), rest) ← sign "]" rest
        .ok (.list es, rest)
  | .sign "\x7b" :: rest =>
      if nextIs "\x7d" rest then .ok (.dict [], rest.drop 1)
      else do
        let (first, after) ← inner rest
        if nextIs ":" after then
          let (entries, rest) ← entryList inner rest.length rest
          .ok (.dict entries, rest)
        else if nextIs "," after || nextIs "\x7d" after then
          let ((es, _), rest) ← commaList inner rest.length rest
          let ((), rest) ← sign "\x7d" rest
          .ok (.set es, rest)
        else
          let _ := first
          refuse after
  | ts => refuse ts

/-- Read what follows an atom: attributes, calls and items; at most so many. -/
def trailers (inner : Reader Expr) : Nat → Expr → Reader Expr
  | 0, e, ts => .ok (e, ts)
  | n + 1, e, ts =>
      match ts with
      | .sign "." :: rest => do
          let (member, rest) ← name rest
          trailers inner n (.attribute e member) rest
      | .sign "(" :: rest =>
          if nextIs ")" rest then trailers inner n (.call e []) (rest.drop 1)
          else do
            let ((args, _), rest) ← commaList inner rest.length rest
            let ((), rest) ← sign ")" rest
            trailers inner n (.call e args) rest
      | .sign "[" :: rest => do
          let (key, rest) ← openTuple inner rest
          let ((), rest) ← sign "]" rest
          trailers inner n (.item e key) rest
      | ts => .ok (e, ts)

mutual

/-- Read an expression; brackets and signs may be nested to a given depth. -/
def expr : Nat → Reader Expr
  | 0, ts => refuse ts
  | depth + 1, ts => do
      let product : Reader Expr := fun ts => do
        let (left, rest) ← factor depth ts
        chain (factor depth) [("*", .mul), ("/", .div)] rest.length left rest
      let sum : Reader Expr := fun ts => do
        let (left, rest) ← product ts
        chain product [("+", .add), ("-", .sub)] rest.length left rest
      let (left, rest) ← sum ts
      chain sum [("|", .union)] rest.length left rest

/-- Read an operand with the signs before it. -/
def factor : Nat → Reader Expr
  | 0, ts => refuse ts
  | depth + 1, ts =>
      match ts with
      | .sign "-" :: rest => do
          let (e, rest) ← factor depth rest
          .ok (.negate e, rest)
      | .sign "+" :: rest => do
          let (e, rest) ← factor depth rest
          .ok (.positive e, rest)
      | ts => do
          let (e, rest) ← atom (expr depth) ts
          trailers (expr depth) rest.length e rest

end

/-- Read an expression. -/
def anyExpr : Reader Expr := fun ts => expr (2 * ts.length + 2) ts

/-- Read an expression or a tuple without brackets. -/
def anyExprs : Reader Expr := openTuple anyExpr

/-- Can the expression be assigned to? -/
def isTarget : Expr → Bool
  | .name _ | .attribute _ _ | .item _ _ => true
  | .tuple es => targets es
  | .list es => targets es
  | _ => false
where
  /-- Can all the expressions be assigned to? -/
  targets : List Expr → Bool
    | [] => true
    | e :: es => isTarget e && targets es

/-- Can the expression be declared? -/
def isSingleTarget : Expr → Bool
  | .name _ | .attribute _ _ | .item _ _ => true
  | _ => false

/-- Read what is assigned after the targets so far; at most so many targets more. -/
def assignment : Nat → List Expr → Expr → Reader Stmt
  | 0, _, _, ts => refuse ts
  | n + 1, sofar, e, ts =>
      if nextIs "=" ts then
        if isTarget e then do
          let (value, rest) ← anyExprs (ts.drop 1)
          assignment n (sofar ++ [e]) value rest
        else .error .malformed
      else if sofar.isEmpty then .ok (.expr e, ts)
      else .ok (.assign sofar e, ts)

/-- Read a dotted name. -/
def dotted : Nat → Reader (List String)
  | 0, ts => refuse ts
  | n + 1, ts => do
      let (first, rest) ← name ts
      if nextIs "." rest then
        let (more, rest) ← dotted n (rest.drop 1)
        .ok (first :: more, rest)
      else .ok ([first], rest)

/-- Read a new name after its word, if there is one. -/
def asName : Reader (Option String) := fun ts =>
  if nextWord "as" ts then do
    let (n, rest) ← name (ts.drop 1)
    .ok (some n, rest)
  else .ok (none, ts)

/-- Read the modules of an import. -/
def importItems : Nat → Reader (List ImportItem)
  | 0, ts => refuse ts
  | n + 1, ts => do
      let (path, rest) ← dotted ts.length ts
      let (as?, rest) ← asName rest
      if nextIs "," rest then
        let (more, rest) ← importItems n (rest.drop 1)
        .ok (⟨path, as?⟩ :: more, rest)
      else .ok ([⟨path, as?⟩], rest)

/-- Read the names of an import; in brackets a comma may stand after the last one. -/
def importNames (bracketed : Bool) : Nat → Reader (List (String × Option String))
  | 0, ts => refuse ts
  | n + 1, ts => do
      let (first, rest) ← name ts
      let (as?, rest) ← asName rest
      if nextIs "," rest then
        if bracketed && nextIs ")" (rest.drop 1) then .ok ([(first, as?)], rest.drop 1)
        else
          let (more, rest) ← importNames bracketed n (rest.drop 1)
          .ok ((first, as?) :: more, rest)
      else .ok ([(first, as?)], rest)

/-- Count the dots before a module. -/
def dots : List Token → Nat × List Token
  | .sign "." :: rest => let (n, rest) := dots rest; (n + 1, rest)
  | .sign "..." :: rest => let (n, rest) := dots rest; (n + 3, rest)
  | ts => (0, ts)

/-- Read an import from a module, after its first word. -/
def importFrom : Reader Stmt := fun ts => do
  let (level, rest) := dots ts
  let (path, rest) ←
    if 0 < level && nextWord "import" rest then .ok ([], rest) else dotted rest.length rest
  let ((), rest) ← word "import" rest
  if nextIs "*" rest then .ok (.importsAll level path, rest.drop 1)
  else if nextIs "(" rest then
    let (names, rest) ← importNames true rest.length (rest.drop 1)
    let ((), rest) ← sign ")" rest
    .ok (.importsFrom level path names, rest)
  else
    let (names, rest) ← importNames false rest.length rest
    .ok (.importsFrom level path names, rest)

/-- Read the targets of a deletion as one. -/
def deletion : Reader Stmt := fun ts => do
  let (target, rest) ← anyExprs ts
  if isTarget target then .ok (.delete target, rest) else .error .malformed

/-- Read a statement that fits in a line. -/
def simple : Reader Stmt := fun ts =>
  match ts with
  | .name "pass" :: rest => .ok (.pass, rest)
  | .name "break" :: rest => .ok (.leaveLoop "break", rest)
  | .name "continue" :: rest => .ok (.leaveLoop "continue", rest)
  | .name "return" :: rest =>
      if startsExpr rest then do
        let (e, rest) ← anyExprs rest
        .ok (.give (some e), rest)
      else .ok (.give none, rest)
  | .name "raise" :: rest =>
      if startsExpr rest then do
        let (e, rest) ← anyExpr rest
        if nextWord "from" rest then
          let (_, rest) ← anyExpr (rest.drop 1)
          .ok (.throw (some e), rest)
        else .ok (.throw (some e), rest)
      else .ok (.throw none, rest)
  | .name "assert" :: rest => do
      let (test, rest) ← anyExpr rest
      if nextIs "," rest then
        let (message, rest) ← anyExpr (rest.drop 1)
        .ok (.check test (some message), rest)
      else .ok (.check test none, rest)
  | .name "del" :: rest => deletion rest
  | .name "import" :: rest => do
      let (items, rest) ← importItems rest.length rest
      .ok (.imports items, rest)
  | .name "from" :: rest => importFrom rest
  | ts => do
      let (e, rest) ← anyExprs ts
      if nextIs ":" rest then
        if isSingleTarget e then
          let (declared, rest) ← anyExpr (rest.drop 1)
          if nextIs "=" rest then
            let (value, rest) ← anyExprs (rest.drop 1)
            .ok (.annotate e declared (some value), rest)
          else .ok (.annotate e declared none, rest)
        else .error .malformed
      else assignment (rest.length + 1) [] e rest

/-- Read the statements of one line. -/
def line : Nat → Reader (List Stmt)
  | 0, ts => refuse ts
  | n + 1, ts => do
      let (s, rest) ← simple ts
      match rest with
      | .newline :: rest => .ok ([s], rest)
      | .sign ";" :: .newline :: rest => .ok ([s], rest)
      | .sign ";" :: rest => do
          let (more, rest) ← line n rest
          .ok (s :: more, rest)
      | rest => refuse rest

/-- Read what stands behind a sign, if the sign is there. -/
def behind (mark : String) : Reader (Option Expr) := fun ts =>
  if nextIs mark ts then (anyExpr (ts.drop 1)).map fun (e, ts) => (some e, ts)
  else .ok (none, ts)

/-- Read parameters up to the closing bracket, with what is declared about them. -/
def params : Nat → Reader (List (String × Option Expr) × List (String × Expr))
  | 0, ts => refuse ts
  | n + 1, ts =>
      if nextIs ")" ts then .ok (([], []), ts.drop 1)
      else do
        let (p, rest) ← name ts
        let (declared, rest) ← behind ":" rest
        let (value, rest) ← behind "=" rest
        let notes := (declared.map fun e => (p, e)).toList
        if nextIs "," rest then
          let ((more, others), rest) ← params n (rest.drop 1)
          .ok (((p, value) :: more, notes ++ others), rest)
        else
          let ((), rest) ← sign ")" rest
          .ok (([(p, value)], notes), rest)

/-- Read the bases of a class, if brackets are there. -/
def bases : Reader (List Expr) := fun ts =>
  if nextIs "(" ts then
    if nextIs ")" (ts.drop 1) then .ok ([], ts.drop 2)
    else do
      let ((es, _), rest) ← commaList anyExpr ts.length (ts.drop 1)
      let ((), rest) ← sign ")" rest
      .ok (es, rest)
  else .ok ([], ts)

/-- Read decorators, a line each. -/
def decorators : Nat → Reader (List Expr)
  | 0, ts => refuse ts
  | n + 1, ts =>
      if nextIs "@" ts then do
        let (e, rest) ← anyExpr (ts.drop 1)
        match rest with
        | .newline :: rest =>
            let (more, rest) ← decorators n rest
            .ok (e :: more, rest)
        | rest => refuse rest
      else .ok ([], ts)

/-- The fault of a block that is missing before the rest of the tokens: something further on that is
    no token at all is found first. -/
def missingBlock (rest : List Token) : SourceFault :=
  if rest.getLast? = some (.bad .malformed) then .malformed else .badIndentation

mutual

/-- Read a block: a line of statements, or an inner margin with statements below each other. -/
def block : Nat → Reader (List Stmt)
  | 0, ts => refuse ts
  | n + 1, ts => do
      let ((), rest) ← sign ":" ts
      match rest with
      | .newline :: .indent :: rest => statements n rest
      | .newline :: .bad f :: _ => .error f
      | .newline :: .unfinished :: _ => .error .malformed
      | .newline :: rest => .error (missingBlock rest)
      | rest => line rest.length rest

/-- Read statements up to the end of their margin. -/
def statements : Nat → Reader (List Stmt)
  | 0, ts => refuse ts
  | n + 1, ts => do
      let (first, rest) ← statement n ts
      match rest with
      | .dedent :: rest => .ok (first, rest)
      | rest => do
          let (more, rest) ← statements n rest
          .ok (first ++ more, rest)

/-- Read one statement, or a line of them. -/
def statement : Nat → Reader (List Stmt)
  | 0, ts => refuse ts
  | n + 1, ts =>
      match ts with
      | .name "if" :: rest => do
          let (s, rest) ← branch n rest
          .ok ([s], rest)
      | .name "def" :: _ | .name "class" :: _ | .sign "@" :: _ => do
          let (ds, rest) ← decorators ts.length ts
          match rest with
          | .name "def" :: rest =>
              let (f, rest) ← name rest
              let ((), rest) ← sign "(" rest
              let ((ps, notes), rest) ← params rest.length rest
              let (given, rest) ← behind "->" rest
              let (body, rest) ← block n rest
              let notes := notes ++ (given.map fun e => ("return", e)).toList
              .ok ([.define f ps notes body ds], rest)
          | .name "class" :: rest =>
              let (c, rest) ← name rest
              let (bs, rest) ← bases rest
              let (body, rest) ← block n rest
              .ok ([.classDef c bs body ds], rest)
          | rest => refuse rest
      | ts => line ts.length ts

/-- Read a branch after its first word. -/
def branch : Nat → Reader Stmt
  | 0, ts => refuse ts
  | n + 1, ts => do
      let (test, rest) ← anyExpr ts
      let (yes, rest) ← block n rest
      match rest with
      | .name "elif" :: rest =>
          let (no, rest) ← branch n rest
          .ok (.branch test yes [no], rest)
      | .name "else" :: rest =>
          let (no, rest) ← block n rest
          .ok (.branch test yes no, rest)
      | rest => .ok (.branch test yes [], rest)

end

/-- Read statements up to the end of the source; at most so many. -/
def module : Nat → List Token → Except SourceFault (List Stmt)
  | _, [.done] => .ok []
  | 0, ts => .error (faultAt ts)
  | n + 1, ts => do
      let (first, rest) ← statement (2 * ts.length + 2) ts
      let more ← module n rest
      .ok (first ++ more)

/-- Read a whole source, from its tokens. -/
def parse (ts : List Token) : Except SourceFault (List Stmt) :=
  module ts.length ts

end FragmentWeaver.Script.Parser
