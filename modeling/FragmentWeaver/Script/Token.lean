import FragmentWeaver.Number.Based
import FragmentWeaver.Script.SourceText
import FragmentWeaver.Script.Term
import FragmentWeaver.Text.Decoding
import FragmentWeaver.Text.Identifier
import FragmentWeaver.Text.Quoted

/-!
# Tokens of a source

A source is read into tokens: names, literals, signs, the ends of lines, and the changes of the
margin. Reading stops at the first thing that is no token; the fault stands in its place, so that
whoever reads the tokens meets faults in the order of the source. A literal with a malformed inside
is a token all the same, which nothing can be made of.
-/

namespace FragmentWeaver.Script

/-- Why a source is refused. -/
inductive SourceFault where
  | malformed | badIndentation | mixedTabs
  deriving DecidableEq, Repr, Inhabited

/-- The word for the kind of a fault. -/
def SourceFault.name : SourceFault → String
  | .malformed => "SyntaxError"
  | .badIndentation => "IndentationError"
  | .mixedTabs => "TabError"

/-- A token. -/
inductive Token where
  | name (s : String)
  | literal (l : Literal)
  | sign (s : String)
  | newline
  | indent
  | dedent
  | done
  /-- A literal whose inside is malformed. -/
  | broken
  | bad (f : SourceFault)
  /-- The source ends inside brackets, or a line is to be joined where it cannot be. -/
  | unfinished
  deriving DecidableEq, Repr, Inhabited

namespace Token

/-- The signs of two or more characters, the longer ones first. -/
def longSigns : List String := [
  "...", "**=", "//=", "<<=", ">>=", "**", "//", "<<", ">>", "->", ":=", "==", "!=", "<=", ">=",
  "+=", "-=", "*=", "/=", "%=", "&=", "|=", "^=", "@="]

/-- The signs of one character; the last ones mean nothing. -/
def shortSigns : List Char := "()[]\x7b\x7d:,;.+-*/%@&|^~<>=$?!\x60".toList

/-- The sign at the start of a text, and what follows it. -/
def sign? (cs : List Char) : Option (String × List Char) :=
  match longSigns.find? fun s => s.toList.isPrefixOf cs with
  | some s => some (s, cs.drop s.length)
  | none =>
      match cs with
      | c :: rest => if shortSigns.contains c then some (String.singleton c, rest) else none
      | [] => none

/-- Digits with single underscores between them: the digits, and what follows. An underscore without
    a digit after it is a fault. -/
def digitsWith (isDigit : Char → Bool) : List Char → Option (List Char × List Char)
  | [] => some ([], [])
  | '_' :: c :: rest =>
      if isDigit c then (digitsWith isDigit rest).map fun (ds, rest) => (c :: ds, rest) else none
  | ['_'] => none
  | c :: rest =>
      if isDigit c then (digitsWith isDigit rest).map fun (ds, rest) => (c :: ds, rest)
      else some ([], c :: rest)

/-- The value of digits to a base. -/
def valueOf (base : Nat) (digits : List Char) : Nat :=
  digits.foldl (fun n c => base * n + (Text.hexValue? c).getD 0) 0

/-- Is the character a digit to a base? -/
def isDigitOf (base : Nat) (c : Char) : Bool :=
  match Text.hexValue? c with
  | some n => n < base
  | none => false

/-- Is the character a plain decimal digit? -/
def isDecimal (c : Char) : Bool := isDigitOf 10 c

/-- The exponent of a number, as written, and what follows. A letter without digits after it is a
    fault. -/
def exponent? (cs : List Char) : Option (List Char × List Char) :=
  match cs with
  | c :: rest =>
      if c = 'e' || c = 'E' then
        let (mark, rest) := match rest with
          | '-' :: rest => (['e', '-'], rest)
          | '+' :: rest => (['e'], rest)
          | rest => (['e'], rest)
        match digitsWith isDecimal rest with
        | some ([], _) | none => none
        | some (ds, rest) => some (mark ++ ds, rest)
      else some ([], c :: rest)
  | [] => some ([], [])

/-- A decimal number, and what follows. One with more than `digits` digits is malformed, unless that
    is zero. -/
def decimal? (digits : Nat) (cs : List Char) : Option (Token × List Char) := do
  let (whole, rest) ← digitsWith isDecimal cs
  let (pointed, part, rest) ← match rest with
    | '.' :: rest => do
        match rest with
        | '_' :: _ => none
        | rest =>
            let (part, rest) ← digitsWith isDecimal rest
            some (true, part, rest)
    | rest => some (false, [], rest)
  let (power, rest) ← exponent? rest
  let isWhole := !pointed && power.isEmpty
  let written := whole ++ (if pointed then '.' :: part else []) ++ power
  let float := match Number.readNumber false written with
    | some (x, _) => x
    | none => .undefined
  match rest with
  | 'j' :: rest | 'J' :: rest => some (.literal (.imaginary float), rest)
  | rest =>
      if isWhole then
        if whole.head? = some '0' && whole.any (· ≠ '0') then none
        else if digits ≠ 0 && digits < whole.length then some (.broken, rest)
        else some (.literal (.whole (valueOf 10 whole)), rest)
      else some (.literal (.float float), rest)

/-- The openings of the words that may follow a number directly. -/
def wordsAfterNumber : List String := ["and", "else", "for", "if", "in", "is", "not", "or"]

/-- A number, and what follows; no name may follow it directly, only some words. -/
def number? (digits : Nat) (cs : List Char) : Option (Token × List Char) := do
  let (t, rest) ← match cs with
    | '0' :: c :: rest =>
        match Number.letterBase? c with
        | some base =>
            let rest := match rest with
              | '_' :: rest => rest
              | rest => rest
            match digitsWith (isDigitOf base) rest with
            | some ([], _) | none => none
            | some (ds, rest) => some (.literal (.whole (valueOf base ds)), rest)
        | none => decimal? digits cs
    | cs => decimal? digits cs
  match rest with
  | c :: _ =>
      if Text.isNameRest c && !wordsAfterNumber.any (·.toList.isPrefixOf rest) then none
      else some (t, rest)
  | [] => some (t, rest)

/-- Does a number start here? -/
def startsNumber : List Char → Bool
  | '.' :: c :: _ => isDecimal c
  | c :: _ => isDecimal c
  | [] => false

/-- The inside of a literal up to its closing mark, and what follows. -/
def inside? (mark : Char) : List Char → Option (List Char × List Char)
  | [] => none
  | '\\' :: c :: rest => (inside? mark rest).map fun (body, rest) => ('\\' :: c :: body, rest)
  | c :: rest =>
      if c = mark then some ([], rest)
      else if c = '\n' then none
      else (inside? mark rest).map fun (body, rest) => (c :: body, rest)

/-- The inside of a literal up to three closing marks, and what follows. -/
def longInside? (mark : Char) : List Char → Option (List Char × List Char)
  | [] => none
  | '\\' :: c :: rest => (longInside? mark rest).map fun (body, rest) => ('\\' :: c :: body, rest)
  | c :: rest =>
      if c = mark && [mark, mark].isPrefixOf rest then some ([], rest.drop 2)
      else (longInside? mark rest).map fun (body, rest) => (c :: body, rest)

/-- What may stand before the mark of a literal. -/
def isLiteralOpening (cs : List Char) : Bool :=
  ["", "r", "u", "b", "f", "br", "rb", "fr", "rf"].contains (String.ofList (cs.map Char.toLower))

/-- The value of a literal with some letters before it. -/
def literalOf (letters body : List Char) : Option Literal :=
  let has (c : Char) := (letters.map Char.toLower).contains c
  if body.contains strayMark || has 'f' && body.any (fun c => c = '{' || c = '}') then none
  else if has 'b' then
    if body.any fun c => 127 < c.toNat then none
    else do
      let ps ← if has 'r' then some (body.map Char.toNat) else Text.unescape false body
      return .bytes (ps.map UInt8.ofNat)
  else do
    if has 'r' then return .text (String.ofList body)
    return .ofPoints (← Text.unescape true body)

/-- The first character in the inside of a literal that a backslash before it gives no meaning;
    `wide` says that the literal is a text. -/
def strangeEscape? (wide : Bool) : List Char → Option Char
  | '\\' :: c :: rest =>
      let known := "\n\\'\"abfnrtvx01234567".toList.contains c ||
        (wide && (c = 'u' || c = 'U' || c = 'N')) || 127 < c.toNat
      if known then strangeEscape? wide rest else some c
  | _ :: rest => strangeEscape? wide rest
  | [] => none

/-- The inside of a literal behind its mark, and what follows it. -/
def quoted? (mark : Char) (cs : List Char) : Option (List Char × List Char) :=
  if [mark, mark].isPrefixOf cs then longInside? mark (cs.drop 2) else inside? mark cs

/-- The margin of a line: its width with tabs to the next eighth place, its count of characters, and
    what follows. Where lines are joined inside a margin, the first part that is not empty
    counts. -/
def margin (joined width count : Nat) : List Char → Option (Nat × Nat × List Char)
  | ' ' :: rest => margin joined (width + 1) (count + 1) rest
  | '\t' :: rest => margin joined ((width / 8 + 1) * 8) (count + 1) rest
  | '\x0c' :: rest => margin joined 0 0 rest
  | '\\' :: '\n' :: rest =>
      if rest.isEmpty then none else margin (if joined = 0 then width else joined) width count rest
  | '\\' :: _ => none
  | rest => some (if joined = 0 then (width, count, rest) else (joined, joined, rest))

/-- The most margins inside each other. -/
def marginLimit : Nat := 100

/-- Leave the margins that are wider than the new one. -/
def leave (width : Nat) : List (Nat × Nat) → List Token × List (Nat × Nat)
  | [] => ([], [])
  | (w, c) :: outer =>
      if width < w then
        let (tokens, outer) := leave width outer
        (.dedent :: tokens, outer)
      else ([], (w, c) :: outer)

/-- Fit a line into the margins around it. -/
def fitMargin (width count : Nat) (margins : List (Nat × Nat)) :
    Except SourceFault (List Token × List (Nat × Nat)) :=
  let top := margins.headD (0, 0)
  if top.1 < width then
    if count ≤ top.2 then .error .mixedTabs
    else if marginLimit ≤ margins.length + 1 then .error .badIndentation
    else .ok ([.indent], (width, count) :: margins)
  else
    let (tokens, margins) := leave width margins
    let top := margins.headD (0, 0)
    if top.1 ≠ width then .error .badIndentation
    else if top.2 ≠ count then .error .mixedTabs
    else .ok (tokens, margins)

/-- What closes a bracket. -/
def closing? : Char → Option Char
  | '(' => some ')'
  | '[' => some ']'
  | '{' => some '}'
  | _ => none

/-- The most brackets inside each other. -/
def bracketLimit : Nat := 200

/-- The brackets that are open after a sign. -/
def bracketsAfter (sign : String) (brackets : List Char) : Option (List Char) :=
  match sign.toList with
  | [c] =>
      match closing? c with
      | some closer =>
          if bracketLimit ≤ brackets.length then none else some (closer :: brackets)
      | none =>
          if c = ')' || c = ']' || c = '}' then
            match brackets with
            | closer :: outer => if c = closer then some outer else none
            | [] => none
          else some brackets
  | _ => some brackets

end Token

/-- A token, the line it starts on, and for a literal the character in it that a backslash gives no
    meaning. -/
structure Lexeme where
  token : Token
  line : Nat
  strange : Option Char := none
  deriving DecidableEq, Repr, Inhabited

namespace Lexeme

/-- A literal, given the letters before its mark and its inside. -/
def ofLiteral (line : Nat) (letters body : List Char) : Lexeme :=
  let has (c : Char) := (letters.map Char.toLower).contains c
  { token := ((Token.literalOf letters body).map Token.literal).getD .broken
    line := line
    strange := if has 'r' then none else Token.strangeEscape? (!has 'b') body }

/-- How many lines end in a text. -/
def lineEnds (cs : List Char) : Nat :=
  cs.count '\n'

/-- How many lines are joined in the margin at the start of a text. -/
def joinedLines : List Char → Nat
  | '\\' :: '\n' :: rest => joinedLines rest + 1
  | ' ' :: rest | '\t' :: rest | '\x0c' :: rest => joinedLines rest
  | _ => 0

open Token (margin fitMargin startsNumber number? quoted? isLiteralOpening sign? bracketsAfter)

/-- Read tokens. `fresh` says that a line starts, and `line` is its number; `margins` are the margins
    around the line and `brackets` what closes the open brackets, the innermost first. Decimal numbers
    have at most `digits` digits. -/
def scan (digits : Nat) : Nat → Bool → Nat → List (Nat × Nat) → List Char → List Char → List Lexeme
  | 0, _, line, _, _, _ => [⟨.bad .malformed, line, none⟩]
  | fuel + 1, true, line, margins, brackets, cs =>
      match margin 0 0 0 cs with
      | none => [⟨.unfinished, line, none⟩]
      | some (_, _, []) => (margins.map fun _ => ⟨.dedent, line, none⟩) ++ [⟨.done, line, none⟩]
      | some (width, count, rest) =>
          let line := line + joinedLines cs
          match rest with
          | '\n' :: rest => scan digits fuel true (line + 1) margins brackets rest
          | '#' :: rest => scan digits fuel true line margins brackets (rest.dropWhile (· ≠ '\n'))
          | rest =>
              match fitMargin width count margins with
              | .error f => [⟨.bad f, line, none⟩]
              | .ok (tokens, margins) =>
                  (tokens.map fun t => ⟨t, line, none⟩) ++
                    scan digits fuel false line margins brackets rest
  | fuel + 1, false, line, margins, brackets, cs =>
      let token (t : Token) (rest : List Char) : List Lexeme :=
        ⟨t, line, none⟩ :: scan digits fuel false line margins brackets rest
      let literal (letters : List Char) (mark : Char) (rest : List Char) : List Lexeme :=
        match quoted? mark rest with
        | some (body, rest) =>
            ofLiteral line letters body ::
              scan digits fuel false (line + lineEnds body) margins brackets rest
        | none => [⟨.bad .malformed, line, none⟩]
      match cs with
      | [] =>
          if brackets.isEmpty then
            ⟨.newline, line, none⟩ :: (margins.map fun _ => ⟨.dedent, line, none⟩) ++
              [⟨.done, line, none⟩]
          else [⟨.unfinished, line, none⟩]
      | ' ' :: rest | '\t' :: rest | '\x0c' :: rest =>
          scan digits fuel false line margins brackets rest
      | '\n' :: rest =>
          if brackets.isEmpty then
            ⟨.newline, line, none⟩ :: scan digits fuel true (line + 1) margins brackets rest
          else scan digits fuel false (line + 1) margins brackets rest
      | '#' :: rest => scan digits fuel false line margins brackets (rest.dropWhile (· ≠ '\n'))
      | '\\' :: '\n' :: rest =>
          if rest.isEmpty then [⟨.unfinished, line, none⟩]
          else scan digits fuel false (line + 1) margins brackets rest
      | '\\' :: _ => [⟨.unfinished, line, none⟩]
      | c :: rest =>
          if startsNumber cs then
            match number? digits cs with
            | some (t, rest) => token t rest
            | none => [⟨.bad .malformed, line, none⟩]
          else if c = '\'' || c = '"' then literal [] c rest
          else if Text.isNameStart c then
            let letters := c :: rest.takeWhile Text.isNameRest
            match rest.dropWhile Text.isNameRest with
            | q :: after =>
                if (q = '\'' || q = '"') && isLiteralOpening letters then literal letters q after
                else token (.name (String.ofList letters)) (q :: after)
            | [] => token (.name (String.ofList letters)) []
          else
            match sign? cs with
            | some (s, rest) =>
                match bracketsAfter s brackets with
                | some brackets =>
                    ⟨.sign s, line, none⟩ :: scan digits fuel false line margins brackets rest
                | none => [⟨.bad .malformed, line, none⟩]
            | none => [⟨.bad .malformed, line, none⟩]

/-- The tokens of a source with their lines. -/
def ofSource (digits : Nat) (source : String) : List Lexeme :=
  let cs := Text.unifyLineEnds source.toList
  scan digits (2 * cs.length + 2) true 1 [] [] cs

end Lexeme

/-- The tokens of a source. -/
def Token.ofSource (digits : Nat) (source : String) : List Token :=
  (Lexeme.ofSource digits source).map (·.token)

end FragmentWeaver.Script
