import FragmentWeaver.Text.Split

/-!
# Listings

A listing says what can be read from a module or a class that is there from the start. It is a list of
lines. The first word of a line tells what kind of things it lists, the other words are their names,
each with a value behind an equals sign where it has one. A value that is left out there, or that ends
in a dot, goes on with the name itself. A constant has a line of its own, with its text behind its name;
a line that starts with a bar goes on with that text.
-/

namespace FragmentWeaver.Standard

/-- What a listed name stands for. -/
inductive Entry where
  /-- A function written in the language. It may have been made in another place, and under another
      name. -/
  | function (made : Option String)
  | builtIn (made : Option String)
  /-- A method that an operation of the language stands for. -/
  | operation
  | method
  /-- A method that is told the class it stands in. -/
  | toldMethod
  /-- A function written in the language that is given the class. -/
  | classFunction (made : Option String)
  | classBuiltIn
  /-- A function that is given neither an object nor its class. -/
  | static (made : Option String)
  /-- A value that a function works out. -/
  | property
  /-- A value that is worked out without a function. -/
  | field
  /-- A value that has a place in every object. -/
  | slot
  | ofClass (key : String)
  /-- An object of a class. -/
  | object (key : String)
  /-- An object of a class whose parts are listed. -/
  | holder (key : String)
  | module (name : String)
  /-- A member of an enumeration. -/
  | member (cls name : String)
  | number (i : Int)
  /-- A value that is written out, and its class if that is another one. -/
  | constant (cls : Option String) (source : String)
  /-- What a name in another module stands for. -/
  | same (module name : String)
  /-- A list of names. -/
  | names (ns : List String)
  /-- A table of a character set of one byte. -/
  | charset (set table : String)
  deriving DecidableEq, Repr

namespace Listing

/-- A word as a name and the value behind an equals sign. -/
def nameOf (word : String) : String × Option String :=
  match Text.cutFirst '=' word.toList with
  | some (name, value) => (String.ofList name, some (String.ofList value))
  | none => (word, none)

/-- A dotted name as what stands before its last part and that part. -/
def lastCut (dotted : String) : String × String :=
  match Text.cutLast '.' dotted.toList with
  | some (space, name) => (String.ofList space, String.ofList name)
  | none => ("", dotted)

/-- The dotted name that a word stands for: `own` is what the listing is for. -/
def dottedName (own name : String) : Option String → String
  | none => own ++ "." ++ name
  | some value =>
    match value.toList.getLast? with
    | none | some '.' => value ++ name
    | some _ => value

/-- The entry of a word in a line of a kind: `own` is what the listing is for. -/
def entryOf? (own kind name : String) (value : Option String) : Option Entry :=
  let dotted := dottedName own name value
  match kind with
  | "functions" => some (.function value)
  | "builtins" => some (.builtIn value)
  | "operations" => some .operation
  | "methods" => some .method
  | "told-methods" => some .toldMethod
  | "class-functions" => some (.classFunction value)
  | "class-builtins" => some .classBuiltIn
  | "statics" => some (.static value)
  | "properties" => some .property
  | "fields" => some .field
  | "slots" => some .slot
  | "classes" => some (.ofClass dotted)
  | "objects" => some (.object dotted)
  | "holders" => some (.holder dotted)
  | "modules" => some (.module dotted)
  | "members" => let (cls, n) := lastCut dotted; some (.member cls n)
  | "values" | "value" => some (.member own name)
  | "numbers" => (value.bind String.toInt?).map .number
  | "same" => let (module, n) := lastCut dotted; some (.same module n)
  | "charset" => some (.charset (lastCut own).2 name)
  | _ => none

/-- Does a line go on with the text of the line before it? -/
def goesOn (line : String) : Bool := Text.beginsWith "|" line

/-- The text behind an opening of a line, and that of the lines that go on with it. -/
def textBehind (opening line : String) (rest : List String) : String :=
  String.ofList (line.toList.drop opening.length ++
    (rest.takeWhile goesOn).flatMap fun l => l.toList.drop 1)

/-- The words of a text, which spaces and line ends divide. The first of them goes on from some letters
    that were read before, of which the last comes first. -/
def wordsFrom (begun : List Char) : List Char → List String
  | [] => if begun.isEmpty then [] else [String.ofList begun.reverse]
  | c :: cs =>
    if c = ' ' || c = '\n' then
      if begun.isEmpty then wordsFrom [] cs else String.ofList begun.reverse :: wordsFrom [] cs
    else wordsFrom (c :: begun) cs

/-- The words of a line. -/
def wordsOf (line : String) : List String := wordsFrom [] line.toList

/-- The words in the lines of a kind. -/
def words (lines : List String) (kind : String) : List String :=
  lines.flatMap fun line =>
    match wordsOf line with
    | k :: ws => if k = kind then ws else []
    | [] => []

/-- The first word in a line of a kind. -/
def word? (lines : List String) (kind : String) : Option String :=
  (words lines kind).head?

/-- Is there a line that is nothing but a word? -/
def marks (lines : List String) (kind : String) : Bool := lines.contains kind

/-- The entry of a name in the lines of a listing for something. -/
def entry? (own name : String) : List String → Option Entry
  | [] => none
  | line :: rest =>
    let found : Option Entry :=
      if goesOn line then none
      else
        match wordsOf line with
        | "constant" :: word :: _ =>
          let (n, cls) := nameOf word
          if n = name then
            some (.constant cls (textBehind ("constant " ++ word ++ " ") line rest))
          else none
        | "value" :: n :: _ => if n = name then entryOf? own "value" n none else none
        | "members-of" :: cls :: ns => if ns.contains name then some (.member cls name) else none
        | "exports" :: ns =>
          if name = "__all__" then some (.names (ns ++ words rest "exports")) else none
        | kind :: ws =>
          ws.findSome? fun word =>
            let (n, value) := nameOf word
            if n = name then entryOf? own kind n value else none
        | [] => none
    match found with
    | some e => some e
    | none => entry? own name rest

/-- The names in a listing. -/
def namesOf (lines : List String) : List String :=
  lines.flatMap fun line =>
    if goesOn line then []
    else
      match wordsOf line with
      | "constant" :: word :: _ | "value" :: word :: _ => [(nameOf word).1]
      | "members-of" :: _ :: ns => ns
      | "exports" :: _ => ["__all__"]
      | kind :: ws =>
        (ws.map nameOf).filterMap fun (n, value) => (entryOf? "" kind n value).map fun _ => n
      | [] => []

/-- The members of an enumeration with the texts of their values, in order. A value that cannot be
    written has no text. -/
def valuesOf : List String → List (String × String)
  | [] => []
  | line :: rest =>
    let found : List (String × String) :=
      match wordsOf line with
      | "value" :: [n] => [(n, "")]
      | "value" :: n :: _ => [(n, textBehind ("value " ++ n ++ " ") line rest)]
      | "values" :: ws => (ws.map nameOf).map fun (n, value) => (n, value.getD "")
      | _ => []
    found ++ valuesOf rest

/-- The words in the lines that tell whose the part is that was told before them. -/
def owners (rest : List String) : List String :=
  words ((rest.dropWhile goesOn).takeWhile (Text.beginsWith "of ")) "of"

/-- What a listed thing holds under a name, as it is written. A part of several things is told once, with
    a star for them, and they are told after it. -/
def partOf? (thing name : String) : List String → Option String
  | [] => none
  | line :: rest =>
    let own := "part " ++ thing ++ "." ++ name ++ " "
    let shared := "part *." ++ name ++ " "
    if Text.beginsWith own line then some (textBehind own line rest)
    else if Text.beginsWith shared line && (owners rest).contains thing then
      some (textBehind shared line rest)
    else partOf? thing name rest

/-- Do the objects of a class have a place for something, `__dict__` or `__weakref__`? A line that does
    not say for what is for both. -/
def isOpenFor (lines : List String) (place : String) : Bool :=
  marks lines "open" || (words lines "open").contains place

end Listing

end FragmentWeaver.Standard
