import FragmentWeaver.Binding.Store
import FragmentWeaver.Descriptor.Basic
import FragmentWeaver.Distinct
import FragmentWeaver.Fault
import FragmentWeaver.Source.Block
import FragmentWeaver.Source.Field
import FragmentWeaver.Source.Import
import FragmentWeaver.Unit.Allocator
import FragmentWeaver.Unit.Display

/-!
# Sources of units

An inline unit wraps a fragment as the body of its one entry point and stages the bindings that its
fields take when the unit is loaded. A method unit wraps whole method definitions in a class. What a
unit is declared to return is a class, by its closest name, or a type as it is written, unread.
-/

namespace FragmentWeaver.Source

/-- The type of results that nothing is known of. -/
def defaultResultType : String := "object"

/-- The annotation for a result type, and the modules it needs. -/
def renderResultType (w : World) (resultType : Value) : Except Fault (String × List String) :=
  match w.opened resultType with
  | .null => .ok (defaultResultType, [])
  | .text s =>
      let name := Text.strip s
      .ok (if name = "" then defaultResultType else name, [])
  | .cls c =>
      let d := w.nameType c
      .ok (d.typeName, d.modules)
  | _ =>
      match w.written resultType with
      | .ok written => .error (.resultType written)
      | .error u => .error (.unwritten u)

/-- What a unit is made of: the body of one entry point, or method definitions. -/
inductive UnitKind where
  | inline | method
  deriving DecidableEq, Repr

/-- The word for a kind. -/
def UnitKind.name : UnitKind → String
  | .inline => "inline"
  | .method => "method"

/-- The source of a unit and what went into it. -/
structure GeneratedUnit where
  unit : UnitId
  kind : UnitKind
  source : String
  fragment : Option String
  bindings : List BindingRecord := []
  resultType : Option String := none
  imports : List String := []
  deriving DecidableEq

/-- The file name of a unit. -/
def GeneratedUnit.filename (g : GeneratedUnit) : String :=
  g.unit.name ++ ".py"

/-- The lines that every source starts with. -/
def header (unit : UnitId) (modules imports : List String) : List String :=
  ["# Generated by codeweave for unit " ++ unit.qualifiedName ++ ". Do not edit.",
   "from __future__ import annotations", "", "import typing"] ++
  modules.map ("import " ++ ·) ++ imports

/-- The modules that the fields and the result type of a unit need, in order. -/
def neededModules (rs : List BindingRecord) (more : List String) : List String :=
  Text.sorted (distinct (rs.flatMap (·.descriptor.modules) ++ more))

/-- The modules that checked classes are reached through, in order. -/
def castModules (rs : List BindingRecord) : List String :=
  Text.sorted (distinct (rs.filterMap fun r => castModule? r.descriptor))

/-- The lines that bind the private names of a unit. -/
def privateImports (rs : List BindingRecord) : List String :=
  ["import builtins as " ++ privateOpening ++ "builtins"] ++
  (castModules rs).map (fun m => "import " ++ m ++ " as " ++ privateAlias m) ++
  ["from codeweave.bindings import cast as " ++ privateOpening ++ "cast, steal as " ++
      privateOpening ++ "steal, unbox as " ++ privateOpening ++ "unbox",
   "from codeweave.runtime.unit import Invocable as " ++ privateOpening ++ "Invocable"]

/-- The lines of an inline unit. The class comes before the fields: no field can shadow a name that
    the class uses. -/
def inlineLines (unit : UnitId) (fragment : Option String) (resultName : String)
    (modules imports : List String) (rs : List BindingRecord) : List String :=
  header unit modules imports ++ [""] ++ privateImports rs ++
  ["", "", "@typing.final",
   "class " ++ unit.name ++ "(" ++ privateOpening ++ "Invocable[" ++ resultName ++ "]):",
   "    def __call__(self) -> " ++ resultName ++ ":",
   indentBlock fragment "        ", "", ""] ++
  rs.map (fieldLine unit) ++ [""]

/-- The lines of a method unit. -/
def methodLines (unit : UnitId) (methods : Option String) (imports : List String) : List String :=
  header unit [] imports ++
  ["", "", "@typing.final", "class " ++ unit.name ++ ":", indentBlock methods "    ", ""]

/-- Stage the bindings of a unit. -/
def stageAll (s : Store) (w : World) (unit : UnitId) (rs : List BindingRecord) : Store :=
  rs.foldl (fun s r => (s.put w unit.qualifiedName (.text r.name) r.value).2) s

/-- What a unit is asked to be made of. -/
structure Request where
  fragment : Option String
  bindings : List (Value × Value) := []
  resultType : Value := .null
  imports : List Value := []
  kind : UnitKind := .inline
  deriving Inhabited

/-- What is reported when bindings are given for a method unit. -/
def ignoredRecord (unit : UnitId) (count : Nat) : LogRecord :=
  ⟨.warning, "codeweave.runtime.synthesis",
    "Ignoring " ++ toString count ++ " binding(s) for method unit " ++ unit.qualifiedName⟩

/-- Make the source of a unit and stage its bindings. When the request is refused the store is as it
    was. -/
def synthesize (w : World) (s : Store) (unit : UnitId) (r : Request) :
    Except Fault GeneratedUnit × Store × List LogRecord :=
  match r.imports.mapM (renderImport w) with
  | .error f => (.error f, s, [])
  | .ok imports =>
      match r.kind with
      | .method =>
          let source := Text.join "\n" (methodLines unit r.fragment imports)
          (.ok { unit := unit, kind := .method, source := source, fragment := r.fragment,
                 imports := imports },
            s, if r.bindings.isEmpty then [] else [ignoredRecord unit r.bindings.length])
      | .inline =>
          match renderResultType w r.resultType with
          | .error f => (.error f, s, [])
          | .ok (resultName, resultModules) =>
              match records w unit r.bindings with
              | .error f => (.error f, s, [])
              | .ok rs =>
                  let modules := neededModules rs resultModules
                  let lines := inlineLines unit r.fragment resultName modules imports rs
                  (.ok { unit := unit, kind := .inline, source := Text.join "\n" lines,
                         fragment := r.fragment, bindings := rs, resultType := some resultName,
                         imports := imports },
                    stageAll s w unit rs, [])

/-- Make the source of a unit that is given, or else of the next one of an allocator. The number of a
    unit that cannot be named is used up. -/
def synthesizeNext (w : World) (s : Store) (a : Allocator) (unit : Option UnitId) (r : Request) :
    Except Fault GeneratedUnit × Store × Allocator × List LogRecord :=
  let (named, a) : Except Fault UnitId × Allocator := match unit with
    | some u => (.ok u, a)
    | none =>
        let (n, a) := a.next
        (w.numberedUnit (.whole n), a)
  match named with
  | .error f => (.error f, s, a, [])
  | .ok u =>
      let (result, s, log) := synthesize w s u r
      (result, s, a, log)

end FragmentWeaver.Source
