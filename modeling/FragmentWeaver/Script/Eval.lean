import FragmentWeaver.Script.Creation
import FragmentWeaver.Script.Definition
import FragmentWeaver.Script.Imports
import FragmentWeaver.Script.Printer

/-!
# Carrying out code

Expressions have values, statements change the frame or the state, calls give values back. How a
module is imported is a parameter. The depth to which all this may be nested is bounded; what goes
deeper is a fault of its own.
-/

namespace FragmentWeaver.Script

/-- Carry out statements one after the other until a value is given back. -/
def inOrder (step : Frame → Stmt → Act (Flow × Frame)) : List Stmt → Frame → Act (Flow × Frame)
  | [], f => return (.next, f)
  | s :: rest, f => do
      match ← step f s with
      | (.gave v, f) => return (.gave v, f)
      | (.next, f) => inOrder step rest f

/-- Give values to the names of the parameters: arguments first, then defaults. -/
def bindParams (fn : Function) (args : List Value) : Except ScriptFault (List (String × Value)) :=
  let params := fn.code.params.map fun (p, _) => privateName fn.secret p
  let optional := fn.defaults.map Prod.fst
  if params.length < args.length then
    .error (.tooMany fn.title (params.length - optional.length) params.length args.length)
  else
    let given := params.zip args
    let missing := (params.drop args.length).filter fun p => !optional.contains p
    if missing.isEmpty then
      .ok (given ++ fn.defaults.filter fun (p, _) => (params.drop args.length).contains p)
    else .error (.missingArguments fn.title missing)

/-- The frame of a call. -/
def callFrame (fn : Function) (args : List Value) (names : List (String × Value)) : Frame where
  globals := fn.globals
  place := .inFunction
  owned := names.map Prod.fst ++ (boundByAll fn.code.body).map (privateName fn.secret)
  names := names
  path := fn.title ++ ".<locals>."
  secret := fn.secret
  owner := fn.owner
  receiver := args.head?
  mode := fn.mode

/-- Raise a value. -/
def raiseValue {α : Type} (v : Value) : Act α := do
  let w ← Act.world
  match v with
  | .object a c =>
      if w.isBelow c "BaseException" then Act.fail (.thrown c (w.heap.items a))
      else Act.fail (.script .notRaisable)
  | _ => Act.fail (.script .notRaisable)


mutual

/-- The value of an expression. -/
def eval (importer : Importer) : Nat → Frame → Expr → Act Value
  | 0, _, _ => Act.fail (.script .tooDeep)
  | depth + 1, f, e => do
      let go := eval importer depth f
      match e with
      | .literal l => return l.value
      | .name n => f.read n
      | .attribute e n => do readHooked (call importer depth) (← go e) (f.key n)
      | .item e key => do
          let v ← go e
          readItemOn (call importer depth) v (← go key)
      | .call e args => do
          let callee ← go e
          let args ← args.mapM go
          match callee, args, f.owner, f.receiver with
          | .cls (.standard "super"), [], some c, some x =>
              Act.make (.above c x) (.standard "super")
          | callee, args, _, _ => call importer depth callee args
      | .tuple es => do
          let xs ← es.mapM go
          Act.withWorld fun w => w.newTuple xs
      | .list es => do
          let xs ← es.mapM go
          Act.withWorld fun w => w.newList xs
      | .set es => do
          let xs ← es.mapM go
          askKeys (call importer depth) xs
          let kvs ← Act.lift ((← Act.world).entriesOf (xs.map fun x => (x, .null)))
          Act.make (.items (kvs.map Prod.fst)) (.standard "set")
      | .dict kvs => do
          let kvs ← kvs.mapM fun (k, v) => do
            let k ← go k
            return (k, ← go v)
          askKeys (call importer depth) (kvs.map Prod.fst)
          let kvs ← Act.lift ((← Act.world).entriesOf kvs)
          Act.make (.entries kvs) (.standard "dict")
      | .negate e => do signedOn (call importer depth) true (← go e)
      | .positive e => do signedOn (call importer depth) false (← go e)
      | .binary op l r => do
          let x ← go l
          let y ← go r
          operateOn (call importer depth) (← f.moduleName) op x y

/-- Call a value. -/
def call (importer : Importer) : Nat → Value → List Value → Act Value
  | 0, _, _ => Act.fail (.script .tooDeep)
  | depth + 1, callee, args => do
      let w ← Act.world
      let again := call importer depth
      let refused : Act Value := Act.fail (.script (.notCallable (w.shownClass callee)))
      match callee with
      | .cls c => instantiate again c args
      | .native (.other n c home) =>
          if Standard.isFunctionClass c then callNative again (.other n c home) args
          else if w.isOf callee "typing._SpecialForm" then
            refuseType ("Cannot instantiate " ++ w.writtenText callee)
          else
            match standsFor? w callee, Standard.classForm? n with
            | some o, some form => callType again callee (some n) (some o) form.direct args
            | _, _ => refused
      | .native (.member _ _) => refused
      | .native fn => callNative again fn args
      | .object a c =>
          match w.heap[a]? with
          | some (.bound receiver fn) => again fn (receiver :: args)
          | some (.applied t) => callType again callee t.name t.origin t.direct args
          | some (.function fn) => do
              let names ← Act.lift ((bindParams fn args).mapError .script)
              let frame := callFrame fn args names
              match ← inOrder (exec importer depth) fn.code.body frame with
              | (.gave v, _) => return v
              | (.next, _) => return .null
          | _ =>
              match wrapping? w callee, w.classAttribute? c "__call__" with
              | some (.plain f), _ => again f args
              | _, some entry => askSpecial again callee entry args
              | _, none => refused
      | _ => refused

/-- Bind a value to a target. -/
def assign (importer : Importer) : Nat → Frame → Expr → Value → Act Frame
  | 0, _, _, _ => Act.fail (.script .tooDeep)
  | depth + 1, f, target, v => do
      match target with
      | .name n => f.bind n v
      | .attribute e n => do
          setHooked (call importer depth) (← eval importer depth f e) (f.key n) v
          return f
      | .item e key => do
          let c ← eval importer depth f e
          setItemOn (call importer depth) c (← eval importer depth f key) v
          return f
      | .tuple es | .list es => do
          let vs ← takeApart (call importer depth) v es.length
          (es.zip vs).foldlM (fun f (e, v) => assign importer depth f e v) f
      | _ => return f

/-- Drop what a target stands for. -/
def delete (importer : Importer) : Nat → Frame → Expr → Act Frame
  | 0, _, _ => Act.fail (.script .tooDeep)
  | depth + 1, f, target => do
      match target with
      | .name n => f.drop n
      | .item e key => do
          let c ← eval importer depth f e
          dropItemOn (call importer depth) c (← eval importer depth f key)
          return f
      | .attribute e n => do
          dropHooked (call importer depth) (← eval importer depth f e) (f.key n)
          return f
      | .tuple es | .list es => es.foldlM (delete importer depth) f
      | _ => return f

/-- Carry out a statement. -/
def exec (importer : Importer) : Nat → Frame → Stmt → Act (Flow × Frame)
  | 0, _, _ => Act.fail (.script .tooDeep)
  | depth + 1, f, s => do
      let value := eval importer depth f
      let note (e : Expr) : Act Value :=
        if f.mode.postponed then return .text e.source else value e
      let decorated (decorators : List Value) (v : Value) : Act Value :=
        decorators.reverse.foldlM (fun v d => call importer depth d [v]) v
      match s with
      | .pass | .leaveLoop _ => return (.next, f)
      | .expr e => do
          let _ ← value e
          return (.next, f)
      | .assign targets e => do
          let v ← value e
          return (.next, ← targets.foldlM (fun f t => assign importer depth f t v) f)
      | .annotate target declared e => do
          let f ← match e with
            | some e => do assign importer depth f target (← value e)
            | none => pure f
          if f.place ≠ .inFunction then
            let kept ← note declared
            if let .name n := target then
              setItem (← f.read "__annotations__") (.text (f.key n)) kept
          return (.next, f)
      | .delete target => return (.next, ← delete importer depth f target)
      | .give none => return (.gave .null, f)
      | .give (some e) => return (.gave (← value e), f)
      | .throw none => Act.fail (.script .nothingToRaise)
      | .throw (some e) => do
          match ← value e with
          | .cls c =>
              if (← Act.world).isBelow c "BaseException" then
                raiseValue (← call importer depth (.cls c) [])
              else Act.fail (.script .notRaisable)
          | v => raiseValue v
      | .check test message => do
          if !f.mode.checks then return (.next, f)
          let v ← value test
          if ← countsOn (call importer depth) v then return (.next, f)
          match message with
          | none => Act.fail (.thrown (.standard "AssertionError") [])
          | some m => Act.fail (.thrown (.standard "AssertionError") [← value m])
      | .branch test yes no => do
          let v ← value test
          let holds ← countsOn (call importer depth) v
          inOrder (exec importer depth) (if holds then yes else no) f
      | .imports items =>
          return (.next, ← items.foldlM (importItem (call importer depth) importer) f)
      | .importsFrom level path names => do
          let m ← importer (← absoluteName f level path)
          importMembers (call importer depth) importer m (names.map Prod.fst)
          let f ← names.foldlM (fun f (n, as?) => do
            f.bind (as?.getD n) (← importedName (call importer depth) m n)) f
          return (.next, f)
      | .importsAll level path => do
          let m ← importer (← absoluteName f level path)
          let names ← openNames (call importer depth) importer m
          let f ← names.foldlM (fun f n => do
            f.bind n (← readHooked (call importer depth) (.module m) n)) f
          return (.next, f)
      | .define name params notes body decorators => do
          let ds ← decorators.mapM value
          let defaults ← params.filterMapM fun (p, d) => do
            match d with
            | some e => return some (privateName f.secret p, ← value e)
            | none => return none
          let notes ← notes.mapM fun (p, e) => do return (f.key p, ← note e)
          let fn : Function :=
            { code := ⟨name, params, body⟩, title := f.path ++ name, globals := f.globals
              defaults := defaults, secret := f.secret, mode := f.mode, notes := notes }
          let v ← Act.make (.function fn) (.standard "function")
          return (.next, ← f.bind name (← decorated ds v))
      | .classDef name bases body decorators => do
          let ds ← decorators.mapM value
          let plan ← planClass (call importer depth) (← bases.mapM value)
          let space ← f.moduleName
          let title := f.path ++ name
          let inner : Frame :=
            { globals := f.globals, place := .inClass, path := title ++ "."
              secret := some name, mode := f.mode
              names := [("__module__", .text space), ("__qualname__", .text title)] ++ textOf body }
          let inner ← openBody inner body
          let (_, inner) ← inOrder (exec importer depth) body inner
          let v ← define (call importer depth) plan space title inner.names
          return (.next, ← f.bind name (← decorated ds v))
where
  /-- A text that a body opens with says what it is about. -/
  textOf (body : List Stmt) : List (String × Value) :=
    match body.head? with
    | some (.expr (.literal (.text s))) => [("__doc__", .text s)]
    | _ => []
  /-- A body that declares names starts with a place to keep the declarations. -/
  openBody (f : Frame) (body : List Stmt) : Act Frame := do
    if anyDeclares body && !(← f.binds "__annotations__") then
      f.bind "__annotations__" (← Act.make (.entries []) (.standard "dict"))
    else return f

end

/-- How deep code may be nested in carrying it out. -/
def depthLimit : Nat := 10000

/-- Carry out the body of a module. -/
def execModule (importer : Importer) (m : ModuleId) (a : Artifact) : Act Unit := do
  let f : Frame := { globals := m, mode := a.mode }
  if anyDeclares a.body && !(← f.binds "__annotations__") then
    let _ ← f.bind "__annotations__" (← Act.make (.entries []) (.standard "dict"))
  let _ ← inOrder (exec importer depthLimit) a.body f

/-- Read an attribute from outside. -/
def attributeOf (importer : Importer) (v : Value) (n : String) : Act Value :=
  readHooked (call importer depthLimit) v n

/-- Call a value from outside. -/
def callValue (importer : Importer) (callee : Value) (args : List Value) : Act Value :=
  call importer depthLimit callee args

/-- The written form of a value. Objects in it whose classes have a method for that are asked. -/
def writtenForm (importer : Importer) (v : Value) : Act String := do
  let again := call importer depthLimit
  let told ← ((← Act.world).tellers v).filterMapM fun x => do
    match x, special? (← Act.world) x "__repr__" with
    | .object a _, some f => do
        let r ← askSpecial again x f []
        match (← Act.world).opened r with
        | .text s => return some (a, s)
        | _ => refuseGiven "__repr__" "string" r
    | _, _ => return none
  let w ← Act.world
  Act.lift ((w.writtenWithin told (w.heap.size + 1) [] v).mapError .unwritten)

end FragmentWeaver.Script
