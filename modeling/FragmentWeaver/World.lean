import FragmentWeaver.Assoc
import FragmentWeaver.Class.Linearization
import FragmentWeaver.Standard.Classes
import FragmentWeaver.Standard.Methods
import FragmentWeaver.Standard.Modules
import FragmentWeaver.Text.Split

/-!
# The world of values

The heap, the classes that were defined beside the standard ones, the module objects, and the module
table. Reading an attribute, the class of a value and the relation between classes are functions of
the world.
-/

namespace FragmentWeaver

/-- The class of lists. -/
def ClassId.list : ClassId := .standard "list"

/-- The class that stands above all. -/
def ClassId.object : ClassId := .standard "object"

/-- What is known of a class: its module (if it has one), its qualified name, its ancestors in the
    order of resolution, its own class, the abstract classes it is registered with, its name in
    messages, whether its instances can be keys, the methods it asks its descendants for, those by
    which abstract classes know it, those it bars its descendants from, its attributes, and the names of
    the only attributes that its objects have a place for, if it names them. -/
structure ClassInfo where
  space : Option String
  name : String
  above : List ClassId
  kind : ClassId
  registered : List ClassId := []
  shown : String
  hash : Standard.HashRule := .inherited
  abstract : List String := []
  methods : List String := []
  barred : List String := []
  attributes : List (String × Value) := []
  slots : Option (List String) := none
  deriving Inhabited

/-- Does a class have a method of its own? One that is barred is there, but cannot be used. -/
def ClassInfo.method? (i : ClassInfo) (name : String) : Option Bool :=
  if i.methods.contains name then some true
  else if i.barred.contains name then some false
  else (Assoc.find? i.attributes name).map (· ≠ .null)

/-- A standard class. -/
def ClassInfo.ofRow (r : Standard.ClassRow) : ClassInfo where
  space := some r.space
  name := r.name
  above := r.above.map .standard
  kind := .standard r.kind
  registered := r.registered.map .standard
  shown := r.shown
  hash := r.hash
  abstract := (Assoc.find? Standard.abstractMethods r.key).getD []
  methods := (Assoc.find? Standard.knownMethods r.key).getD []
  barred := (Assoc.find? Standard.barredMethods r.key).getD []
  attributes := Standard.classMembers r.key

/-- The ancestors of a class, as its row or its listing tells them: all of them, or the one that it stands
    right below. So many steps are followed from class to class. -/
def Standard.ancestors : Nat → String → List String
  | 0, _ => ["object"]
  | n + 1, key =>
      let lines := Standard.classLines key
      match Standard.classRow? key, Standard.Listing.word? lines "below" with
      | some r, _ => r.above
      | none, some base => base :: Standard.ancestors n base
      | none, none =>
          let above := Standard.Listing.words lines "above"
          if above.isEmpty then ["object"] else above

/-- How many ancestors of a class are told one by one. -/
def Standard.ancestorLimit : Nat := 16

/-- A standard class without a row: its key says in which module it lies, and its listing the rest. -/
def ClassInfo.ofKey (key : String) : ClassInfo :=
  let lines := Standard.classLines key
  let (space, name) :=
    match Standard.Listing.word? lines "space", Text.cutLast '.' key.toList with
    | some space, _ => (space, String.ofList (key.toList.drop (space.length + 1)))
    | none, some (space, name) => (String.ofList space, String.ofList name)
    | none, none => ("builtins", key)
  { space := some space
    name := name
    above := (Standard.ancestors Standard.ancestorLimit key).map .standard
    kind := .standard ((Standard.Listing.word? lines "kind").getD "type")
    shown := (Standard.Listing.word? lines "shown").getD (Standard.Listing.lastCut name).2
    abstract := (Assoc.find? Standard.abstractMethods key).getD [] }

/-- A module object: the name it was made under, the file it was made from, whether it was made to
    hold other modules, the number of its description and its loader, whether its body is still being
    run on behalf of an import, the modules in it that are being imported, its names, the standard module whose names it has beside them, and
    those of the latter that were dropped. -/
structure ModuleRecord where
  name : String
  file : Option String := none
  package : Bool := false
  spec : Option Nat := none
  loader : Value := .null
  starting : Bool := false
  underway : List String := []
  attributes : List (String × Value) := []
  standard : Option String := none
  dropped : List String := []
  deriving Inhabited

namespace ModuleRecord

/-- A name of a module, unless its value has to be made first. -/
def attribute? (r : ModuleRecord) (name : String) : Option Value :=
  match Assoc.find? r.attributes name, r.standard with
  | some v, _ => some v
  | none, some table => if r.dropped.contains name then none else Standard.member? table name
  | none, none => none

/-- How a name of a module is written whose value has to be made first. -/
def written? (r : ModuleRecord) (name : String) : Option (Option String × Script.Expr) :=
  match r.standard with
  | some table => if r.dropped.contains name then none else Standard.writtenMember? table name
  | none => none

/-- Set a name of a module. -/
def put (r : ModuleRecord) (name : String) (v : Value) : ModuleRecord :=
  { r with attributes := Assoc.put r.attributes name v }

/-- Drop a name of a module. -/
def drop (r : ModuleRecord) (name : String) : ModuleRecord :=
  { r with attributes := Assoc.erase r.attributes name, dropped := name :: r.dropped }

/-- The names of a module. -/
def names (r : ModuleRecord) : List String :=
  let listed := match r.standard with
    | some table => (Standard.memberNames table).filter fun n =>
        !r.dropped.contains n && (Assoc.find? r.attributes n).isNone
    | none => []
  r.attributes.map Prod.fst ++ listed

/-- Was a body run for the module? -/
def wasRun (r : ModuleRecord) : Bool :=
  match r.standard with
  | some table => [.frozen, .source, .elsewhere].contains (Standard.origin table)
  | none => r.file.isSome

/-- The name a module gives itself. -/
def ownName (r : ModuleRecord) : String :=
  match r.attribute? "__name__" with
  | some (.text s) => s
  | _ => r.name

/-- Can the module hold other modules? It was made to, or it says where they are to be looked
    for. -/
def isPackage (r : ModuleRecord) : Bool :=
  r.package || (r.attribute? "__path__").isSome

/-- The file that a module says it comes from. -/
def shownFile? (r : ModuleRecord) : Option String :=
  match r.attribute? "__file__" with
  | some (.text s) => some s
  | _ => none

/-- The number of the description that a module says it was made from. -/
def claimedSpec? (r : ModuleRecord) : Option Nat :=
  match r.attribute? "__spec__" with
  | some (.spec n) => some n
  | _ => none

/-- A module object that was made from nothing but a name. -/
def ofName (name : String) : ModuleRecord where
  name := name
  attributes := [("__name__", .text name), ("__doc__", .null), ("__package__", .null),
    ("__loader__", .null), ("__spec__", .null)]

/-- The name of the module in which the modules beside a module lie. -/
def packageOf (name : String) (package : Bool) : String :=
  if package then name
  else
    match Text.cutLast '.' name.toList with
    | some (parent, _) => String.ofList parent
    | none => ""

/-- A standard module. -/
def ofStandard (table : String) : ModuleRecord :=
  let name := Standard.ownName table
  let package := Standard.isPackage table
  { name := name
    package := package
    attributes := [("__name__", .text (Standard.claimedName table)),
      ("__package__",
        if Standard.bareModules.contains table then .null
        else .text (packageOf (if Text.beginsWith "importlib." name then name else table) package))]
    standard := some table }

end ModuleRecord

/-- The heap, the defined classes, the module objects, the module table, and the place of the empty
    tuple once it is there. -/
structure World where
  heap : Heap := #[]
  classes : Array ClassInfo := #[]
  modules : Array ModuleRecord := #[]
  table : List (String × ModuleId) := []
  emptyTuple : Option Address := none
  deriving Inhabited

namespace World

/-- What is known of a class; an unknown number counts as the class above all. -/
def classInfo (w : World) : ClassId → ClassInfo
  | .standard key =>
      match Standard.classRow? key with
      | some r => .ofRow r
      | none => .ofKey key
  | .defined serial => w.classes.getD serial
      { space := some "builtins", name := "object", above := [], kind := .standard "type",
        shown := "object" }

/-- A class and its ancestors, in the order of resolution. -/
def lineage (w : World) (c : ClassId) : List ClassId :=
  c :: (w.classInfo c).above

theorem mem_lineage_self {w : World} (c : ClassId) : c ∈ w.lineage c :=
  List.mem_cons_self

/-- The class of a value. -/
def typeOf (w : World) : Value → ClassId
  | .null => .standard "NoneType"
  | .truth _ => .standard "bool"
  | .whole _ => .standard "int"
  | .float _ => .standard "float"
  | .complex _ _ => .standard "complex"
  | .text _ | .loose _ => .standard "str"
  | .bytes _ => .standard "bytes"
  | .missing => .standard "codeweave.bindings._Missing"
  | .unit _ => .standard "codeweave.runtime.identity.UnitId"
  | .cls c => (w.classInfo c).kind
  | .module _ => .standard "module"
  | .native (.other _ c _) => c
  | .native (.member cls _) => .standard cls
  | .native (.universal _) => .standard "wrapper_descriptor"
  | .native _ => Standard.plainFunction
  | .moduleTable => .standard "dict"
  | .spec _ => .standard "_frozen_importlib.ModuleSpec"
  | .object _ c => c

/-- The abstract classes that know the classes below them by their methods. -/
def knownBy : String → Option (List (List String))
  | "collections.abc.Sized" => some [["__len__"]]
  | "collections.abc.Iterable" => some [["__iter__"]]
  | "collections.abc.Container" => some [["__contains__"]]
  | "collections.abc.Collection" => some [["__len__", "__iter__", "__contains__"]]
  | "collections.abc.Reversible" => some [["__reversed__", "__iter__"]]
  | "abc.ABC" => some [["__fspath__"], ["__enter__", "__exit__"]]
  | _ => none

/-- Can the method of a class, its own or the first inherited one, be used? -/
def hasMethod (w : World) (c : ClassId) (name : String) : Bool :=
  ((w.lineage c).findSome? fun a => (w.classInfo a).method? name).getD false

/-- Does an abstract class know a class by its methods? -/
def isKnownBy (w : World) (c d : ClassId) : Bool :=
  match d with
  | .defined _ => false
  | .standard key =>
      match knownBy key with
      | none => false
      | some choices =>
          choices.any fun names => names.all (w.hasMethod c)

/-- Is `c` below `d`, by descent, by the registration of one of its ancestors, or by its methods? -/
def isSubclass (w : World) (c d : ClassId) : Bool :=
  (w.lineage c).contains d || w.isKnownBy c d ||
    (w.lineage c).any fun a => (w.classInfo a).registered.any fun r => (w.lineage r).contains d

/-- Is the value an instance of the class? -/
def isInstance (w : World) (v : Value) (c : ClassId) : Bool :=
  w.isSubclass (w.typeOf v) c

/-- An attribute of a class, its own or the first inherited one. -/
def classAttribute? (w : World) (c : ClassId) (name : String) : Option Value :=
  (w.lineage c).findSome? fun d => Assoc.find? (w.classInfo d).attributes name

/-- What a class itself lists for a name. -/
def ownListing? (name : String) : ClassId → Option Standard.Entry
  | .standard key => Standard.classEntry? key name
  | .defined _ => none

/-- What the first of some classes that lists a name lists for it, and that class. -/
def firstListing? (name : String) (classes : List ClassId) : Option (ClassId × Standard.Entry) :=
  classes.findSome? fun c => (ownListing? name c).map fun e => (c, e)

/-- What a class or the first of its ancestors lists for a name, and which of them that is. What is said
    about a class itself is not handed down. -/
def classEntry? (w : World) (c : ClassId) (name : String) : Option (ClassId × Standard.Entry) :=
  firstListing? name (if name = "__doc__" then [c] else w.lineage c)

/-- The first of a class and its ancestors that lists a name. -/
def lister? (w : World) (c : ClassId) (name : String) : Option ClassId :=
  (w.lineage c).find? fun d => (ownListing? name d).isSome

/-- Does a class make a place for something in its objects, `__dict__` or `__weakref__`? -/
def opens (w : World) (place : String) : ClassId → Bool
  | .standard key => Standard.Listing.isOpenFor (Standard.classLines key) place
  | .defined serial =>
      match (w.classInfo (.defined serial)).slots with
      | none => true
      | some names => names.contains place

/-- The topmost of a class and its ancestors that makes a place for something in its objects. -/
def opener? (w : World) (c : ClassId) (place : String) : Option ClassId :=
  (w.lineage c).reverse.find? (w.opens place)

/-- Do the objects of a class have a place for something? -/
def isOpenFor (w : World) (c : ClassId) (place : String) : Bool := (w.opener? c place).isSome

/-- Does a class itself name a place in its objects for an attribute? -/
def namesSlot (w : World) (name : String) (c : ClassId) : Bool :=
  (((w.classInfo c).slots).getD []).contains name

/-- Does a class or one of its ancestors name a place in its objects for an attribute? -/
def isSlot (w : World) (c : ClassId) (name : String) : Bool := (w.lineage c).any (w.namesSlot name)

/-- A name of a module. -/
def moduleAttribute? (w : World) (m : ModuleId) (name : String) : Option Value :=
  match w.modules[m]? with
  | some r => r.attribute? name
  | none => none

/-- The number of the description that a module says it was made from. -/
def specOf? (w : World) (m : ModuleId) : Option Nat :=
  (w.modules[m]?).bind (·.claimedSpec?)

/-- The number of the description that a module was made from. -/
def madeFrom? (w : World) (m : ModuleId) : Option Nat :=
  (w.modules[m]?).bind (·.spec)

/-- The attribute of a value as it is stored; a function read from an object is not bound to it
    here. -/
def attribute? (w : World) (v : Value) (name : String) : Option Value :=
  match v with
  | .cls c => w.classAttribute? c name
  | .module m => w.moduleAttribute? m name
  | .object a c =>
      match w.heap[a]? with
      | some (.instance attributes) =>
          (Assoc.find? attributes name).or (w.classAttribute? c name)
      | _ => w.classAttribute? c name
  | v => w.classAttribute? (w.typeOf v) name

/-- The module object in the table under a name. -/
def imported? (w : World) (name : String) : Option ModuleId :=
  Assoc.find? w.table name

/-- The last part of a dotted name. -/
def lastPart (dotted : String) : String :=
  match Text.cutLast '.' dotted.toList with
  | some (_, name) => String.ofList name
  | none => dotted

/-- The name of a class without its module and the classes it stands in. -/
def plainName (w : World) (c : ClassId) : String :=
  match c with
  | .standard _ => lastPart (w.classInfo c).name
  | .defined _ => (w.classInfo c).shown

/-- The plain value that an object stands for, or the value itself. A member of an enumeration
    stands for its value if it is a number or a text by its class. -/
def opened (w : World) (v : Value) : Value :=
  match v with
  | .native (.member cls value) =>
      let above := (w.lineage (.standard cls))
      if ["int", "str"].any fun key => above.contains (.standard key) then value.value else v
  | .object a _ =>
      match w.heap[a]? with
      | some (.plain inner) => inner
      | _ => v
  | v => v

/-- The module of a class and its qualified name, for the eye. -/
def fullName (w : World) (c : ClassId) : String :=
  let i := w.classInfo c
  i.space.getD "None" ++ "." ++ i.name

/-- What stands at the place of an object. -/
def content? (w : World) : Value → Option Content
  | .object a _ => w.heap[a]?
  | _ => none

/-- Put something on the heap; the value that stands for it. -/
def allocate (w : World) (c : Content) (cls : ClassId) : Value × World :=
  let (a, heap) := w.heap.alloc c
  (.object a cls, { w with heap := heap })

/-- A new list. -/
def newList (w : World) (xs : List Value) : Value × World :=
  w.allocate (.items xs) .list

/-- A new tuple. There is one empty tuple, which is made when it is first asked for. -/
def newTuple (w : World) (xs : List Value) : Value × World :=
  match xs, w.emptyTuple with
  | [], some a => (.object a (.standard "tuple"), w)
  | [], none =>
      let (v, w') := w.allocate (.items []) (.standard "tuple")
      (v, { w' with emptyTuple := some w.heap.size })
  | xs, _ => w.allocate (.items xs) (.standard "tuple")

/-- A value as an object that can be told from values equal to it. Values of which there is one
    object each stay as they are. -/
def anchor (w : World) (v : Value) : Value × World :=
  if v.isShared then (v, w) else w.allocate (.plain v) (w.typeOf v)

/-- The class that the classes of some bases agree on: the lowest of them. -/
def kindOf (w : World) (bases : List ClassId) : ClassId :=
  bases.foldl (fun low b =>
    let k := (w.classInfo b).kind
    if (w.lineage low).contains k then low else if (w.lineage k).contains low then k else low)
    (.standard "type")

/-- Define a class below some bases under a qualified name and a name in messages; nothing when the bases
    contradict each other. -/
def defineAs? (w : World) (space : Option String) (name shown : String) (bases : List ClassId)
    (attributes : List (String × Value)) (slots : Option (List String)) :
    Option (ClassId × World) :=
  match Linearization.merge (bases.map w.lineage ++ [bases]) with
  | none => none
  | some above =>
      let info : ClassInfo :=
        { space := space, name := name, above := above, kind := w.kindOf bases,
          shown := shown, attributes := attributes, slots := slots }
      some (.defined w.classes.size, { w with classes := w.classes.push info })

/-- Define a class below some bases; nothing when the bases contradict each other. -/
def define? (w : World) (space : Option String) (name : String) (bases : List ClassId)
    (attributes : List (String × Value)) : Option (ClassId × World) :=
  w.defineAs? space name (lastPart name) bases attributes none

/-- Change what is known of a defined class. -/
def changeClass (w : World) (c : ClassId) (f : ClassInfo → ClassInfo) : World :=
  match c with
  | .standard _ => w
  | .defined serial => { w with classes := w.classes.modify serial f }

/-- Set an attribute of a defined class. -/
def setClassAttribute (w : World) (c : ClassId) (name : String) (v : Value) : World :=
  w.changeClass c fun i => { i with attributes := Assoc.put i.attributes name v }

/-- Drop an attribute of a class that was defined. -/
def dropClassAttribute (w : World) (c : ClassId) (name : String) : World :=
  w.changeClass c fun i => { i with attributes := Assoc.erase i.attributes name }

/-- A new module object. -/
def newModule (w : World) (r : ModuleRecord) : ModuleId × World :=
  (w.modules.size, { w with modules := w.modules.push r })

/-- Change what is known of a module object; what it was made from stays. -/
def changeModule (w : World) (m : ModuleId) (f : ModuleRecord → ModuleRecord) : World :=
  { w with modules := w.modules.modify m fun r => { f r with spec := r.spec } }

/-- Set a name of a module. -/
def setModuleAttribute (w : World) (m : ModuleId) (name : String) (v : Value) : World :=
  w.changeModule m (·.put name v)

/-- The heap and the classes of a world, with the modules of another one. -/
def withModulesOf (w v : World) : World :=
  { w with modules := v.modules, table := v.table }

/-- Put a module object into the table. -/
def enter (w : World) (name : String) (m : ModuleId) : World :=
  { w with table := Assoc.put w.table name m }

/-- Take a name out of the table. -/
def leave (w : World) (name : String) : World :=
  { w with table := Assoc.erase w.table name }

/-- The module of the built-in names. -/
def builtins : ModuleId := 0

/-- The world before anything is loaded. -/
def standard : World :=
  { modules := (Standard.moduleNames.map ModuleRecord.ofStandard).toArray
    table := Standard.moduleNames.zipIdx ++ Standard.moduleAliases.filterMap fun (other, name) =>
      (Standard.moduleIndex? name).map fun m => (other, m) }

end World

end FragmentWeaver
