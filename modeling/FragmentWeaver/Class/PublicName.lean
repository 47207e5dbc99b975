import FragmentWeaver.World

/-!
# Names for classes

A class can be written in a source when some module in the table leads to it: the walk along its
qualified name, starting at the module, has to arrive at that very class. A part of a name that
starts with an underscore is private and is never written.
-/

namespace FragmentWeaver

/-- A name that leads to a class: the module to import first, if one is needed, and the dotted name
    that can be written after that. -/
structure PublicName where
  module : Option String
  dotted : String
  deriving DecidableEq, Repr

/-- Does a part of the dotted name start with an underscore? -/
def isPrivate (dotted : String) : Bool :=
  (Text.split '.' dotted).any (Text.beginsWith "_")

/-- A part of a module name as the public modules spell it: one leading underscore is dropped, two
    are kept. -/
def publicPart (part : String) : String :=
  if Text.beginsWith "_" part && !Text.beginsWith "__" part then
    String.ofList (part.toList.drop 1)
  else part

/-- The spellings of a module name under which a class may be found: its own, and the public one
    where that differs. -/
def spellings (module : String) : List String :=
  let open' := Text.join "." ((Text.split '.' module).map publicPart)
  if open' = module then [module] else [module, open']

namespace World

/-- Follow names from a value; a name that is not there, or stands for nothing, ends the walk. -/
def walk (w : World) (v : Value) : List String → Option Value
  | [] => some v
  | part :: rest =>
      match w.attribute? v part with
      | none | some .null => none
      | some next => w.walk next rest

/-- Does the dotted name lead from the module to the class? -/
def leadsTo (w : World) (m : ModuleId) (dotted : String) (c : ClassId) : Bool :=
  w.walk (.module m) (Text.split '.' dotted) = some (.cls c)

/-- The module a class says it comes from; one that says nothing counts as built in. -/
def homeOf (w : World) (c : ClassId) : String :=
  match (w.classInfo c).space with
  | none => "builtins"
  | some m => if m = "" then "builtins" else m

/-- The name by which a source can refer to a class, if there is one. Built-in classes need no
    import; the others are looked up in the module they come from and in the public module of that
    name. -/
def publicName (w : World) (c : ClassId) : Option PublicName :=
  let name := (w.classInfo c).name
  let home := w.homeOf c
  if name.toList.contains '<' || isPrivate name then none
  else if home = "builtins" then
    if w.leadsTo builtins name c then some ⟨none, name⟩ else none
  else
    (spellings home).findSome? fun m =>
      if isPrivate m then none
      else
        match w.imported? m with
        | none => none
        | some owner =>
            if w.leadsTo owner name c then some ⟨some m, m ++ "." ++ name⟩ else none

/-- A public name holds the qualified name of its class, no part of it is private, and from where it is
    read it leads to the class. -/
theorem publicName_cases {w : World} {c : ClassId} {n : PublicName}
    (hname : w.publicName c = some n) :
    isPrivate (w.classInfo c).name = false ∧
      ((n = ⟨none, (w.classInfo c).name⟩ ∧ w.leadsTo builtins (w.classInfo c).name c = true) ∨
        ∃ m ∈ spellings (w.homeOf c), ∃ owner, n = ⟨some m, m ++ "." ++ (w.classInfo c).name⟩ ∧
          isPrivate m = false ∧ w.imported? m = some owner ∧
          w.leadsTo owner (w.classInfo c).name c = true) := by
  unfold publicName at hname
  dsimp only at hname
  split at hname
  · cases hname
  · next hopen =>
      rw [Bool.or_eq_true, not_or, Bool.not_eq_true, Bool.not_eq_true] at hopen
      refine ⟨hopen.2, ?_⟩
      split at hname
      · split at hname
        · next hleads => exact .inl ⟨(Option.some.inj hname).symm, hleads⟩
        · cases hname
      · obtain ⟨m, hm, hfound⟩ := List.exists_of_findSome?_eq_some hname
        split at hfound
        · cases hfound
        · next hpublic =>
            split at hfound
            · cases hfound
            · next owner howner =>
                split at hfound
                · next hleads =>
                    exact .inr ⟨m, hm, owner, (Option.some.inj hfound).symm,
                      Bool.eq_false_iff.mpr hpublic, howner, hleads⟩
                · cases hfound

end World

end FragmentWeaver
