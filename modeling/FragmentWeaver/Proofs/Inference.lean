import FragmentWeaver.Proofs.Checking
import FragmentWeaver.Proofs.NestedList

/-!
# Inferred types and the checks made of them

The type that is inferred for a value leads to a check, and the check is made against a class that is
found again by its name. The check accepts the very value that the type was inferred for: boxed
numbers are of the class and are opened, all other values stand below it and come back as they are.

There is one exception. A class whose module is spelled with nothing but an underscore has the empty
name for its public module. Where that module is what leads to the class, its name is not written
down, and what is left does not lead anywhere.
-/

namespace FragmentWeaver.World

/-- The standard modules of a world lead to the classes that inference knows by name, and the built-in
    names have no empty one among them. -/
structure Furnished (w : World) : Prop where
  object : w.leadsTo builtins "object" .object = true
  list : w.leadsTo builtins "list" .list = true
  named : w.moduleAttribute? builtins "" = none
  boxes : ∃ m, w.imported? "ctypes" = some m ∧ ∀ name held, ("ctypes." ++ name, held) ∈ boxedClasses →
    w.leadsTo m name (.standard ("ctypes." ++ name)) = true
  arrays : ∃ m, w.imported? "array" = some m ∧
    w.leadsTo m "array" (.standard "array.array") = true

/-- The check of a descriptor accepts a value: a boxed number of the very class is opened, any other
    value stands below the class and is given back. -/
def Accepts (w : World) (d : Descriptor) (v : Value) : Prop :=
  ∃ c, w.Denotes d c ∧
    if d.kind = .boxed then
      c = w.typeOf v ∧
        ∃ x, w.content? v = some (.boxed (some x)) ∧ w.check d c v = .ok x
    else c ∈ w.lineage (w.typeOf v) ∧ w.check d c v = .ok v

/-- The closest class of a value that a source can name is only found in a module with the empty
    name. -/
def IsNameless (w : World) (v : Value) : Prop :=
  v ≠ .null ∧ heldClass? (w.typeOf v) = none ∧ w.typeOf v ≠ .standard "array.array" ∧
    w.typeOf v ≠ .list ∧
    ∃ n, w.firstNamed (w.lineage (w.typeOf v)) = some n ∧ n.module = some ""

variable {w : World} {v : Value} {c : ClassId}

section Names

/-- What a public name says: where it is read from, it leads to the class. -/
theorem publicName_leads {n : PublicName} (hname : w.publicName c = some n) :
    (n.module = none ∧ w.leadsTo builtins n.dotted c = true) ∨
      ∃ m name owner, n.module = some m ∧ n.dotted = m ++ "." ++ name ∧
        w.imported? m = some owner ∧ w.leadsTo owner name c = true := by
  obtain ⟨-, ⟨rfl, hleads⟩ | ⟨m, -, owner, rfl, -, howner, hleads⟩⟩ := publicName_cases hname
  · exact .inl ⟨rfl, hleads⟩
  · exact .inr ⟨m, _, owner, rfl, rfl, howner, hleads⟩

/-- The first class that a source can name is one of the classes. -/
theorem firstNamed_mem {classes : List ClassId} {n : PublicName}
    (hname : w.firstNamed classes = some n) : ∃ c ∈ classes, w.publicName c = some n :=
  List.exists_of_findSome?_eq_some hname

/-- A public name is read again from where it was found, unless its module has the empty name. -/
theorem denotes_ofName {n : PublicName} (hname : w.publicName c = some n)
    (hmodule : n.module ≠ some "") : w.Denotes (.ofName n) c := by
  rcases publicName_leads hname with ⟨hnone, hleads⟩ | ⟨m, name, owner, hm, hdotted, howner, hleads⟩
  · refine denotes_of_builtin (castModule?_of_no_modules ?_) hleads
    simp [Descriptor.ofName, hnone]
  · refine denotes_of_module (m := m) (n := name) ?_ hdotted howner hleads
    have hne : m ≠ "" := fun h => hmodule (by rw [hm, h])
    simp [Descriptor.ofName, hm, hne]

/-- What is left of a name from the module with the empty name leads nowhere. -/
theorem not_denotes_ofName {n : PublicName} (hw : w.Furnished) (hname : w.publicName c = some n)
    (hmodule : n.module = some "") (c' : ClassId) : ¬ w.Denotes (.ofName n) c' := by
  rcases publicName_leads hname with ⟨hnone, -⟩ | ⟨m, name, owner, hm, hdotted, -, -⟩
  · rw [hnone] at hmodule
    cases hmodule
  · rw [hm, Option.some.injEq] at hmodule
    subst hmodule
    have hmodules : (Descriptor.ofName n).modules = [] := by simp [Descriptor.ofName, hm]
    have hparts : Text.split '.' (Descriptor.ofName n).castName = "" :: Text.split '.' name := by
      have hcast : (Descriptor.ofName n).castName = String.ofList ['.'] ++ name := by
        rw [show (Descriptor.ofName n).castName = n.dotted from rfl, hdotted]
        rfl
      rw [hcast, Text.split_cons_sep]
    intro hdenotes
    unfold Denotes resolved? at hdenotes
    rw [castModule?_of_no_modules hmodules] at hdenotes
    dsimp only at hdenotes
    rw [hparts, walk] at hdenotes
    simp only [attribute?, hw.named] at hdenotes
    cases hdenotes

end Names

section Boxes

theorem heldClass?_mem {p : String × String} (hheld : heldClass? c = some p) :
    c = .standard p.1 ∧ p ∈ boxedClasses := by
  cases c with
  | standard key =>
      unfold heldClass? at hheld
      have hkey := List.find?_some hheld
      exact ⟨by rw [eq_of_beq hkey], List.mem_of_find?_eq_some hheld⟩
  | defined serial => cases hheld

theorem boxedClasses_named :
    ∀ p ∈ boxedClasses, p.1 = "ctypes." ++ String.ofList (p.1.toList.drop 7) := by
  decide +kernel

/-- The classes above a boxed class. -/
theorem boxedClasses_lineage :
    ∀ p ∈ boxedClasses, ({} : World).lineage (.standard p.1) =
      [p.1, "_ctypes._SimpleCData", "_ctypes._CData", "object"].map ClassId.standard := by
  decide +kernel

/-- Neither a boxed class nor a class above it keeps anything of its own under the name of the held
    value. -/
theorem boxedClasses_bare :
    ∀ p ∈ boxedClasses, ∀ key ∈ [p.1, "_ctypes._SimpleCData", "_ctypes._CData", "object"],
      Assoc.find? (({} : World).classInfo (.standard key)).attributes "value" = none := by
  decide +kernel

theorem classAttribute?_boxed {p : String × String} (hp : p ∈ boxedClasses) :
    w.classAttribute? (.standard p.1) "value" = none := by
  -- What is known of a standard class is the same in every world.
  have hlineage : w.lineage (.standard p.1) =
      [p.1, "_ctypes._SimpleCData", "_ctypes._CData", "object"].map ClassId.standard :=
    boxedClasses_lineage p hp
  unfold classAttribute?
  rw [hlineage, List.findSome?_eq_none_iff]
  intro c hc
  obtain ⟨key, hkey, rfl⟩ := List.mem_map.mp hc
  exact boxedClasses_bare p hp key hkey

theorem held_boxed {p : String × String} (hp : p ∈ boxedClasses)
    (hclass : w.typeOf v = .standard p.1) {x : Value}
    (hcontent : w.content? v = some (.boxed (some x))) : w.held v = .ok x := by
  cases v with
  | object a c =>
      have hc : c = .standard p.1 := hclass
      have hheap : w.heap[a]? = some (.boxed (some x)) := hcontent
      have hnone : w.attribute? (.object a c) "value" = none := by
        unfold attribute?
        dsimp only
        rw [hheap]
        dsimp only
        rw [hc, classAttribute?_boxed hp]
      unfold held
      dsimp only
      rw [hnone, hheap]
  | _ => cases hcontent

theorem accepts_boxed {p : String × String} (hw : w.Furnished) (hv : v ≠ .missing)
    (hheld : heldClass? (w.typeOf v) = some p)
    (hbox : ∃ x, w.content? v = some (.boxed (some x))) :
    w.Accepts { typeName := p.2, castName := p.1, kind := .boxed, modules := ["ctypes"] } v := by
  obtain ⟨hclass, hp⟩ := heldClass?_mem hheld
  obtain ⟨x, hcontent⟩ := hbox
  obtain ⟨m, hm, hleads⟩ := hw.boxes
  have hname := boxedClasses_named p hp
  have hmem : ("ctypes." ++ String.ofList (p.1.toList.drop 7), p.2) ∈ boxedClasses := by
    rw [← hname]
    exact hp
  have hdenotes := denotes_of_module (w := w)
    (d := { typeName := p.2, castName := p.1, kind := .boxed, modules := ["ctypes"] })
    rfl hname hm (hleads _ _ hmem)
  rw [← hname, ← hclass] at hdenotes
  refine ⟨_, hdenotes, ?_⟩
  rw [if_pos rfl]
  refine ⟨rfl, x, hcontent, ?_⟩
  unfold check unbox
  rw [if_pos rfl, if_neg hv, if_pos rfl]
  exact held_boxed hp hclass hcontent

end Boxes

section Routes

/-- A descriptor of no boxed number is accepted as soon as it denotes a class above the value. -/
theorem accepts_of_denotes {d : Descriptor} (hv : v ≠ .missing) (hkind : d.kind ≠ .boxed)
    (hdenotes : w.Denotes d c) (hc : c ∈ w.lineage (w.typeOf v)) : w.Accepts d v := by
  refine ⟨c, hdenotes, ?_⟩
  rw [if_neg hkind]
  refine ⟨hc, ?_⟩
  unfold check
  rw [if_neg hkind]
  exact cast_of_lineage hv hc

theorem denotes_object (hw : w.Furnished) : w.Denotes .object .object :=
  denotes_of_builtin (castModule?_of_no_modules rfl) hw.object

theorem accepts_array (hw : w.Furnished) (hclass : w.typeOf v = .standard "array.array")
    (hv : v ≠ .missing) (typeName : String) :
    w.Accepts
      { typeName := typeName, castName := "array.array", kind := .array, modules := ["array"] }
      v := by
  obtain ⟨m, hm, hleads⟩ := hw.arrays
  refine accepts_of_denotes (c := .standard "array.array") hv (by simp)
    (denotes_of_module (m := "array") (n := "array") rfl rfl hm hleads) ?_
  rw [hclass]
  exact mem_lineage_self _

theorem listType_castName (v : Value) : (w.listType v).castName = "list" := by
  unfold listType
  split
  · rfl
  · rfl

/-- Lists are checked as lists, whatever is said of what they hold. -/
theorem accepts_list (hw : w.Furnished) (hclass : w.typeOf v = .list) (hv : v ≠ .missing) :
    w.Accepts (w.listType v) v := by
  have hkind : (w.listType v).kind ≠ .boxed := by
    unfold listType
    split
    · simp
    · simp
  have hleads : w.leadsTo builtins (w.listType v).castName .list = true := by
    rw [listType_castName]
    exact hw.list
  refine accepts_of_denotes hv hkind
    (denotes_of_builtin (castModule?_of_no_dot ?_) hleads) ?_
  · rw [listType_castName]
    decide
  · rw [hclass]
    exact mem_lineage_self _

/-- A value that is declared by the closest class with a name passes the check, unless the name is
    lost. -/
theorem accepts_nameType_iff (hw : w.Furnished) (hv : v ≠ .missing)
    (hobject : ClassId.object ∈ w.lineage (w.typeOf v)) :
    w.Accepts (w.nameType (w.typeOf v)) v ↔
      ¬ ∃ n, w.firstNamed (w.lineage (w.typeOf v)) = some n ∧ n.module = some "" := by
  unfold nameType
  cases hfirst : w.firstNamed (w.lineage (w.typeOf v)) with
  | none =>
      refine ⟨fun _ => by simp, fun _ => ?_⟩
      exact accepts_of_denotes hv (by simp [Descriptor.object]) (denotes_object hw) hobject
  | some n =>
      obtain ⟨c, hc, hname⟩ := firstNamed_mem hfirst
      constructor
      · rintro ⟨c', hdenotes, -⟩ ⟨n', hn', hmodule⟩
        cases hn'
        exact not_denotes_ofName hw hname hmodule c' hdenotes
      · intro hnamed
        refine accepts_of_denotes hv (by simp [Descriptor.ofName]) (denotes_ofName hname ?_) hc
        intro hmodule
        exact hnamed ⟨n, rfl, hmodule⟩

theorem imported_of_nameType {m : String} (hm : m ∈ (w.nameType c).modules) :
    (w.imported? m).isSome := by
  unfold nameType at hm
  cases hfirst : w.firstNamed (w.lineage c) with
  | none =>
      rw [hfirst] at hm
      cases hm
  | some n =>
      rw [hfirst] at hm
      obtain ⟨c, -, hname⟩ := firstNamed_mem hfirst
      rcases publicName_leads hname with ⟨hnone, -⟩ | ⟨m', name, owner, hmodule, -, howner, -⟩
      · simp [Descriptor.ofName, hnone] at hm
      · have hmem : m ∈ if m' = "" then [] else [m'] := by
          simpa [Descriptor.ofName, hmodule] using hm
        split at hmem
        · cases hmem
        · rw [List.mem_singleton.mp hmem, howner]
          rfl

/-- The module of an inferred class is in the table. -/
theorem imported_of_infer (hw : w.Furnished) {m : String}
    (hcast : Source.castModule? (w.infer v) = some m) : (w.imported? m).isSome := by
  obtain ⟨hmem, -⟩ := castModule?_some hcast
  unfold infer at hmem hcast
  split at hmem
  · cases hmem
  · next hnull =>
      rw [if_neg hnull] at hcast
      dsimp only at hmem hcast
      split at hmem
      · obtain ⟨owner, howner, -⟩ := hw.boxes
        rw [List.mem_singleton.mp hmem, howner]
        rfl
      · next hheld =>
          rw [hheld] at hcast
          dsimp only at hcast
          split at hmem
          · obtain ⟨owner, howner, -⟩ := hw.arrays
            rw [List.mem_singleton.mp hmem, howner]
            rfl
          · next harray =>
              rw [if_neg harray] at hcast
              split at hmem
              · next hlist =>
                  rw [if_pos hlist, castModule?_of_no_dot (listType_castName v ▸ by decide)] at hcast
                  cases hcast
              · exact imported_of_nameType hmem

end Routes

/-- Inference always comes to an end, and the check that is made of what it finds accepts the value,
    except where the name that it finds stands in the module with the empty name. -/
theorem infer_accepted_iff (w : World) (v : Value) (hw : w.Furnished) (hv : v ≠ .missing)
    (hobject : ClassId.object ∈ w.lineage (w.typeOf v))
    (hbox : (heldClass? (w.typeOf v)).isSome → ∃ x, w.content? v = some (.boxed (some x))) :
    (∀ rounds, w.heap.size < rounds → w.heap.levels rounds 0 [] [v] = w.heap.nestedList v) ∧
      (w.Accepts (w.infer v) v ↔ ¬ w.IsNameless v) := by
  refine ⟨fun rounds hrounds => Heap.nestedList_eq_levels hrounds v, ?_⟩
  unfold infer
  by_cases hnull : v = .null
  · rw [if_pos hnull]
    refine ⟨fun _ hnameless => hnameless.1 hnull, fun _ => ?_⟩
    exact accepts_of_denotes hv (by simp [Descriptor.object]) (denotes_object hw) hobject
  · rw [if_neg hnull]
    dsimp only
    cases hheld : heldClass? (w.typeOf v) with
    | some p =>
        refine ⟨fun _ hnameless => ?_, fun _ => ?_⟩
        · have hnone := hnameless.2.1
          rw [hheld] at hnone
          cases hnone
        · exact accepts_boxed hw hv hheld (hbox (by rw [hheld]; rfl))
    | none =>
        dsimp only
        by_cases harray : w.typeOf v = .standard "array.array"
        · rw [if_pos harray]
          exact ⟨fun _ hnameless => hnameless.2.2.1 harray, fun _ => accepts_array hw harray hv _⟩
        · rw [if_neg harray]
          by_cases hlist : w.typeOf v = .list
          · rw [if_pos hlist]
            exact ⟨fun _ hnameless => hnameless.2.2.2.1 hlist, fun _ => accepts_list hw hlist hv⟩
          · rw [if_neg hlist, accepts_nameType_iff hw hv hobject]
            exact ⟨fun hnamed hnameless => hnamed hnameless.2.2.2.2,
              fun hnamed hfirst => hnamed ⟨hnull, hheld, harray, hlist, hfirst⟩⟩

/-- A world with the standard modules as far as inference knows them and the modules that every unit
    imports from, a class `Foo` of the module `app`, and a class `Bar` that says it comes from the
    module `_` and is found in the module with the empty name. -/
def twoClasses : World where
  heap := #[.instance [], .boxed (some (.whole 3))]
  classes := #[
    { space := some "app", name := "Foo", above := [.object], kind := .standard "type",
      shown := "Foo" },
    { space := some "_", name := "Bar", above := [.object], kind := .standard "type",
      shown := "Bar" }]
  modules := #[
    { name := "builtins", attributes := [("object", .cls .object), ("list", .cls .list)] },
    { name := "ctypes"
      attributes := boxedClasses.map fun p =>
        (String.ofList (p.1.toList.drop 7), .cls (.standard p.1)) },
    { name := "array", attributes := [("array", .cls (.standard "array.array"))] },
    { name := "app", attributes := [("Foo", .cls (.defined 0))] },
    { name := "", attributes := [("Bar", .cls (.defined 1))] },
    { name := "codeweave.bindings"
      attributes := [("cast", .native .cast), ("steal", .native .steal),
        ("unbox", .native .unbox)] },
    { name := "codeweave.runtime.unit"
      attributes := [("Invocable", .cls (.standard "codeweave.runtime.unit.Invocable"))] }]
  table := [("builtins", 0), ("ctypes", 1), ("array", 2), ("app", 3), ("", 4),
    ("codeweave.bindings", 5), ("codeweave.runtime.unit", 6)]

theorem twoClasses_furnished : twoClasses.Furnished where
  object := by decide +kernel
  list := by decide +kernel
  named := by decide +kernel
  boxes := by
    refine ⟨1, by decide +kernel, fun name held hmem => ?_⟩
    have hleads : ∀ p ∈ boxedClasses,
        twoClasses.leadsTo 1 (String.ofList (p.1.toList.drop 7)) (.standard p.1) = true := by
      decide +kernel
    have hname : String.ofList (("ctypes." ++ name).toList.drop 7) = name :=
      Text.drop_append "ctypes." name
    have hfound := hleads _ hmem
    rwa [hname] at hfound
  arrays := ⟨2, by decide +kernel, by decide +kernel⟩

theorem infer_accepted_foo :
    twoClasses.Accepts (twoClasses.infer (.object 0 (.defined 0))) (.object 0 (.defined 0)) := by
  refine (infer_accepted_iff twoClasses (.object 0 (.defined 0)) twoClasses_furnished (by decide)
    (by decide +kernel) fun hboxed => ?_).2.mpr ?_
  · cases hboxed
  · rintro ⟨-, -, -, -, n, hn, hmodule⟩
    have hfoo : twoClasses.firstNamed (twoClasses.lineage (.defined 0)) =
        some ⟨some "app", "app.Foo"⟩ := by
      decide +kernel
    cases hfoo.symm.trans hn
    exact absurd hmodule (by decide)

/-- The name that is inferred for an instance of `Bar` has lost its module. -/
theorem infer_rejected_bar :
    ¬ twoClasses.Accepts (twoClasses.infer (.object 0 (.defined 1))) (.object 0 (.defined 1)) := by
  rintro ⟨c, hdenotes, -⟩
  have hnowhere : twoClasses.resolved? (twoClasses.infer (.object 0 (.defined 1))) = none := by
    decide +kernel
  cases hnowhere.symm.trans hdenotes

end FragmentWeaver.World
