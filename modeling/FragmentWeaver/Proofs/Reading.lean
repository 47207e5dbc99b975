import FragmentWeaver.Script.Item
import FragmentWeaver.Script.Object

/-!
# Reading names of modules

A name that a module keeps is read as what is kept, and reading it changes nothing. Of a name that it
does not keep a module that no body was run for says that it is missing, unless every module answers
to it.
-/

namespace FragmentWeaver

namespace Act

variable {α : Type} {a : Act α} {handler : Fault → Act α} {s t : Loom}

theorem run_tryCatch_ok {x : α} (h : a.run s = .ok x t) :
    (tryCatch a handler).run s = .ok x t := by
  change EStateM.tryCatch a.run _ s = _
  delta EStateM.tryCatch
  rw [h]

theorem run_tryCatch_error {f : Fault} (h : a.run s = .error f t) :
    (tryCatch a handler).run s = (handler f).run t := by
  change EStateM.tryCatch a.run _ s = _
  delta EStateM.tryCatch
  rw [h]
  rfl

theorem exists_of_run_bind {β : Type} {next : α → Act β} {y : β}
    (h : (a >>= next).run s = .ok y t) :
    ∃ x u, a.run s = .ok x u ∧ (next x).run u = .ok y t := by
  rw [run_bind] at h
  simp only [bind, EStateM.bind] at h
  cases ha : a.run s with
  | ok x u =>
      rw [ha] at h
      exact ⟨x, u, rfl, h⟩
  | error f u =>
      rw [ha] at h
      cases h

theorem run_bind_tryCatch_error {β : Type} {next : α → Act β} {f : Fault}
    (h : a.run s = .error f t) :
    (tryCatch a handler >>= next).run s = (handler f >>= next).run t := by
  rw [run_bind, run_bind]
  simp only [bind, EStateM.bind, run_tryCatch_error h]

end Act

/-- What stands in the table and what the modules hold is the same in two states, and so are the
    contexts. -/
structure Loom.SameModules (s t : Loom) : Prop where
  table : t.world.table = s.world.table
  contexts : t.contexts = s.contexts
  modules : t.world.modules = s.world.modules

/-- Two states with the same store, which was not asked for anything in between. -/
structure Loom.SameStore (s t : Loom) : Prop where
  store : t.store = s.store
  touched : t.touched = s.touched

theorem Loom.SameStore.trans {s t u : Loom} (h : s.SameStore t) (h' : t.SameStore u) :
    s.SameStore u :=
  ⟨h'.store.trans h.store, h'.touched.trans h.touched⟩

theorem Loom.SameStore.refl (s : Loom) : s.SameStore s := ⟨rfl, rfl⟩

namespace Act

variable {α β : Type}

/-- An act that does nothing to modules. -/
def Calm (a : Act α) : Prop := ∀ s : Loom, s.SameModules (a.run.final s)

theorem Calm.pure (x : α) : Calm (Pure.pure x : Act α) := fun _ => ⟨rfl, rfl, rfl⟩

theorem Calm.fail (f : Fault) : Calm (Act.fail f : Act α) := fun _ => ⟨rfl, rfl, rfl⟩

theorem Calm.world : Calm Act.world := fun _ => ⟨rfl, rfl, rfl⟩

theorem Calm.lift (r : Except Fault α) : Calm (Act.lift r) := by
  cases r with
  | ok x => exact .pure x
  | error f => exact .fail f

theorem Calm.bind {a : Act α} {next : α → Act β} (ha : Calm a) (hnext : ∀ x, Calm (next x)) :
    Calm (a >>= next) := by
  intro s
  rw [run_bind, Run.final_bind]
  cases a.run.outcome s with
  | ok x =>
      have hfirst := ha s
      have hlast := hnext x (a.run.final s)
      exact ⟨hlast.table.trans hfirst.table, hlast.contexts.trans hfirst.contexts,
        hlast.modules.trans hfirst.modules⟩
  | error f => exact ha s

theorem Calm.withWorld (f : World → α × World) : Calm (Act.withWorld f) := fun _ => ⟨rfl, rfl, rfl⟩

theorem Calm.changeWorld (f : World → World) : Calm (Act.changeWorld f) :=
  .withWorld _

theorem Calm.steal (unit : String) (name : Value) : Calm (Act.steal unit name) := by
  intro s
  refine ⟨?_, ?_, ?_⟩ <;> simp [Act.steal, Act.of, Loom.note]

end Act

theorem World.moduleAttribute?_of_get {w : World} {m : ModuleId} {r : ModuleRecord}
    (h : w.modules[m]? = some r) (n : String) : w.moduleAttribute? m n = r.attribute? n := by
  rw [World.moduleAttribute?, h]

theorem World.getD_of_get {w : World} {m : ModuleId} {r : ModuleRecord}
    (h : w.modules[m]? = some r) (other : ModuleRecord) : w.modules.getD m other = r := by
  rw [Array.getD_eq_getD_getElem?, h, Option.getD_some]

namespace ModuleRecord

theorem attribute?_put_self (r : ModuleRecord) (n : String) (v : Value) :
    (r.put n v).attribute? n = some v := by
  unfold attribute? put
  dsimp only
  rw [Assoc.find?_put_self]

theorem attribute?_put_of_ne {n k : String} (h : k ≠ n) (r : ModuleRecord) (v : Value) :
    (r.put n v).attribute? k = r.attribute? k := by
  unfold attribute? put
  dsimp only
  rw [Assoc.find?_put_of_ne h]

end ModuleRecord

namespace World

variable (w : World)

theorem getElem?_changeModule (m k : ModuleId) (f : ModuleRecord → ModuleRecord) :
    (w.changeModule m f).modules[k]? =
      if m = k then (w.modules[k]?).map fun r => { f r with spec := r.spec }
      else w.modules[k]? :=
  Array.getElem?_modify ..

theorem moduleAttribute?_changeModule_of_ne {m k : ModuleId} (h : k ≠ m)
    (f : ModuleRecord → ModuleRecord) (n : String) :
    (w.changeModule m f).moduleAttribute? k n = w.moduleAttribute? k n := by
  rw [moduleAttribute?, getElem?_changeModule, if_neg (Ne.symm h)]
  rfl

theorem moduleAttribute?_put_self {m : ModuleId} (h : m < w.modules.size) (n : String) (v : Value) :
    (w.changeModule m (·.put n v)).moduleAttribute? m n = some v := by
  rw [moduleAttribute?, getElem?_changeModule, if_pos rfl, Array.getElem?_eq_getElem h]
  exact ModuleRecord.attribute?_put_self _ n v

theorem lt_size_of_kept {w : World} {m : ModuleId} {n : String} {v : Value}
    (h : w.moduleAttribute? m n = some v) : m < w.modules.size := by
  refine Nat.lt_of_not_le fun hge => ?_
  rw [moduleAttribute?, Array.getElem?_eq_none hge] at h
  cases h

/-- To bind a name in a module changes what it keeps under that name. -/
theorem moduleAttribute?_put {m : ModuleId} (h : m < w.modules.size) (n : String) (v : Value)
    (k : String) :
    (w.changeModule m (·.put n v)).moduleAttribute? m k =
      if n = k then some v else w.moduleAttribute? m k := by
  by_cases hk : n = k
  · rw [if_pos hk, ← hk, w.moduleAttribute?_put_self h]
  · rw [if_neg hk, moduleAttribute?, getElem?_changeModule, if_pos rfl, Array.getElem?_eq_getElem h,
      moduleAttribute?_of_get (Array.getElem?_eq_getElem h)]
    exact ModuleRecord.attribute?_put_of_ne (Ne.symm hk) _ v

end World

namespace Script

variable {again : Caller} {m : ModuleId} {n : String} {v : Value} {r : ModuleRecord} {s : Loom}

/-- Names that every module has before its body is run, or answers to whatever it holds. -/
def isTold (n : String) : Bool :=
  firstNames.contains n ||
    ["__getattr__", builtinsName, "__class__", "__module__", "__dict__", "__weakref__"].contains n ||
    (World.firstListing? n [.standard "module", .standard "object"]).isSome

theorem run_readName?_kept (h : s.world.moduleAttribute? m n = some v) :
    (readName? m n).run s = .ok (some v) s := by
  unfold World.moduleAttribute? at h
  cases hr : s.world.modules[m]? with
  | none =>
      rw [hr] at h
      cases h
  | some r =>
      rw [hr] at h
      rw [readName?, Act.run_bind_ok (Act.run_world s), World.getD_of_get hr]
      dsimp only at h ⊢
      rw [h]
      rfl

theorem run_readModuleName?_kept (h : s.world.moduleAttribute? m n = some v) :
    (readModuleName? m n).run s = .ok (some v) s := by
  rw [readModuleName?, Act.run_bind_ok (run_readName?_kept h)]
  rfl

theorem run_readModuleName?_missing (hr : s.world.modules[m]? = some r)
    (hplain : r.standard = none) (hn : n ≠ builtinsName) (h : r.attribute? n = none) :
    (readModuleName? m n).run s = .ok none s := by
  have hread : (readName? m n).run s = .ok none s := by
    have hwritten : r.written? n = none := by rw [ModuleRecord.written?, hplain]
    rw [readName?, Act.run_bind_ok (Act.run_world s), World.getD_of_get hr]
    dsimp only
    rw [h, hwritten]
    rfl
  rw [readModuleName?, Act.run_bind_ok hread]
  dsimp only
  rw [Act.run_bind_ok (Act.run_world s)]
  simp only [hn, decide_false, Bool.false_and, Bool.false_eq_true, if_false]
  rfl

theorem lineage_module (w : World) :
    w.lineage (.standard "module") = [.standard "module", .standard "object"] := rfl

theorem isOf_module (w : World) (m : ModuleId) {key : String} (hmodule : key ≠ "module")
    (hobject : key ≠ "object") : w.isOf (.module m) key = false := by
  rw [World.isOf, World.typeOf, lineage_module]
  simp [hmodule, hobject]

/-- A module is read by what it has itself. -/
theorem run_readFound_module (again : Caller) (m : ModuleId) (n : String) (s : Loom) :
    (readFound again (.module m) n).run s = (readOwn (.module m) n).run s := by
  have hform : isForm s.world (.module m) = false := by
    rw [isForm, isOf_module _ _ (by decide) (by decide), isOf_module _ _ (by decide) (by decide)]
    rfl
  have hnone : (standsFor? s.world (.module m)).or (methodSource? s.world (.module m)) = none := rfl
  rw [readFound, Act.run_bind_ok (Act.run_world s)]
  dsimp only
  rw [readAttribute, Act.run_bind_ok (Act.run_world s), readThrough,
    Act.run_bind_ok (Act.run_world s), hnone]
  dsimp only
  rw [readLast, Act.run_bind_ok (Act.run_world s), hform]
  rfl

/-- What a module keeps under a name is read from it. -/
theorem run_readHooked_kept (again : Caller) (h : s.world.moduleAttribute? m n = some v) :
    (readHooked again (.module m) n).run s = .ok v s := by
  have hown : (readOwn (.module m) n).run s = .ok v s := by
    rw [readOwn, Act.run_bind_ok (Act.run_world s)]
    dsimp only
    rw [Act.run_bind_ok (run_readModuleName?_kept h)]
    rfl
  have hfound : (readFound again (.module m) n).run s = .ok v s :=
    (run_readFound_module again m n s).trans hown
  exact Act.run_tryCatch_ok hfound

/-- Nothing is told of modules under a name that not every module answers to. -/
theorem run_readListed?_module (hn : isTold n = false) (m : ModuleId) (s : Loom) :
    (readListed? (.module m) n).run s = .ok none s := by
  simp only [isTold, Bool.or_eq_false_iff, List.contains_eq_mem, decide_eq_false_iff_not,
    Option.isSome_eq_false_iff, Option.isNone_iff_eq_none] at hn
  obtain ⟨⟨hfirst, hown⟩, hlisting⟩ := hn
  have hpart : (partOf? (.module m) n).run s = .ok none s := by
    rw [partOf?, Act.run_bind_ok (Act.run_world s)]
    have hnone : s.world.part? (.module m) n = none := rfl
    have hlisted : listedPart? n (.module m) = none := rfl
    have hbuiltins : n ≠ builtinsName := by
      rintro rfl
      exact hown (by decide)
    rw [hnone, hlisted]
    simp only [hbuiltins, decide_false, Bool.false_and, Bool.false_eq_true, if_false]
    rfl
  have hentry : s.world.classEntry? (.standard "module") n = none := by
    rw [World.classEntry?, if_neg, lineage_module, hlisting]
    rintro rfl
    exact hfirst (by decide)
  have hclass : s.world.typeOf (.module m) = .standard "module" := rfl
  rw [readListed?, Act.run_bind_ok hpart]
  dsimp only
  rw [Act.run_bind_ok (Act.run_world s), hclass, hentry]
  split
  · exact absurd (by decide) hown
  · exact absurd (by decide) hfirst
  · exact absurd (by decide) hown
  · exact absurd (by decide) hown
  · next heq => cases heq
  · rw [askedMethods?, Act.run_bind_ok (Act.run_world s), if_neg]
    · rfl
    · exact Bool.eq_false_iff.mp rfl

/-- A name that a module without a hook of its own does not keep is missing. -/
theorem run_readHooked_missing (again : Caller) (hr : s.world.modules[m]? = some r)
    (hplain : r.standard = none) (hhook : r.attribute? "__getattr__" = none)
    (hn : isTold n = false) (h : r.attribute? n = none) :
    (readHooked again (.module m) n).run s = .error (.script (missingInModule r n)) s := by
  have hown : (readOwn (.module m) n).run s = .error (.script (missingInModule r n)) s := by
    have hbuiltins : n ≠ builtinsName := by
      rintro rfl
      exact absurd hn (by decide)
    rw [readOwn, Act.run_bind_ok (Act.run_world s)]
    dsimp only
    rw [Act.run_bind_ok (run_readModuleName?_missing hr hplain hbuiltins h)]
    split
    · next heq => exact nomatch heq
    · exact absurd hn (by decide)
    · rw [Act.run_bind_ok (run_readListed?_module hn m s), World.getD_of_get hr]
      rfl
  have hfound : (readFound again (.module m) n).run s =
      .error (.script (missingInModule r n)) s :=
    (run_readFound_module again m n s).trans hown
  have hhooked : attributeHook? s.world (.module m) = none := by
    rw [attributeHook?, World.moduleAttribute?_of_get hr, hhook]
  rw [readHooked, Act.run_tryCatch_error hfound, Act.run_bind_ok (Act.run_world s), hhooked]
  split
  · next heq => exact nomatch heq
  · rfl

/-- What is said then is that an attribute is missing. -/
theorem isMissingAttribute_missingInModule (w : World) (r : ModuleRecord) (n : String) :
    (Fault.script (missingInModule r n)).isMissingAttribute w = true := by
  have hcls : (Fault.script (missingInModule r n)).cls = .standard "AttributeError" := by
    unfold missingInModule
    dsimp only
    split
    · rfl
    · split
      · rfl
      · split <;> rfl
  rw [Fault.isMissingAttribute, hcls, World.isSubclass, World.lineage]
  simp

namespace Frame

variable {f : Frame}

theorem key_of_public (hsecret : f.secret = none) (n : String) : f.key n = n := by
  rw [Frame.key, hsecret, privateName]

theorem run_global_kept (h : s.world.moduleAttribute? f.globals n = some v) :
    (f.global n).run s = .ok v s := by
  rw [Frame.global, Act.run_bind_ok (run_readModuleName?_kept h)]
  rfl

/-- In a module a name is read as what the module keeps. -/
theorem run_read_kept (hplace : f.place = .module) (hsecret : f.secret = none)
    (hn : n ≠ fixedName) (h : s.world.moduleAttribute? f.globals n = some v) :
    (f.read n).run s = .ok v s := by
  rw [Frame.read, key_of_public hsecret, if_neg hn, hplace]
  exact run_global_kept h

/-- In a module a name is bound in the module. -/
theorem run_bind_module (hplace : f.place = .module) (hsecret : f.secret = none) (n : String)
    (v : Value) (s : Loom) :
    (f.bind n v).run s = .ok f (s.changeModule f.globals (·.put n v)) := by
  rw [Frame.bind, key_of_public hsecret, hplace]
  rfl

end Frame

end Script

end FragmentWeaver
