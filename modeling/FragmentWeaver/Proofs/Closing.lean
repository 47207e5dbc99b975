import FragmentWeaver.Proofs.Leftovers
import FragmentWeaver.Proofs.Once
import FragmentWeaver.Proofs.Packages

/-!
# Imports that come late

A method that imports a module when it is called gets what the table holds by then. As long as the
context of its unit is open, the modules of the unit stand there; when it has been closed they are gone,
and nothing describes them any more, whatever else is requested meanwhile.
-/

namespace FragmentWeaver

open Script (Importer)

namespace World

variable {w v u : World} {name n : String} {m : ModuleId} {x y : Value}

/-- A world with more modules: what stood in the table stands there, what a module kept it keeps,
    and the rest is the same. -/
structure Grows (w v : World) : Prop where
  rest : v = w.withModulesOf v
  size : w.modules.size ≤ v.modules.size
  entries : ∀ {name m}, w.imported? name = some m → v.imported? name = some m
  kept : ∀ {m n x}, w.moduleAttribute? m n = some x → v.moduleAttribute? m n = some x

theorem Grows.refl (w : World) : w.Grows w := ⟨rfl, Nat.le_refl _, id, id⟩

theorem Grows.trans (h : w.Grows v) (h' : v.Grows u) : w.Grows u where
  rest := by
    rw [h'.rest, h.rest]
    rfl
  size := Nat.le_trans h.size h'.size
  entries hm := h'.entries (h.entries hm)
  kept hx := h'.kept (h.kept hx)

theorem classAttribute?_withModulesOf (w v : World) (c : ClassId) (n : String) :
    (w.withModulesOf v).classAttribute? c n = w.classAttribute? c n := rfl

theorem typeOf_withModulesOf (w v : World) (x : Value) :
    (w.withModulesOf v).typeOf x = w.typeOf x := rfl

/-- The attributes of what is no module do not depend on the modules. -/
theorem attribute?_withModulesOf (w v : World) (hx : ∀ m, x ≠ .module m) (n : String) :
    (w.withModulesOf v).attribute? x n = w.attribute? x n := by
  unfold World.attribute?
  simp only [classAttribute?_withModulesOf, typeOf_withModulesOf]
  split
  · rfl
  · next m => exact absurd rfl (hx m)
  · rfl
  · rfl

theorem Grows.attribute? (h : w.Grows v) (hx : w.attribute? x n = some y) :
    v.attribute? x n = some y := by
  by_cases hmodule : ∃ m, x = .module m
  · obtain ⟨m, rfl⟩ := hmodule
    exact h.kept hx
  · rw [h.rest, attribute?_withModulesOf w v (fun m hm => hmodule ⟨m, hm⟩), hx]

/-- Names still lead where they led. -/
theorem Grows.walk (h : w.Grows v) {parts : List String} (hwalk : w.walk x parts = some y) :
    v.walk x parts = some y := by
  induction parts generalizing x with
  | nil => exact hwalk
  | cons part rest ih =>
      rw [World.walk] at hwalk ⊢
      cases hnext : w.attribute? x part with
      | none =>
          rw [hnext] at hwalk
          cases hwalk
      | some next =>
          rw [hnext] at hwalk
          rw [h.attribute? hnext]
          split at hwalk
          · cases hwalk
          · cases hwalk
          · next heq =>
              cases heq
              exact ih hwalk

/-- A module binds a name that it did not keep. -/
theorem grows_put (hnone : w.moduleAttribute? m n = none) (x : Value) :
    w.Grows (w.changeModule m (·.put n x)) where
  rest := rfl
  size := Nat.le_of_eq (Array.size_modify ..).symm
  entries := id
  kept {k n' x'} hx := by
    by_cases hk : k = m
    · subst hk
      rw [moduleAttribute?_put w (lt_size_of_kept hx), if_neg, hx]
      rintro rfl
      cases hnone.symm.trans hx
    · rw [moduleAttribute?_changeModule_of_ne w hk, hx]

/-- A new module is entered under a name that the table did not have. -/
theorem grows_enter (hnone : w.imported? name = none) (r : ModuleRecord) :
    w.Grows ((w.newModule r).2.enter name (w.newModule r).1) where
  rest := rfl
  size := (Array.size_push r).symm ▸ Nat.le_succ _
  entries {other m} hm := by
    have hne : other ≠ name := by
      rintro rfl
      cases hnone.symm.trans hm
    exact (imported?_enter_of_ne _ hne _).trans hm
  kept {m n x} hx := by
    have hlt := lt_size_of_kept hx
    rw [moduleAttribute?_of_get (Array.getElem?_eq_getElem hlt)] at hx
    refine (moduleAttribute?_of_get ?_ n).trans hx
    exact (Array.getElem?_push_lt hlt).trans rfl

end World

namespace Loom

theorem grows_bring (s : Loom) (name : String) : s.world.Grows (s.bring name).world := by
  unfold bring
  cases hnone : s.world.imported? name with
  | some _ => exact .refl _
  | none => exact World.grows_enter hnone _

theorem grows_bringAll (s : Loom) (names : List String) :
    s.world.Grows (s.bringAll names).world := by
  unfold bringAll
  induction names generalizing s with
  | nil => exact .refl _
  | cons name rest ih => exact (s.grows_bring name).trans (ih _)

end Loom

namespace Act

variable {α β : Type} {a : Act α} {s t : Loom}

/-- An act fails in a state, and what is staged stays as it is. -/
def Refuses (a : Act α) (s : Loom) : Prop :=
  ∃ f t, a.run s = .error f t ∧ t.store = s.store

theorem refuses_fail (f : Fault) (s : Loom) : (Act.fail f : Act α).Refuses s := ⟨f, s, rfl, rfl⟩

theorem Refuses.bind (h : a.Refuses s) (next : α → Act β) : (a >>= next).Refuses s := by
  obtain ⟨f, t, hrun, hstore⟩ := h
  exact ⟨f, t, run_bind_error hrun, hstore⟩

/-- What is done before a failure changes nothing in the store. -/
theorem refuses_bind {next : α → Act β} {x : α} (hrun : a.run s = .ok x t)
    (hstore : t.store = s.store) (h : (next x).Refuses t) : (a >>= next).Refuses s := by
  obtain ⟨f, u, hnext, hu⟩ := h
  exact ⟨f, u, (run_bind_ok hrun).trans hnext, hu.trans hstore⟩

/-- A change of a module that is made at last does not hide a failure. -/
theorem Refuses.andFinally (h : a.Refuses s) (m : ModuleId) (change : ModuleRecord → ModuleRecord) :
    (andFinally a (Act.changeModule m change)).Refuses s := by
  obtain ⟨f, t, hrun, hstore⟩ := h
  have hattempt : (Except.ok <$> a : Act (Except Fault α)).run s = .error f t := by
    rw [map_eq_pure_bind]
    exact run_bind_error hrun
  exact refuses_bind (run_tryCatch_error hattempt) hstore
    (refuses_bind (t := t.changeModule m change) rfl rfl (refuses_fail f _))

/-- An act does not fail, whatever the state, and the world only grows by it. -/
def Extends (a : Act α) : Prop := ∀ s, ∃ x t, a.run s = .ok x t ∧ s.world.Grows t.world

theorem extends_pure (x : α) : (Pure.pure x : Act α).Extends := fun s => ⟨x, s, rfl, .refl _⟩

theorem Extends.bind {next : α → Act β} (h : a.Extends) (hnext : ∀ x, (next x).Extends) :
    (a >>= next).Extends := by
  intro s
  obtain ⟨x, t, hrun, hgrows⟩ := h s
  obtain ⟨y, u, hend, hgrows'⟩ := hnext x t
  exact ⟨y, u, (run_bind_ok hrun).trans hend, hgrows.trans hgrows'⟩

theorem extends_world : Act.world.Extends := fun s => ⟨s.world, s, rfl, .refl _⟩

theorem extends_forIn {γ : Type} {xs : List γ} {body : γ → PUnit → Act (ForInStep PUnit)}
    (h : ∀ x u, (body x u).Extends) : (forIn xs PUnit.unit body).Extends := by
  induction xs with
  | nil => exact extends_pure _
  | cons x rest ih =>
      rw [List.forIn_cons]
      refine (h x _).bind fun r => ?_
      cases r with
      | done _ => exact extends_pure _
      | yield _ => exact ih

end Act

namespace Loom

variable {s t : Loom} {name : String}

/-- No context is open. -/
def AllClosed (s : Loom) : Prop :=
  ∀ {c : Nat} {context : Context}, s.contexts[c]? = some context → context.closed = true

/-- It stays so when all contexts that are made are closed again. -/
theorem AllClosed.later (h : s.AllClosed) (hlater : Loading.ClosesNew s t) : t.AllClosed := by
  intro c context hc
  by_cases hlt : c < s.contexts.size
  · have hget : s.contexts[c]? = some s.contexts[c] := Array.getElem?_eq_getElem hlt
    exact hlater.stays hget hc (h hget)
  · exact hlater.closes (Nat.le_of_not_lt hlt) hc

theorem AllClosed.describeBy (h : s.AllClosed) (name : String) (cs : List Nat) :
    s.describeBy name cs = (.ok none, s) := by
  induction cs with
  | nil => rfl
  | cons c rest ih =>
      have hnone : s.describe c name = (.ok none, s) := by
        cases hc : s.contexts[c]? with
        | none =>
            unfold describe
            rw [hc]
        | some context => exact Loading.describe_of_closed hc (h hc) name
      rw [Loom.describeBy, hnone]
      exact ih

end Loom

namespace Loading

section Refused

variable {s : Loom} {name : String} (h : s.AllClosed) (hnone : s.world.imported? name = none)

include h hnone

theorem refuses_importNew (importer : Importer) : (importNew importer name).Refuses s := by
  refine Act.Refuses.bind ⟨.import (.noModule name), s, ?_, rfl⟩ _
  unfold entering
  dsimp only
  rw [Loom.entering, hnone]
  dsimp only
  rw [h.describeBy]

theorem refuses_importMember (importer : Importer) (parent simple : String) :
    (importMember importer parent simple name).Refuses s := by
  refine Act.refuses_bind (Act.run_world s) rfl ?_
  cases s.world.imported? parent with
  | none => exact Act.refuses_fail _ s
  | some p =>
      dsimp only
      split
      · exact (Act.refuses_fail _ s).bind _
      · -- Noting in the parent that the import is underway brings no description about.
        exact Act.refuses_bind (t := s.changeModule p _) rfl rfl
          (((refuses_importNew (s := s.changeModule p _) (fun hc => h hc) hnone importer).andFinally
            p _).bind _)

/-- When no context is open, a module that is not in the table cannot be imported. -/
theorem refuses_importWithin (depth : Nat) : (importWithin depth name).Refuses s := by
  induction depth generalizing name with
  | zero => exact Act.refuses_fail _ s
  | succ depth ih =>
      rw [importWithin]
      refine Act.refuses_bind (Act.run_world s) rfl ?_
      rw [hnone]
      dsimp only
      split
      · exact refuses_importNew h hnone _
      · refine Act.refuses_bind (Act.run_world s) rfl ?_
        cases hparent : s.world.imported? (UnitId.partsOf name).1 with
        | none =>
            rw [Option.isNone_none, if_pos rfl]
            exact (ih hparent).bind _
        | some p =>
            rw [Option.isNone_some, if_neg Bool.false_ne_true]
            refine Act.refuses_bind (Act.run_world s) rfl ?_
            rw [hnone]
            exact refuses_importMember h hnone _ _ _

theorem refuses_importModule : (importModule name).Refuses s := by
  unfold importModule
  split
  · exact Act.refuses_fail _ s
  · exact refuses_importWithin h hnone importDepth

end Refused

theorem extends_bindStandard (name : String) (m : ModuleId) : (bindStandard name m).Extends := by
  intro s
  unfold bindStandard
  dsimp only
  rw [Act.run_bind_ok (Act.run_world s)]
  cases s.world.imported? (UnitId.partsOf name).1 with
  | none => exact ⟨(), s, rfl, .refl _⟩
  | some p =>
      dsimp only
      rw [Act.run_bind_ok (Act.run_world s)]
      cases hnone : s.world.moduleAttribute? p (UnitId.partsOf name).2 with
      | none => exact ⟨(), _, rfl, World.grows_put hnone _⟩
      | some _ => exact ⟨(), s, rfl, .refl _⟩

theorem extends_bringAlong (part : String) : (bringAlong part).Extends := fun s =>
  ⟨(), _, rfl, s.grows_bringAll _⟩

theorem extends_settleStandard (name : String) : (settleStandard name).Extends := by
  unfold settleStandard
  refine (Act.extends_forIn fun path _ => ?_).bind fun _ => Act.extends_pure _
  dsimp only
  split
  · refine Act.extends_world.bind fun w => ?_
    split
    · split
      · exact (extends_bindStandard _ _).bind fun _ =>
          (extends_bringAlong _).bind fun _ => Act.extends_pure _
      · exact (extends_bringAlong _).bind fun _ => Act.extends_pure _
    · exact Act.extends_pure _
  · exact Act.extends_pure _

/-- What stands in the table can be imported, and the world only grows by it. -/
theorem run_importModule_of_imported {s : Loom} {name : String} {m : ModuleId} (hname : name ≠ "")
    (hm : s.world.imported? name = some m) :
    ∃ t, (importModule name).run s = .ok m t ∧ s.world.Grows t.world := by
  obtain ⟨_, t, hsettle, hgrows⟩ := extends_settleStandard name (s.note (.imported name m))
  refine ⟨t, ?_, hgrows⟩
  unfold importModule importDepth
  rw [if_neg hname, importWithin, Act.run_bind_ok (Act.run_world s), hm]
  dsimp only
  rw [Act.run_bind_ok (Act.run_found hm), Act.run_bind_ok hsettle]
  rfl

/-- Requests that are carried out one after the other leave no context open. -/
theorem closesNew_requests {requests : List (Weaver × Weaver.Task)}
    (hkeep : ∀ r ∈ requests, r.1.Keeps SameScope) (s : Loom) :
    ClosesNew s (requests.foldl (fun u r => (r.1.carryOut r.2).final u) s) := by
  induction requests generalizing s with
  | nil => exact .of_closed rfl
  | cons r rest ih =>
      obtain ⟨hfirst, hrest⟩ := List.forall_mem_cons.mp hkeep
      exact (Weaver.closesNew_carryOut hfirst r.2 s).trans (ih hrest _)

/-- What a method gets that imports a module of its unit when it is called. Until the context of the
    unit is closed it gets the module that stands in the table. When the unit has been loaded, and no
    other request is underway, the import fails without touching the store; and it fails after any
    number of later requests that have put nothing under the name. -/
theorem late_imports {host : Host} (hhost : host.Keeps (Loom.Edited []))
    (hscope : host.Keeps SameScope) (root : Files.Path) (unit : UnitId) {s : Loom}
    (hclosed : s.AllClosed) {loaded : LoadedUnit}
    (hok : (loadUnit (some host) root unit).outcome s = .ok loaded)
    (hedits : ((loadUnit (some host) root unit).final s).edits = s.edits) :
    let opened := (loadIn (some host) s.contexts.size unit).final (installed root unit.space s)
    let t := (loadUnit (some host) root unit).final s
    t = (closeContext s.contexts.size).final opened ∧
      ∀ name ∈ loadedNames { root := root, space := unit.space } s unit,
        (∃ m u, opened.world.imported? name = some m ∧
          (importModule name).run opened = .ok m u) ∧
        (importModule name).Refuses t ∧
        ∀ requests : List (Weaver × Weaver.Task), (∀ r ∈ requests, r.1.Keeps SameScope) →
          let later := requests.foldl (fun u r => (r.1.carryOut r.2).final u) t
          later.world.imported? name = none → (importModule name).Refuses later := by
  intro opened t
  have hfinal : t = (closeContext s.contexts.size).final opened :=
    final_loadUnit root s (some host) unit
  refine ⟨hfinal, fun name hname => ?_⟩
  have hdotted : name ≠ "" := by
    rintro rfl
    exact absurd (dotted_of_mem_loadedNames hname) (by decide)
  -- While the context is open, the module belongs to it.
  have howns : Owns s.contexts.size name opened := by
    have hentries := (loadIn_entries hhost (getElem?_installed root unit.space s) rfl unit).2
    rw [loadedNames_installed] at hentries
    refine hentries loaded ((outcome_loadUnit root s (some host) unit).symm.trans hok) ?_ name hname
    rw [final_loadUnit, edits_closeContext] at hedits
    rw [hedits, installed_eq]
  have hend : t.AllClosed := hclosed.later (loadUnit_closesNew hscope root unit s)
  have hgone : t.world.imported? name = none := by
    rw [hfinal]
    exact howns.close
  refine ⟨?_, refuses_importModule hend hgone, ?_⟩
  · obtain ⟨context, m, -, -, hown⟩ := howns
    have hm := ((owned?_eq_some_iff opened.world context).mp hown).1
    obtain ⟨u, hrun, -⟩ := run_importModule_of_imported hdotted hm
    exact ⟨m, u, hm, hrun⟩
  · intro requests hkeep later hlater
    exact refuses_importModule (hend.later (closesNew_requests hkeep t)) hlater

/-- A state with the compiled files of a unit whose method imports the unit's helper. -/
def lateLoom : Loom where
  world :=
    { modules := #[{ name := "builtins", attributes := [("int", .cls (.standard "int"))] }]
      table := [("builtins", 0)] }
  files :=
    [(["stage"], .directory), (["stage", "woven"], .directory),
      (["stage", "woven", "gen1.pyc"], .file (.artifact { body := [
        .classDef "gen1" [] [.define "get" [("self", none)] []
          [.importsFrom 0 ["woven", "gen1__h"] [("kept", none)], .give (some (.name "kept"))] []]
          []] })),
      (["stage", "woven", "gen1__h.pyc"], .file (.artifact { body := [
        .assign [.name "kept"] (.literal (.whole 7))] }))]

/-- The state in which the unit has been loaded and its context is open. -/
def lateOpened : Loom :=
  (loadIn (some .recording) lateLoom.contexts.size (.numbered 1)).final
    (installed (.parse "/stage") (UnitId.numbered 1).space lateLoom)

/-- The state after the request to load the unit. -/
def lateClosed : Loom :=
  (loadUnit (some .recording) (.parse "/stage") (.numbered 1)).final lateLoom

/-- What the method gives of the unit that was loaded. -/
def lateCall : Run Value := do
  let loaded ← Run.lift
    ((loadUnit (some .recording) (.parse "/stage") (.numbered 1)).outcome lateLoom)
  let method ← Script.attributeOf importModule loaded.handle "get"
  Script.callValue importModule method []

/-- A later request for the same name. -/
def lateRequests : List (Weaver × Weaver.Task) :=
  [(Weaver.specWeaver, .inline (some "return 1") [] .null [] {})]

/-- The method gives what the helper keeps as long as the context is open, and fails afterwards; another
    request does not help. -/
theorem late_imports_gen1 :
    let later := lateRequests.foldl (fun u r => (r.1.carryOut r.2).final u) lateClosed
    (∃ m u, (importModule "woven.gen1__h").run lateOpened = .ok m u) ∧
      (importModule "woven.gen1__h").Refuses lateClosed ∧
      (importModule "woven.gen1__h").Refuses later ∧
      (lateCall.outcome lateOpened).toOption = some (.whole 7) ∧
      (lateCall.outcome lateClosed).isOk = false := by
  intro later
  -- What is to be computed is put together, so that the request is carried out once.
  obtain ⟨hok, hmem, hedits, hlater, hgives, hfails⟩ :
      ((loadUnit (some .recording) (.parse "/stage") (.numbered 1)).outcome lateLoom).isOk = true ∧
        "woven.gen1__h" ∈ loadedNames
          { root := .parse "/stage", space := (UnitId.numbered 1).space } lateLoom (.numbered 1) ∧
        lateClosed.edits = lateLoom.edits ∧ later.world.imported? "woven.gen1__h" = none ∧
        (lateCall.outcome lateOpened).toOption = some (.whole 7) ∧
        (lateCall.outcome lateClosed).isOk = false := by
    decide +kernel
  have hkeep : ∀ r ∈ lateRequests, r.1.Keeps SameScope := fun r hr => by
    rw [List.mem_singleton.mp hr]
    exact Weaver.specWeaver_keeps sameScope_isOuterFrame
      ⟨fun _ _ _ => ⟨rfl, rfl⟩, fun _ _ => ⟨rfl, rfl⟩⟩
  cases hloaded : (loadUnit (some .recording) (.parse "/stage") (.numbered 1)).outcome lateLoom with
  | error f =>
      rw [hloaded] at hok
      cases hok
  | ok loaded =>
      have hclosed : lateLoom.AllClosed := fun hc => by cases hc
      obtain ⟨-, hall⟩ := late_imports recording_edited
        ⟨fun _ _ _ => ⟨rfl, rfl⟩, fun _ _ => ⟨rfl, rfl⟩⟩ (.parse "/stage") (.numbered 1) hclosed
        hloaded hedits
      obtain ⟨⟨m, u, -, hrun⟩, hrefuses, hothers⟩ := hall _ hmem
      exact ⟨⟨m, u, hrun⟩, hrefuses, hothers lateRequests hkeep hlater, hgives, hfails⟩

end Loading

end FragmentWeaver
