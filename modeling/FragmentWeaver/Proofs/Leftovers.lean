import FragmentWeaver.Proofs.Entries
import FragmentWeaver.Proofs.HandOff
import FragmentWeaver.Proofs.Reading

/-!
# What a request leaves behind

A loading context knows its modules again by what they say of their description, and the fields of a
unit are names of its module. A field that is called like the description replaces it, and then the
context leaves the module in the table. Nothing else is left behind: as long as code does not enter
modules or take them out itself, every module that a context made is taken out with the context, unless
the module has come to say something else of its description.
-/

namespace FragmentWeaver

open Script (Importer Frame Expr exec assign)
open Source (BindingRecord)

namespace Loom

variable {s t : Loom}

end Loom

namespace Loading

variable {c : Nat} {name : String} {s : Loom}

/-- Contexts that are closed stay closed, and those that were made in between are closed. -/
structure ClosesNew (s t : Loom) : Prop where
  size : s.contexts.size ≤ t.contexts.size
  stays : ∀ {c : Nat} {before after : Context}, s.contexts[c]? = some before →
    t.contexts[c]? = some after → before.closed = true → after.closed = true
  closes : ∀ {c : Nat} {context : Context}, s.contexts.size ≤ c → t.contexts[c]? = some context →
    context.closed = true

namespace ClosesNew

variable {s t u : Loom}

theorem trans (h : ClosesNew s t) (h' : ClosesNew t u) : ClosesNew s u where
  size := Nat.le_trans h.size h'.size
  stays {c before after} hbefore hafter hclosed := by
    have hlt : c < t.contexts.size :=
      Nat.lt_of_lt_of_le (Array.getElem?_eq_some_iff.mp hbefore).1 h.size
    have hget : t.contexts[c]? = some t.contexts[c] := Array.getElem?_eq_getElem hlt
    exact h'.stays hget hafter (h.stays hbefore hget hclosed)
  closes {c context} hc hcontext := by
    by_cases hlt : c < t.contexts.size
    · have hget : t.contexts[c]? = some t.contexts[c] := Array.getElem?_eq_getElem hlt
      exact h'.stays hget hcontext (h.closes hc hget)
    · exact h'.closes (Nat.le_of_not_lt hlt) hcontext

/-- No context is made or closed. -/
theorem of_closed (h : t.contexts.map (·.closed) = s.contexts.map (·.closed)) : ClosesNew s t := by
  have hsize : t.contexts.size = s.contexts.size := by simpa using congrArg Array.size h
  refine ⟨Nat.le_of_eq hsize.symm, fun {c before after} hbefore hafter hclosed => ?_,
    fun {c context} hc hcontext => ?_⟩
  · have hget := congrArg (·[c]?) h
    simp only [Array.getElem?_map, hbefore, hafter, Option.map_some, Option.some.injEq] at hget
    exact hget.trans hclosed
  · have hlt := (Array.getElem?_eq_some_iff.mp hcontext).1
    rw [hsize] at hlt
    exact absurd hlt (Nat.not_lt_of_le hc)

theorem isOuterFrame : Loom.IsOuterFrame ClosesNew where
  trans := trans
  follows h := of_closed (sameScope_isCodeFrame.follows h).closed
  aside _ _ _ _ hcontexts _ _ := of_closed (by rw [hcontexts])

end ClosesNew

theorem sameScope_isOuterFrame : Loom.IsOuterFrame SameScope where
  trans := sameScope_isCodeFrame.trans
  follows := sameScope_isCodeFrame.follows
  aside _ _ _ _ hcontexts hasked _ := ⟨hasked, by rw [hcontexts]⟩

theorem sameScope_factory (c : Nat) (unit : UnitId) : (factory c unit).Keeps SameScope := by
  have hP := sameScope_isCodeFrame
  refine .bind hP (fun s => ?_) fun names => .bind hP (sameScope_loadAll c names) fun _ =>
    .bind hP (sameScope_load c _) fun m => .act hP _
  rw [final_helperModules]
  exact ⟨rfl, rfl⟩

theorem sameScope_loadIn {host : Host} (hhost : host.Keeps SameScope) (c : Nat) (unit : UnitId) :
    (loadIn (some host) c unit).Keeps SameScope := by
  have hP := sameScope_isCodeFrame
  refine .bind hP (keeps_step hP hhost unit .load (sameScope_factory c unit)) fun maker => ?_
  refine .bind hP (keeps_step hP hhost unit .instantiate (.act hP _)) fun handle => ?_
  exact .bind hP (fun s => ⟨rfl, rfl⟩) fun _ => .pure hP _

/-- The context of a request is closed when the request has ended. -/
theorem loadUnit_closesNew {host : Host} (hhost : host.Keeps SameScope) (root : Files.Path)
    (unit : UnitId) : (loadUnit (some host) root unit).Keeps ClosesNew := by
  intro s
  let c := s.contexts.size
  let made : Loom := { s with contexts := s.contexts.push { root := root, space := unit.space } }
  have hmade : made.contexts[c]? = some { root := root, space := unit.space } :=
    Array.getElem?_push_size
  let u := (loadIn (some host) c unit).final (installed root unit.space s)
  have hfinal : (loadUnit (some host) root unit).final s = (closeContext c).final u :=
    final_loadUnit root s (some host) unit
  have hinstalled : (installed root unit.space s).contexts = made.contexts := by rw [installed_eq]
  have hu : u.contexts.map (·.closed) = made.contexts.map (·.closed) := by
    rw [← hinstalled]
    exact (sameScope_loadIn hhost c unit _).closed
  have hloaded : ClosesNew made u := .of_closed hu
  have hsize : u.contexts.size = c + 1 := by
    have := congrArg Array.size hu
    simpa [made, c] using this
  obtain ⟨context, hc⟩ : ∃ context, u.contexts[c]? = some context :=
    ⟨_, Array.getElem?_eq_getElem (by omega)⟩
  have hopen : context.closed = false := by
    have hget := congrArg (·[c]?) hu
    simpa only [Array.getElem?_map, hc, hmade, Option.map_some, Option.some.injEq] using hget
  have hend : ((closeContext c).final u).contexts =
      u.contexts.modify c fun context => { context with closed := true, given := [] } := by
    rw [final_closeContext hc hopen]
  rw [hfinal]
  refine ⟨?_, fun {d before after} hbefore hafter hclosed => ?_, fun {d after} hd hafter => ?_⟩
  · rw [hend, Array.size_modify, hsize]
    exact Nat.le_succ _
  · have hlt := (Array.getElem?_eq_some_iff.mp hbefore).1
    have hne : c ≠ d := Nat.ne_of_gt hlt
    rw [hend, Array.getElem?_modify, if_neg hne] at hafter
    have hbefore' : made.contexts[d]? = some before := by
      rw [← hbefore]
      exact Array.getElem?_push_lt hlt |>.trans (Array.getElem?_eq_getElem hlt).symm
    exact hloaded.stays hbefore' hafter hclosed
  · have hlt := (Array.getElem?_eq_some_iff.mp hafter).1
    rw [hend, Array.size_modify, hsize] at hlt
    have heq : c = d := Nat.le_antisymm hd (Nat.le_of_lt_succ hlt)
    subst heq
    rw [hend, Array.getElem?_modify, if_pos rfl, hc] at hafter
    cases hafter
    rfl

end Loading

namespace Weaver

/-- A whole task keeps what loading keeps, if that does not look at the store, the allocators and what
    is reported. -/
theorem keeps_carryOut {P : Loom → Loom → Prop} (hP : Loom.IsOuterFrame P) {w : Weaver}
    (hw : w.Keeps P) (hload : w.LoadsKeep P)
    (hblind : ∀ {s t : Loom}, t.world = s.world → t.contexts = s.contexts → t.edits = s.edits → P s t)
    (task : Task) : (w.carryOut task).Keeps P := by
  have hsynthesize (unit : UnitId) (r : Source.Request) : (synthesize unit r).Keeps P := by
    intro s
    rw [final_synthesize]
    exact hblind rfl rfl rfl
  have hdrop (unit : UnitId) : (dropUnclaimed unit).Keeps P := by
    intro s
    obtain ⟨log, hfinal⟩ := final_dropUnclaimed unit s
    rw [hfinal]
    exact hblind rfl rfl rfl
  intro s
  obtain ⟨log, hfinal⟩ := final_carryOut w task s
  have hnamed : P s (w.namedState s task) := by
    cases task <;> exact hblind rfl rfl rfl
  have hbefore := keeps_untilCleanup hP hw hload (hsynthesize (w.unitOf s task)) (hdrop _) task
    (w.namedState s task)
  rw [hfinal]
  exact hP.trans (hP.trans hnamed hbefore) (hblind rfl rfl rfl)

/-- However a task ends, the contexts that were made for it are closed. -/
theorem closesNew_carryOut {w : Weaver} (hw : w.Keeps Loading.SameScope) (task : Task) :
    (w.carryOut task).Keeps Loading.ClosesNew := by
  have hclosed {s t : Loom} (h : Loading.SameScope s t) : Loading.ClosesNew s t := .of_closed h.closed
  have hkeeps : w.Keeps Loading.ClosesNew :=
    ⟨⟨fun _ _ s => hclosed (hw.host.showSource _ _ s), fun _ s => hclosed (hw.host.failed _ s)⟩,
      fun _ _ _ s => hclosed (hw.toolchain _ _ _ s)⟩
  exact keeps_carryOut Loading.ClosesNew.isOuterFrame hkeeps
    (fun root unit => Loading.loadUnit_closesNew hw.host root unit)
    (fun _ hcontexts _ => .of_closed (by rw [hcontexts])) task

end Weaver

namespace Loom

/-- What a context goes by when it looks for its modules is the same in two states. -/
structure SameClaims (s t : Loom) : Prop where
  table : t.world.table = s.world.table
  contexts : t.contexts = s.contexts
  specs : ∀ m, t.world.specOf? m = s.world.specOf? m

theorem SameClaims.refl (s : Loom) : s.SameClaims s := ⟨rfl, rfl, fun _ => rfl⟩

theorem SameClaims.trans {s t u : Loom} (h : s.SameClaims t) (h' : t.SameClaims u) :
    s.SameClaims u :=
  ⟨h'.table.trans h.table, h'.contexts.trans h.contexts, fun m => (h'.specs m).trans (h.specs m)⟩

theorem SameModules.sameClaims {s t : Loom} (h : s.SameModules t) : s.SameClaims t :=
  ⟨h.table, h.contexts, fun m => by rw [World.specOf?, h.modules, ← World.specOf?]⟩

end Loom

namespace ModuleRecord

/-- What a module says of its description does not depend on its other names. -/
theorem claimedSpec?_put_of_ne {n : String} (h : n ≠ "__spec__") (r : ModuleRecord) (v : Value) :
    (r.put n v).claimedSpec? = r.claimedSpec? := by
  unfold claimedSpec?
  rw [r.attribute?_put_of_ne (Ne.symm h)]

end ModuleRecord

namespace Act

variable {α β : Type}

/-- An act that does not touch what contexts go by when they look for their modules. -/
def Quiet (a : Act α) : Prop :=
  ∀ s : Loom, s.SameClaims (a.run.final s)

theorem Calm.quiet {a : Act α} (h : Calm a) : Quiet a := fun s => (h s).sameClaims

theorem Quiet.bind {a : Act α} {next : α → Act β} (ha : Quiet a) (hnext : ∀ x, Quiet (next x)) :
    Quiet (a >>= next) := by
  intro s
  rw [run_bind, Run.final_bind]
  cases a.run.outcome s with
  | ok x => exact (ha s).trans (hnext x _)
  | error f => exact ha s

/-- Only one name of a module tells of its description. -/
theorem Quiet.setModuleAttribute (m : ModuleId) {n : String} (hn : n ≠ "__spec__") (v : Value) :
    Quiet (Act.setModuleAttribute m n v) := by
  intro s
  have hfinal : (Act.setModuleAttribute m n v).run.final s = s.changeModule m (·.put n v) := rfl
  rw [hfinal]
  refine ⟨rfl, rfl, fun k => ?_⟩
  by_cases hk : k = m
  · subst hk
    change ((s.world.changeModule k (·.put n v)).specOf? k) = _
    unfold World.specOf? World.changeModule
    rw [Array.getElem?_modify, if_pos rfl]
    cases s.world.modules[k]? with
    | none => rfl
    | some r => exact r.claimedSpec?_put_of_ne hn v
  · exact World.specOf?_changeModule_of_ne _ hk _

end Act

namespace Script

open Act (Calm Quiet)
open Source (BindingRecord)

/-- What becomes of the description of a module when it is given a field: it is replaced by the value
    of a field with its name, and by nothing else. -/
structure SetsField (f : Frame) (r : BindingRecord) (y : Value) (s t : Loom) : Prop where
  table : t.world.table = s.world.table
  contexts : t.contexts = s.contexts
  other : Text.composed r.name ≠ "__spec__" →
    t.world.specOf? f.globals = s.world.specOf? f.globals
  self : Text.composed r.name = "__spec__" →
    ∀ n, t.world.specOf? f.globals = some n → y = .spec n

section Fields

variable {importer : Importer} {depth : Nat} {f : Frame} {declared : BindingRecord → Expr}
  (hplace : f.place = .module) (hsecret : f.secret = none) (hpostponed : f.mode.postponed = true)

include hplace hsecret hpostponed

end Fields

end Script

/-- The module of a frame stands in the table under a name, and a context knows it as its own. The
    frame is that of a module whose declarations are kept as texts. -/
structure Script.Stands (f : Frame) (c : Nat) (context : Context) (name : String) (s : Loom) :
    Prop where
  place : f.place = .module
  secret : f.secret = none
  postponed : f.mode.postponed = true
  get : s.contexts[c]? = some context
  isOpen : context.closed = false
  owned : Loading.owned? s.world context name = some f.globals

/-- What the fields that were carried out since a state have done to the description of their
    module. -/
structure Script.Told (f : Frame) (context : Context) (name : String) (s : Loom)
    (done : List BindingRecord) (t : Loom) : Prop where
  table : t.world.table = s.world.table
  contexts : t.contexts = s.contexts
  kept : (∀ r ∈ done, Text.composed r.name ≠ "__spec__") →
    t.world.specOf? f.globals = s.world.specOf? f.globals
  lost : (∃ r ∈ done, Text.composed r.name = "__spec__") →
    ∀ n ∈ context.givenFor name, t.world.specOf? f.globals ≠ some n

namespace Script.Told

variable {f : Frame} {context : Context} {name : String} {s t t' : Loom}

theorem start : Told f context name s [] s :=
  ⟨rfl, rfl, fun _ => rfl, fun ⟨_, h, _⟩ => nomatch h⟩

/-- What one more field does. -/
theorem step {done : List BindingRecord} {r : BindingRecord} {y : Value}
    (h : Told f context name s done t) (hset : SetsField f r y t t')
    (hy : ∀ n ∈ context.givenFor name, y ≠ .spec n) :
    Told f context name s (done ++ [r]) t' where
  table := hset.table.trans h.table
  contexts := hset.contexts.trans h.contexts
  kept hnames := by
    have hr := hnames r (List.mem_append_right _ (List.mem_singleton_self r))
    exact (hset.other hr).trans (h.kept fun r' hr' => hnames r' (List.mem_append_left _ hr'))
  lost := by
    rintro ⟨r', hr', hname⟩ n hn hspec
    by_cases hlast : Text.composed r.name = "__spec__"
    · exact hy n hn (hset.self hlast n hspec)
    · rcases List.mem_append.mp hr' with hr' | hr'
      · exact h.lost ⟨r', hr', hname⟩ n hn ((hset.other hlast).symm.trans hspec)
      · exact hlast (List.mem_singleton.mp hr' ▸ hname)

/-- When the context is closed after the fields, the module goes exactly if none of them is called
    like the description. -/
theorem close {c : Nat} {rs : List BindingRecord} (hstands : Stands f c context name s)
    (h : Told f context name s rs t) :
    ((Loading.closeContext c).final t).world.imported? name = none ↔
      ∀ r ∈ rs, Text.composed r.name ≠ "__spec__" := by
  obtain ⟨hm, n, hn, hmem⟩ := (Loading.owned?_eq_some_iff s.world context).mp hstands.owned
  have hc : t.contexts[c]? = some context := by rw [h.contexts, hstands.get]
  have htable : t.world.imported? name = some f.globals := by
    rw [World.imported?, h.table, ← World.imported?, hm]
  rw [Loading.imported?_closeContext hc hstands.isOpen]
  constructor
  · intro hgone r hr hname
    have hown : Loading.owned? t.world context name = none := by
      cases hown : Loading.owned? t.world context name with
      | none => rfl
      | some m =>
          obtain ⟨hm', k, hk, hkmem⟩ := (Loading.owned?_eq_some_iff t.world context).mp hown
          rw [htable] at hm'
          cases hm'
          exact absurd hk (h.lost ⟨r, hr, hname⟩ k hkmem)
    rw [hown, htable] at hgone
    cases hgone
  · intro hnames
    have hspec : t.world.specOf? f.globals = some n := (h.kept hnames).trans hn
    have hown : Loading.owned? t.world context name = some f.globals :=
      (Loading.owned?_eq_some_iff t.world context).mpr ⟨htable, n, hspec, hmem⟩
    rw [hown]
    rfl

end Script.Told

namespace Weaver

section Spec

/-- The compiled file of a unit that ends with such a field. -/
def specArtifact : Script.Artifact :=
  { body := [.assign [.name "gen1"] (.name "int"),
      .assign [.name "__spec__"] (.literal (.whole 7))] }

/-- A weaver whose toolchain writes that file. -/
def specWeaver : Weaver where
  root := some (.parse "/stage")
  host := .recording
  searchPath := some ""
  toolchain :=
    { compile := fun _ _ _ => do
        modify fun s => { s with
          files := Assoc.put s.files ["stage", "woven", "gen1.pyc"] (.file (.artifact specArtifact)) }
        return { success := true } }

theorem specWeaver_keeps {P : Loom → Loom → Prop} (hP : Loom.IsOuterFrame P)
    (hhost : Host.recording.Keeps P) : specWeaver.Keeps P := by
  refine ⟨hhost, fun source searchPath directory => .bind hP.code (fun s => ?_) fun _ => .pure hP.code _⟩
  rw [Run.final_modify]
  exact hP.aside rfl rfl rfl rfl rfl rfl rfl

end Spec

end Weaver

end FragmentWeaver
