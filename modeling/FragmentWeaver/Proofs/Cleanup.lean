import FragmentWeaver.Proofs.Keeping
import FragmentWeaver.Weaver

/-!
# What a request leaves behind

A request stages bindings, and code that it loads takes some of them. However the request ends, by a
fault of its own or with a handle, the values that are left over are dropped and no others: the store
is what it was before, without the unit of the request. The clean-up shows in nothing else.
-/

namespace FragmentWeaver

namespace Run

variable {α β : Type}

/-- The second action is carried out in the state that the first one ends in. -/
theorem final_andFinally (action : Run α) (last : Run β) (s : Loom) :
    (andFinally action last).final s = last.final (action.final s) := by
  unfold andFinally
  rw [final_bind, outcome_tryCatch, final_tryCatch, outcome_map, final_map]
  cases action.outcome s with
  | ok x =>
      simp only [Except.map, final_bind, final_pure]
      cases last.outcome (action.final s) <;> rfl
  | error f =>
      simp only [Except.map, outcome_pure, final_pure, final_bind, final_throw]
      cases last.outcome (action.final s) <;> rfl

/-- A second action that never stops with a fault does not show in the outcome. -/
theorem outcome_andFinally (action : Run α) {last : Run β}
    (hlast : ∀ s, ∃ x, last.outcome s = .ok x) (s : Loom) :
    (andFinally action last).outcome s = action.outcome s := by
  obtain ⟨y, hy⟩ := hlast (action.final s)
  unfold andFinally
  rw [outcome_bind, outcome_tryCatch, final_tryCatch, outcome_map, final_map]
  cases action.outcome s with
  | ok x => simp only [Except.map, outcome_bind, hy, outcome_pure]
  | error f => simp only [Except.map, outcome_pure, final_pure, outcome_bind, hy, outcome_throw]

end Run

namespace Loom

/-- The state of an allocator. -/
def allocator (s : Loom) (number : Nat) : Allocator :=
  (Assoc.find? s.allocators number).getD {}

/-- The state after an allocator has handed out its next unit. -/
def advanced (s : Loom) (number : Nat) : Loom :=
  { s with allocators := Assoc.put s.allocators number (s.allocator number).allocate.2 }

end Loom

namespace Run

theorem final_nextUnit (number : Nat) (s : Loom) :
    (nextUnit number).final s = s.advanced number := rfl

theorem outcome_nextUnit (number : Nat) (s : Loom) :
    (nextUnit number).outcome s = .ok (s.allocator number).allocate.1 := rfl

theorem final_discard (unit : UnitId) (s : Loom) :
    (discard unit).final s = { s with store := (s.store.discard unit.qualifiedName).2 } := rfl

theorem outcome_discard (unit : UnitId) (s : Loom) :
    (discard unit).outcome s = .ok (s.store.discard unit.qualifiedName).1 := rfl

end Run

namespace Source

end Source

namespace Weaver

variable {P : Loom → Loom → Prop}

/-- The host and the toolchain of a weaver keep a relation, whatever they are asked to do. -/
structure Keeps (P : Loom → Loom → Prop) (w : Weaver) : Prop where
  host : w.host.Keeps P
  toolchain : w.toolchain.Keeps P

theorem final_dropUnclaimed (unit : UnitId) (s : Loom) :
    ∃ log, (dropUnclaimed unit).final s =
      { s with store := (s.store.discard unit.qualifiedName).2, log := s.log ++ log } := by
  unfold dropUnclaimed
  rw [Run.final_bind, Run.outcome_discard, Run.final_discard]
  dsimp only
  split
  · exact ⟨_, rfl⟩
  · exact ⟨[], by rw [List.append_nil]; rfl⟩

theorem outcome_dropUnclaimed (unit : UnitId) (s : Loom) :
    ∃ x, (dropUnclaimed unit).outcome s = .ok x := by
  unfold dropUnclaimed
  rw [Run.outcome_bind, Run.outcome_discard]
  dsimp only
  split <;> exact ⟨_, rfl⟩

theorem keeps_purge (hP : Loom.IsOuterFrame P) (root : Files.Path) (unit : UnitId) :
    (purge root unit).Keeps P := by
  intro s
  unfold purge
  simp only [Run.final_bind, Run.outcome_get, Run.final_get, Run.outcome_set, Run.final_set,
    Run.final_lift]
  exact hP.aside rfl rfl rfl rfl rfl rfl rfl

theorem keeps_searchPathFor (hP : Loom.IsOuterFrame P) (w : Weaver) (source : Files.Path)
    (unit : UnitId) : (w.searchPathFor source unit).Keeps P := by
  refine .bind hP.code (.get hP.code) fun s => ?_
  split
  · exact .bind hP.code (.pure hP.code _) fun _ => .bind hP.code (.lift hP.code _) fun _ => .pure hP.code _
  · exact .bind hP.code (.lift hP.code _) fun _ => .bind hP.code (.lift hP.code _) fun _ => .pure hP.code _

theorem keeps_stagingRoot (hP : Loom.IsOuterFrame P) (w : Weaver) : w.stagingRoot.Keeps P :=
  .bind hP.code (.get hP.code) fun _ => .pure hP.code _

/-- Loading units keeps the relation. -/
def LoadsKeep (P : Loom → Loom → Prop) (w : Weaver) : Prop :=
  ∀ root unit, (Loading.loadUnit (some w.host) root unit).Keeps P

/-- Staging, compiling and loading a source keeps what the host, the toolchain and loading keep. -/
theorem keeps_build (hP : Loom.IsOuterFrame P) {w : Weaver} (hw : w.Keeps P) (hload : w.LoadsKeep P)
    (root : Files.Path) (unit : UnitId) (source : String) (helpers : List (String × String)) :
    (w.build root unit source helpers).Keeps P := by
  refine .bind hP.code (.withFiles hP _) fun path => .bind hP.code (keeps_purge hP root unit) fun _ =>
    .bind hP.code (keeps_searchPathFor hP w path unit) fun searchPath =>
      .bind hP.code (hw.toolchain path searchPath _) fun compiled => ?_
  split
  · exact .bind hP.code (hload root unit) fun _ => .pure hP.code _
  · exact .bind hP.code (.report hP.code _) fun _ => .pure hP.code _

theorem final_synthesize (unit : UnitId) (r : Source.Request) (s : Loom) :
    (synthesize unit r).final s =
      { s with
        store := (Source.synthesize s.world s.store unit r).2.1
        log := s.log ++ (Source.synthesize s.world s.store unit r).2.2 } := by
  unfold synthesize
  simp only [Run.final_bind, Run.outcome_get, Run.final_get, Run.outcome_set, Run.final_set,
    Run.final_lift]

theorem keeps_generate (hP : Loom.IsOuterFrame P) {w : Weaver} (hw : w.Keeps P)
    (hload : w.LoadsKeep P) {unit : UnitId} (hdrop : (dropUnclaimed unit).Keeps P) (source : String) (helpers : List (String × String)) :
    (w.generate unit source helpers).Keeps P :=
  .bind hP.code (keeps_stagingRoot hP w) fun root =>
    .andFinally hP.code (keeps_build hP hw hload root unit source helpers) hdrop

theorem keeps_weave (hP : Loom.IsOuterFrame P) {w : Weaver} (hw : w.Keeps P)
    (hload : w.LoadsKeep P) {unit : UnitId} {r : Source.Request} (hsynthesize : (synthesize unit r).Keeps P)
    (hdrop : (dropUnclaimed unit).Keeps P) (options : WeaveOptions) :
    (w.weave unit r options).Keeps P := by
  refine .bind hP.code hsynthesize fun generated => ?_
  have hgenerate := keeps_generate hP hw hload hdrop generated.source options.helpers
  split
  · exact .bind hP.code (hw.host.shown hP.code unit _ _) fun _ => hgenerate
  · exact hgenerate

/-- A request that ends with a clean-up: to weave a fragment, or to load a source as a unit for which
    bindings may have been staged. -/
inductive Task where
  | inline (fragment : Option String) (bindings : List (Value × Value)) (resultType : Value)
      (imports : List Value) (options : WeaveOptions)
  | generate (unit : UnitId) (source : String) (helpers : List (String × String))

/-- Carry out a task. -/
def carryOut (w : Weaver) : Task → Run WovenUnit
  | .inline fragment bindings resultType imports options =>
      w.weaveInline fragment bindings resultType imports options
  | .generate unit source helpers => w.generate unit source helpers

/-- The unit of a task that is carried out in a state. -/
def unitOf (w : Weaver) (s : Loom) : Task → UnitId
  | .inline .. => (s.allocator w.allocator).allocate.1
  | .generate unit .. => unit

/-- How many numbers a task takes from the allocator of the weaver. -/
def Task.count : Task → Int
  | .inline .. => 1
  | .generate .. => 0

/-- The state in which the unit of a task is known. -/
def namedState (w : Weaver) (s : Loom) : Task → Loom
  | .inline .. => s.advanced w.allocator
  | .generate .. => s

/-- What is done for a task once its unit is known, without any clean-up. -/
def pipeline (w : Weaver) (unit : UnitId) : Task → Run WovenUnit
  | .inline fragment bindings resultType imports options => do
      let generated ← synthesize unit
        { fragment := fragment, bindings := bindings, resultType := resultType,
          imports := imports, kind := .inline }
      if options.showSource then w.host.shown unit generated.filename generated.source
      w.build (← w.stagingRoot) unit generated.source options.helpers
  | .generate _ source helpers => do
      w.build (← w.stagingRoot) unit source helpers

/-- What has been done for a task when its last clean-up begins. -/
def beforeCleanup (w : Weaver) (unit : UnitId) : Task → Run WovenUnit
  | .inline fragment bindings resultType imports options =>
      w.weave unit
        { fragment := fragment, bindings := bindings, resultType := resultType,
          imports := imports, kind := .inline } options
  | .generate _ source helpers => do
      w.build (← w.stagingRoot) unit source helpers

theorem outcome_generate (w : Weaver) (unit : UnitId) (source : String)
    (helpers : List (String × String)) (s : Loom) :
    (w.generate unit source helpers).outcome s =
      (w.pipeline unit (.generate unit source helpers)).outcome s := by
  unfold generate pipeline
  rw [Run.outcome_bind, Run.outcome_bind]
  cases w.stagingRoot.outcome s with
  | ok root => exact Run.outcome_andFinally _ (outcome_dropUnclaimed unit) _
  | error f => rfl

/-- The last thing that is done for a task is to drop what is left of its unit. -/
theorem final_carryOut (w : Weaver) (task : Task) (s : Loom) :
    ∃ log, (w.carryOut task).final s =
      let t := (w.beforeCleanup (w.unitOf s task) task).final (w.namedState s task)
      { t with
        store := (t.store.discard (w.unitOf s task).qualifiedName).2
        log := t.log ++ log } := by
  cases task with
  | inline fragment bindings resultType imports options =>
      refine ⟨[], ?_⟩
      unfold carryOut weaveInline
      rw [Run.final_bind, Run.outcome_nextUnit, Run.final_nextUnit]
      dsimp only
      rw [Run.final_andFinally, Run.final_discard, List.append_nil]
      rfl
  | generate unit source helpers =>
      have hroot : w.stagingRoot.outcome s = .ok (w.root.getD (Staging.standardRoot s.around)) :=
        rfl
      have hstays : w.stagingRoot.final s = s := rfl
      have hbefore : (w.beforeCleanup unit (.generate unit source helpers)).final s =
          (w.build (w.root.getD (Staging.standardRoot s.around)) unit source helpers).final s := by
        unfold beforeCleanup
        rw [Run.final_bind, hroot, hstays]
      unfold carryOut generate
      rw [Run.final_bind, hroot, hstays]
      dsimp only
      rw [Run.final_andFinally]
      dsimp only [unitOf, namedState]
      rw [hbefore]
      exact final_dropUnclaimed unit _

/-- What is done for a task before its last clean-up keeps what its parts keep. -/
theorem keeps_untilCleanup (hP : Loom.IsOuterFrame P) {w : Weaver} (hw : w.Keeps P)
    (hload : w.LoadsKeep P) {unit : UnitId} (hsynthesize : ∀ r, (synthesize unit r).Keeps P)
    (hdrop : (dropUnclaimed unit).Keeps P) (task : Task) :
    (w.beforeCleanup unit task).Keeps P := by
  cases task with
  | inline fragment bindings resultType imports options =>
      exact keeps_weave hP hw hload (hsynthesize _) hdrop options
  | generate _ source helpers =>
      exact .bind hP.code (keeps_stagingRoot hP w) fun root =>
        keeps_build hP hw hload root unit source helpers

end Weaver

end FragmentWeaver
