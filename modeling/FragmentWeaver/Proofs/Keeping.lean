import FragmentWeaver.Loading.Unit
import FragmentWeaver.Toolchain.Interpreter

/-!
# What runs keep

A relation between the state before a run and the state after it is kept by a run when it is kept by
the parts of the run. Every relation in question holds of what code does. Relations that only look at
the files, and at what the requests share, the store and the allocators, are kept by everything that is
done to load a unit.
-/

namespace FragmentWeaver

namespace Loom

/-- A relation between states that holds of what code does and of what is reported on the side, and of
    one such step after another. -/
structure IsCodeFrame (P : Loom → Loom → Prop) : Prop where
  trans : ∀ {s t u : Loom}, P s t → P t u → P s u
  follows : ∀ {s t : Loom}, s.Follows t → P s t
  reports : ∀ (s : Loom) (records : List LogRecord), P s { s with log := s.log ++ records }

/-- A relation between states that holds of what code does, and of everything that leaves alone the
    files and what the requests share. -/
structure IsLoadFrame (P : Loom → Loom → Prop) : Prop where
  trans : ∀ {s t u : Loom}, P s t → P t u → P s u
  follows : ∀ {s t : Loom}, s.Follows t → P s t
  aside : ∀ {s t : Loom}, t.store = s.store → t.allocators = s.allocators →
    t.touched = s.touched → t.files = s.files → t.around = s.around → P s t

/-- A relation between states that holds of what code does, and of everything that leaves alone what
    the requests share. -/
structure IsFrame (P : Loom → Loom → Prop) : Prop where
  trans : ∀ {s t u : Loom}, P s t → P t u → P s u
  follows : ∀ {s t : Loom}, s.Follows t → P s t
  aside : ∀ {s t : Loom}, t.store = s.store → t.allocators = s.allocators →
    t.touched = s.touched → P s t

/-- A relation between states that holds of what code does, and of everything that leaves alone what
    the requests share, the modules and the contexts that imports ask. -/
structure IsOuterFrame (P : Loom → Loom → Prop) : Prop where
  trans : ∀ {s t u : Loom}, P s t → P t u → P s u
  follows : ∀ {s t : Loom}, s.Follows t → P s t
  aside : ∀ {s t : Loom}, t.store = s.store → t.allocators = s.allocators →
    t.touched = s.touched → t.world = s.world → t.contexts = s.contexts → t.asked = s.asked →
    t.edits = s.edits → P s t

variable {P : Loom → Loom → Prop}

theorem IsLoadFrame.code (hP : IsLoadFrame P) : IsCodeFrame P :=
  ⟨hP.trans, hP.follows, fun _ _ => hP.aside rfl rfl rfl rfl rfl⟩

theorem IsFrame.load (hP : IsFrame P) : IsLoadFrame P :=
  ⟨hP.trans, hP.follows, fun hstore hallocators htouched _ _ =>
    hP.aside hstore hallocators htouched⟩

theorem IsFrame.code (hP : IsFrame P) : IsCodeFrame P := hP.load.code

theorem IsFrame.outer (hP : IsFrame P) : IsOuterFrame P :=
  ⟨hP.trans, hP.follows, fun hstore hallocators htouched _ _ _ _ =>
    hP.aside hstore hallocators htouched⟩

theorem IsOuterFrame.code (hP : IsOuterFrame P) : IsCodeFrame P :=
  ⟨hP.trans, hP.follows, fun _ _ => hP.aside rfl rfl rfl rfl rfl rfl rfl⟩

end Loom

namespace Run

variable {α β : Type} {P : Loom → Loom → Prop}

/-- Every run of an action keeps a relation between the states before and after it, whether the
    action gives a value or stops. -/
def Keeps (P : Loom → Loom → Prop) (a : Run α) : Prop :=
  ∀ s : Loom, P s (a.final s)

theorem Keeps.pure (hP : Loom.IsCodeFrame P) (x : α) : Keeps P (Pure.pure x) := fun s =>
  hP.follows (.refl s)

theorem Keeps.fail (hP : Loom.IsCodeFrame P) (f : Fault) : Keeps P (Run.fail f : Run α) := fun s =>
  hP.follows (.refl s)

theorem Keeps.lift (hP : Loom.IsCodeFrame P) (r : Except Fault α) : Keeps P (Run.lift r) := by
  cases r with
  | ok x => exact .pure hP x
  | error f => exact .fail hP f

theorem Keeps.get (hP : Loom.IsCodeFrame P) : Keeps P (MonadState.get : Run Loom) := fun s =>
  hP.follows (.refl s)

/-- Code keeps the relation. -/
theorem Keeps.act (hP : Loom.IsCodeFrame P) (a : Act α) : Keeps P (liftM a : Run α) := fun s =>
  hP.follows (a.follows s)

theorem Keeps.bind (hP : Loom.IsCodeFrame P) {a : Run α} {next : α → Run β} (ha : Keeps P a)
    (hnext : ∀ x, Keeps P (next x)) : Keeps P (a >>= next) := by
  intro s
  rw [final_bind]
  cases a.outcome s with
  | ok x => exact hP.trans (ha s) (hnext x _)
  | error f => exact ha s

theorem Keeps.tryCatch (hP : Loom.IsCodeFrame P) {a : Run α} {handler : Fault → Run α}
    (ha : Keeps P a) (hhandler : ∀ f, Keeps P (handler f)) :
    Keeps P (MonadExcept.tryCatch a handler) := by
  intro s
  rw [final_tryCatch]
  cases a.outcome s with
  | ok x => exact ha s
  | error f => exact hP.trans (ha s) (hhandler f _)

theorem Keeps.andFinally (hP : Loom.IsCodeFrame P) {a : Run α} {last : Run β} (ha : Keeps P a)
    (hlast : Keeps P last) : Keeps P (andFinally a last) := by
  refine .bind hP (.tryCatch hP (.bind hP ha fun x => .pure hP _) fun f => .pure hP _) fun r => ?_
  cases r with
  | ok x => exact .bind hP hlast fun _ => .pure hP x
  | error f => exact .bind hP hlast fun _ => .fail hP f

theorem Keeps.world (hP : Loom.IsCodeFrame P) : Keeps P Run.world :=
  .bind hP (.get hP) fun _ => .pure hP _

theorem Keeps.report (hP : Loom.IsCodeFrame P) (records : List LogRecord) :
    Keeps P (Run.report records) := fun s =>
  hP.reports s records

theorem final_withFiles (f : Files.Tree → Surroundings → Except Fault α × Files.Tree) (s : Loom) :
    (withFiles f).final s = { s with files := (f s.files s.around).2 } := by
  unfold withFiles
  simp only [final_bind, outcome_get, final_get, outcome_set, final_set, final_lift]

theorem outcome_withFiles (f : Files.Tree → Surroundings → Except Fault α × Files.Tree) (s : Loom) :
    (withFiles f).outcome s = (f s.files s.around).1 := by
  unfold withFiles
  simp only [outcome_bind, outcome_get, final_get, outcome_set, outcome_lift]

theorem Keeps.withFiles (hP : Loom.IsOuterFrame P)
    (f : Files.Tree → Surroundings → Except Fault α × Files.Tree) : Keeps P (withFiles f) := by
  intro s
  rw [final_withFiles]
  exact hP.aside rfl rfl rfl rfl rfl rfl rfl

end Run

namespace Host

variable {P : Loom → Loom → Prop}

/-- Everything that a host does keeps a relation. -/
structure Keeps (P : Loom → Loom → Prop) (h : Host) : Prop where
  showSource : ∀ filename source, (h.showSource filename source).Keeps P
  failed : ∀ f, (h.failed f).Keeps P

/-- A host that fails is reported, and that keeps the relation as well. -/
theorem keeps_act (hP : Loom.IsCodeFrame P) {action : Run Unit} (h : action.Keeps P) (r : LogRecord) :
    (act action r).Keeps P := by
  refine .tryCatch hP h fun f => .bind hP (.world hP) fun w => ?_
  split
  · exact .report hP _
  · exact .fail hP f

theorem Keeps.shown {h : Host} (hP : Loom.IsCodeFrame P) (hh : h.Keeps P) (unit : UnitId)
    (filename source : String) : (h.shown unit filename source).Keeps P :=
  keeps_act hP (hh.showSource filename source) _

theorem Keeps.told {h : Host} (hP : Loom.IsCodeFrame P) (hh : h.Keeps P) (unit : UnitId) (f : Fault) :
    (told (some h) unit f).Keeps P :=
  keeps_act hP (hh.failed f) _

theorem silent_keeps (hP : Loom.IsLoadFrame P) : silent.Keeps P where
  showSource _ _ := .pure hP.code _
  failed _ := .pure hP.code _

theorem console_keeps (hP : Loom.IsLoadFrame P) : console.Keeps P where
  showSource _ source :=
    have hprint (text : String) : (Run.print text).Keeps P := fun _ => hP.aside rfl rfl rfl rfl rfl
    .bind hP.code (hprint banner) fun _ => .bind hP.code (hprint _) fun _ =>
      .bind hP.code (hprint source) fun _ => hprint bannerEnd
  failed _ := .pure hP.code _

theorem recording_keeps (hP : Loom.IsLoadFrame P) : recording.Keeps P where
  showSource _ _ _ := hP.aside rfl rfl rfl rfl rfl
  failed _ _ := hP.aside rfl rfl rfl rfl rfl

theorem gone_keeps (hP : Loom.IsLoadFrame P) : gone.Keeps P where
  showSource filename source := .bind hP.code ((recording_keeps hP).showSource filename source)
    fun _ => .fail hP.code _
  failed f := .bind hP.code ((recording_keeps hP).failed f) fun _ => .fail hP.code _

end Host

namespace Toolchain

variable {P : Loom → Loom → Prop}

/-- Everything that a toolchain does keeps a relation. -/
def Keeps (P : Loom → Loom → Prop) (t : Toolchain) : Prop :=
  ∀ source searchPath directory, (t.compile source searchPath directory).Keeps P

theorem interpreter_keeps (hP : Loom.IsOuterFrame P) (i : Interpreter) :
    (Interpreter.toolchain i).Keeps P := by
  intro source searchPath directory
  dsimp only [Interpreter.toolchain]
  apply Run.Keeps.withFiles hP

end Toolchain

namespace Loading

variable {α : Type} {P : Loom → Loom → Prop}

theorem keeps_contextOf (hP : Loom.IsLoadFrame P) (c : Nat) : (contextOf c).Keeps P :=
  .bind hP.code (.get hP.code) fun _ => .pure hP.code _

theorem keeps_changeContext (hP : Loom.IsLoadFrame P) (c : Nat) (f : Context → Context) :
    (changeContext c f).Keeps P := fun _ =>
  hP.aside rfl rfl rfl rfl rfl

theorem keeps_newContext (hP : Loom.IsLoadFrame P) (root : Files.Path) (space : String) :
    (newContext root space).Keeps P := fun _ =>
  hP.aside rfl rfl rfl rfl rfl

theorem keeps_openContext (hP : Loom.IsLoadFrame P) (c : Nat) : (openContext c).Keeps P := by
  refine .bind hP.code (keeps_contextOf hP c) fun context => ?_
  have hopen : Run.Keeps P (modify fun s : Loom =>
      if s.asked.contains (.context c) then s else { s with asked := .context c :: s.asked }) := by
    intro s
    rw [Run.final_modify]
    split
    · exact hP.aside rfl rfl rfl rfl rfl
    · exact hP.aside rfl rfl rfl rfl rfl
  split
  · exact .bind hP.code (.fail hP.code _) fun _ => hopen
  · exact hopen

theorem keeps_closeContext (hP : Loom.IsLoadFrame P) (c : Nat) : (closeContext c).Keeps P := by
  intro s
  unfold closeContext
  rw [Run.final_modify]
  split
  · exact hP.aside rfl rfl rfl rfl rfl
  · split
    · exact hP.aside rfl rfl rfl rfl rfl
    · exact hP.aside rfl rfl rfl rfl rfl

theorem keeps_describe (hP : Loom.IsLoadFrame P) (c : Nat) (name : String) :
    (describe c name).Keeps P := by
  intro s
  unfold describe
  rw [Run.final_of]
  rcases s.describe_cases c name with ⟨hsame, -⟩ | ⟨_, _, -, -, -, hgives⟩
  · rw [hsame]
    exact hP.follows (.refl s)
  · rw [hgives]
    exact hP.aside rfl rfl rfl rfl rfl

theorem keeps_enterLoaded (hP : Loom.IsLoadFrame P) (spec : ModuleSpec) :
    (enterLoaded spec).Keeps P := by
  have henter : Run.Keeps P (modifyGet fun s : Loom => s.enterNew spec false) := fun _ =>
    hP.aside rfl rfl rfl rfl rfl
  have hleave (m : ModuleId) : (leaveIf spec.name m).Keeps P := fun _ =>
    hP.aside rfl rfl rfl rfl rfl
  have hnote (e : ModuleEvent) : (Run.note e).Keeps P := fun _ => hP.aside rfl rfl rfl rfl rfl
  exact .bind hP.code henter fun m => .bind hP.code
    (.tryCatch hP.code (.act hP.code _) fun f => .bind hP.code (hleave m) fun _ =>
      .bind hP.code (hnote _) fun _ => .fail hP.code f)
    fun _ => .bind hP.code (hnote _) fun _ => .pure hP.code m

theorem keeps_load (hP : Loom.IsLoadFrame P) (c : Nat) (name : String) :
    (load c name).Keeps P := by
  refine .bind hP.code (.world hP.code) fun w => .bind hP.code (keeps_contextOf hP c)
    fun context => ?_
  split
  · exact .pure hP.code _
  · refine .bind hP.code (keeps_describe hP c name) fun spec => ?_
    split
    · exact .bind hP.code (keeps_enterLoaded hP _) fun m =>
        .bind hP.code (keeps_changeContext hP c _) fun _ => .pure hP.code m
    · exact .bind hP.code (keeps_contextOf hP c) fun _ => .fail hP.code _

theorem keeps_helperModules (hP : Loom.IsLoadFrame P) (c : Nat) (unit : UnitId) :
    (helperModules c unit).Keeps P :=
  .bind hP.code (.get hP.code) fun _ => .bind hP.code (keeps_contextOf hP c) fun _ =>
    .lift hP.code _

theorem keeps_loadAll (hP : Loom.IsLoadFrame P) (c : Nat) (names : List String) :
    (loadAll c names).Keeps P := by
  unfold loadAll
  induction names with
  | nil => exact .pure hP.code _
  | cons name names ih =>
      exact .bind hP.code (.bind hP.code (keeps_load hP c name) fun _ => .pure hP.code _) fun _ => ih

theorem keeps_factory (hP : Loom.IsLoadFrame P) (c : Nat) (unit : UnitId) :
    (factory c unit).Keeps P :=
  .bind hP.code (keeps_helperModules hP c unit) fun names => .bind hP.code (keeps_loadAll hP c names)
    fun _ => .bind hP.code (keeps_load hP c _) fun _ => .act hP.code _

/-- A step of loading a unit keeps what its action and the host keep. -/
theorem keeps_step (hP : Loom.IsCodeFrame P) {host : Host} (hhost : host.Keeps P) (unit : UnitId)
    (phase : LoadPhase) {action : Run α} (h : action.Keeps P) :
    (step (some host) unit phase action).Keeps P := by
  refine .tryCatch hP h fun f => .bind hP (.world hP) fun w => ?_
  split
  · exact .bind hP (hhost.told hP unit f) fun _ => .fail hP _
  · exact .fail hP f

/-- Loading a unit keeps what the host keeps. -/
theorem keeps_loadUnit (hP : Loom.IsLoadFrame P) {host : Host} (hhost : host.Keeps P)
    (root : Files.Path) (unit : UnitId) : (loadUnit (some host) root unit).Keeps P := by
  refine .bind hP.code (keeps_newContext hP root _) fun c => .bind hP.code (keeps_openContext hP c)
    fun _ => .andFinally hP.code ?_ (keeps_closeContext hP c)
  refine .bind hP.code (keeps_step hP.code hhost unit .load (keeps_factory hP c unit)) fun maker => ?_
  refine .bind hP.code (keeps_step hP.code hhost unit .instantiate (.act hP.code _)) fun handle => ?_
  exact .bind hP.code (keeps_contextOf hP c) fun _ => .pure hP.code _

end Loading

end FragmentWeaver
