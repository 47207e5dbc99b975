import FragmentWeaver.Binding.Store
import FragmentWeaver.Files.Tree
import FragmentWeaver.Loading.Context
import FragmentWeaver.Surroundings
import FragmentWeaver.Unit.Allocator

/-!
# The state of a run

Everything that weaving reads and changes: the world of values, the binding store and the allocator
that all requests share, the files, the loading contexts, and what has been reported so far. An
action either gives a value or stops with a fault; in both cases its changes stay.
-/

namespace FragmentWeaver

/-- What a host is told. -/
inductive HostEvent where
  | source (filename source : String)
  | failure (kind : String)
  deriving DecidableEq, Repr

/-- A call of a toolchain that only gives a fixed answer. -/
structure ToolchainCall where
  source : String
  searchPath : String
  directory : String
  deriving DecidableEq, Repr

/-- What code itself did to the module table: it entered a module under a new name, put another module
    in the place of one, or took a name out; or it changed which description a module says it was made
    from. What imports do to the table is none of this. -/
inductive TableEdit where
  | added (name : String)
  | replaced (name : String)
  | dropped (name : String)
  | described (m : ModuleId)
  deriving DecidableEq, Repr

/-- Does every entry of the table outlive the edit? -/
def TableEdit.keepsEntries : TableEdit → Bool
  | .added _ | .described _ => true
  | .replaced _ | .dropped _ => false

/-- What became of the modules that were asked for: the body of one was started, on behalf of an import
    or not, was carried out to its end or failed; a module was found in the table by an import; and what
    was taken out of the binding store meanwhile. -/
inductive ModuleEvent where
  | started (name : String) (m : ModuleId) (byImport : Bool)
  | completed (name : String) (m : ModuleId)
  | failed (name : String) (m : ModuleId)
  | imported (name : String) (m : ModuleId)
  | took (unit : String) (name : Value)
  deriving DecidableEq

/-- The state of a run. -/
structure Loom where
  world : World := World.standard
  store : Store := {}
  /-- The allocators by number; the one that all requests share has number zero. -/
  allocators : List (Nat × Allocator) := []
  files : Files.Tree := []
  around : Surroundings := {}
  contexts : Array Context := #[]
  /-- What imports ask for descriptions, in this order. -/
  asked : List Finder := []
  nextSpec : Nat := 0
  log : List LogRecord := []
  printed : List String := []
  events : List HostEvent := []
  calls : List ToolchainCall := []
  /-- The units that code has taken values of or staged values for, in order. -/
  touched : List String := []
  /-- What code itself did to the module table, in order. -/
  edits : List TableEdit := []
  /-- What became of modules, in order. -/
  history : List ModuleEvent := []
  deriving Inhabited

/-- Remember what became of a module. -/
def Loom.note (s : Loom) (e : ModuleEvent) : Loom :=
  { s with history := s.history ++ [e] }

/-- The contexts that imports ask, in this order. -/
def Loom.finders (s : Loom) : List Nat :=
  s.asked.filterMap Finder.context?

/-- An action on the state of a run. -/
abbrev Run := EStateM Fault Loom

namespace Run

/-- Stop with a fault. -/
def fail {α : Type} (f : Fault) : Run α := throw f

/-- A result that may be a fault. -/
def lift {α : Type} : Except Fault α → Run α
  | .ok a => pure a
  | .error f => throw f

/-- The state that an action ends in, whether it gives a value or stops. -/
def final {α : Type} (a : Run α) (s : Loom) : Loom :=
  match a s with
  | .ok _ t => t
  | .error _ t => t

/-- What an action gives, or the fault that it stops with. -/
def outcome {α : Type} (a : Run α) (s : Loom) : Except Fault α :=
  match a s with
  | .ok x _ => .ok x
  | .error f _ => .error f

/-- The action that makes something of the state all at once. -/
def of {α : Type} (step : Loom → Except Fault α × Loom) : Run α := fun s =>
  match step s with
  | (.ok a, t) => .ok a t
  | (.error f, t) => .error f t

section

variable {α β : Type}

theorem run_of_outcome {a : Run α} {s : Loom} {x : α} (h : outcome a s = .ok x) :
    a s = .ok x (final a s) := by
  unfold outcome at h
  unfold final
  cases ha : a s with
  | ok y t =>
      rw [ha] at h
      cases h
      rfl
  | error f t =>
      rw [ha] at h
      cases h

@[simp]
theorem final_of (step : Loom → Except Fault α × Loom) (s : Loom) :
    final (of step) s = (step s).2 := by
  unfold final of
  rcases step s with ⟨_ | _, _⟩ <;> rfl

theorem outcome_of (step : Loom → Except Fault α × Loom) (s : Loom) :
    outcome (of step) s = (step s).1 := by
  unfold outcome of
  rcases step s with ⟨_ | _, _⟩ <;> rfl

@[simp]
theorem final_pure (a : α) (s : Loom) : final (pure a) s = s := rfl

@[simp]
theorem outcome_pure (a : α) (s : Loom) : outcome (pure a) s = .ok a := rfl

@[simp]
theorem final_throw (f : Fault) (s : Loom) : final (throw f : Run α) s = s := rfl

@[simp]
theorem outcome_throw (f : Fault) (s : Loom) : outcome (throw f : Run α) s = .error f := rfl

@[simp]
theorem final_get (s : Loom) : final (get : Run Loom) s = s := rfl

@[simp]
theorem outcome_get (s : Loom) : outcome (get : Run Loom) s = .ok s := rfl

@[simp]
theorem final_set (t s : Loom) : final (set t : Run PUnit) s = t := rfl

@[simp]
theorem outcome_set (t s : Loom) : outcome (set t : Run PUnit) s = .ok ⟨⟩ := rfl

@[simp]
theorem final_modify (f : Loom → Loom) (s : Loom) : final (modify f : Run PUnit) s = f s := rfl

@[simp]
theorem final_lift (r : Except Fault α) (s : Loom) : final (lift r) s = s := by
  cases r <;> rfl

@[simp]
theorem outcome_lift (r : Except Fault α) (s : Loom) : outcome (lift r) s = r := by
  cases r <;> rfl

@[simp]
theorem final_map (f : α → β) (a : Run α) (s : Loom) : final (f <$> a) s = final a s := by
  unfold final
  simp only [Functor.map, EStateM.map]
  cases a s <;> rfl

@[simp]
theorem outcome_map (f : α → β) (a : Run α) (s : Loom) :
    outcome (f <$> a) s = (outcome a s).map f := by
  unfold outcome
  simp only [Functor.map, EStateM.map]
  cases a s <;> rfl

theorem final_bind (a : Run α) (next : α → Run β) (s : Loom) :
    final (a >>= next) s =
      match a.outcome s with
      | .ok x => (next x).final (a.final s)
      | .error _ => a.final s := by
  unfold final outcome
  simp only [bind, EStateM.bind]
  cases a s <;> rfl

theorem outcome_bind (a : Run α) (next : α → Run β) (s : Loom) :
    outcome (a >>= next) s =
      match a.outcome s with
      | .ok x => (next x).outcome (a.final s)
      | .error f => .error f := by
  unfold final outcome
  simp only [bind, EStateM.bind]
  cases a s <;> rfl

theorem final_tryCatch (a : Run α) (handler : Fault → Run α) (s : Loom) :
    final (tryCatch a handler) s =
      match a.outcome s with
      | .ok _ => a.final s
      | .error f => (handler f).final (a.final s) := by
  unfold final outcome
  simp only [tryCatch, tryCatchThe, MonadExceptOf.tryCatch]
  delta EStateM.tryCatch
  cases a s <;> rfl

theorem outcome_tryCatch (a : Run α) (handler : Fault → Run α) (s : Loom) :
    outcome (tryCatch a handler) s =
      match a.outcome s with
      | .ok x => .ok x
      | .error f => (handler f).outcome (a.final s) := by
  unfold final outcome
  simp only [tryCatch, tryCatchThe, MonadExceptOf.tryCatch]
  delta EStateM.tryCatch
  cases a s <;> rfl

end

/-- The world of values. -/
def world : Run World := return (← get).world

/-- Change the world. -/
def changeWorld (f : World → World) : Run Unit :=
  modify fun s => { s with world := f s.world }

/-- Change the world and get something from it. -/
def withWorld {α : Type} (f : World → α × World) : Run α :=
  modifyGet fun s => let (a, w) := f s.world; (a, { s with world := w })

/-- Put something on the heap. -/
def make (c : Content) (cls : ClassId) : Run Value :=
  withWorld fun w => w.allocate c cls

/-- Report something on the side. -/
def report (records : List LogRecord) : Run Unit :=
  modify fun s => { s with log := s.log ++ records }

/-- Remember what became of a module. -/
def note (e : ModuleEvent) : Run Unit :=
  modify (·.note e)

/-- Print lines. -/
def print (text : String) : Run Unit :=
  modify fun s => { s with printed := s.printed ++ [text] }

/-- Drop the values staged for a unit; how many there were. -/
def discard (unit : UnitId) : Run Nat :=
  modifyGet fun s =>
    let (n, store) := s.store.discard unit.qualifiedName
    (n, { s with store := store })

/-- The unit that an allocator hands out next. -/
def nextUnit (allocator : Nat) : Run UnitId :=
  modifyGet fun s =>
    let (unit, a) := ((Assoc.find? s.allocators allocator).getD {}).allocate
    (unit, { s with allocators := Assoc.put s.allocators allocator a })

/-- Change the files and get something from them. -/
def withFiles {α : Type} (f : Files.Tree → Surroundings → Except Fault α × Files.Tree) : Run α := do
  let s ← get
  let (r, files) := f s.files s.around
  set { s with files := files }
  lift r

end Run

/-- Carry out an action, then a second one, whatever becomes of the first. -/
def andFinally {m : Type → Type} [Monad m] [MonadExceptOf Fault m] {α β : Type} (action : m α)
    (last : m β) : m α := do
  match ← tryCatch (Except.ok <$> action) fun f => pure (Except.error f) with
  | .ok a =>
      let _ ← last
      return a
  | .error f =>
      let _ ← last
      throw f

end FragmentWeaver
