import FragmentWeaver.Chronicle
import FragmentWeaver.Origin

/-!
# What code can do

Code that is carried out changes the world of values, takes values out of the binding store or puts
them there, is given descriptions of modules by the open contexts, and reports. What it does itself to
the module table is recorded, and so is what becomes of the modules that it imports. An act is an
action that does nothing beyond that: it carries the fact with it, so that whatever is put together from
acts leaves the rest of the state alone as well.
-/

namespace FragmentWeaver

/-- A context without the descriptions that it gave out. -/
def Context.bare (c : Context) : Context := { c with given := [] }

/-- What code leaves alone between two states, apart from the modules. The store may differ in the units
    that code has touched in between, and nowhere else. -/
structure Loom.Stays (s t : Loom) : Prop where
  allocators : t.allocators = s.allocators
  files : t.files = s.files
  around : t.around = s.around
  asked : t.asked = s.asked
  printed : t.printed = s.printed
  events : t.events = s.events
  calls : t.calls = s.calls
  contexts : t.contexts.map Context.bare = s.contexts.map Context.bare
  nextSpec : s.nextSpec ≤ t.nextSpec
  log : s.log <+: t.log
  store : ∃ units, t.touched = s.touched ++ units ∧ t.store.without units = s.store.without units

/-- What code leaves alone between two states. The module table may differ in what the edits and the
    history tell. -/
structure Loom.Follows (s t : Loom) : Prop extends Loom.Stays s t where
  edited : Loom.Edited [] s t
  recounted : Loom.Recounted s t
  traces : Loom.Traces s t

namespace Loom

variable {s t u : Loom}

theorem Stays.refl (s : Loom) : s.Stays s :=
  ⟨rfl, rfl, rfl, rfl, rfl, rfl, rfl, rfl, Nat.le_refl _, List.prefix_refl _, [], by simp, rfl⟩

theorem Stays.trans (h : s.Stays t) (h' : t.Stays u) : s.Stays u := by
  obtain ⟨us, hus, hs⟩ := h.store
  obtain ⟨vs, hvs, hs'⟩ := h'.store
  refine ⟨h'.allocators.trans h.allocators, h'.files.trans h.files, h'.around.trans h.around,
    h'.asked.trans h.asked, h'.printed.trans h.printed, h'.events.trans h.events,
    h'.calls.trans h.calls, h'.contexts.trans h.contexts, Nat.le_trans h.nextSpec h'.nextSpec,
    List.IsPrefix.trans h.log h'.log, us ++ vs, by rw [hvs, hus, List.append_assoc], ?_⟩
  exact (Store.without_mono (List.subset_append_right us vs) hs').trans
    (Store.without_mono (List.subset_append_left us vs) hs)

/-- What a context describes does not depend on what code does. -/
theorem Stays.sameOffers (h : s.Stays t) : s.SameOffers t where
  asked := h.asked
  files := h.files
  around := h.around
  faces := by
    have hface : Context.face = Context.face ∘ Context.bare := rfl
    rw [hface, ← Array.map_map, h.contexts, Array.map_map]

theorem Follows.refl (s : Loom) : s.Follows s :=
  ⟨.refl s, .refl s, .refl s, .refl s⟩

theorem Follows.trans (h : s.Follows t) (h' : t.Follows u) : s.Follows u :=
  ⟨h.toStays.trans h'.toStays, h.edited.trans h'.edited,
    h.recounted.trans h.toStays.sameOffers h'.recounted h'.edited, h.traces.trans h'.traces⟩

variable (s)

/-- Code may change the heap and the classes. -/
theorem follows_values (w : World) : s.Follows { s with world := w.withModulesOf s.world } :=
  { Follows.refl s with
    edited := edited_of_same rfl rfl rfl rfl
    recounted := recounted_of_table (List.append_nil _).symm rfl fun _ => rfl
    traces := traces_of_same rfl rfl rfl rfl }

/-- Code may change what is staged for a unit that it touches, and report on it. -/
theorem follows_put {unit : String} (store : Store)
    (h : store.without [unit] = s.store.without [unit]) :
    s.Follows { s with store := store, touched := s.touched ++ [unit] } :=
  { Follows.refl s with
    store := ⟨[unit], rfl, h⟩
    edited := edited_of_same rfl rfl rfl rfl
    recounted := recounted_of_table (List.append_nil _).symm rfl fun _ => rfl
    traces := traces_of_same rfl rfl rfl rfl }

/-- Code may take a value out of what is staged for a unit that it touches, and report on it. -/
theorem follows_steal {unit : String} (store : Store)
    (h : store.without [unit] = s.store.without [unit]) (log : List LogRecord) (name : Value) :
    s.Follows
      ({ s with store := store, log := s.log ++ log, touched := s.touched ++ [unit] }.note
        (.took unit name)) :=
  { Follows.refl s with
    log := List.prefix_append ..
    store := ⟨[unit], rfl, h⟩
    edited := edited_of_same rfl rfl rfl rfl
    recounted := recounted_of_event rfl rfl rfl (.took _ unit name) nofun
    traces := traces_of_same rfl rfl rfl rfl }

theorem follows_changeModule (m : ModuleId) (f : ModuleRecord → ModuleRecord) :
    s.Follows (s.changeModule m f) :=
  { Follows.refl s with
    edited := s.edited_changeModule m f
    recounted := recounted_of_table rfl rfl fun _ => rfl
    traces := s.traces_changeModule m f }

theorem follows_newModule (name : String) : s.Follows (s.newModule name).2 :=
  { Follows.refl s with
    edited := s.edited_newModule name
    recounted := recounted_of_table (List.append_nil _).symm rfl fun _ => rfl
    traces := s.traces_newModule name }

theorem follows_enter (name : String) (m : ModuleId) : s.Follows (s.enter name m) :=
  { Follows.refl s with
    edited := s.edited_enter name m
    traces := s.traces_enter name m
    recounted := recounted_of_table rfl rfl fun hnil => by
      -- Nothing is recorded when the module stands there already.
      cases hk : s.world.imported? name with
      | none =>
          rw [hk] at hnil
          cases hnil
      | some k =>
          rw [hk] at hnil
          dsimp only at hnil
          split at hnil
          · next hsame =>
              subst hsame
              exact (World.tableOf_enter ..).trans (Table.put_eq_self hk)
          · cases hnil }

theorem follows_leave (name : String) : s.Follows (s.leave name) :=
  { Follows.refl s with
    edited := s.edited_leave name
    recounted := recounted_of_table rfl rfl fun hnil => nomatch hnil
    traces := s.traces_leave name }

/-- What an import finds in the table under a name. -/
def found (name : String) : Except Fault ModuleId × Loom :=
  match s.world.imported? name with
  | some m => (.ok m, s.note (.imported name m))
  | none => (.error (.import (.removed name)), s)

theorem follows_found (name : String) : s.Follows (s.found name).2 := by
  unfold found
  cases hm : s.world.imported? name with
  | none => exact .refl s
  | some m =>
      exact { Follows.refl s with
        edited := edited_of_same rfl rfl rfl rfl
        recounted := recounted_of_event rfl rfl rfl (.imported hm) nofun
        traces := traces_of_same rfl rfl rfl rfl }

end Loom

/-- An action that does what code can do. -/
@[ext]
structure Act (α : Type) where
  run : Run α
  follows : ∀ s : Loom, s.Follows (run.final s)

namespace Act

variable {α β : Type}

/-- Give a value and do nothing. -/
protected def pure (a : α) : Act α := ⟨Pure.pure a, fun s => .refl s⟩

/-- Carry out an act, and then the one that follows from what it gives. -/
protected def bind (a : Act α) (next : α → Act β) : Act β where
  run := a.run >>= fun x => (next x).run
  follows s := by
    rw [Run.final_bind]
    cases a.run.outcome s with
    | ok x => exact (a.follows s).trans ((next x).follows _)
    | error f => exact a.follows s

/-- Carry out an act; when it stops with a fault, go on as the fault says. -/
protected def tryCatch (a : Act α) (handler : Fault → Act α) : Act α where
  run := MonadExcept.tryCatch a.run fun f => (handler f).run
  follows s := by
    rw [Run.final_tryCatch]
    cases a.run.outcome s with
    | ok x => exact a.follows s
    | error f => exact (a.follows s).trans ((handler f).follows _)

/-- Stop with a fault. -/
def fail (f : Fault) : Act α := ⟨throw f, fun s => .refl s⟩

instance : Monad Act where
  pure := Act.pure
  bind := Act.bind

instance : MonadExceptOf Fault Act where
  throw := Act.fail
  tryCatch := Act.tryCatch

@[simp]
theorem run_pure (a : α) : (Pure.pure a : Act α).run = Pure.pure a := rfl

@[simp]
theorem run_bind (a : Act α) (next : α → Act β) :
    (a >>= next).run = a.run >>= fun x => (next x).run := rfl

instance : LawfulMonad Act :=
  .mk' Act (fun a => Act.ext (bind_pure a.run))
    (fun a next => Act.ext (LawfulMonad.pure_bind a fun x => (next x).run))
    fun a next last =>
      Act.ext (LawfulMonad.bind_assoc a.run (fun x => (next x).run) fun x => (last x).run)

instance : MonadLift Act Run := ⟨Act.run⟩

/-- The act that makes something of the state all at once. -/
def of (step : Loom → Except Fault α × Loom) (h : ∀ s : Loom, s.Follows (step s).2) : Act α where
  run := Run.of step
  follows s := by
    rw [Run.final_of]
    exact h s

/-- The state of the run. -/
def state : Act Loom := of (fun s => (.ok s, s)) fun s => .refl s

/-- A result that may be a fault. -/
def lift : Except Fault α → Act α
  | .ok a => Pure.pure a
  | .error f => fail f

/-- The world of values. -/
def world : Act World := return (← state).world

/-- Change the heap and the classes, and get something from the world. -/
def withWorld (f : World → α × World) : Act α :=
  of (fun s => (.ok (f s.world).1, { s with world := (f s.world).2.withModulesOf s.world }))
    fun s => s.follows_values _

/-- Change the heap and the classes. -/
def changeWorld (f : World → World) : Act Unit :=
  withWorld fun w => ((), f w)

/-- Put something on the heap. -/
def make (c : Content) (cls : ClassId) : Act Value :=
  withWorld fun w => w.allocate c cls

/-- Take a value out of the binding store. -/
def steal (unit : String) (name : Value) : Act Value :=
  of (fun s =>
    let (r, store, log) := s.store.steal s.world unit name
    (r, { s with store := store, log := s.log ++ log, touched := s.touched ++ [unit] }.note
      (.took unit name)))
    fun s => s.follows_steal _ (Store.steal_without (by simp) ..) _ name

/-- Put a value into the binding store. -/
def put (unit : String) (name value : Value) : Act Unit :=
  of (fun s =>
    let (r, store) := s.store.put s.world unit name value
    (r, { s with store := store, touched := s.touched ++ [unit] }))
    fun s => s.follows_put _ (Store.put_without (by simp) ..)

/-- Change what is known of a module object. -/
def changeModule (m : ModuleId) (f : ModuleRecord → ModuleRecord) : Act Unit :=
  of (fun s => (.ok (), s.changeModule m f)) fun s => s.follows_changeModule m f

/-- Set a name of a module. -/
def setModuleAttribute (m : ModuleId) (name : String) (v : Value) : Act Unit :=
  changeModule m (·.put name v)

/-- Drop a name of a module. -/
def dropModuleAttribute (m : ModuleId) (name : String) : Act Unit :=
  changeModule m (·.drop name)

/-- Make a module object of a name. -/
def newModule (name : String) : Act ModuleId :=
  of (fun s => (.ok (s.newModule name).1, (s.newModule name).2)) fun s => s.follows_newModule name

/-- Put a module object into the table. -/
def enter (name : String) (m : ModuleId) : Act Unit :=
  of (fun s => (.ok (), s.enter name m)) fun s => s.follows_enter name m

/-- Take a name out of the table. -/
def leave (name : String) : Act Unit :=
  of (fun s => (.ok (), s.leave name)) fun s => s.follows_leave name

/-- The module that an import finds in the table under a name. -/
def found (name : String) : Act ModuleId :=
  of (fun s => s.found name) fun s => s.follows_found name

theorem run_bind_ok {a : Act α} {next : α → Act β} {s t : Loom} {x : α} (h : a.run s = .ok x t) :
    (a >>= next).run s = (next x).run t := by
  rw [run_bind]
  simp only [bind, EStateM.bind, h]

theorem run_bind_error {a : Act α} {next : α → Act β} {s t : Loom} {fault : Fault}
    (h : a.run s = .error fault t) : (a >>= next).run s = .error fault t := by
  rw [run_bind]
  simp only [bind, EStateM.bind, h]

theorem run_world (s : Loom) : Act.world.run s = .ok s.world s := rfl

end Act

end FragmentWeaver
