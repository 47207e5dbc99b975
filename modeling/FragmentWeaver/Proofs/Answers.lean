import FragmentWeaver.CommandLine.Run
import FragmentWeaver.Proofs.Stopping

/-!
# Answers

A command line is carried out in two parts: a unit is woven, and the unit answers. It is called, or one
of its methods is looked up and called, or its methods are listed. The parts stand under one guard,
which reports faults about values that do not fit and the report that the unit was not loaded. The call
has a guard of its own for all ordinary faults; looking up and printing have none.
-/

namespace FragmentWeaver

namespace Fault

/-- Does a command line report the fault? -/
def isReported (w : World) (f : Fault) : Bool :=
  match f with
  | .unloaded _ _ _ => true
  | f => f.isValueFault w

/-- The line about a fault that a command line reports. -/
def reportLine (w : World) (f : Fault) : String :=
  match f with
  | .unloaded _ _ cause => "✗ " ++ f.message w ++ ": " ++ (cause.written w).toOption.getD ""
  | f => "✗ " ++ f.message w

section

variable (w : World) (f : Fault) (h : ∀ unit phase cause, f = .unloaded unit phase cause → False)

include h

end

end Fault

/-- The state with more lines printed. -/
def Loom.saying (s : Loom) (lines : List String) : Loom :=
  { s with printed := s.printed ++ lines }

namespace Run

section

variable {α β : Type} {a : Run α} {s t : Loom} {x : α} {f : Fault}

theorem Keeps.of_ok {P : Loom → Loom → Prop} (ha : a.Keeps P) (h : a s = .ok x t) : P s t :=
  (eq_ok_iff.mp h).2 ▸ ha s

theorem Keeps.of_error {P : Loom → Loom → Prop} (ha : a.Keeps P) (h : a s = .error f t) : P s t :=
  (eq_error_iff.mp h).2 ▸ ha s

theorem map_of_ok (h : a s = .ok x t) (g : α → β) : (g <$> a) s = .ok (g x) t := by
  simp only [Functor.map, EStateM.map, h]

theorem map_of_error (h : a s = .error f t) (g : α → β) : (g <$> a) s = .error f t := by
  simp only [Functor.map, EStateM.map, h]

end

variable {α β : Type} {P : Loom → Loom → Prop}

/-- An action that gives something every time, and changes the world at most. -/
def Builds (a : Run α) : Prop := ∀ s, ∃ x w, a s = .ok x { s with world := w }

theorem Builds.pure (x : α) : Builds (pure x) := fun s => ⟨x, s.world, rfl⟩

theorem Builds.bind {a : Run α} {next : α → Run β} (ha : a.Builds) (hnext : ∀ x, (next x).Builds) :
    (a >>= next).Builds := by
  intro s
  obtain ⟨x, w, hx⟩ := ha s
  obtain ⟨y, v, hy⟩ := hnext x { s with world := w }
  exact ⟨y, v, (bind_of_ok hx next).trans hy⟩

theorem Builds.withWorld (f : World → α × World) : (withWorld f).Builds := fun _ => ⟨_, _, rfl⟩

theorem Builds.mapM {f : α → Run β} (hf : ∀ x, (f x).Builds) (xs : List α) : (xs.mapM f).Builds := by
  induction xs with
  | nil => exact .pure _
  | cons x xs ih =>
      rw [List.mapM_cons]
      exact .bind (hf x) fun _ => .bind ih fun _ => .pure _

theorem Builds.ends {a : Run α} (ha : a.Builds) : a.Ends := by
  intro s
  obtain ⟨x, w, hx⟩ := ha s
  exact ⟨x, (eq_ok_iff.mp hx).1⟩

/-- What holds at the end of an action that comes next, in whatever world it begins. -/
theorem Builds.final_bind {p : Loom → Prop} {a : Run α} {next : α → Run β} {s : Loom}
    (ha : a.Builds) (hnext : ∀ x w, p ((next x).final { s with world := w })) :
    p ((a >>= next).final s) := by
  obtain ⟨x, w, hx⟩ := ha s
  have hfinal : (a >>= next).final s = (next x).final { s with world := w } := by
    unfold final
    rw [bind_of_ok hx]
  rw [hfinal]
  exact hnext x w

theorem Builds.keeps {a : Run α} (ha : a.Builds) (hP : Loom.IsFrame P) : a.Keeps P := by
  intro s
  obtain ⟨x, w, hx⟩ := ha s
  rw [(eq_ok_iff.mp hx).2]
  exact hP.aside rfl rfl rfl

end Run

namespace Document

mutual

/-- Making the value of a document always works out. -/
theorem builds_value : ∀ d : Document, d.value.Builds
  | .null | .truth _ | .whole _ | .float _ | .text _ | .loose _ => .pure _
  | .items ds => .bind (builds_itemValues ds) fun _ => .withWorld _
  | .entries kvs => .bind (builds_entryValues kvs) fun _ => .withWorld _

theorem builds_itemValues : ∀ ds : List Document, (itemValues ds).Builds
  | [] => .pure _
  | d :: ds => .bind (builds_value d) fun _ => .bind (builds_itemValues ds) fun _ => .pure _

theorem builds_entryValues : ∀ kvs : List (String × Document), (entryValues kvs).Builds
  | [] => .pure _
  | (_, d) :: kvs => .bind (builds_value d) fun _ => .bind (builds_entryValues kvs) fun _ => .pure _

end

end Document

namespace CommandLine

/-- How a command line ends: with a status, or with a fault that comes out of it. -/
abbrev Ending := EStateM.Result Fault Loom Nat

variable {s t u : Loom} {f : Fault} {x : Ending}

/-! ### What is asked of code -/

/-- Call a value. -/
def call (target : Value) (arguments : List Value) : Run Value :=
  Script.callValue Loading.importModule target arguments

/-- Look up an attribute. -/
def lookUp (v : Value) (name : String) : Run Value :=
  Script.attributeOf Loading.importModule v name

/-- Write a value down. -/
def writeDown (v : Value) : Run String :=
  Script.writtenForm Loading.importModule v

/-! ### Calls -/

section

variable {unit : UnitId} {target v : Value} {arguments : List Value}

/-- The line about a call that raised a fault. -/
def raisedLine (unit : UnitId) (w : World) (f : Fault) : String :=
  "✗ " ++ unit.qualifiedName ++ " raised " ++ f.kind w ++ ": " ++ f.message w

/-- How it ends to call a value and to print what it gives. -/
inductive Invoked (unit : UnitId) (target : Value) (arguments : List Value) (s : Loom) :
    Ending → Prop
  | printed {v : Value} {text : String} {u t : Loom} (hcall : call target arguments s = .ok v u)
      (hwritten : writeDown v u = .ok text t) :
      Invoked unit target arguments s (.ok 0 (t.saying ["→ " ++ text]))
  | unwritten {v : Value} {u t : Loom} {f : Fault} (hcall : call target arguments s = .ok v u)
      (hwritten : writeDown v u = .error f t) : Invoked unit target arguments s (.error f t)
  | raised {t : Loom} {f : Fault} (hcall : call target arguments s = .error f t)
      (hf : f.isOrdinary t.world = true) :
      Invoked unit target arguments s (.ok 1 (t.saying [raisedLine unit t.world f]))
  | passed {t : Loom} {f : Fault} (hcall : call target arguments s = .error f t)
      (hf : f.isOrdinary t.world = false) : Invoked unit target arguments s (.error f t)

theorem Invoked.eq (h : Invoked unit target arguments s x) : invoke unit target arguments s = x := by
  have hreturns {v : Value} {u : Loom} (hcall : call target arguments s = .ok v u) :
      invoke unit target arguments s =
        (writeDown v >>= fun text => do Run.print ("→ " ++ text); return 0 : Run Nat) u :=
    Run.bind_of_ok (Run.tryCatch_of_ok (Run.map_of_ok hcall _) _) _
  have hraises {f : Fault} {t : Loom} (hcall : call target arguments s = .error f t) :
      invoke unit target arguments s =
        (if f.isOrdinary t.world then do Run.print (raisedLine unit t.world f); return 1
          else Run.fail f : Run Nat) t :=
    Run.bind_of_ok (x := Except.error f) (t := t)
      (Run.tryCatch_of_error (Run.map_of_error hcall _) _) _
  cases h with
  | printed hcall hwritten => exact (hreturns hcall).trans (Run.bind_of_ok hwritten _)
  | unwritten hcall hwritten => exact (hreturns hcall).trans (Run.bind_of_error hwritten _)
  | raised hcall hf => exact (hraises hcall).trans (by rw [if_pos hf]; rfl)
  | passed hcall hf => exact (hraises hcall).trans (by rw [hf]; rfl)

end

/-! ### Answers -/

/-- The name of the method that is called; empty if the methods are listed. -/
def calledName (called : Option Given) : String :=
  (called.map Given.toText).getD ""

/-- The line about a method that there is none of. -/
def noMethodLine (unit : UnitId) (name : String) : String :=
  "✗ " ++ unit.qualifiedName ++ " has no method " ++ Text.quote name

/-- What is wrong with nothing as the text of an argument. -/
def noDocument : Fault :=
  .refused (.type "the JSON object must be str, bytes or bytearray, not list")

/-- The values of the arguments of a call. -/
def argumentValues (arguments : List Given) : Run (List Value) :=
  Document.itemValues (arguments.map fun g => Document.ofArgument g.toText)

/-- Print the methods of a unit. -/
def listMethods (woven : WovenUnit) : Run Nat := do
  let w ← Run.world
  Run.print (methodsLine woven.unit (publicNames w (w.typeOf woven.handle)))
  return 0

/-- Call a method of a unit and print what it gives. -/
def callMethod (woven : WovenUnit) (name : String) (arguments : List Given) : Run Nat := do
  match ← method? woven.handle name with
  | none => do
      Run.print (noMethodLine woven.unit name)
      return 1
  | some m => do
      if arguments.contains .nothing then Run.fail noDocument
      invoke woven.unit m (← argumentValues arguments)

/-- Answer a task with its unit: call the unit or one of its methods, or list them. -/
def answer (woven : WovenUnit) : Task → Run Nat
  | .inline _ _ _ => invoke woven.unit woven.handle []
  | .method _ called arguments _ =>
      if calledName called = "" then listMethods woven
      else callMethod woven (calledName called) arguments

/-- How it ends to call a method of a unit: it is called; what there is under its name cannot be called;
    there is nothing; looking it up stops; or an argument was given nothing. -/
inductive MethodAnswered (woven : WovenUnit) (name : String) (arguments : List Given) (s : Loom) :
    Ending → Prop
  | called {m : Value} {values : List Value} {u t : Loom} {x : Ending}
      (hfound : lookUp woven.handle name s = .ok m u) (hcallable : u.world.isCallable m = true)
      (hgiven : .nothing ∉ arguments) (hvalues : argumentValues arguments u = .ok values t)
      (hinvoked : Invoked woven.unit m values t x) : MethodAnswered woven name arguments s x
  | notCallable {m : Value} {t : Loom} (hfound : lookUp woven.handle name s = .ok m t)
      (hcallable : t.world.isCallable m = false) :
      MethodAnswered woven name arguments s (.ok 1 (t.saying [noMethodLine woven.unit name]))
  | missing {f : Fault} {t : Loom} (hlookup : lookUp woven.handle name s = .error f t)
      (hmissing : f.isMissingAttribute t.world = true) :
      MethodAnswered woven name arguments s (.ok 1 (t.saying [noMethodLine woven.unit name]))
  | broken {f : Fault} {t : Loom} (hlookup : lookUp woven.handle name s = .error f t)
      (hmissing : f.isMissingAttribute t.world = false) :
      MethodAnswered woven name arguments s (.error f t)
  | nothing {m : Value} {t : Loom} (hfound : lookUp woven.handle name s = .ok m t)
      (hcallable : t.world.isCallable m = true) (hgiven : .nothing ∈ arguments) :
      MethodAnswered woven name arguments s (.error noDocument t)

/-- How it ends to answer a task with its unit. -/
inductive Answered (woven : WovenUnit) (s : Loom) : Task → Ending → Prop
  | inline {fragment : String} {bindings : List (Option (String × Document))}
      {resultType : Option Given} {x : Ending} (h : Invoked woven.unit woven.handle [] s x) :
      Answered woven s (.inline fragment bindings resultType) x
  | listed {file : String} {called name : Option Given} {arguments : List Given}
      (hcalled : calledName called = "") :
      Answered woven s (.method file called arguments name) (.ok 0 (s.saying
        [methodsLine woven.unit (publicNames s.world (s.world.typeOf woven.handle))]))
  | method {file : String} {called name : Option Given} {arguments : List Given} {x : Ending}
      (hcalled : calledName called ≠ "")
      (h : MethodAnswered woven (calledName called) arguments s x) :
      Answered woven s (.method file called arguments name) x

section

variable {woven : WovenUnit} {task : Task} {v m : Value} {name : String} {arguments : List Given}

theorem method?_of_ok (h : lookUp v name s = .ok m t) :
    method? v name s = .ok (if t.world.isCallable m then some m else none) t := by
  rw [Run.eq_ok_iff] at h ⊢
  unfold lookUp at h
  unfold method?
  simp only [Run.outcome_bind, Run.final_bind, Run.outcome_tryCatch, Run.final_tryCatch, h]
  exact ⟨rfl, rfl⟩

theorem method?_of_missing (h : lookUp v name s = .error f t)
    (hf : f.isMissingAttribute t.world = true) : method? v name s = .ok none t := by
  rw [Run.eq_error_iff] at h
  rw [Run.eq_ok_iff]
  unfold lookUp at h
  unfold method?
  simp only [Run.outcome_bind, Run.final_bind, Run.outcome_tryCatch, Run.final_tryCatch, h,
    Run.outcome_world, Run.final_world, if_pos hf]
  exact ⟨rfl, rfl⟩

theorem method?_of_broken (h : lookUp v name s = .error f t)
    (hf : f.isMissingAttribute t.world = false) : method? v name s = .error f t := by
  rw [Run.eq_error_iff] at h ⊢
  unfold lookUp at h
  unfold method?
  simp only [Run.outcome_bind, Run.final_bind, Run.outcome_tryCatch, Run.final_tryCatch, h,
    Run.outcome_world, Run.final_world, hf, Bool.false_eq_true, if_false]
  exact ⟨rfl, rfl⟩

theorem MethodAnswered.eq (h : MethodAnswered woven name arguments s x) :
    callMethod woven name arguments s = x := by
  unfold callMethod
  cases h with
  | called hfound hcallable hgiven hvalues hinvoked =>
      rw [Run.bind_of_ok (method?_of_ok hfound), if_pos hcallable]
      dsimp only
      rw [if_neg (by simpa using hgiven)]
      exact (Run.bind_of_ok hvalues _).trans hinvoked.eq
  | notCallable hfound hcallable =>
      rw [Run.bind_of_ok (method?_of_ok hfound), hcallable]
      rfl
  | missing hlookup hmissing =>
      rw [Run.bind_of_ok (method?_of_missing hlookup hmissing)]
      rfl
  | broken hlookup hmissing => rw [Run.bind_of_error (method?_of_broken hlookup hmissing)]
  | nothing hfound hcallable hgiven =>
      rw [Run.bind_of_ok (method?_of_ok hfound), if_pos hcallable]
      dsimp only
      rw [if_pos (by simpa using hgiven)]
      rfl

theorem Answered.eq (h : Answered woven s task x) : answer woven task s = x := by
  cases h with
  | inline h => exact h.eq
  | listed hcalled =>
      rw [answer, if_pos hcalled]
      rfl
  | method hcalled h =>
      rw [answer, if_neg hcalled]
      exact h.eq

end

/-! ### The two parts of a run -/

/-- The result type that is asked for, as a value. -/
def resultTypeValue : Option Given → Run Value
  | some t => givenValue t
  | none => pure .null

/-- Weave what a task is about. -/
def weaveWith (w : Weaver) (r : Request) : Run WovenUnit :=
  match r.task with
  | .inline fragment bindings resultType => do
      let bindings ← bindingValues bindings
      let resultType ← resultTypeValue resultType
      let imports ← r.imports.mapM givenValue
      w.weaveInline (some fragment) bindings resultType imports { showSource := r.showSource }
  | .method file _ _ name => do
      let methods ← fileText (.parse file)
      let imports ← r.imports.mapM givenValue
      w.weaveMethod (some methods) imports ((name.map Given.toText).getD "")
        { showSource := r.showSource }

/-- The part of a run up to the woven unit. -/
def weaveTask (r : Request) : Run WovenUnit :=
  weaverFor r >>= fun w => weaveWith w r

/-- The weaver of a request. -/
def Request.weaver (r : Request) : Weaver where
  root := r.stagingDirectory.map fun g => .parse g.toText
  toolchain := Interpreter.toolchain { limit := r.timeout }

/-- How a command line ends: weaving stops, and the fault is reported or not; the unit has no handle; it
    answers; or the answer stops, and the fault is reported or not. -/
inductive Ended (r : Request) (s : Loom) : Ending → Prop
  | refused {f : Fault} {t : Loom} (hweave : weaveTask r s = .error f t)
      (hf : f.isReported t.world = true) : Ended r s (.ok 1 (t.saying [f.reportLine t.world]))
  | unwoven {f : Fault} {t : Loom} (hweave : weaveTask r s = .error f t)
      (hf : f.isReported t.world = false) : Ended r s (.error f t)
  | uncompiled {woven : WovenUnit} {u : Loom} (hweave : weaveTask r s = .ok woven u)
      (hnull : woven.handle = .null) : Ended r s (.ok 1 (u.saying (failureLines woven)))
  | answered {woven : WovenUnit} {u t : Loom} {n : Nat} (hweave : weaveTask r s = .ok woven u)
      (hhandle : woven.handle ≠ .null) (hanswered : Answered woven u r.task (.ok n t)) :
      Ended r s (.ok n t)
  | reported {woven : WovenUnit} {u t : Loom} {f : Fault} (hweave : weaveTask r s = .ok woven u)
      (hhandle : woven.handle ≠ .null) (hanswered : Answered woven u r.task (.error f t))
      (hf : f.isReported t.world = true) : Ended r s (.ok 1 (t.saying [f.reportLine t.world]))
  | unanswered {woven : WovenUnit} {u t : Loom} {f : Fault} (hweave : weaveTask r s = .ok woven u)
      (hhandle : woven.handle ≠ .null) (hanswered : Answered woven u r.task (.error f t))
      (hf : f.isReported t.world = false) : Ended r s (.error f t)

section

variable {r : Request} {woven : WovenUnit}

end

/-! ### What answers keep -/

/-- The state at the end. -/
def endOf : Ending → Loom
  | .ok _ t | .error _ t => t

section

variable {P : Loom → Loom → Prop} (hP : Loom.IsFrame P) {unit : UnitId} {target : Value}
  {arguments : List Value} {woven : WovenUnit} {task : Task}

include hP

theorem Invoked.keeps (h : Invoked unit target arguments s x) : P s (endOf x) := by
  have hcalls (target : Value) (arguments : List Value) : (call target arguments).Keeps P :=
    .act hP.code _
  have hwrites (v : Value) : (writeDown v).Keeps P := .act hP.code _
  cases h with
  | printed hcall hwritten =>
      exact hP.trans ((hcalls _ _).of_ok hcall)
        (hP.trans ((hwrites _).of_ok hwritten) (hP.aside rfl rfl rfl))
  | unwritten hcall hwritten =>
      exact hP.trans ((hcalls _ _).of_ok hcall) ((hwrites _).of_error hwritten)
  | raised hcall hf => exact hP.trans ((hcalls _ _).of_error hcall) (hP.aside rfl rfl rfl)
  | passed hcall hf => exact (hcalls _ _).of_error hcall

theorem MethodAnswered.keeps {name : String} {arguments : List Given}
    (h : MethodAnswered woven name arguments s x) : P s (endOf x) := by
  have hlooks : (lookUp woven.handle name).Keeps P := .act hP.code _
  cases h with
  | called hfound hcallable hgiven hvalues hinvoked =>
      have hvalued : (argumentValues arguments).Keeps P := (Document.builds_itemValues _).keeps hP
      exact hP.trans (hlooks.of_ok hfound) (hP.trans (hvalued.of_ok hvalues) (hinvoked.keeps hP))
  | notCallable hfound hcallable => exact hP.trans (hlooks.of_ok hfound) (hP.aside rfl rfl rfl)
  | missing hlookup hmissing => exact hP.trans (hlooks.of_error hlookup) (hP.aside rfl rfl rfl)
  | broken hlookup hmissing => exact hlooks.of_error hlookup
  | nothing hfound hcallable hgiven => exact hlooks.of_ok hfound

theorem Answered.keeps (h : Answered woven s task x) : P s (endOf x) := by
  cases h with
  | inline h => exact h.keeps hP
  | listed hcalled => exact hP.aside rfl rfl rfl
  | method hcalled h => exact h.keeps hP

/-- What follows once a unit is woven keeps the relation. -/
theorem Ended.keeps {r : Request} (h : Ended r s x) : P ((weaveTask r).final s) (endOf x) := by
  have hsaid (t : Loom) (lines : List String) : P t (t.saying lines) := hP.aside rfl rfl rfl
  cases h with
  | refused hweave hf =>
      rw [(Run.eq_error_iff.mp hweave).2]
      exact hsaid _ _
  | unwoven hweave hf =>
      rw [(Run.eq_error_iff.mp hweave).2]
      exact hP.aside rfl rfl rfl
  | uncompiled hweave hnull =>
      rw [(Run.eq_ok_iff.mp hweave).2]
      exact hsaid _ _
  | answered hweave hhandle hanswered | unanswered hweave hhandle hanswered _ =>
      rw [(Run.eq_ok_iff.mp hweave).2]
      exact hanswered.keeps hP
  | reported hweave hhandle hanswered hf =>
      rw [(Run.eq_ok_iff.mp hweave).2]
      exact hP.trans (hanswered.keeps hP) (hsaid _ _)

end

end CommandLine

end FragmentWeaver
