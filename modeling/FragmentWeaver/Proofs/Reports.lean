import FragmentWeaver.Proofs.Leftovers

/-!
# Failures are reported once

Loading a unit goes step by step: its helpers are found and loaded one after the other, then the unit
is loaded, what its module keeps under the unit's name is looked up, and that is called. The first step
that stops with a fault is the last one that is begun. An ordinary fault is told to the host, if there
is one, and comes out wrapped with the phase of the step; any other one passes as it is, and the host
does not hear of it. What the host makes of a fault does not show, unless it stops with something that
is not ordinary itself. However a request ends, its context is closed then and not asked any more.
-/

namespace FragmentWeaver

namespace Run

variable {α β : Type} {a : Run α} {s t : Loom} {x : α} {f : Fault}

theorem eq_ok_iff : a s = .ok x t ↔ a.outcome s = .ok x ∧ a.final s = t := by
  unfold outcome final
  cases a s <;> simp

theorem eq_error_iff : a s = .error f t ↔ a.outcome s = .error f ∧ a.final s = t := by
  unfold outcome final
  cases a s <;> simp

theorem bind_of_ok (h : a s = .ok x t) (next : α → Run β) : (a >>= next) s = next x t := by
  simp only [bind, EStateM.bind, h]

theorem bind_of_error (h : a s = .error f t) (next : α → Run β) :
    (a >>= next) s = .error f t := by
  simp only [bind, EStateM.bind, h]

theorem tryCatch_of_ok (h : a s = .ok x t) (handler : Fault → Run α) :
    (tryCatch a handler) s = .ok x t := by
  rw [eq_ok_iff] at h
  rw [eq_ok_iff, outcome_tryCatch, final_tryCatch, h.1]
  exact ⟨rfl, h.2⟩

theorem tryCatch_of_error (h : a s = .error f t) (handler : Fault → Run α) :
    (tryCatch a handler) s = handler f t := by
  obtain ⟨houtcome, hfinal⟩ := eq_error_iff.mp h
  cases hhandler : handler f t with
  | ok y u =>
      rw [eq_ok_iff] at hhandler ⊢
      rw [outcome_tryCatch, final_tryCatch, houtcome, hfinal]
      exact hhandler
  | error g u =>
      rw [eq_error_iff] at hhandler ⊢
      rw [outcome_tryCatch, final_tryCatch, houtcome, hfinal]
      exact hhandler

end Run

namespace Loading

variable {c : Nat} {unit : UnitId} {host : Option Host} {s t : Loom} {names : List String} {f : Fault}

/-! ### The steps -/

/-- How far the steps of loading a unit get: to the value that its class gives, or to the first step
    that stops, with the phase it belongs to, its fault, and the state it ends in. -/
inductive Attempt (c : Nat) (unit : UnitId) (s : Loom) :
    Except (LoadPhase × Fault) Value → Loom → Prop
  /-- The helpers cannot be found. -/
  | unknown {f : Fault} {t : Loom} (h : helperModules c unit s = .error f t) :
      Attempt c unit s (.error (.load, f)) t
  /-- A helper cannot be loaded. -/
  | helper {before after : List String} {name : String} {f : Fault} {s₁ s₂ t : Loom}
      (hnames : helperModules c unit s = .ok (before ++ name :: after) s₁)
      (hbefore : loadAll c before s₁ = .ok () s₂) (h : load c name s₂ = .error f t) :
      Attempt c unit s (.error (.load, f)) t
  /-- The unit cannot be loaded. -/
  | primary {names : List String} {f : Fault} {s₁ s₂ t : Loom}
      (hnames : helperModules c unit s = .ok names s₁) (hhelpers : loadAll c names s₁ = .ok () s₂)
      (h : load c unit.qualifiedName s₂ = .error f t) : Attempt c unit s (.error (.load, f)) t
  /-- The module of the unit does not give away what it keeps under the unit's name. -/
  | absent {names : List String} {m : ModuleId} {f : Fault} {s₁ s₂ s₃ t : Loom}
      (hnames : helperModules c unit s = .ok names s₁) (hhelpers : loadAll c names s₁ = .ok () s₂)
      (hunit : load c unit.qualifiedName s₂ = .ok m s₃)
      (h : (Script.attributeOf importModule (.module m) unit.name).run s₃ = .error f t) :
      Attempt c unit s (.error (.load, f)) t
  /-- What was found there makes no instance. -/
  | unmade {names : List String} {m : ModuleId} {maker : Value} {f : Fault} {s₁ s₂ s₃ s₄ t : Loom}
      (hnames : helperModules c unit s = .ok names s₁) (hhelpers : loadAll c names s₁ = .ok () s₂)
      (hunit : load c unit.qualifiedName s₂ = .ok m s₃)
      (hmaker : (Script.attributeOf importModule (.module m) unit.name).run s₃ = .ok maker s₄)
      (h : (Script.callValue importModule maker []).run s₄ = .error f t) :
      Attempt c unit s (.error (.instantiate, f)) t
  | made {names : List String} {m : ModuleId} {maker v : Value} {s₁ s₂ s₃ s₄ t : Loom}
      (hnames : helperModules c unit s = .ok names s₁) (hhelpers : loadAll c names s₁ = .ok () s₂)
      (hunit : load c unit.qualifiedName s₂ = .ok m s₃)
      (hmaker : (Script.attributeOf importModule (.module m) unit.name).run s₃ = .ok maker s₄)
      (h : (Script.callValue importModule maker []).run s₄ = .ok v t) :
      Attempt c unit s (.ok v) t

theorem run_loadAll_cons (name : String) (rest : List String) (s : Loom) :
    loadAll c (name :: rest) s =
      match load c name s with
      | .ok _ t => loadAll c rest t
      | .error f t => .error f t := by
  rw [loadAll_cons]
  cases h : load c name s with
  | ok m t =>
      have hload : (load c name >>= fun _ => pure () : Run Unit) s = .ok () t := Run.bind_of_ok h _
      exact Run.bind_of_ok hload _
  | error f t => exact Run.bind_of_error (Run.bind_of_error h _) _

/-- Loading one module after the other stops at the first that cannot be loaded. -/
theorem loadAll_eq_error_iff : loadAll c names s = .error f t ↔
    ∃ before name after u, names = before ++ name :: after ∧ loadAll c before s = .ok () u ∧
      load c name u = .error f t := by
  induction names generalizing s with
  | nil =>
      constructor
      · intro h
        cases h
      · rintro ⟨before, name, after, u, heq, -⟩
        cases before <;> cases heq
  | cons first rest ih =>
      rw [run_loadAll_cons]
      constructor
      · intro h
        cases hfirst : load c first s with
        | ok m u =>
            rw [hfirst] at h
            obtain ⟨before, name, after, v, rfl, hbefore, hname⟩ := ih.mp h
            refine ⟨first :: before, name, after, v, rfl, ?_, hname⟩
            rw [run_loadAll_cons, hfirst]
            exact hbefore
        | error g u =>
            rw [hfirst] at h
            cases h
            exact ⟨[], first, rest, s, rfl, rfl, hfirst⟩
      · rintro ⟨before, name, after, u, heq, hbefore, hname⟩
        cases before with
        | nil =>
            cases heq
            cases hbefore
            rw [hname]
        | cons other before =>
            cases heq
            rw [run_loadAll_cons] at hbefore
            cases hfirst : load c first s with
            | ok m v =>
                rw [hfirst] at hbefore
                exact ih.mpr ⟨before, name, after, u, rfl, hbefore, hname⟩
            | error g v =>
                rw [hfirst] at hbefore
                cases hbefore

/-- What becomes of an attempt up to the class of the unit, and from there. -/
theorem Attempt.runs {r : Except (LoadPhase × Fault) Value} (h : Attempt c unit s r t) :
    (∃ f, r = .error (.load, f) ∧ factory c unit s = .error f t) ∨
      ∃ maker u, factory c unit s = .ok maker u ∧
        ((∃ f, r = .error (.instantiate, f) ∧
            (Script.callValue importModule maker []).run u = .error f t) ∨
          ∃ v, r = .ok v ∧ (Script.callValue importModule maker []).run u = .ok v t) := by
  have hfactory {names : List String} {m : ModuleId} {s₁ s₂ s₃ : Loom}
      (hnames : helperModules c unit s = .ok names s₁) (hhelpers : loadAll c names s₁ = .ok () s₂)
      (hunit : load c unit.qualifiedName s₂ = .ok m s₃) :
      factory c unit s = (Script.attributeOf importModule (.module m) unit.name).run s₃ := by
    unfold factory
    rw [Run.bind_of_ok hnames, Run.bind_of_ok hhelpers, Run.bind_of_ok hunit]
    rfl
  cases h with
  | unknown h => exact .inl ⟨_, rfl, Run.bind_of_error h _⟩
  | helper hnames hbefore h =>
      refine .inl ⟨_, rfl, ?_⟩
      unfold factory
      rw [Run.bind_of_ok hnames]
      exact Run.bind_of_error (loadAll_eq_error_iff.mpr ⟨_, _, _, _, rfl, hbefore, h⟩) _
  | primary hnames hhelpers h =>
      refine .inl ⟨_, rfl, ?_⟩
      unfold factory
      rw [Run.bind_of_ok hnames, Run.bind_of_ok hhelpers]
      exact Run.bind_of_error h _
  | absent hnames hhelpers hunit h =>
      exact .inl ⟨_, rfl, (hfactory hnames hhelpers hunit).trans h⟩
  | unmade hnames hhelpers hunit hmaker h =>
      exact .inr ⟨_, _, (hfactory hnames hhelpers hunit).trans hmaker, .inl ⟨_, rfl, h⟩⟩
  | made hnames hhelpers hunit hmaker h =>
      exact .inr ⟨_, _, (hfactory hnames hhelpers hunit).trans hmaker, .inr ⟨_, rfl, h⟩⟩

/-- The steps get somewhere. -/
theorem exists_attempt (c : Nat) (unit : UnitId) (s : Loom) : ∃ r t, Attempt c unit s r t := by
  cases hnames : helperModules c unit s with
  | error f t => exact ⟨_, t, .unknown hnames⟩
  | ok names s₁ =>
      cases hhelpers : loadAll c names s₁ with
      | error f t =>
          obtain ⟨before, name, after, u, rfl, hbefore, hname⟩ := loadAll_eq_error_iff.mp hhelpers
          exact ⟨_, t, .helper hnames hbefore hname⟩
      | ok _ s₂ =>
          cases hunit : load c unit.qualifiedName s₂ with
          | error f t => exact ⟨_, t, .primary hnames hhelpers hunit⟩
          | ok m s₃ =>
              cases hmaker : (Script.attributeOf importModule (.module m) unit.name).run s₃ with
              | error f t => exact ⟨_, t, .absent hnames hhelpers hunit hmaker⟩
              | ok maker s₄ =>
                  cases hcall : (Script.callValue importModule maker []).run s₄ with
                  | error f t => exact ⟨_, t, .unmade hnames hhelpers hunit hmaker hcall⟩
                  | ok v t => exact ⟨_, t, .made hnames hhelpers hunit hmaker hcall⟩

/-! ### What is reported -/

/-- What is reported on the side when the host cannot take account of a fault. -/
def unheardRecord (unit : UnitId) : LogRecord :=
  ⟨.error, "codeweave.runtime.loader",
    "Host could not report the load failure of " ++ unit.qualifiedName⟩

/-- What becomes of a fault of a step, and the state after that. Where the host is told of the fault,
    that is done once, in the state in which the step stopped. -/
inductive Reported (host : Option Host) (unit : UnitId) (phase : LoadPhase) (f : Fault) (s : Loom) :
    Fault → Loom → Prop
  /-- The fault is not ordinary. -/
  | passed (h : f.isOrdinary s.world = false) : Reported host unit phase f s f s
  | alone (h : f.isOrdinary s.world = true) (hhost : host = none) :
      Reported host unit phase f s (.unloaded unit phase f) s
  | told {hook : Host} {t : Loom} (h : f.isOrdinary s.world = true) (hhost : host = some hook)
      (hhook : hook.failed f s = .ok () t) : Reported host unit phase f s (.unloaded unit phase f) t
  /-- The host stops with an ordinary fault, which is reported on the side. -/
  | unheard {hook : Host} {g : Fault} {t : Loom} (h : f.isOrdinary s.world = true)
      (hhost : host = some hook) (hhook : hook.failed f s = .error g t)
      (hg : g.isOrdinary t.world = true) :
      Reported host unit phase f s (.unloaded unit phase f)
        { t with log := t.log ++ [unheardRecord unit] }
  /-- The host stops with something that no handler for ordinary faults catches. -/
  | abandoned {hook : Host} {g : Fault} {t : Loom} (h : f.isOrdinary s.world = true)
      (hhost : host = some hook) (hhook : hook.failed f s = .error g t)
      (hg : g.isOrdinary t.world = false) : Reported host unit phase f s g t

theorem run_act (action : Run Unit) (r : LogRecord) (s : Loom) :
    Host.act action r s =
      match action s with
      | .ok _ t => .ok () t
      | .error g t =>
          if g.isOrdinary t.world then .ok () { t with log := t.log ++ [r] } else .error g t := by
  unfold Host.act
  cases h : action s with
  | ok _ t => exact Run.tryCatch_of_ok h _
  | error g t =>
      rw [Run.tryCatch_of_error h, Run.bind_of_ok (rfl : Run.world t = .ok t.world t)]
      dsimp only
      split <;> rfl

/-- To tell a host of a fault. -/
theorem told_cases (host : Option Host) (unit : UnitId) (phase : LoadPhase) {f : Fault} {s : Loom}
    (h : f.isOrdinary s.world = true) : ∃ g t, Reported host unit phase f s g t ∧
      (Host.told host unit f >>= fun _ => Run.fail (.unloaded unit phase f) : Run Value) s =
        .error g t := by
  cases host with
  | none => exact ⟨_, s, .alone h rfl, rfl⟩
  | some hook =>
      have hact := run_act (hook.failed f) (unheardRecord unit) s
      cases hhook : hook.failed f s with
      | ok _ t =>
          rw [hhook] at hact
          exact ⟨_, t, .told h rfl hhook, Run.bind_of_ok hact _⟩
      | error g t =>
          rw [hhook] at hact
          dsimp only at hact
          cases hg : g.isOrdinary t.world with
          | true =>
              rw [if_pos hg] at hact
              exact ⟨_, _, .unheard h rfl hhook hg, Run.bind_of_ok hact _⟩
          | false =>
              rw [if_neg (by simp [hg])] at hact
              exact ⟨_, _, .abandoned h rfl hhook hg, Run.bind_of_error hact _⟩

theorem step_of_ok {phase : LoadPhase} {action : Run Value} {v : Value} (h : action s = .ok v t) :
    step host unit phase action s = .ok v t :=
  Run.tryCatch_of_ok h _

/-- A step that stops reports its fault. -/
theorem step_of_error (host : Option Host) (unit : UnitId) (phase : LoadPhase) {action : Run Value}
    (h : action s = .error f t) : ∃ g u, Reported host unit phase f t g u ∧
      step host unit phase action s = .error g u := by
  have hcatch := Run.tryCatch_of_error h fun f => do
    if f.isOrdinary (← Run.world) then
      Host.told host unit f
      Run.fail (.unloaded unit phase f)
    else Run.fail f
  cases hf : f.isOrdinary t.world with
  | true =>
      obtain ⟨g, u, hreported, htold⟩ := told_cases host unit phase hf
      refine ⟨g, u, hreported, hcatch.trans ?_⟩
      rw [Run.bind_of_ok (rfl : Run.world t = .ok t.world t), if_pos hf]
      exact htold
  | false =>
      refine ⟨f, t, .passed hf, hcatch.trans ?_⟩
      rw [Run.bind_of_ok (rfl : Run.world t = .ok t.world t), if_neg (by simp [hf])]
      rfl

/-- The names that a context has noted as loaded. -/
def loadedBy (c : Nat) (s : Loom) : List String := (s.contexts.getD c default).loaded

theorem loadIn_of_made (host : Option Host) {v : Value} (h : Attempt c unit s (.ok v) t) :
    loadIn host c unit s = .ok ⟨v, unit, loadedBy c t⟩ t := by
  rcases h.runs with ⟨f, hf, -⟩ | ⟨maker, u, hfactory, ⟨f, hf, -⟩ | ⟨v', hv, hcall⟩⟩
  · cases hf
  · cases hf
  · cases hv
    let call : Run Value := liftM (Script.callValue importModule maker [])
    have hstep : step host unit .instantiate call u = .ok v t := step_of_ok hcall
    unfold loadIn
    rw [Run.bind_of_ok (step_of_ok hfactory), Run.bind_of_ok hstep]
    rfl

theorem loadIn_of_stopped (host : Option Host) {phase : LoadPhase}
    (h : Attempt c unit s (.error (phase, f)) t) :
    ∃ g u, Reported host unit phase f t g u ∧ loadIn host c unit s = .error g u := by
  rcases h.runs with ⟨f', hf, hfactory⟩ | ⟨maker, u, hfactory, ⟨f', hf, hcall⟩ | ⟨v, hv, -⟩⟩
  · cases hf
    obtain ⟨g, u, hreported, hstep⟩ := step_of_error host unit .load hfactory
    exact ⟨g, u, hreported, Run.bind_of_error hstep _⟩
  · cases hf
    obtain ⟨g, w, hreported, hstep⟩ := step_of_error host unit .instantiate hcall
    refine ⟨g, w, hreported, ?_⟩
    unfold loadIn
    rw [Run.bind_of_ok (step_of_ok hfactory)]
    exact Run.bind_of_error hstep _
  · cases hv

/-! ### The end of a request -/

/-- A context is there, and it is not closed while imports ask it. -/
def InPlace (c : Nat) (s : Loom) : Prop :=
  ∃ context, s.contexts[c]? = some context ∧ (context.closed = true → .context c ∉ s.asked)

/-- A context is closed, and imports do not ask it. -/
def Ended (c : Nat) (s : Loom) : Prop :=
  ∃ context, s.contexts[c]? = some context ∧ context.closed = true ∧ .context c ∉ s.asked

theorem InPlace.close (h : InPlace c s) : Ended c ((closeContext c).final s) := by
  obtain ⟨context, hc, hclosed⟩ := h
  cases hshut : context.closed with
  | true =>
      rw [final_closeContext_of_closed hc hshut]
      exact ⟨context, hc, hshut, hclosed hshut⟩
  | false =>
      rw [final_closeContext hc hshut]
      refine ⟨{ context with closed := true, given := [] }, ?_, rfl, ?_⟩
      · simp [Array.getElem?_modify, hc]
      · simp

theorem Attempt.sameScope {r : Except (LoadPhase × Fault) Value} (h : Attempt c unit s r t) :
    SameScope s t := by
  have hfactory := sameScope_factory c unit s
  have hcall {maker : Value} {u : Loom} := sameScope_isCodeFrame.follows
    ((Script.callValue importModule maker []).follows u)
  rcases h.runs with ⟨f, -, hrun⟩ | ⟨maker, u, hmaker, ⟨f, -, hrun⟩ | ⟨v, -, hrun⟩⟩
  · exact (Run.eq_error_iff.mp hrun).2 ▸ hfactory
  · obtain rfl := (Run.eq_ok_iff.mp hmaker).2
    exact sameScope_isCodeFrame.trans hfactory ((Run.eq_error_iff.mp hrun).2 ▸ hcall)
  · obtain rfl := (Run.eq_ok_iff.mp hmaker).2
    exact sameScope_isCodeFrame.trans hfactory ((Run.eq_ok_iff.mp hrun).2 ▸ hcall)

/-- A request ends as what is done in its context, which is closed then. -/
theorem run_loadUnit (host : Option Host) (root : Files.Path) (unit : UnitId) (s : Loom) :
    loadUnit host root unit s =
      match loadIn host s.contexts.size unit (installed root unit.space s) with
      | .ok loaded t => .ok loaded ((closeContext s.contexts.size).final t)
      | .error f t => .error f ((closeContext s.contexts.size).final t) := by
  have houtcome := outcome_loadUnit root s host unit
  have hfinal := final_loadUnit root s host unit
  cases h : loadIn host s.contexts.size unit (installed root unit.space s) with
  | ok loaded t =>
      obtain ⟨hok, hend⟩ := Run.eq_ok_iff.mp h
      exact Run.eq_ok_iff.mpr ⟨houtcome.trans hok, hfinal.trans (congrArg _ hend)⟩
  | error f t =>
      obtain ⟨hstopped, hend⟩ := Run.eq_error_iff.mp h
      exact Run.eq_error_iff.mpr ⟨houtcome.trans hstopped, hfinal.trans (congrArg _ hend)⟩

section

variable (host : Option Host) (root : Files.Path)

/-- A request whose steps all succeed gives the handle. -/
theorem loadUnit_of_made {v : Value}
    (h : Attempt s.contexts.size unit (installed root unit.space s) (.ok v) t) :
    loadUnit host root unit s =
      .ok ⟨v, unit, loadedBy s.contexts.size t⟩ ((closeContext s.contexts.size).final t) := by
  rw [run_loadUnit, loadIn_of_made host h]

/-- A request with a step that stops reports its fault. -/
theorem loadUnit_of_stopped {phase : LoadPhase}
    (h : Attempt s.contexts.size unit (installed root unit.space s) (.error (phase, f)) t) :
    ∃ g u, Reported host unit phase f t g u ∧
      loadUnit host root unit s = .error g ((closeContext s.contexts.size).final u) := by
  obtain ⟨g, u, hreported, hrun⟩ := loadIn_of_stopped host h
  exact ⟨g, u, hreported, by rw [run_loadUnit, hrun]⟩

/-- A request that succeeds has made all its steps. -/
theorem made_of_loadUnit {loaded : LoadedUnit} (h : loadUnit host root unit s = .ok loaded t) :
    ∃ v u, Attempt s.contexts.size unit (installed root unit.space s) (.ok v) u ∧
      loaded = ⟨v, unit, loadedBy s.contexts.size u⟩ ∧
      t = (closeContext s.contexts.size).final u := by
  obtain ⟨r, u, hattempt⟩ := exists_attempt s.contexts.size unit (installed root unit.space s)
  cases r with
  | ok v =>
      rw [loadUnit_of_made host root hattempt] at h
      cases h
      exact ⟨v, u, hattempt, rfl, rfl⟩
  | error e =>
      obtain ⟨g, w, -, hrun⟩ := loadUnit_of_stopped host root hattempt
      rw [hrun] at h
      cases h

end

end Loading

end FragmentWeaver
