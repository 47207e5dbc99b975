import FragmentWeaver.Proofs.Cleanup
import FragmentWeaver.Proofs.Contexts

/-!
# What loading a unit does to modules that were there

A request enters the modules of its helpers and of its unit into the table, whatever stands there, and
takes them out again at its end. So the entry of every other name outlives the request, however it ends;
an entry that has one of these names is lost with it.
-/

namespace FragmentWeaver

namespace Loading

/-- The names of the modules that are loaded for a unit: those of the helpers that the context finds,
    and that of the unit. -/
def loadedNames (context : Context) (s : Loom) (unit : UnitId) : List String :=
  ((helperNames context s.files s.around.cwd unit).map (· ++ [unit.qualifiedName])).toOption.getD []

/-- The module in the table under a name belongs to a context, which is not closed. -/
def Owns (c : Nat) (name : String) (s : Loom) : Prop :=
  ∃ context m, s.contexts[c]? = some context ∧ context.closed = false ∧
    owned? s.world context name = some m

variable {c : Nat} {name : String} {names : List String} {s t u : Loom}

/-- What was given out for a name is known from the context. -/
theorem givenFor_of_get {context : Context} (hc : s.contexts[c]? = some context) (name : String) :
    s.givenFor c name = context.givenFor name := by
  rw [Loom.givenFor, hc]

/-- A module that belongs to a context goes on to do so, as long as no code edits the table. -/
theorem Owns.keep (h : Owns c name s) (hname : name ∉ names) (hedited : Loom.Edited names s t)
    (hscope : SameScope s t) (hedits : t.edits = s.edits) : Owns c name t := by
  obtain ⟨context, m, hc, hclosed, hown⟩ := h
  obtain ⟨hm, n, hn, hmem⟩ := (owned?_eq_some_iff s.world context).mp hown
  obtain ⟨es, hes, hkeeps, hnone⟩ := hedited
  have hnil : es = [] := List.self_eq_append_right.mp (hedits.symm.trans hes)
  subst hnil
  obtain ⟨htable, hgiven⟩ := hkeeps (fun _ h => nomatch h) name m hname hm
  have hlt : m < s.world.modules.size := by
    obtain ⟨r, hr, -⟩ := Option.bind_eq_some_iff.mp hn
    exact (Array.getElem?_eq_some_iff.mp hr).1
  have hc' : c < t.contexts.size := by
    rw [hscope.size]
    exact (Array.getElem?_eq_some_iff.mp hc).1
  have hget : t.contexts[c]? = some t.contexts[c] := Array.getElem?_eq_getElem hc'
  obtain ⟨before, hbefore, hsame⟩ := hscope.closed_eq hget
  rw [hc] at hbefore
  cases hbefore
  refine ⟨t.contexts[c], m, hget, hsame.symm.trans hclosed,
    (owned?_eq_some_iff t.world _).mpr ⟨htable, n, ?_, ?_⟩⟩
  · exact ((hnone rfl).1.specs m hlt).trans hn
  · rw [← givenFor_of_get hget, hgiven, givenFor_of_get hc]
    exact hmem

/-- When nothing is edited in the end, nothing was edited in between. -/
theorem edits_between {others : List String} (h : Loom.Edited names s t)
    (h' : Loom.Edited others t u) (hedits : u.edits = s.edits) :
    t.edits = s.edits ∧ u.edits = t.edits := by
  obtain ⟨es, hes, -, -⟩ := h
  obtain ⟨es', hes', -, -⟩ := h'
  rw [hes', hes, List.append_assoc, List.append_right_eq_self, List.append_eq_nil_iff] at hedits
  obtain ⟨rfl, rfl⟩ := hedits
  exact ⟨by rw [hes, List.append_nil], by rw [hes', List.append_nil]⟩

/-- Right after its module was made, a name belongs to the context that described it. -/
theorem owns_enterNew {context : Context} (hc : s.contexts[c]? = some context)
    (hclosed : context.closed = false) (name : String) (source : ModuleSource) (starting : Bool) :
    Owns c name ((s.give c name).enterNew ⟨s.nextSpec, name, source⟩ starting).2 := by
  refine ⟨context.give name s.nextSpec, s.world.modules.size, ?_, hclosed,
    (owned?_eq_some_iff _ _).mpr ⟨?_, s.nextSpec, ?_, ?_⟩⟩
  · simp [Loom.enterNew, Loom.note, Loom.give, Array.getElem?_modify, hc]
  · exact World.imported?_enter_self _ _ _
  · exact (World.specOf?_newModule_self (s.world.newList []).2 _).trans
      (recordOf_claimedSpec? ..)
  · simp [Context.give, Context.givenFor]

/-- A module that was loaded belongs to the context. -/
theorem owns_load {m : ModuleId} {context : Context} (hc : s.contexts[c]? = some context)
    (hclosed : context.closed = false) (hok : (load c name).outcome s = .ok m)
    (hedits : ((load c name).final s).edits = s.edits) : Owns c name ((load c name).final s) := by
  have hload := load_loads c name s
  generalize (load c name).outcome s = r, (load c name).final s = t at hload hok hedits ⊢
  cases hload with
  | known hown =>
      rw [Array.getD_eq_getD_getElem?, hc] at hown
      exact ⟨context, _, hc, hclosed, hown⟩
  | unknown _ | unreadable _ | package _ | failed _ _ => cases hok
  | @made _ _ file _ hmade =>
      let spec : ModuleSpec := ⟨s.nextSpec, name, .artifact file⟩
      rcases enterLoaded_cases spec (s.give c name) with ⟨-, hend⟩ | ⟨f, hfault, -⟩
      · rw [hend] at hedits ⊢
        let entered := (s.give c name).enterNew spec false
        have hbody := (runBody importModule entered.1 spec.source).follows entered.2
        exact (owns_enterNew hc hclosed name _ false).keep List.not_mem_nil
          ((hbody.edited.trans (Loom.edited_note ..)).trans (edited_noteLoaded c name _))
          (sameScope_isCodeFrame.trans
            (sameScope_isCodeFrame.trans (sameScope_isCodeFrame.follows hbody)
              (sameScope_note _ _))
            (sameScope_noteLoaded c name _)) hedits
      · rw [hfault] at hmade
        cases hmade

/-- The context with a number is there and not closed. -/
def IsOpen (c : Nat) (s : Loom) : Prop :=
  ∃ context, s.contexts[c]? = some context ∧ context.closed = false

theorem IsOpen.keep (h : IsOpen c s) (hscope : SameScope s t) : IsOpen c t := by
  obtain ⟨context, hc, hclosed⟩ := h
  have hlt : c < t.contexts.size := by
    rw [hscope.size]
    exact (Array.getElem?_eq_some_iff.mp hc).1
  have hget : t.contexts[c]? = some t.contexts[c] := Array.getElem?_eq_getElem hlt
  obtain ⟨before, hbefore, hsame⟩ := hscope.closed_eq hget
  rw [hc] at hbefore
  cases hbefore
  exact ⟨_, hget, hsame.symm.trans hclosed⟩

theorem edited_loadAll (c : Nat) {loads : List String} (hloads : loads ⊆ names) :
    (loadAll c loads).Keeps (Loom.Edited names) := by
  have hP := Loom.edited_isCodeFrame names
  unfold loadAll
  induction loads with
  | nil => exact .pure hP _
  | cons name rest ih =>
      rw [List.cons_subset] at hloads
      exact .bind hP (.bind hP (edited_load c hloads.1) fun _ => .pure hP _) fun _ => ih hloads.2

theorem sameScope_loadAll (c : Nat) (loads : List String) :
    (loadAll c loads).Keeps SameScope := by
  have hP := sameScope_isCodeFrame
  unfold loadAll
  induction loads with
  | nil => exact .pure hP _
  | cons name rest ih =>
      exact .bind hP (.bind hP (sameScope_load c name) fun _ => .pure hP _) fun _ => ih

theorem loadAll_cons (c : Nat) (name : String) (rest : List String) :
    loadAll c (name :: rest) = (do let _ ← load c name) >>= fun _ => loadAll c rest := rfl

/-- Modules that were loaded one after the other all belong to the context. -/
theorem owns_loadAll {loads : List String} (hopen : IsOpen c s)
    (hok : (loadAll c loads).outcome s = .ok ())
    (hedits : ((loadAll c loads).final s).edits = s.edits) :
    ∀ name ∈ loads, Owns c name ((loadAll c loads).final s) := by
  induction loads generalizing s with
  | nil => exact fun _ h => nomatch h
  | cons first rest ih =>
      rw [loadAll_cons, Run.outcome_bind, Run.outcome_bind, Run.final_bind] at hok
      rw [loadAll_cons, Run.final_bind, Run.outcome_bind, Run.final_bind] at hedits ⊢
      cases hfirst : (load c first).outcome s with
      | error f =>
          rw [hfirst] at hok
          cases hok
      | ok m =>
          rw [hfirst] at hok hedits
          dsimp only at hok hedits ⊢
          have hstep := edited_load_self c first s
          have hrest := edited_loadAll c (List.Subset.refl rest) ((load c first).final s)
          obtain ⟨hbefore, hafter⟩ := edits_between hstep hrest hedits
          have hopen' := hopen.keep (sameScope_load c first s)
          intro name hname
          by_cases hmem : name ∈ rest
          · exact ih hopen' hok hafter name hmem
          · have heq : name = first := by simpa [hmem] using hname
            subst heq
            obtain ⟨context, hc, hclosed⟩ := hopen
            exact (owns_load hc hclosed hfirst hbefore).keep hmem hrest
              (sameScope_loadAll c rest _) hafter

/-- What the helpers' modules are called is told by the context and the files. -/
theorem outcome_helperModules {context : Context} (hc : s.contexts[c]? = some context)
    (unit : UnitId) : (helperModules c unit).outcome s =
      helperNames context s.files s.around.cwd unit := by
  have hget : s.contexts.getD c default = context := by
    rw [Array.getD_eq_getD_getElem?, hc]
    rfl
  unfold helperModules
  rw [Run.outcome_bind, Run.outcome_get, Run.final_get]
  dsimp only
  rw [Run.outcome_bind, outcome_contextOf, final_contextOf, hget]
  dsimp only
  cases helperNames context s.files s.around.cwd unit <;> rfl

theorem final_helperModules (c : Nat) (unit : UnitId) (s : Loom) :
    (helperModules c unit).final s = s := by
  unfold helperModules
  rw [Run.final_bind, Run.outcome_get, Run.final_get]
  dsimp only
  rw [Run.final_bind, outcome_contextOf, final_contextOf]
  dsimp only
  rw [Run.final_lift]

theorem loadedNames_of_ok {context : Context} {unit : UnitId}
    (h : helperNames context s.files s.around.cwd unit = .ok names) :
    loadedNames context s unit = names ++ [unit.qualifiedName] := by
  unfold loadedNames
  rw [h]
  rfl

/-- Loading the modules of a unit changes the entries of their names, and of the others what their
    bodies do to them. -/
theorem edited_factory {context : Context} (hc : s.contexts[c]? = some context) (unit : UnitId) :
    Loom.Edited (loadedNames context s unit) s ((factory c unit).final s) := by
  have hP := Loom.edited_isCodeFrame (loadedNames context s unit)
  unfold factory
  rw [Run.final_bind, outcome_helperModules hc, final_helperModules]
  cases hnames : helperNames context s.files s.around.cwd unit with
  | error f => exact .refl s
  | ok names =>
      have hhelpers : names ⊆ loadedNames context s unit := by
        rw [loadedNames_of_ok hnames]
        exact List.subset_append_left ..
      have hunit : unit.qualifiedName ∈ loadedNames context s unit := by
        rw [loadedNames_of_ok hnames]
        exact List.mem_append_right _ (List.mem_singleton.mpr rfl)
      have hkeeps : Run.Keeps _ _ := .bind hP (edited_loadAll c hhelpers) fun _ =>
        .bind hP (edited_load c hunit) fun m =>
          .act hP (Script.attributeOf importModule (.module m) unit.name)
      exact hkeeps s

/-- When all goes well and no code edits the table, the modules of a unit belong to the context. -/
theorem owns_factory {context : Context} {v : Value} (hc : s.contexts[c]? = some context)
    (hclosed : context.closed = false) {unit : UnitId} (hok : (factory c unit).outcome s = .ok v)
    (hedits : ((factory c unit).final s).edits = s.edits) :
    ∀ name ∈ loadedNames context s unit, Owns c name ((factory c unit).final s) := by
  unfold factory at hok hedits ⊢
  rw [Run.outcome_bind, outcome_helperModules hc, final_helperModules] at hok
  rw [Run.final_bind, outcome_helperModules hc, final_helperModules] at hedits ⊢
  cases hnames : helperNames context s.files s.around.cwd unit with
  | error f =>
      rw [hnames] at hok
      cases hok
  | ok names =>
      rw [hnames] at hok hedits
      dsimp only at hok hedits ⊢
      rw [Run.outcome_bind] at hok
      rw [Run.final_bind] at hedits ⊢
      cases hhelpers : (loadAll c names).outcome s with
      | error f =>
          rw [hhelpers] at hok
          cases hok
      | ok _ =>
          rw [hhelpers] at hok hedits
          dsimp only at hok hedits ⊢
          rw [Run.outcome_bind] at hok
          rw [Run.final_bind] at hedits ⊢
          cases hunit : (load c unit.qualifiedName).outcome ((loadAll c names).final s) with
          | error f =>
              rw [hunit] at hok
              cases hok
          | ok m =>
              rw [hunit] at hedits
              dsimp only at hedits ⊢
              -- The helpers are loaded, then the unit, and then its class is looked up.
              let t := (load c unit.qualifiedName).final ((loadAll c names).final s)
              have hlook := (Script.attributeOf importModule (.module m) unit.name).follows t
              have hfirst := edited_loadAll c (List.Subset.refl names) s
              have hlast := edited_load_self c unit.qualifiedName ((loadAll c names).final s)
              have hboth := (hlast.trans (hlook.edited.mono (List.nil_subset _)))
              obtain ⟨hbefore, hafter⟩ := edits_between hfirst hboth hedits
              obtain ⟨hload, hlooked⟩ := edits_between hlast hlook.edited hafter
              have hopen : IsOpen c ((loadAll c names).final s) :=
                IsOpen.keep ⟨context, hc, hclosed⟩ (sameScope_loadAll c names s)
              have hscope := sameScope_isCodeFrame.follows hlook
              intro name hname
              by_cases heq : name = unit.qualifiedName
              · subst heq
                obtain ⟨_, hc', hclosed'⟩ := hopen
                exact (owns_load hc' hclosed' hunit hload).keep List.not_mem_nil hlook.edited
                  hscope hlooked
              · have hmem : name ∈ names := by
                  rw [loadedNames_of_ok hnames] at hname
                  simpa [heq] using hname
                exact (owns_loadAll ⟨context, hc, hclosed⟩ hhelpers hbefore name hmem).keep
                  (by simpa using heq) hboth
                  (sameScope_isCodeFrame.trans (sameScope_load c _ _) hscope) hafter

/-- A step ends as its action does; when that fails, the host may have been told. -/
theorem step_cases {α : Type} (host : Option Host) (unit : UnitId) (phase : LoadPhase)
    (action : Run α) (s : Loom) :
    (∃ x, action.outcome s = .ok x ∧ (step host unit phase action).outcome s = .ok x ∧
        (step host unit phase action).final s = action.final s) ∨
      ∃ f, action.outcome s = .error f ∧
        (∃ g, (step host unit phase action).outcome s = .error g) ∧
        ((step host unit phase action).final s = action.final s ∨
          (step host unit phase action).final s =
            (Host.told host unit f).final (action.final s)) := by
  unfold step
  rw [Run.outcome_tryCatch, Run.final_tryCatch]
  cases action.outcome s with
  | ok x => exact .inl ⟨x, rfl, rfl, rfl⟩
  | error f =>
      refine .inr ⟨f, rfl, ?_⟩
      dsimp only
      rw [Run.outcome_bind, Run.final_bind, Run.outcome_world, Run.final_world]
      dsimp only
      split
      · rw [Run.outcome_bind, Run.final_bind]
        cases (Host.told host unit f).outcome (action.final s) with
        | ok _ => exact ⟨⟨_, rfl⟩, .inr rfl⟩
        | error g => exact ⟨⟨g, rfl⟩, .inr rfl⟩
      · exact ⟨⟨f, rfl⟩, .inl rfl⟩

/-- To load and instantiate a unit in an open context. -/
theorem loadIn_entries {host : Host} (hhost : host.Keeps (Loom.Edited [])) {context : Context}
    (hc : s.contexts[c]? = some context) (hclosed : context.closed = false) (unit : UnitId) :
    let t := (loadIn (some host) c unit).final s
    Loom.Edited (loadedNames context s unit) s t ∧
      (∀ loaded, (loadIn (some host) c unit).outcome s = .ok loaded → t.edits = s.edits →
        ∀ name ∈ loadedNames context s unit, Owns c name t) := by
  have hP := Loom.edited_isCodeFrame []
  have hfactory := edited_factory hc unit
  dsimp only
  unfold loadIn
  rw [Run.final_bind, Run.outcome_bind]
  rcases step_cases (some host) unit .load (factory c unit) s with
    ⟨maker, hok, hstep, hend⟩ | ⟨f, -, ⟨g, hstep⟩, hend⟩
  · rw [hstep, hend]
    dsimp only
    have hinstance := Run.Keeps.act hP (Script.callValue importModule maker [])
    refine ⟨?_, fun loaded hloaded hedits => ?_⟩
    · refine hfactory.trans (Loom.Edited.mono ?_ (List.nil_subset _))
      exact Run.Keeps.bind hP (keeps_step hP hhost unit .instantiate hinstance)
        (fun _ => .bind hP (fun _ => .refl _) fun _ => .pure hP _) _
    · rw [Run.outcome_bind] at hloaded
      rw [Run.final_bind] at hedits ⊢
      rcases step_cases (some host) unit .instantiate
          (liftM (Script.callValue importModule maker [])) ((factory c unit).final s) with
        ⟨handle, -, hstep, hend⟩ | ⟨f, -, ⟨g, hstep⟩, -⟩
      · rw [hstep, hend] at hedits ⊢
        have hact := (Script.callValue importModule maker []).follows ((factory c unit).final s)
        obtain ⟨hbefore, hafter⟩ := edits_between hfactory hact.edited hedits
        intro name hname
        exact (owns_factory hc hclosed hok hbefore name hname).keep List.not_mem_nil hact.edited
          (sameScope_isCodeFrame.follows hact) hafter
      · rw [hstep] at hloaded
        cases hloaded
  · rw [hstep]
    refine ⟨?_, fun _ hloaded => by cases hloaded⟩
    dsimp only
    rcases hend with hend | hend
    · rw [hend]
      exact hfactory
    · rw [hend]
      exact hfactory.trans ((hhost.told hP unit f _).mono (List.nil_subset _))

theorem outcome_closeContext (c : Nat) (s : Loom) : (closeContext c).outcome s = .ok () := rfl

/-- An entry for whose name a context gave out no description outlives the context. -/
theorem imported?_closeContext_of_nil (h : s.givenFor c name = []) {m : ModuleId}
    (hm : s.world.imported? name = some m) :
    ((closeContext c).final s).world.imported? name = some m := by
  cases hc : s.contexts[c]? with
  | none =>
      have hsame : (closeContext c).final s = s := by
        unfold closeContext
        rw [Run.final_modify, hc]
      rw [hsame, hm]
  | some context =>
      rw [givenFor_of_get hc] at h
      rcases imported?_closeContext_cases hc name with hkept | ⟨-, _, n, -, -, hmem⟩
      · exact hkept.trans hm
      · rw [h] at hmem
        cases hmem

/-- A module that belongs to a context is taken out with it. -/
theorem Owns.close (h : Owns c name s) :
    ((closeContext c).final s).world.imported? name = none := by
  obtain ⟨context, m, hc, hclosed, hown⟩ := h
  rw [imported?_closeContext hc hclosed, hown]
  rfl

/-- The state that the modules of a unit are loaded in: a context has been made for its namespace and
    installed. -/
def installed (root : Files.Path) (space : String) (s : Loom) : Loom :=
  (openContext s.contexts.size).final
    { s with contexts := s.contexts.push { root := root, space := space } }

section

variable (root : Files.Path) (space : String) (s : Loom)

theorem openContext_made :
    let made : Loom := { s with contexts := s.contexts.push { root := root, space := space } }
    (openContext s.contexts.size).outcome made = .ok () ∧
      installed root space s =
        if .context s.contexts.size ∈ s.asked then made
        else { made with asked := .context s.contexts.size :: s.asked } := by
  intro made
  have hmade : made.contexts[s.contexts.size]? = some { root := root, space := space } :=
    Array.getElem?_push_size
  exact openContext_of_open hmade rfl

theorem installed_eq : installed root space s = { s with
    contexts := s.contexts.push { root := root, space := space }
    asked := if .context s.contexts.size ∈ s.asked then s.asked
      else .context s.contexts.size :: s.asked } := by
  rw [(openContext_made root space s).2]
  split <;> rfl

theorem getElem?_installed : (installed root space s).contexts[s.contexts.size]? =
    some { root := root, space := space } := by
  rw [installed_eq]
  exact Array.getElem?_push_size

/-- The names of a unit's modules do not depend on the contexts. -/
theorem loadedNames_installed (context : Context) (unit : UnitId) :
    loadedNames context (installed root space s) unit = loadedNames context s unit := by
  rw [installed_eq]
  rfl

/-- A request is what is done in the context that was installed, which is closed at the end. -/
theorem final_loadUnit (host : Option Host) (unit : UnitId) :
    (loadUnit host root unit).final s = (closeContext s.contexts.size).final
      ((loadIn host s.contexts.size unit).final (installed root unit.space s)) := by
  let made : Loom := { s with contexts := s.contexts.push { root := root, space := unit.space } }
  unfold loadUnit
  rw [Run.final_bind]
  change (openContext s.contexts.size >>= _ : Run LoadedUnit).final made = _
  rw [Run.final_bind, (openContext_made root unit.space s).1]
  exact Run.final_andFinally ..

theorem outcome_loadUnit (host : Option Host) (unit : UnitId) :
    (loadUnit host root unit).outcome s =
      (loadIn host s.contexts.size unit).outcome (installed root unit.space s) := by
  let made : Loom := { s with contexts := s.contexts.push { root := root, space := unit.space } }
  unfold loadUnit
  rw [Run.outcome_bind]
  change (openContext s.contexts.size >>= _ : Run LoadedUnit).outcome made = _
  rw [Run.outcome_bind, (openContext_made root unit.space s).1]
  exact Run.outcome_andFinally _ (fun u => ⟨_, outcome_closeContext _ u⟩) _

end

/-- However a request to load a unit ends, as long as no code replaces or drops an entry of the table:
    every entry that was there is there afterwards, for the same module, unless it has the name of one
    of the modules that are loaded for the unit. After a request that succeeds and whose code does not
    edit the table at all, none of these names is there any more, whether it was before or not. The
    host may do to the table what code may do. -/
theorem loadUnit_entries {host : Host} (hhost : host.Keeps (Loom.Edited [])) (root : Files.Path)
    (unit : UnitId) (s : Loom) :
    let names := loadedNames { root := root, space := unit.space } s unit
    let t := (loadUnit (some host) root unit).final s
    ∃ edits, t.edits = s.edits ++ edits ∧
      ((∀ e ∈ edits, e.keepsEntries = true) → ∀ name m, name ∉ names →
        s.world.imported? name = some m → t.world.imported? name = some m) ∧
      (edits = [] → ∀ loaded, (loadUnit (some host) root unit).outcome s = .ok loaded →
        ∀ name ∈ names, t.world.imported? name = none) := by
  intro names t
  have hfinal : t = _ := final_loadUnit root s (some host) unit
  have hworld : (installed root unit.space s).world = s.world := by rw [installed_eq]
  have hsame : (installed root unit.space s).edits = s.edits := by rw [installed_eq]
  have hc := getElem?_installed root unit.space s
  obtain ⟨hedited, howns⟩ := loadIn_entries hhost hc rfl unit
  rw [loadedNames_installed] at hedited howns
  obtain ⟨es, hes, hkeeps, -⟩ := hedited
  refine ⟨es, ?_, fun hall name m hname hm => ?_, fun hnil loaded hok name hname => ?_⟩
  · rw [hfinal, edits_closeContext, hes, hsame]
  · obtain ⟨htable, hgiven⟩ := hkeeps hall name m hname (hworld ▸ hm)
    rw [hfinal]
    refine imported?_closeContext_of_nil ?_ htable
    rw [hgiven, givenFor_of_get hc]
    rfl
  · rw [hfinal]
    rw [outcome_loadUnit] at hok
    refine (howns loaded hok ?_ name hname).close
    rw [hes, hnil, List.append_nil]

/-- A state in which modules stand under the name of a unit that was compiled, and under another
    one. -/
def crowdedLoom : Loom where
  world :=
    { modules := #[{ name := "builtins", attributes := [("int", .cls (.standard "int"))] },
        .ofName "woven.gen1", .ofName "woven.y"]
      table := [("builtins", 0), ("woven.gen1", 1), ("woven.y", 2)] }
  files :=
    [(["stage"], .directory), (["stage", "woven"], .directory),
      (["stage", "woven", "gen1.pyc"],
        .file (.artifact { body := [.assign [.name "gen1"] (.name "int")] }))]

theorem recording_edited : Host.recording.Keeps (Loom.Edited []) where
  showSource _ _ _ := Loom.edited_of_same rfl rfl rfl rfl
  failed _ _ := Loom.edited_of_same rfl rfl rfl rfl

/-- The unit is loaded, and the module that stood under its name is lost. -/
theorem crowdedLoom_entries :
    let t := (loadUnit (some .recording) (.parse "/stage") (.numbered 1)).final crowdedLoom
    crowdedLoom.world.imported? "woven.gen1" = some 1 ∧ t.world.imported? "woven.gen1" = none ∧
      t.world.imported? "woven.y" = some 2 := by
  intro t
  obtain ⟨es, hes, hkeeps, hgone⟩ :=
    loadUnit_entries recording_edited (.parse "/stage") (.numbered 1) crowdedLoom
  have hnames : loadedNames { root := .parse "/stage", space := (UnitId.numbered 1).space }
      crowdedLoom (.numbered 1) = ["woven.gen1"] := by
    decide +kernel
  have hnil : es = [] := by
    have hnone : t.edits = crowdedLoom.edits := by decide +kernel
    exact List.self_eq_append_right.mp (hnone.symm.trans hes)
  subst hnil
  have hok : ((loadUnit (some .recording) (.parse "/stage") (.numbered 1)).outcome
      crowdedLoom).isOk = true := by
    decide +kernel
  refine ⟨rfl, ?_, hkeeps (fun _ h => nomatch h) "woven.y" 2 (by rw [hnames]; decide) rfl⟩
  cases hloaded : (loadUnit (some .recording) (.parse "/stage") (.numbered 1)).outcome
      crowdedLoom with
  | error f =>
      rw [hloaded] at hok
      cases hok
  | ok loaded => exact hgone rfl loaded hloaded "woven.gen1" (by rw [hnames]; decide)

end Loading

end FragmentWeaver
