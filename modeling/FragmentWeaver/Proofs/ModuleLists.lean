import FragmentWeaver.Proofs.Once
import FragmentWeaver.Proofs.Reports

/-!
# What a loaded unit lists

A loaded unit lists the modules whose bodies its context started itself, when their turn came. A module
that another body imported before that is there already when its turn comes, and is not listed, although
its body was carried out in the same context. So however the modules import each other, and whatever
faults their bodies catch, each body is carried out once, no name is listed twice, and the list leaves
out exactly the names whose bodies were carried out on behalf of an import.
-/

namespace FragmentWeaver

namespace ModuleEvent

/-- Is the body of a name started on behalf of an import? Nothing if it is not started. -/
def starter? (name : String) : ModuleEvent → Option Bool
  | .started other _ byImport => if other = name then some byImport else none
  | _ => none

/-- The same of the last start of the body. As no body is started again after it was carried out, that is
    the start of the run which was. -/
def lastStarter? (name : String) (es : List ModuleEvent) : Option Bool :=
  (es.filterMap (starter? name)).getLast?

variable {es es' : List ModuleEvent} {name : String}

theorem lastStarter?_append (name : String) (es es' : List ModuleEvent) :
    lastStarter? name (es ++ es') = (lastStarter? name es').or (lastStarter? name es) := by
  rw [lastStarter?, List.filterMap_append, List.getLast?_append, ← lastStarter?, ← lastStarter?]

theorem lastStarter?_eq_none (h : name ∉ starts es) : lastStarter? name es = none := by
  rw [lastStarter?, List.getLast?_eq_none_iff, List.filterMap_eq_nil_iff]
  intro e he
  cases e with
  | started other m i =>
      have hne : other ≠ name := fun heq => h (heq ▸ mem_starts_iff.mpr ⟨m, i, he⟩)
      rw [starter?, if_neg hne]
  | completed | failed | imported | took => rfl

theorem lastStarter?_ne_none (h : name ∈ starts es) : lastStarter? name es ≠ none := by
  obtain ⟨m, i, he⟩ := mem_starts_iff.mp h
  rw [lastStarter?, ne_eq, List.getLast?_eq_none_iff, List.filterMap_eq_nil_iff]
  intro hnone
  have hstarter := hnone _ he
  rw [starter?, if_pos rfl] at hstarter
  cases hstarter

/-- What was not started on behalf of an import the last time was started otherwise. -/
theorem mem_loads_of_lastStarter? (h : lastStarter? name es = some false) : name ∈ loads es := by
  obtain ⟨e, he, hstarter⟩ := List.mem_filterMap.mp (List.mem_of_getLast? h)
  refine List.mem_filterMap.mpr ⟨e, he, ?_⟩
  cases e with
  | started other m i =>
      rw [starter?] at hstarter
      split at hstarter
      · next heq =>
          cases hstarter
          rw [heq]
          rfl
      · cases hstarter
  | completed | failed | imported | took => cases hstarter

theorem mem_starts_of_mem_loads (h : name ∈ loads es) : name ∈ starts es := by
  obtain ⟨e, he, hloaded⟩ := List.mem_filterMap.mp h
  refine List.mem_filterMap.mpr ⟨e, he, ?_⟩
  cases e with
  | started other m i =>
      cases i with
      | true => cases hloaded
      | false => exact hloaded
  | completed | failed | imported | took => cases hloaded

end ModuleEvent

open ModuleEvent

namespace Loading

variable {c : Nat} {unit : UnitId} {name : String} {names names' : List String} {s s₀ t u : Loom}
  {es es' : List ModuleEvent} {context : Context}

/-- Between two states, a context lists what it has started itself, and the modules of some names are
    loaded. What it started was not started again. -/
structure Lists (c : Nat) (names : List String) (s t : Loom) (es : List ModuleEvent) : Prop where
  tracks : s.Tracks t es
  listed : loadedBy c t = loadedBy c s ++ loads es
  sublist : (loads es).Sublist names
  nodup : (loads es).Nodup
  last : ∀ name ∈ loads es, lastStarter? name es = some false
  stands : ∀ name ∈ names, t.world.imported? name ≠ none

theorem Lists.refl (c : Nat) (s : Loom) : Lists c [] s s [] :=
  ⟨.refl s, (List.append_nil _).symm, .refl _, .nil, nofun, nofun⟩

/-- A module that is loaded is not started again, and so nothing is listed twice. -/
theorem Lists.append (h : Lists c names s t es) (h' : Lists c names' t u es') :
    Lists c (names ++ names') s u (es ++ es') := by
  have hloads : loads (es ++ es') = loads es ++ loads es' := List.filterMap_append
  have hlater {name : String} (hname : name ∈ loads es) : name ∉ starts es' := by
    obtain ⟨m, hm⟩ := Option.ne_none_iff_exists'.mp (h.stands name (h.sublist.subset hname))
    exact h'.tracks.tells.chronicle.not_started hm
  refine ⟨h.tracks.trans h'.tracks, ?_, ?_, ?_, ?_, ?_⟩
  · rw [h'.listed, h.listed, hloads, List.append_assoc]
  · exact hloads ▸ h.sublist.append h'.sublist
  · rw [hloads, List.nodup_append]
    refine ⟨h.nodup, h'.nodup, fun name hname other hother heq => ?_⟩
    exact hlater hname (heq ▸ mem_starts_of_mem_loads hother)
  · intro name hname
    rw [lastStarter?_append]
    rcases List.mem_append.mp (hloads ▸ hname) with hname | hname
    · rw [lastStarter?_eq_none (hlater hname), Option.none_or, h.last name hname]
    · rw [h'.last name hname, Option.some_or]
  · refine List.forall_mem_append.mpr ⟨fun name hname => ?_, h'.stands⟩
    obtain ⟨m, hm⟩ := Option.ne_none_iff_exists'.mp (h.stands name hname)
    rw [(h'.tracks.entries name m List.not_mem_nil hm).1]
    exact Option.some_ne_none m

theorem loadedBy_of_bare (c : Nat) (h : t.contexts.map Context.bare = s.contexts.map Context.bare) :
    loadedBy c t = loadedBy c s := by
  have hbare (v : Loom) : loadedBy c v = ((v.contexts.map Context.bare).getD c default).loaded := by
    rw [loadedBy, Array.getD_eq_getD_getElem?, Array.getD_eq_getD_getElem?, Array.getElem?_map]
    cases v.contexts[c]? <;> rfl
  rw [hbare, h, ← hbare]

/-- Code leaves alone what a context lists. -/
theorem lists_of_follows (c : Nat) (h : s.Follows t) (hedits : t.edits = s.edits) :
    ∃ es, Lists c [] s t es := by
  obtain ⟨es, htracks, hloads⟩ := h.tracks hedits
  refine ⟨es, htracks, ?_, ?_, ?_, ?_, nofun⟩
  · rw [hloads, List.append_nil, loadedBy_of_bare c h.toStays.contexts]
  · exact hloads ▸ List.nil_sublist _
  · exact hloads ▸ List.nodup_nil
  · rw [hloads]
    exact nofun

theorem loadedBy_noteLoaded (name : String) (hc : s.contexts[c]? = some context) :
    loadedBy c ((noteLoaded c name).final s) = loadedBy c s ++ [name] := by
  unfold loadedBy noteLoaded changeContext
  rw [Run.final_modify, Array.getD_eq_getD_getElem?, Array.getD_eq_getD_getElem?]
  dsimp only
  rw [Array.getElem?_modify, if_pos rfl, hc]
  rfl

/-- A module that is not there yet: its body is started by the context, then its name is listed. -/
theorem lists_of_made {file : Files.Path} {es : List ModuleEvent} (hnew : Describes c name s context)
    (hok : ∃ m, (enterLoaded ⟨s.nextSpec, name, .artifact file⟩).outcome (s.give c name) = .ok m)
    (ht : t = (noteLoaded c name).final
      ((enterLoaded ⟨s.nextSpec, name, .artifact file⟩).final (s.give c name)))
    (hedits : t.edits = s.edits) (htracks : s.Tracks t es)
    (hstands : t.world.imported? name ≠ none) : Lists c [name] s t es := by
  let spec : ModuleSpec := ⟨s.nextSpec, name, .artifact file⟩
  let entered := (s.give c name).enterNew spec false
  let u := (runBody importModule entered.1 spec.source).run.final entered.2
  have hbody : entered.2.Follows u := (runBody importModule entered.1 spec.source).follows entered.2
  obtain ⟨m, hok⟩ := hok
  rcases enterLoaded_cases spec (s.give c name) with ⟨-, hend⟩ | ⟨f, hfault, -⟩
  · rw [hend] at ht
    subst ht
    obtain ⟨body, hinside, hloads⟩ := hbody.tracks hedits
    -- What is remembered is the start of the body, what it does, and its end.
    obtain rfl : es =
        .started name entered.1 false :: body ++ [ModuleEvent.completed name entered.1] := by
      have hhistory : s.history ++ es = u.history ++ [ModuleEvent.completed name entered.1] :=
        htracks.history.symm
      rw [hinside.history] at hhistory
      refine (List.append_right_inj s.history).mp (hhistory.trans ?_)
      simp [entered, spec, Loom.enterNew, Loom.note, Loom.give]
    have hlisted : loads
        (.started name entered.1 false :: body ++ [ModuleEvent.completed name entered.1]) =
          [name] := by
      rw [loads, List.cons_append, List.filterMap_cons, List.filterMap_append, ← loads, hloads]
      rfl
    have hentered : entered.2.world.imported? name = some entered.1 :=
      World.imported?_enter_self _ _ _
    have hagain : name ∉ starts body := hinside.tells.chronicle.not_started hentered
    have hbare : u.contexts.map Context.bare = s.contexts.map Context.bare := by
      rw [hbody.toStays.contexts]
      exact (s.stays_give c name).contexts
    obtain ⟨after, hafter⟩ : ∃ after, u.contexts[c]? = some after := by
      have hsize := congrArg Array.size hbare
      rw [Array.size_map, Array.size_map] at hsize
      have hlt := (Array.getElem?_eq_some_iff.mp hnew.get).1
      exact ⟨_, Array.getElem?_eq_getElem (hsize ▸ hlt)⟩
    refine ⟨htracks, ?_, hlisted ▸ .refl _, hlisted ▸ List.nodup_singleton name, ?_, ?_⟩
    · rw [hlisted]
      refine (loadedBy_noteLoaded name (s := u.note (.completed name entered.1)) hafter).trans ?_
      exact congrArg (· ++ [name]) (loadedBy_of_bare c hbare)
    · rw [hlisted]
      refine List.forall_mem_singleton.mpr ?_
      rw [List.cons_append, ← List.singleton_append, lastStarter?_append, lastStarter?_append,
        lastStarter?_eq_none hagain]
      simp [lastStarter?, starter?, List.filterMap_cons]
    · exact List.forall_mem_singleton.mpr hstands
  · rw [hok] at hfault
    cases hfault

/-- To load a module. -/
theorem load_lists (hfirst : s.finders.head? = some c) (hopen : IsOpen c s)
    (hname : s.Offers c name → s.world.imported? name = none ∨ s.Holds c name) {m : ModuleId}
    (hrun : load c name s = .ok m t) (hedits : t.edits = s.edits) : ∃ es, Lists c [name] s t es := by
  obtain ⟨hok, rfl⟩ := Run.eq_ok_iff.mp hrun
  obtain ⟨es, htracks, -, hends⟩ := load_tracks name hfirst hopen hname hedits
  have hstands := (hends m hok).2
  have hload := load_loads c name s
  refine ⟨es, ?_⟩
  generalize (load c name).outcome s = r, (load c name).final s = t at *
  cases hok
  cases hload with
  | known _ =>
      obtain rfl : es = [] := List.self_eq_append_right.mp htracks.history
      exact ⟨htracks, (List.append_nil _).symm, List.nil_sublist _, .nil, nofun,
        List.forall_mem_singleton.mpr hstands⟩
  | made hnew hok => exact lists_of_made hnew ⟨_, hok⟩ rfl hedits htracks hstands

/-- To load modules one after the other, none of which was in the table at first. -/
theorem loadAll_lists (hfirst : s₀.finders.head? = some c) (hopen : IsOpen c s₀)
    (hnames : ∀ name ∈ names, '.' ∈ name.toList ∧ s₀.world.imported? name = none)
    {before : List ModuleEvent} (hbefore : s₀.Tracks s before)
    (hrun : loadAll c names s = .ok () t) (hedits : t.edits = s.edits) :
    ∃ es, Lists c names s t es := by
  induction names generalizing s before with
  | nil =>
      cases hrun
      exact ⟨[], .refl c _⟩
  | cons first rest ih =>
      obtain ⟨⟨hdot, hnew⟩, hrest⟩ := List.forall_mem_cons.mp hnames
      rw [run_loadAll_cons] at hrun
      cases hload : load c first s with
      | error f u =>
          rw [hload] at hrun
          cases hrun
      | ok m u =>
          rw [hload] at hrun
          have hfirst' : s.finders.head? = some c := by
            rw [Loom.finders, hbefore.offers.asked]
            exact hfirst
          obtain ⟨-, hu⟩ := Run.eq_ok_iff.mp hload
          obtain ⟨-, ht⟩ := Run.eq_ok_iff.mp hrun
          obtain ⟨hedits₁, hedits₂⟩ := edits_between (hu ▸ edited_load_self c first s)
            (ht ▸ edited_loadAll c (List.Subset.refl rest) u) hedits
          obtain ⟨es, hlists⟩ := load_lists hfirst' (isOpen_of_sameOffers hopen hbefore.offers)
            (claimed_of_tracks hbefore hdot hnew) hload hedits₁
          obtain ⟨es', hlists'⟩ := ih hrest (hbefore.trans hlists.tracks) hrun hedits₂
          exact ⟨es ++ es', hlists.append hlists'⟩

/-- To load and instantiate a unit in the first context that imports ask. -/
theorem Attempt.lists {v : Value} (h : Attempt c unit s (.ok v) t)
    (hfirst : s.finders.head? = some c) (hc : s.contexts[c]? = some context)
    (hclosed : context.closed = false)
    (hnone : ∀ name ∈ loadedNames context s unit, s.world.imported? name = none)
    (hedits : t.edits = s.edits) : unit.qualifiedName ∈ loadedNames context s unit ∧
      ∃ es, Lists c (loadedNames context s unit) s t es := by
  have hopen : IsOpen c s := ⟨context, hc, hclosed⟩
  cases h with
  | @made names m maker _ s₁ s₂ s₃ s₄ _ hnames hhelpers hunit hmaker h =>
      obtain ⟨hfound, hsame⟩ := Run.eq_ok_iff.mp hnames
      rw [outcome_helperModules hc] at hfound
      rw [final_helperModules] at hsame
      subst hsame
      have hall : loadedNames context s unit = names ++ [unit.qualifiedName] :=
        loadedNames_of_ok hfound
      have hnew {name : String} (hname : name ∈ names ++ [unit.qualifiedName]) :
          '.' ∈ name.toList ∧ s.world.imported? name = none := by
        rw [← hall] at hname
        exact ⟨dotted_of_mem_loadedNames hname, hnone name hname⟩
      -- No step edits the table, since the last state has no new edits.
      have hhelping := (Run.eq_ok_iff.mp hhelpers).2 ▸ edited_loadAll c (List.Subset.refl names) s
      have hloading := (Run.eq_ok_iff.mp hunit).2 ▸ edited_load_self c unit.qualifiedName s₂
      have hlooking : s₃.Follows s₄ := (Run.eq_ok_iff.mp hmaker).2 ▸
        (Script.attributeOf importModule (.module m) unit.name).follows s₃
      have hcalling : s₄.Follows t := (Run.eq_ok_iff.mp h).2 ▸
        (Script.callValue importModule maker []).follows s₄
      have hafter := hlooking.edited.trans hcalling.edited
      obtain ⟨hedits₁, hlater⟩ := edits_between hhelping
        (hloading.trans (hafter.mono (List.nil_subset _))) hedits
      obtain ⟨hedits₂, hlater⟩ := edits_between hloading hafter hlater
      obtain ⟨hedits₃, hedits₄⟩ := edits_between hlooking.edited hcalling.edited hlater
      obtain ⟨es₁, h₁⟩ := loadAll_lists hfirst hopen
        (fun name hname => hnew (List.mem_append_left _ hname)) (.refl s) hhelpers hedits₁
      obtain ⟨hdot, hunitNew⟩ := hnew (List.mem_append_right names (List.mem_singleton.mpr rfl))
      have hfirst' : s₂.finders.head? = some c := by
        rw [Loom.finders, h₁.tracks.offers.asked]
        exact hfirst
      obtain ⟨es₂, h₂⟩ := load_lists hfirst' (isOpen_of_sameOffers hopen h₁.tracks.offers)
        (claimed_of_tracks h₁.tracks hdot hunitNew) hunit hedits₂
      obtain ⟨es₃, h₃⟩ := lists_of_follows c hlooking hedits₃
      obtain ⟨es₄, h₄⟩ := lists_of_follows c hcalling hedits₄
      have hlists := ((h₁.append h₂).append h₃).append h₄
      rw [List.append_nil, List.append_nil, ← hall] at hlists
      exact ⟨hall ▸ List.mem_append_right _ (List.mem_singleton.mpr rfl), _, hlists⟩

/-- What the events say of a name that was not in the table and whose module is loaded: its body was
    carried out once, and who started it the last time is known. -/
theorem Lists.carried (h : Lists c names s t es) (hname : name ∈ names) (hdot : '.' ∈ name.toList)
    (hnone : s.world.imported? name = none) : (completions es).count name = 1 ∧
      (name ∈ loads es ↔ lastStarter? name es = some false) ∧
      (name ∉ loads es ↔ lastStarter? name es = some true) := by
  have hchronicle := h.tracks.tells.chronicle
  obtain ⟨m, hm⟩ := Option.ne_none_iff_exists'.mp (h.stands name hname)
  have hcompleted : .completed name m ∈ es := hchronicle.carriedOut hdot hnone hm
  have hstarted : lastStarter? name es ≠ none :=
    lastStarter?_ne_none (mem_starts_iff.mpr ⟨m, hchronicle.started_of_completed hcompleted⟩)
  have hloaded : name ∈ loads es ↔ lastStarter? name es = some false :=
    ⟨h.last name, mem_loads_of_lastStarter?⟩
  refine ⟨List.count_eq_one_of_mem hchronicle.nodup_completions
    (mem_completions_iff.mpr ⟨m, hcompleted⟩), hloaded, ?_⟩
  rw [hloaded]
  cases hlast : lastStarter? name es with
  | none => exact absurd hlast hstarted
  | some byImport => cases byImport <;> simp

/-- A unit is loaded in a state in whose table none of its modules stands, and no code edits the table;
    whatever imports what, in any order or in a circle, and whatever faults are caught. Then each of the
    modules was carried out once. The unit lists, in the order in which they were started and each once,
    those that the context started itself. Missing are exactly those whose bodies an import had carried
    out before, so that the list is complete only if there are none. -/
theorem loadUnit_lists (host : Option Host) (root : Files.Path) (unit : UnitId) {s t : Loom}
    {loaded : LoadedUnit} (hasked : ∀ c, .context c ∈ s.asked → c < s.contexts.size)
    (hnone : ∀ name ∈ loadedNames { root := root, space := unit.space } s unit,
      s.world.imported? name = none)
    (hrun : loadUnit host root unit s = .ok loaded t) (hedits : t.edits = s.edits) :
    let names := loadedNames { root := root, space := unit.space } s unit
    unit.qualifiedName ∈ names ∧ ∃ es, t.history = s.history ++ es ∧ loaded.modules = loads es ∧
      loaded.modules.Sublist names ∧ loaded.modules.Nodup ∧
      (∀ name ∈ names, (completions es).count name = 1 ∧
        (name ∈ loaded.modules ↔ lastStarter? name es = some false) ∧
        (name ∉ loaded.modules ↔ lastStarter? name es = some true)) ∧
      ((∀ name, name ∈ loaded.modules ↔ name ∈ names) ↔
        ∀ name ∈ names, lastStarter? name es = some false) := by
  intro names
  let c := s.contexts.size
  let context : Context := { root := root, space := unit.space }
  let made : Loom := { s with
    contexts := s.contexts.push context
    asked := .context c :: s.asked }
  have hinstalled : installed root unit.space s = made := by
    rw [installed_eq, if_neg fun hmem => Nat.lt_irrefl _ (hasked _ hmem)]
  obtain ⟨v, u, hattempt, rfl, rfl⟩ := made_of_loadUnit host root hrun
  rw [hinstalled] at hattempt
  rw [edits_closeContext] at hedits
  rw [history_closeContext]
  obtain ⟨hunit, es, hlists⟩ := hattempt.lists rfl (Array.getElem?_push_size (x := context)) rfl hnone
    hedits
  have hmodules : loadedBy c u = loads es := by
    rw [hlists.listed, loadedBy, Array.getD_eq_getD_getElem?, Array.getElem?_push_size]
    exact List.nil_append _
  dsimp only
  rw [hmodules]
  have hcarried {name : String} (hname : name ∈ names) :=
    hlists.carried hname (dotted_of_mem_loadedNames hname) (hnone name hname)
  refine ⟨hunit, es, hlists.tracks.history, rfl, hlists.sublist, hlists.nodup,
    fun name => hcarried, fun hall name hname => ?_, fun hall name => ?_⟩
  · exact (hcarried hname).2.1.mp ((hall name).mpr hname)
  · exact ⟨fun h => hlists.sublist.subset h, fun hname => (hcarried hname).2.1.mpr (hall name hname)⟩

/-- The first helper imports the unit, and that the second helper, so that only the first is listed. -/
theorem loadUnit_lists_circularLoom :
    ∃ loaded t, loadUnit none (.parse "/stage") (.numbered 1) circularLoom = .ok loaded t ∧
      loaded.modules = ["woven.gen1__a"] ∧
      (∀ name ∈ ["woven.gen1__a", "woven.gen1__b", "woven.gen1"],
        (completions t.history).count name = 1) ∧
      lastStarter? "woven.gen1__b" t.history = some true ∧
      lastStarter? "woven.gen1" t.history = some true := by
  have hnames : loadedNames { root := .parse "/stage", space := (UnitId.numbered 1).space }
      circularLoom (.numbered 1) = ["woven.gen1__a", "woven.gen1__b", "woven.gen1"] := by
    decide +kernel
  have hnone : ∀ name ∈ ["woven.gen1__a", "woven.gen1__b", "woven.gen1"],
      circularLoom.world.imported? name = none := by
    decide +kernel
  obtain ⟨hok, hedits⟩ :
      let request := loadUnit none (.parse "/stage") (.numbered 1)
      (request.outcome circularLoom).map LoadedUnit.modules = .ok ["woven.gen1__a"] ∧
        (request.final circularLoom).edits = [] := by
    decide +kernel
  cases hrun : loadUnit none (.parse "/stage") (.numbered 1) circularLoom with
  | error f t =>
      rw [(Run.eq_error_iff.mp hrun).1] at hok
      cases hok
  | ok loaded t =>
      obtain ⟨houtcome, hfinal⟩ := Run.eq_ok_iff.mp hrun
      rw [houtcome] at hok
      have hmodules : loaded.modules = ["woven.gen1__a"] := Except.ok.inj hok
      obtain ⟨-, es, hhistory, -, -, -, hcarried, -⟩ :=
        loadUnit_lists none (.parse "/stage") (.numbered 1) (s := circularLoom)
          (fun c hc => nomatch hc) (hnames ▸ hnone) hrun (hfinal ▸ hedits)
      obtain rfl : t.history = es := hhistory.trans (List.nil_append es)
      rw [hnames, hmodules] at hcarried
      refine ⟨loaded, t, rfl, hmodules, fun name hname => (hcarried name hname).1, ?_, ?_⟩
      · exact (hcarried "woven.gen1__b" (by simp)).2.2.mp (by simp)
      · exact (hcarried "woven.gen1" (by simp)).2.2.mp (by simp)

end Loading

end FragmentWeaver
