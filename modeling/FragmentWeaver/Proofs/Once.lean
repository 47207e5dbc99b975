import FragmentWeaver.Proofs.Chronicles
import FragmentWeaver.Proofs.Entries

/-!
# Every body is run once

The modules of a unit come into the table on two ways: they are loaded one after the other, and bodies
that are carried out meanwhile import them. Whichever comes first, the context claims the module, and so
neither starts its body again: whatever imports what, also in a circle, every body is started at most
once, and when the unit is loaded, every one was carried out to its end.
-/

namespace FragmentWeaver

open ModuleEvent

namespace Loom

variable {s t u : Loom} {es es' : List ModuleEvent} {c : Nat} {name : String}

/-- Between two states, nothing becomes of the module table but what some events tell, and these are what
    was remembered. -/
structure Tracks (s t : Loom) (es : List ModuleEvent) : Prop where
  history : t.history = s.history ++ es
  tells : s.Tells t es
  entries : KeepsEntries [] s t
  specs : s.KeepsSpecs t
  offers : s.SameOffers t

theorem SameOffers.refl (s : Loom) : s.SameOffers s := ⟨rfl, rfl, rfl, rfl⟩

theorem SameOffers.symm (h : s.SameOffers t) : t.SameOffers s :=
  ⟨h.asked.symm, h.files.symm, h.around.symm, h.faces.symm⟩

theorem Tracks.refl (s : Loom) : s.Tracks s [] :=
  ⟨(List.append_nil _).symm, tells_nil rfl, fun _ _ _ hm => ⟨hm, fun _ => rfl⟩, .refl s, .refl s⟩

theorem Tracks.trans (h : s.Tracks t es) (h' : t.Tracks u es') : s.Tracks u (es ++ es') :=
  ⟨by rw [h'.history, h.history, List.append_assoc],
    h.tells.trans h.offers h'.tells h'.entries h'.specs, h.entries.trans h'.entries,
    h.specs.trans h'.specs, h.offers.trans h'.offers⟩

/-- What becomes of the table when no code edits it. -/
theorem Edited.unedited {names : List String} (h : Edited names s t) (hedits : t.edits = s.edits) :
    KeepsEntries names s t ∧ s.KeepsSpecs t := by
  obtain ⟨ds, hds, hkeeps, hnone⟩ := h
  obtain rfl : ds = [] := List.self_eq_append_right.mp (hedits.symm.trans hds)
  exact ⟨hkeeps nofun, (hnone rfl).1⟩

/-- Code that does not edit the table starts bodies only on behalf of imports. -/
theorem Follows.tracks (h : s.Follows t) (hedits : t.edits = s.edits) :
    ∃ es, s.Tracks t es ∧ loads es = [] := by
  obtain ⟨ds, es, hds, hes, himports, htells⟩ := h.recounted
  obtain rfl : ds = [] := List.self_eq_append_right.mp (hedits.symm.trans hds)
  obtain ⟨hentries, hspecs⟩ := h.edited.unedited hedits
  refine ⟨es, ⟨hes, htells rfl, hentries, hspecs, h.toStays.sameOffers⟩, ?_⟩
  rw [loads, List.filterMap_eq_nil_iff]
  intro e he
  cases e with
  | started name m byImport =>
      cases byImport with
      | true => rfl
      | false => exact absurd he (himports name m)
  | completed | failed | imported | took => rfl

end Loom

namespace Loading

variable {c : Nat} {name : String} {names : List String} {s s₀ t : Loom} {context : Context}

theorem isOpen_of_sameOffers (h : IsOpen c s) (hoffers : s.SameOffers t) : IsOpen c t := by
  obtain ⟨context, hc, hclosed⟩ := h
  have hfaces := congrArg (·[c]?) hoffers.faces
  simp only [Array.getElem?_map, hc, Option.map_some] at hfaces
  obtain ⟨after, hafter, hface⟩ := Option.map_eq_some_iff.mp hfaces
  exact ⟨after, hafter, (congrArg (·.2.2) hface).trans hclosed⟩

/-- A context does not describe anew what it claims. -/
theorem Describes.not_holds (h : Describes c name s context) : ¬ s.Holds c name := by
  rintro ⟨m, n, hm, hn, hmem⟩
  rw [givenFor_of_get h.get] at hmem
  have hown := (owned?_eq_some_iff s.world context).mpr ⟨hm, n, hn, hmem⟩
  rw [h.new] at hown
  cases hown

theorem Describes.offers (h : Describes c name s context) (hfirst : s.finders.head? = some c) :
    s.Offers c name := by
  obtain ⟨source, hsource⟩ := h.known
  exact ⟨hfirst, context, source, h.get, hsource⟩

theorem tracks_noteLoaded (c : Nat) (name : String) (s : Loom) :
    s.Tracks ((noteLoaded c name).final s) [] := by
  have hnoted : Loom.Edited [] s ((noteLoaded c name).final s) := edited_noteLoaded c name s
  obtain ⟨hentries, hspecs⟩ := hnoted.unedited rfl
  refine ⟨(List.append_nil _).symm, Loom.tells_nil rfl, hentries, hspecs, rfl, rfl, rfl, ?_⟩
  dsimp only [noteLoaded, changeContext, Run.final_modify]
  exact map_modify (fun _ => by rfl) ..

/-- A module that the first context makes anew under a name that is not in the table: its body is
    started, and carried out to its end or not. -/
theorem tracks_enterLoaded {file : Files.Path} (hnew : Describes c name s context)
    (hfirst : s.finders.head? = some c) (hnone : s.world.imported? name = none)
    (hedits : ((enterLoaded ⟨s.nextSpec, name, .artifact file⟩).final (s.give c name)).edits =
      s.edits) :
    let action := enterLoaded ⟨s.nextSpec, name, .artifact file⟩
    ∃ m es last, loads es = [] ∧
      s.Tracks (action.final (s.give c name)) (.started name m false :: es ++ [last]) ∧
      (action.outcome (s.give c name) = .ok m ∧ last = ModuleEvent.completed name m ∨
        (∃ f, action.outcome (s.give c name) = .error f) ∧ last = ModuleEvent.failed name m) := by
  intro action
  let spec : ModuleSpec := ⟨s.nextSpec, name, .artifact file⟩
  let entered := (s.give c name).enterNew spec false
  let u := (runBody importModule entered.1 spec.source).run.final entered.2
  have hbody : entered.2.Follows u := (runBody importModule entered.1 spec.source).follows entered.2
  have hedited : Loom.Edited [] s ((enterLoaded spec).final (s.give c name)) :=
    edited_enterLoaded hnew.get hnew.isOpen (.inr hnone) rfl
  obtain ⟨hentries, hspecs⟩ := hedited.unedited hedits
  have hends (hu : u.edits = s.edits) : ∃ es, loads es = [] ∧ entered.2.Tracks u es ∧
      s.Tells (u.note (.completed name entered.1))
        (.started name entered.1 false :: es ++ [ModuleEvent.completed name entered.1]) ∧
      s.Tells ({ u with world := u.world.leave name }.note (.failed name entered.1))
        (.started name entered.1 false :: es ++ [ModuleEvent.failed name entered.1]) := by
    obtain ⟨es, htracks, hloads⟩ := hbody.tracks hu
    exact ⟨es, hloads, htracks, Loom.tells_of_entered spec false hnew.get rfl
      (fun d hd => Option.some_inj.mp (hd.1.symm.trans hfirst)) hnone htracks.tells htracks.entries
      htracks.specs⟩
  have hoffers : s.SameOffers u :=
    (Loom.sameOffers_enterNew c name spec false).trans hbody.toStays.sameOffers
  have hhistory {es : List ModuleEvent} (hes : u.history = entered.2.history ++ es)
      (last : ModuleEvent) :
      u.history ++ [last] = s.history ++ (.started name entered.1 false :: es ++ [last]) := by
    rw [hes]
    simp [entered, spec, Loom.enterNew, Loom.note, Loom.give]
  rcases enterLoaded_cases spec (s.give c name) with ⟨hok, hend⟩ | ⟨f, hfault, ⟨hlost, hend⟩ | hend⟩
  · obtain ⟨es, hloads, htracks, hcompleted, -⟩ := hends ((congrArg Loom.edits hend).symm.trans hedits)
    refine ⟨entered.1, es, _, hloads, ?_, .inl ⟨hok, rfl⟩⟩
    rw [hend] at hentries hspecs ⊢
    exact ⟨hhistory htracks.history _, hcompleted, hentries, hspecs, hoffers.trans ⟨rfl, rfl, rfl, rfl⟩⟩
  · -- Nothing took the module out of the table.
    obtain ⟨es, -, htracks, -⟩ := hends ((congrArg Loom.edits hend).symm.trans hedits)
    exact absurd (htracks.entries name _ List.not_mem_nil (World.imported?_enter_self _ _ _)).1 hlost
  · obtain ⟨es, hloads, htracks, -, hfailed⟩ := hends ((congrArg Loom.edits hend).symm.trans hedits)
    refine ⟨entered.1, es, _, hloads, ?_, .inr ⟨⟨f, hfault⟩, rfl⟩⟩
    rw [hend] at hentries hspecs ⊢
    exact ⟨hhistory htracks.history _, hfailed, hentries, hspecs, hoffers.trans ⟨rfl, rfl, rfl, rfl⟩⟩

/-- To load a module that the first context claims, or that is not in the table, starts its body in the
    second case only. -/
theorem load_tracks (name : String) (hfirst : s.finders.head? = some c) (hopen : IsOpen c s)
    (hname : s.Offers c name → s.world.imported? name = none ∨ s.Holds c name)
    (hedits : ((load c name).final s).edits = s.edits) :
    ∃ es, s.Tracks ((load c name).final s) es ∧ (loads es).Sublist [name] ∧
      ∀ m, (load c name).outcome s = .ok m →
        EndsCalmly es ∧ ((load c name).final s).world.imported? name ≠ none := by
  have hnone {context : Context} (hnew : Describes c name s context) :
      s.world.imported? name = none :=
    (hname (hnew.offers hfirst)).resolve_right hnew.not_holds
  have hsub {m : ModuleId} {es : List ModuleEvent} {last : ModuleEvent} (hes : loads es = [])
      (hlast : last.loaded? = none) :
      (loads (.started name m false :: es ++ [last])).Sublist [name] := by
    rw [loads, List.cons_append, List.filterMap_cons, List.filterMap_append, ← loads, hes,
      List.filterMap_cons, hlast]
    exact .refl _
  have hstands : ∀ m, (load c name).outcome s = .ok m →
      ((load c name).final s).world.imported? name ≠ none := by
    intro m hok
    obtain ⟨context, hc, hclosed⟩ := hopen
    obtain ⟨after, k, -, -, hown⟩ := owns_load hc hclosed hok hedits
    rw [((owned?_eq_some_iff _ after).mp hown).1]
    exact Option.some_ne_none k
  have hload := load_loads c name s
  generalize (load c name).outcome s = r, (load c name).final s = t at hload hedits hstands ⊢
  cases hload with
  | known _ => exact ⟨[], .refl s, List.nil_sublist _, fun m hm => ⟨nofun, hstands m hm⟩⟩
  | unknown _ | unreadable _ => exact ⟨[], .refl s, List.nil_sublist _, nofun⟩
  | package hnew =>
      have hgiven : Loom.Edited [] s (s.give c name) :=
        Loom.edited_give hnew.get hnew.isOpen (.inr (hnone hnew))
      obtain ⟨hentries, hspecs⟩ := hgiven.unedited rfl
      refine ⟨[], ⟨(List.append_nil _).symm, Loom.tells_nil rfl, hentries, hspecs, rfl, rfl, rfl, ?_⟩,
        List.nil_sublist _, nofun⟩
      dsimp only [Loom.give]
      exact map_modify (fun _ => by rfl) ..
  | failed hnew hfault =>
      obtain ⟨m, es, last, hloads, htracks, ⟨hok, -⟩ | ⟨-, rfl⟩⟩ :=
        tracks_enterLoaded hnew hfirst (hnone hnew) hedits
      · rw [hfault] at hok
        cases hok
      · exact ⟨_, htracks, hsub hloads rfl, nofun⟩
  | made hnew hok =>
      obtain ⟨m, es, last, hloads, htracks, ⟨-, rfl⟩ | ⟨⟨f, hfault⟩, -⟩⟩ :=
        tracks_enterLoaded hnew hfirst (hnone hnew) hedits
      · have hnoted := htracks.trans (tracks_noteLoaded c name _)
        rw [List.append_nil] at hnoted
        refine ⟨_, hnoted, hsub hloads rfl, fun m hm => ⟨fun e he => ?_, hstands m hm⟩⟩
        rw [Option.mem_def, List.getLast?_concat] at he
        cases he
        rfl
      · rw [hok] at hfault
        cases hfault

/-- A name that was not in the table before: whatever brought its module into the table meanwhile, the
    context claims it. -/
theorem claimed_of_tracks {before : List ModuleEvent} (hbefore : s₀.Tracks s before)
    (hdot : '.' ∈ name.toList) (hnew : s₀.world.imported? name = none) (hoffer : s.Offers c name) :
    s.world.imported? name = none ∨ s.Holds c name := by
  by_cases hnone : s.world.imported? name = none
  · exact .inl hnone
  · exact .inr (hbefore.tells.claimed hdot (hbefore.offers.symm.offers hoffer) hnew hnone)

theorem loadAll_of_ok {first : String} (rest : List String) {m : ModuleId}
    (h : (load c first).outcome s = .ok m) :
    (loadAll c (first :: rest)).outcome s = (loadAll c rest).outcome ((load c first).final s) ∧
      (loadAll c (first :: rest)).final s = (loadAll c rest).final ((load c first).final s) := by
  simp only [loadAll_cons, Run.outcome_bind, Run.final_bind, h]
  exact ⟨rfl, rfl⟩

theorem loadAll_of_error {first : String} (rest : List String) {f : Fault}
    (h : (load c first).outcome s = .error f) :
    (loadAll c (first :: rest)).outcome s = .error f ∧
      (loadAll c (first :: rest)).final s = (load c first).final s := by
  simp only [loadAll_cons, Run.outcome_bind, Run.final_bind, h, and_self]

/-- To load modules one after the other. What was done before, since a state in which none of them was in
    the table, is told by some events. -/
theorem loadAll_tracks (hfirst : s₀.finders.head? = some c) (hopen : IsOpen c s₀)
    (hnames : ∀ name ∈ names, '.' ∈ name.toList ∧ s₀.world.imported? name = none)
    {before : List ModuleEvent} (hbefore : s₀.Tracks s before)
    (hedits : ((loadAll c names).final s).edits = s.edits) :
    ∃ es, s.Tracks ((loadAll c names).final s) es ∧ (loads es).Sublist names ∧
      ((loadAll c names).outcome s = .ok () → EndsCalmly es ∧
        ∀ name ∈ names, ((loadAll c names).final s).world.imported? name ≠ none) := by
  induction names generalizing s before with
  | nil => exact ⟨[], .refl s, List.Sublist.refl _, fun _ => ⟨nofun, nofun⟩⟩
  | cons first rest ih =>
      obtain ⟨⟨hdot, hnew⟩, hrest⟩ := List.forall_mem_cons.mp hnames
      have hfirst' : s.finders.head? = some c := by
        rw [Loom.finders, hbefore.offers.asked]
        exact hfirst
      have hclaimed := claimed_of_tracks (c := c) hbefore hdot hnew
      cases hload : (load c first).outcome s with
      | error f =>
          obtain ⟨hfault, hend⟩ := loadAll_of_error rest hload
          rw [hend] at hedits ⊢
          rw [hfault]
          obtain ⟨es, htracks, hsub, -⟩ := load_tracks first hfirst'
            (isOpen_of_sameOffers hopen hbefore.offers) hclaimed hedits
          refine ⟨es, htracks, hsub.trans (List.singleton_sublist.mpr List.mem_cons_self),
            fun hok => ?_⟩
          cases hok
      | ok m =>
          obtain ⟨houtcome, hend⟩ := loadAll_of_ok rest hload
          rw [hend] at hedits ⊢
          rw [houtcome]
          obtain ⟨hedits₁, hedits₂⟩ := edits_between (edited_load_self c first s)
            (edited_loadAll c (List.Subset.refl rest) ((load c first).final s)) hedits
          obtain ⟨es, htracks, hsub, hends⟩ := load_tracks first hfirst'
            (isOpen_of_sameOffers hopen hbefore.offers) hclaimed hedits₁
          obtain ⟨es', htracks', hsub', hends'⟩ := ih hrest (hbefore.trans htracks) hedits₂
          refine ⟨es ++ es', htracks.trans htracks', ?_, fun hok => ?_⟩
          · rw [loads, List.filterMap_append]
            exact hsub.append hsub'
          · obtain ⟨hcalm, hstands⟩ := hends m hload
            obtain ⟨hcalm', hstands'⟩ := hends' hok
            refine ⟨hcalm.append hcalm', List.forall_mem_cons.mpr ⟨fun hnone => ?_, hstands'⟩⟩
            obtain ⟨k, hk⟩ := Option.ne_none_iff_exists'.mp hstands
            rw [(htracks'.entries first k List.not_mem_nil hk).1] at hnone
            cases hnone

/-- Some events lead to a table in which modules stand under some names, and the last of them up to
    there is not that a body fails. -/
def Provides (names : List String) (a : Table) (es : List ModuleEvent) : Prop :=
  ∃ es₁ es₂ b, es = es₁ ++ es₂ ∧ EndsCalmly es₁ ∧ Chronicle a es₁ b ∧ ∀ name ∈ names, b name ≠ none

theorem Provides.append {a : Table} {es : List ModuleEvent} (h : Provides names a es)
    (es' : List ModuleEvent) : Provides names a (es ++ es') := by
  obtain ⟨es₁, es₂, b, rfl, h⟩ := h
  exact ⟨es₁, es₂ ++ es', b, List.append_assoc .., h⟩

theorem pairwise_glob {files : Files.Tree} {cwd : List String} {directory : Files.Path}
    {pattern : String} {found : List Files.Path} (h : files.glob cwd directory pattern = .ok found) :
    found.Pairwise (Files.Path.upTo · · = true) := by
  unfold Files.Tree.glob at h
  split at h
  · cases h
  · next steps _ =>
      cases hprobe : files.probe cwd directory with
      | error f =>
          rw [hprobe] at h
          cases h
      | ok node =>
          rw [hprobe] at h
          dsimp only [bind, Except.bind] at h
          split at h
          · cases hselect : files.select cwd steps directory with
            | error f =>
                rw [hselect] at h
                cases h
            | ok ps =>
                rw [hselect] at h
                cases h
                exact Files.Path.pairwise_sorted ps
          · cases h
            exact .nil

theorem dotted (space simple : String) : '.' ∈ (space ++ "." ++ simple).toList := by
  simp [String.toList_append]

/-- The names of the modules of a unit lie in its namespace. The helpers come first, in the order of
    their compiled files. -/
theorem loadedNames_sorted (context : Context) (s : Loom) (unit : UnitId) :
    loadedNames context s unit = [] ∨ ∃ found : List Files.Path,
      found.Pairwise (Files.Path.upTo · · = true) ∧ loadedNames context s unit =
        found.map (fun p => context.space ++ "." ++ p.stem) ++ [unit.qualifiedName] := by
  cases hhelpers : helperNames context s.files s.around.cwd unit with
  | error f => exact .inl (by rw [loadedNames, hhelpers]; rfl)
  | ok helpers =>
      rw [loadedNames_of_ok hhelpers]
      unfold helperNames at hhelpers
      cases hfound : s.files.glob s.around.cwd context.directory
          (Staging.helperPattern unit.name Staging.artifactSuffix) with
      | error f =>
          rw [hfound] at hhelpers
          cases hhelpers
      | ok found =>
          rw [hfound] at hhelpers
          cases hhelpers
          exact .inr ⟨found, pairwise_glob hfound, rfl⟩

theorem dotted_of_mem_loadedNames {unit : UnitId} (h : name ∈ loadedNames context s unit) :
    '.' ∈ name.toList := by
  rcases loadedNames_sorted context s unit with hnil | ⟨found, -, heq⟩
  · rw [hnil] at h
    cases h
  · rw [heq] at h
    rcases List.mem_append.mp h with h | h
    · obtain ⟨p, -, rfl⟩ := List.mem_map.mp h
      exact dotted ..
    · rw [List.mem_singleton.mp h]
      exact dotted ..

/-- To load the modules of a unit. -/
theorem factory_tracks (hfirst : s.finders.head? = some c) (hc : s.contexts[c]? = some context)
    (hclosed : context.closed = false) (unit : UnitId)
    (hnames : ∀ name ∈ loadedNames context s unit, s.world.imported? name = none)
    (hedits : ((factory c unit).final s).edits = s.edits) :
    ∃ es, s.Tracks ((factory c unit).final s) es ∧ (loads es).Sublist (loadedNames context s unit) ∧
      ∀ v, (factory c unit).outcome s = .ok v →
        unit.qualifiedName ∈ loadedNames context s unit ∧
          Provides (loadedNames context s unit) s.world.tableOf es := by
  have hopen : IsOpen c s := ⟨context, hc, hclosed⟩
  cases hhelpers : helperNames context s.files s.around.cwd unit with
  | error f =>
      have hends : (factory c unit).final s = s ∧ (factory c unit).outcome s = .error f := by
        unfold factory
        rw [Run.final_bind, Run.outcome_bind, outcome_helperModules hc, final_helperModules, hhelpers]
        exact ⟨rfl, rfl⟩
      rw [hends.1, hends.2]
      refine ⟨[], .refl s, List.nil_sublist _, fun v hv => ?_⟩
      cases hv
  | ok helpers =>
      have hall : loadedNames context s unit = helpers ++ [unit.qualifiedName] :=
        loadedNames_of_ok hhelpers
      have hdotted {name : String} (hname : name ∈ helpers ++ [unit.qualifiedName]) :
          '.' ∈ name.toList ∧ s.world.imported? name = none := by
        rw [← hall] at hname
        exact ⟨dotted_of_mem_loadedNames hname, hnames name hname⟩
      rw [hall]
      -- The helpers are loaded, then the unit, and then its class is looked up.
      have hhelping := edited_loadAll c (List.Subset.refl helpers) s
      have hloading := edited_load_self c unit.qualifiedName ((loadAll c helpers).final s)
      have hdirect (name : String) (hname : name ∈ helpers) := hdotted (List.mem_append_left _ hname)
      obtain ⟨hdot, hnew⟩ := hdotted (List.mem_append_right helpers (List.mem_singleton.mpr rfl))
      have hload {es : List ModuleEvent} (h : s.Tracks ((loadAll c helpers).final s) es) :=
        load_tracks unit.qualifiedName
          (by rw [Loom.finders, h.offers.asked]; exact hfirst) (isOpen_of_sameOffers hopen h.offers)
          (claimed_of_tracks h hdot hnew)
      unfold factory at hedits ⊢
      rw [Run.final_bind, outcome_helperModules hc, final_helperModules, hhelpers] at hedits
      rw [Run.final_bind, Run.outcome_bind, outcome_helperModules hc, final_helperModules, hhelpers]
      dsimp only at hedits ⊢
      rw [Run.final_bind] at hedits
      rw [Run.final_bind, Run.outcome_bind]
      cases hhelped : (loadAll c helpers).outcome s with
      | error f =>
          rw [hhelped] at hedits
          obtain ⟨es, htracks, hsub, -⟩ := loadAll_tracks hfirst hopen hdirect (.refl s) hedits
          refine ⟨es, htracks, hsub.trans (List.sublist_append_left ..), fun v hv => ?_⟩
          cases hv
      | ok _ =>
          rw [hhelped] at hedits
          dsimp only at hedits ⊢
          rw [Run.final_bind] at hedits
          rw [Run.final_bind, Run.outcome_bind]
          cases hloaded : (load c unit.qualifiedName).outcome ((loadAll c helpers).final s) with
          | error f =>
              rw [hloaded] at hedits
              dsimp only at hedits ⊢
              obtain ⟨hedits₁, hedits₂⟩ := edits_between hhelping hloading hedits
              obtain ⟨es, htracks, hsub, -⟩ :=
                loadAll_tracks hfirst hopen hdirect (.refl s) hedits₁
              obtain ⟨es', htracks', hsub', -⟩ := hload htracks hedits₂
              refine ⟨es ++ es', htracks.trans htracks', ?_, fun v hv => ?_⟩
              · rw [loads, List.filterMap_append]
                exact hsub.append hsub'
              · cases hv
          | ok m =>
              rw [hloaded] at hedits
              dsimp only at hedits ⊢
              have hlooking := (Script.attributeOf importModule (.module m) unit.name).follows
                ((load c unit.qualifiedName).final ((loadAll c helpers).final s))
              obtain ⟨hedits₁, hlater⟩ := edits_between hhelping
                (hloading.trans (hlooking.edited.mono (List.nil_subset _))) hedits
              obtain ⟨hedits₂, hedits₃⟩ := edits_between hloading hlooking.edited hlater
              obtain ⟨es, htracks, hsub, hends⟩ :=
                loadAll_tracks hfirst hopen hdirect (.refl s) hedits₁
              obtain ⟨es', htracks', hsub', hends'⟩ := hload htracks hedits₂
              obtain ⟨es'', htracks'', hnone⟩ := hlooking.tracks hedits₃
              have hboth := htracks.trans htracks'
              refine ⟨es ++ es' ++ es'', hboth.trans htracks'', ?_, fun v _ => ?_⟩
              · rw [loads, List.filterMap_append, List.filterMap_append, ← loads, ← loads, ← loads,
                  hnone, List.append_nil]
                exact hsub.append hsub'
              · obtain ⟨hcalm, hstands⟩ := hends hhelped
                obtain ⟨hcalm', hstands'⟩ := hends' m hloaded
                refine ⟨List.mem_append_right _ (List.mem_singleton.mpr rfl), es ++ es', es'', _, rfl,
                  hcalm.append hcalm', hboth.tells.chronicle, ?_⟩
                refine List.forall_mem_append.mpr ⟨fun name hname hlost => ?_, ?_⟩
                · obtain ⟨k, hk⟩ := Option.ne_none_iff_exists'.mp (hstands name hname)
                  have hkept := (htracks'.entries name k List.not_mem_nil hk).1
                  exact Option.some_ne_none k (hkept.symm.trans hlost)
                · exact List.forall_mem_singleton.mpr hstands'

/-- What a host may do that is told of a failure: it imports no modules, and does to the table at most
    what code may do. -/
structure Discreet (host : Host) : Prop where
  edited : host.Keeps (Loom.Edited [])
  history : host.Keeps fun s t => t.history = s.history

/-- What a host does that imports no modules is not remembered. -/
theorem history_told {host : Host} (hhost : Discreet host) (unit : UnitId) (f : Fault) (s : Loom) :
    ((Host.told (some host) unit f).final s).history = s.history := by
  have hfailed := hhost.history.failed f s
  unfold Host.told Host.act
  rw [Run.final_tryCatch]
  cases (host.failed f).outcome s with
  | ok _ => exact hfailed
  | error g =>
      dsimp only
      rw [Run.final_bind, Run.outcome_world, Run.final_world]
      dsimp only
      split <;> exact hfailed

/-- When a step fails, what the host does about it adds nothing to what is remembered. -/
theorem failed_step {host : Option Host} (hhost : ∀ h ∈ host, Discreet h) {unit : UnitId} {f : Fault}
    {u : Loom} (h : u = t ∨ u = (Host.told host unit f).final t) :
    u.history = t.history ∧ Loom.Edited [] t u := by
  rcases h with rfl | rfl
  · exact ⟨rfl, .refl u⟩
  · cases host with
    | none => exact ⟨rfl, .refl t⟩
    | some host =>
        have hdiscreet := hhost host rfl
        exact ⟨history_told hdiscreet unit f t,
          hdiscreet.edited.told (Loom.edited_isCodeFrame []) unit f t⟩

/-- To load and instantiate a unit in the first context that imports ask. -/
theorem loadIn_tracks {host : Option Host} (hhost : ∀ h ∈ host, Discreet h)
    (hfirst : s.finders.head? = some c) (hc : s.contexts[c]? = some context)
    (hclosed : context.closed = false) (unit : UnitId)
    (hnames : ∀ name ∈ loadedNames context s unit, s.world.imported? name = none)
    (hedits : ((loadIn host c unit).final s).edits = s.edits) :
    ∃ es, ((loadIn host c unit).final s).history = s.history ++ es ∧
      (∃ b, Chronicle s.world.tableOf es b) ∧ (loads es).Sublist (loadedNames context s unit) ∧
      ∀ loaded, (loadIn host c unit).outcome s = .ok loaded →
        unit.qualifiedName ∈ loadedNames context s unit ∧
          Provides (loadedNames context s unit) s.world.tableOf es := by
  have hedited := edited_factory hc unit
  have hmaking := factory_tracks hfirst hc hclosed unit hnames
  unfold loadIn at hedits ⊢
  rw [Run.final_bind] at hedits
  rw [Run.final_bind, Run.outcome_bind]
  rcases step_cases host unit .load (factory c unit) s with
    ⟨maker, hok, hstep, hend⟩ | ⟨f, -, ⟨g, hstep⟩, hend⟩
  · rw [hstep, hend] at hedits ⊢
    dsimp only at hedits ⊢
    rw [Run.final_bind] at hedits
    rw [Run.final_bind, Run.outcome_bind]
    let call : Run Value := liftM (Script.callValue importModule maker [])
    have hcall : ((factory c unit).final s).Follows (call.final ((factory c unit).final s)) :=
      (Script.callValue importModule maker []).follows _
    rcases step_cases host unit .instantiate call ((factory c unit).final s) with
      ⟨handle, -, hstep, hend⟩ | ⟨f, -, ⟨g, hstep⟩, hend⟩
    · rw [hstep, hend] at hedits
      rw [hstep, hend]
      obtain ⟨hedits₁, hedits₂⟩ := edits_between hedited hcall.edited hedits
      obtain ⟨es, htracks, hsub, hprovides⟩ := hmaking hedits₁
      obtain ⟨es', htracks', hnone⟩ := hcall.tracks hedits₂
      have hboth := htracks.trans htracks'
      refine ⟨es ++ es', hboth.history, ⟨_, hboth.tells.chronicle⟩, ?_, fun _ _ =>
        (hprovides maker hok).imp_right fun h => h.append es'⟩
      rw [loads, List.filterMap_append, ← loads, ← loads, hnone, List.append_nil]
      exact hsub
    · rw [hstep] at hedits
      rw [hstep]
      obtain ⟨hhistory, htold⟩ := failed_step hhost hend
      obtain ⟨hedits₁, hlater⟩ := edits_between hedited (hcall.edited.trans htold) hedits
      obtain ⟨hedits₂, -⟩ := edits_between hcall.edited htold hlater
      obtain ⟨es, htracks, hsub, -⟩ := hmaking hedits₁
      obtain ⟨es', htracks', hnone⟩ := hcall.tracks hedits₂
      have hboth := htracks.trans htracks'
      refine ⟨es ++ es', hhistory.trans hboth.history, ⟨_, hboth.tells.chronicle⟩, ?_,
        fun _ hloaded => by cases hloaded⟩
      rw [loads, List.filterMap_append, ← loads, ← loads, hnone, List.append_nil]
      exact hsub
  · rw [hstep] at hedits ⊢
    dsimp only at hedits ⊢
    obtain ⟨hhistory, htold⟩ := failed_step hhost hend
    obtain ⟨hedits₁, -⟩ := edits_between hedited htold hedits
    obtain ⟨es, htracks, hsub, -⟩ := hmaking hedits₁
    exact ⟨es, hhistory.trans htracks.history, ⟨_, htracks.tells.chronicle⟩, hsub,
      fun _ hloaded => by cases hloaded⟩

theorem history_closeContext (c : Nat) (s : Loom) :
    ((closeContext c).final s).history = s.history := by
  unfold closeContext
  rw [Run.final_modify]
  split
  · rfl
  · split <;> rfl

/-- The body of the module of a name was run once, and for everyone who imported the name. -/
structure RunOnce (name : String) (es : List ModuleEvent) : Prop where
  completed : (completions es).count name = 1
  seen : ∃ m, (∃ byImport, .started name m byImport ∈ es) ∧ .completed name m ∈ es ∧
    ∀ k, .imported name k ∈ es → k = m

/-- What is taken of a unit's values between one start of its module's body and the next; the first list
    is what is taken before. -/
def takesByRun (unit : String) : List ModuleEvent → List (List Value)
  | [] => [[]]
  | e :: es =>
      if e.started? = some unit then [] :: takesByRun unit es
      else
        match e.taken? unit, takesByRun unit es with
        | some name, run :: rest => (name :: run) :: rest
        | _, runs => runs

/-- The values that are staged for a unit are taken by the body of its module only, and one run of it
    takes no value twice. -/
def TakenByBody (unit : UnitId) (es : List ModuleEvent) : Prop :=
  (takesByRun unit.qualifiedName es).head? = some [] ∧
    ∀ run ∈ takesByRun unit.qualifiedName es, run.Nodup

instance (unit : UnitId) (es : List ModuleEvent) : Decidable (TakenByBody unit es) :=
  inferInstanceAs (Decidable (_ ∧ ∀ run ∈ _, _))

theorem length_takesByRun (unit : String) (es : List ModuleEvent) :
    (takesByRun unit es).length = (starts es).count unit + 1 := by
  induction es with
  | nil => rfl
  | cons e rest ih =>
      rw [takesByRun]
      by_cases hstart : e.started? = some unit
      · rw [if_pos hstart, List.length_cons, ih, starts, starts, List.filterMap_cons, hstart,
          List.count_cons_self]
      · have hcount : (starts (e :: rest)).count unit = (starts rest).count unit := by
          rw [starts, List.filterMap_cons]
          cases he : e.started? with
          | none => rfl
          | some other =>
              refine List.count_cons_of_ne fun heq => hstart ?_
              rw [he, heq]
        rw [if_neg hstart, hcount, ← ih]
        cases htake : e.taken? unit with
        | none => rfl
        | some name =>
            cases hruns : takesByRun unit rest with
            | nil => rfl
            | cons run others => rfl

theorem flatten_takesByRun (unit : String) (es : List ModuleEvent) :
    (takesByRun unit es).flatten = takes unit es := by
  induction es with
  | nil => rfl
  | cons e rest ih =>
      rw [takesByRun, takes, List.filterMap_cons]
      by_cases hstart : e.started? = some unit
      · have htake : e.taken? unit = none := by
          cases e with
          | started => rfl
          | completed | failed | imported | took => cases hstart
        rw [if_pos hstart, htake]
        exact ih
      · rw [if_neg hstart]
        cases htake : e.taken? unit with
        | none => exact ih
        | some name =>
            cases hruns : takesByRun unit rest with
            | nil =>
                have hlength := length_takesByRun unit rest
                rw [hruns] at hlength
                cases hlength
            | cons run others =>
                rw [hruns] at ih
                exact congrArg (name :: ·) ih

/-- What one run of a body takes once is taken once when the body is run once. -/
theorem TakenByBody.nodup {unit : UnitId} {es : List ModuleEvent} (h : TakenByBody unit es)
    (honce : (starts es).Nodup) : (takes unit.qualifiedName es).Nodup := by
  obtain ⟨hbefore, hruns⟩ := h
  have hcount := List.nodup_iff_count.mp honce unit.qualifiedName
  have hlength := length_takesByRun unit.qualifiedName es
  rw [← flatten_takesByRun]
  -- There is at most one run, and nothing is taken before it.
  match heq : takesByRun unit.qualifiedName es with
  | [] => exact .nil
  | [before] =>
      rw [List.flatten_singleton]
      exact hruns before (by rw [heq]; exact List.mem_cons_self)
  | [before, run] =>
      rw [heq] at hbefore
      obtain rfl : before = [] := by simpa using hbefore
      rw [List.flatten_cons, List.nil_append, List.flatten_singleton]
      exact hruns run (by rw [heq]; simp)
  | _ :: _ :: _ :: _ =>
      rw [heq] at hlength
      simp only [List.length_cons] at hlength
      omega

/-- What the events of a request say, when no fault of a body is caught. -/
theorem runOnce_of_provides {a b : Table} {es : List ModuleEvent} (h : Chronicle a es b)
    (huncaught : Uncaught es) (hnone : a name = none) (hdot : '.' ∈ name.toList)
    (hprovides : Provides names a es) (hname : name ∈ names) : RunOnce name es := by
  obtain ⟨es₁, es₂, b', rfl, hend, hfirst, hstand⟩ := hprovides
  have hcalm := huncaught.calm hend
  obtain ⟨m, hm⟩ := Option.ne_none_iff_exists'.mp (hstand name hname)
  have hcompleted : .completed name m ∈ es₁ ++ es₂ :=
    List.mem_append_left _ (hfirst.carriedOut hdot hnone hm)
  obtain ⟨byImport, hstarted⟩ := h.started_of_completed hcompleted
  have honce : (starts (es₁ ++ es₂)).Nodup := huncaught.starts_eq ▸ h.startsOnce.1
  refine ⟨Nat.le_antisymm ?_ ?_, m, ⟨byImport, hstarted⟩, hcompleted, fun k hk => ?_⟩
  · exact (h.completions_le name).trans (List.nodup_iff_count.mp honce name)
  · exact List.count_pos_iff.mpr (mem_completions_iff.mpr ⟨m, hcompleted⟩)
  · rcases h.finds hdot (huncaught.mem hk rfl) with hthere | ⟨i, hi⟩
    · rw [hnone] at hthere
      cases hthere
    · exact eq_of_started honce (mem_of_mem_untilFailure hi) hstarted

/-- However the modules of a unit import each other, and however the request ends: in a state in whose
    table none of them stands, with contexts that were made before being asked, as long as no code edits
    the table and no fault of a body is caught, no body is started twice. Bodies that no import started
    before are started in the order of the helpers' files, that of the unit last. When the unit is
    loaded, every one of these bodies was carried out to its end once, and whoever imported a module got
    the one it was run for; so no value staged for the unit is taken twice. -/
theorem loadUnit_once {host : Option Host} (hhost : ∀ h ∈ host, Discreet h) (root : Files.Path)
    (unit : UnitId) {s : Loom} (hasked : ∀ c, .context c ∈ s.asked → c < s.contexts.size)
    (hnone : ∀ name ∈ loadedNames { root := root, space := unit.space } s unit,
      s.world.imported? name = none)
    (hedits : ((loadUnit host root unit).final s).edits = s.edits) :
    let names := loadedNames { root := root, space := unit.space } s unit
    (names = [] ∨ ∃ found : List Files.Path, found.Pairwise (Files.Path.upTo · · = true) ∧
      names = found.map (fun p => unit.space ++ "." ++ p.stem) ++ [unit.qualifiedName]) ∧
    ∃ es, ((loadUnit host root unit).final s).history = s.history ++ es ∧
      (loads es).Sublist names ∧
      (Uncaught es → (starts es).Nodup ∧
        (TakenByBody unit es → (takes unit.qualifiedName es).Nodup) ∧
        ∀ loaded, (loadUnit host root unit).outcome s = .ok loaded →
          unit.qualifiedName ∈ names ∧ ∀ name ∈ names, RunOnce name es) := by
  intro names
  refine ⟨loadedNames_sorted { root := root, space := unit.space } s unit, ?_⟩
  have hnew : Finder.context s.contexts.size ∉ s.asked :=
    fun hmem => Nat.lt_irrefl _ (hasked _ hmem)
  let context : Context := { root := root, space := unit.space }
  let made : Loom := { s with
    contexts := s.contexts.push context
    asked := .context s.contexts.size :: s.asked }
  have hinstalled : installed root unit.space s = made := by rw [installed_eq, if_neg hnew]
  have hmade : made.contexts[s.contexts.size]? = some context := Array.getElem?_push_size
  have hfirst : made.finders.head? = some s.contexts.size := rfl
  rw [final_loadUnit, edits_closeContext, hinstalled] at hedits
  rw [final_loadUnit, outcome_loadUnit, history_closeContext, hinstalled]
  obtain ⟨es, hhistory, ⟨b, hchronicle⟩, hsub, hprovides⟩ :=
    loadIn_tracks (s := made) hhost hfirst hmade rfl unit hnone hedits
  refine ⟨es, hhistory, hsub, fun huncaught => ?_⟩
  have honce : (starts es).Nodup := huncaught.starts_eq ▸ hchronicle.startsOnce.1
  refine ⟨honce, fun htaken => htaken.nodup honce, fun loaded hok => ?_⟩
  obtain ⟨hunit, hall⟩ := hprovides loaded hok
  exact ⟨hunit, fun name hname => runOnce_of_provides hchronicle huncaught (hnone name hname)
    (dotted_of_mem_loadedNames hname) hall hname⟩

theorem recording_discreet : Discreet .recording where
  edited := recording_edited
  history := { showSource _ _ _ := rfl, failed _ _ := rfl }

/-- A state with the compiled files of a unit whose modules import each other in a circle: the first
    helper imports the unit, and the unit imports both helpers and takes a value. -/
def circularLoom : Loom where
  world :=
    { modules := #[{ name := "builtins", attributes := [("int", .cls (.standard "int"))] },
        { name := "bindings", attributes := [("steal", .native .steal)] }]
      table := [("builtins", 0), ("bindings", 1)] }
  store := ⟨[("woven.gen1", [([.text "x"], ⟨.text "x", .whole 1⟩)])]⟩
  files :=
    [(["stage"], .directory), (["stage", "woven"], .directory),
      (["stage", "woven", "gen1.pyc"], .file (.artifact { body := [
        .imports [⟨["woven", "gen1__a"], none⟩], .imports [⟨["woven", "gen1__b"], none⟩],
        .importsFrom 0 ["bindings"] [("steal", none)],
        .assign [.name "x"]
          (.call (.name "steal") [.literal (.text "woven.gen1"), .literal (.text "x")]),
        .assign [.name "gen1"] (.name "int")] })),
      (["stage", "woven", "gen1__a.pyc"], .file (.artifact { body := [
        .imports [⟨["woven", "gen1"], none⟩]] })),
      (["stage", "woven", "gen1__b.pyc"], .file (.artifact { body := [.pass] }))]

/-- The first helper brings the unit along, and that brings the second helper along. -/
theorem loadUnit_once_circularLoom :
    let es := ((loadUnit (some .recording) (.parse "/stage") (.numbered 1)).final
      circularLoom).history
    loads es = ["woven.gen1__a"] ∧ (starts es).Nodup ∧ (takes "woven.gen1" es).Nodup ∧
      ∀ name ∈ ["woven.gen1__a", "woven.gen1__b", "woven.gen1"], RunOnce name es := by
  have hnames : loadedNames { root := .parse "/stage", space := (UnitId.numbered 1).space }
      circularLoom (.numbered 1) = ["woven.gen1__a", "woven.gen1__b", "woven.gen1"] := by
    decide +kernel
  have hnone : ∀ name ∈ ["woven.gen1__a", "woven.gen1__b", "woven.gen1"],
      circularLoom.world.imported? name = none := by
    decide +kernel
  have hunit : (UnitId.numbered 1).qualifiedName = "woven.gen1" := by decide +kernel
  -- What is to be computed is put together, so that the request is carried out once.
  obtain ⟨hok, hedits, hloads, huncaught, htaken⟩ :
      let request := loadUnit (some .recording) (.parse "/stage") (.numbered 1)
      let t := request.final circularLoom
      (request.outcome circularLoom).isOk = true ∧ t.edits = [] ∧
        loads t.history = ["woven.gen1__a"] ∧ Uncaught t.history ∧
        TakenByBody (.numbered 1) t.history := by
    decide +kernel
  have hhost : ∀ h ∈ some Host.recording, Discreet h :=
    fun h hh => Option.some_inj.mp hh ▸ recording_discreet
  obtain ⟨-, es', hes, -, honce⟩ := loadUnit_once hhost (.parse "/stage") (.numbered 1)
    (s := circularLoom) (fun c hc => nomatch hc) (hnames ▸ hnone) hedits
  obtain rfl : _ = es' := hes.trans (List.nil_append es')
  obtain ⟨hstarts, htakes, hall⟩ := honce huncaught
  have htaken' := htakes htaken
  rw [hunit] at htaken'
  dsimp only
  refine ⟨hloads, hstarts, htaken', ?_⟩
  cases hloaded : (loadUnit (some .recording) (.parse "/stage") (.numbered 1)).outcome
      circularLoom with
  | error f =>
      rw [hloaded] at hok
      cases hok
  | ok loaded =>
      have hevery := (hall loaded hloaded).2
      rw [hnames] at hevery
      exact hevery

end Loading

end FragmentWeaver
