import FragmentWeaver.Proofs.Cleanup
import FragmentWeaver.Proofs.Stageable

/-!
# Building a unit again

A unit is built under a name that earlier units may have had. Once it has been staged and purged, the
tree of files is the same whatever those left behind, and everything that is done from then on is done
in the same state. Compiling writes the compiled files of the unit and nothing else, and loading writes
no file at all.
-/

namespace FragmentWeaver

open Files Staging

namespace Interpreter

variable {t : Tree} {cwd : List String}

/-- What compiling one source changes is the compiled file that belongs to it. -/
theorem write_of_compileOne {manner : Manner} {told : List String} {source target : Path}
    {shown : List String × List String} {t' : Tree}
    (h : compileOne t cwd manner told source target = .ok (shown, t')) :
    ∃ a, t.write cwd target (.artifact a) = .ok t' := by
  unfold compileOne at h
  repeat' split at h
  all_goals first
    | cases h
      done
    | next a _ _ _ _ hwrite =>
        cases h
        exact ⟨_, hwrite⟩

/-- Compiling sources changes nothing but the compiled files that belong to them. -/
theorem node?_compileAll (manner : Manner) (told : List String) {pairs : List (Path × Path)}
    {q : List String} (hq : ∀ pair ∈ pairs, pair.2.goal cwd ≠ q) :
    (compileAll t cwd manner told pairs).2.node? q = t.node? q := by
  induction pairs generalizing t told with
  | nil => rfl
  | cons pair pairs ih =>
      obtain ⟨source, target⟩ := pair
      have hrest (t : Tree) (told : List String) :=
        ih (t := t) told fun pair h => hq pair (List.mem_cons_of_mem _ h)
      rw [compileAll]
      split
      · next shown told' t' hone =>
          obtain ⟨a, hwrite⟩ := write_of_compileOne hone
          obtain ⟨hnode, rfl⟩ := Tree.write_eq_ok hwrite
          refine (hrest _ told').trans ?_
          rw [Tree.node?_put (Tree.ne_nil_of_node? hnode), if_neg]
          exact fun h => hq _ List.mem_cons_self h.symm
      · exact hrest t told
      · rfl

/-- Carrying out the script compiles the sources in some manner, or nothing at all. -/
theorem tree_carryOut (i : Interpreter) (t : Tree) (around : Surroundings)
    (source directory : Path) (sources : List Path) :
    (i.carryOut t around source directory sources).2 = t ∨
      ∃ manner, (i.carryOut t around source directory sources).2 =
        (compileAll t around.cwd manner [] (targets sources directory)).2 := by
  cases hdigits : i.settings.digits around with
  | error said =>
      left
      rw [carryOut, hdigits]
  | ok digits =>
      right
      refine ⟨⟨i.keepsChecks around, digits,
        (WarningRules.read (i.settings.allWarnings around)).1⟩, ?_⟩
      rw [carryOut, hdigits]
      dsimp only
      split
      · rfl
      · rfl

/-- Unless it is started for the script, an interpreter changes no files. -/
theorem tree_run (i : Interpreter) (t : Tree) (around : Surroundings)
    (source directory : Path) (sources : List Path) :
    (i.run t around source directory sources).2 = t ∨
      (i.run t around source directory sources).2 =
        (i.carryOut t around source directory sources).2 := by
  unfold run
  cases i.settings.errand with
  | script => exact .inr rfl
  | command text =>
      left
      dsimp only
      split
      · rfl
      · rfl
  | tell => exact .inl rfl
  | input => exact .inl rfl
  | misuse said => exact .inl rfl
  | module name => exact .inl rfl
  | file name => exact .inl rfl

/-- Whatever an interpreter is started for, it changes nothing but compiled files. -/
theorem node?_run (i : Interpreter) (t : Tree) (around : Surroundings) (source directory : Path)
    {sources : List Path} {q : List String}
    (hq : ∀ s ∈ sources, (artifactFor directory s).goal around.cwd ≠ q) :
    (i.run t around source directory sources).2.node? q = t.node? q := by
  have hcarry : (i.carryOut t around source directory sources).2.node? q = t.node? q := by
    obtain hsame | ⟨manner, hall⟩ := tree_carryOut i t around source directory sources
    · rw [hsame]
    · rw [hall]
      refine node?_compileAll manner [] fun pair hpair => ?_
      obtain ⟨s, hs, rfl⟩ := List.mem_map.mp hpair
      dsimp only
      exact hq s hs
  obtain hsame | hrun := tree_run i t around source directory sources
  · rw [hsame]
  · rw [hrun, hcarry]

/-- Compiling makes a directory, and then runs the interpreter for the sources at most. -/
theorem tree_compile (i : Interpreter) (t : Tree) (around : Surroundings)
    (source directory : Path) :
    ∃ t₁, Tree.Grown (directory.trail around.cwd) t t₁ ∧
      ((i.compile t around source directory).2 = t₁ ∨
        ∃ sources, sourcesBeside t around.cwd source = .ok sources ∧
          (i.compile t around source directory).2 =
            (i.run t₁ around source directory sources).2) := by
  have hmakes := Tree.makes_directory t around.cwd directory
  unfold compile
  cases hsources : sourcesBeside t around.cwd source with
  | error f => exact ⟨t, .refl _ t, .inl rfl⟩
  | ok sources =>
      rcases hmade : t.makeDirectory around.cwd directory with ⟨r, t₁⟩
      rw [hmade] at hmakes
      refine ⟨t₁, hmakes.grown, ?_⟩
      cases r with
      | error f => cases f <;> exact .inl rfl
      | ok _ =>
          dsimp only
          cases start t₁ around (i.programIn around) with
          | error f => exact .inl rfl
          | ok _ =>
              dsimp only
              cases i.expires with
              | error f => exact .inl rfl
              | ok limit =>
                  cases limit with
                  | some l => exact .inl rfl
                  | none => exact .inr ⟨sources, rfl, rfl⟩

section

variable {around : Surroundings} {root : Path} {u : UnitId}
  (hu : Text.isIdentifier u.name = true)

include hu

/-- The sources that are compiled for a unit are its own and those of helpers that are there. -/
theorem mem_sourcesBeside {sources : List Path}
    (h : sourcesBeside t cwd (sourcePath root u) = .ok sources) {s : Path} (hs : s ∈ sources) :
    s = (directory root u).child (u.name ++ sourceSuffix) ∨
      ∃ helper, s = (directory root u).child (helperFile u.name helper sourceSuffix) ∧
        t.node? ((directory root u).goal cwd ++ [helperFile u.name helper sourceSuffix]) ≠ none := by
  rw [sourcesBeside, sourcePath_eq hu, Path.parent_child,
    stem_child (ne_empty_of_isIdentifier hu) mem_sourceSuffix] at h
  cases hglob : t.glob cwd (directory root u) (helperPattern u.name sourceSuffix) with
  | error f =>
      rw [hglob] at h
      cases h
  | ok found =>
      rw [hglob] at h
      obtain rfl := Except.ok.inj h
      rcases List.mem_cons.mp hs with rfl | hs
      · exact .inl rfl
      · exact .inr (exists_of_mem_glob hu mem_sourceSuffix hglob hs)

/-- Compiling a unit whose helpers have names without slashes writes files of the unit only. -/
theorem sameFiles_compile (i : Interpreter)
    (hnamed : ∀ helper, t.node? ((directory root u).goal around.cwd ++
      [helperFile u.name helper sourceSuffix]) ≠ none → '/' ∉ helper.toList) :
    SameFiles around.cwd root u t
      (i.compile t around (sourcePath root u) (directory root u)).2 := by
  obtain ⟨t₁, hgrown, hend⟩ := tree_compile i t around (sourcePath root u) (directory root u)
  refine (sameFiles_of_grown hgrown).trans ?_
  rcases hend with hend | ⟨sources, hsources, hend⟩
  · rw [hend]
    exact .refl t₁
  · rw [hend]
    intro q hq c
    rw [node?_run]
    intro s hs heq
    refine hq (heq ▸ ?_)
    rcases mem_sourcesBeside hu hsources hs with rfl | ⟨helper, rfl, hnode⟩
    · rw [artifactFor_own hu, Path.goal_child _ _ (isName_own hu mem_artifactSuffix).ne_up]
      exact ⟨_, .own mem_artifactSuffix, rfl⟩
    · rw [artifactFor_helper hu _ (hnamed helper hnode), goal_helperFile hu]
      exact ⟨_, .helper mem_artifactSuffix helper, rfl⟩

end

end Interpreter

namespace Loom

/-- The files are the same in two states. -/
def KeepsFiles (s t : Loom) : Prop :=
  t.files = s.files

theorem keepsFiles_isLoadFrame : IsLoadFrame KeepsFiles where
  trans := fun h h' => h'.trans h
  follows := fun h => h.files
  aside := fun _ _ _ hfiles _ => hfiles

end Loom

theorem Run.Keeps.files_eq {α : Type} {a : Run α} (h : a.Keeps Loom.KeepsFiles) (s : Loom) :
    (a.final s).files = s.files :=
  h s

namespace Weaver

/-- The staging root that a weaver uses. -/
def rootIn (w : Weaver) (around : Surroundings) : Path :=
  w.root.getD (standardRoot around)

/-- What is left to do once a unit has been staged and purged. -/
def complete (w : Weaver) (root : Path) (unit : UnitId) (source : String) (path : Path) :
    Run WovenUnit := do
  let searchPath ← w.searchPathFor path unit
  let compiled ← w.toolchain.compile path searchPath (Staging.directory root unit)
  if compiled.success then
    let loaded ← Loading.loadUnit (some w.host) root unit
    return ⟨unit, source, compiled, loaded.handle⟩
  else
    Run.report [⟨.error, "codeweave.runtime.weaver", compiled.diagnostics⟩]
    return ⟨unit, source, compiled, .null⟩

section

variable {t t' : Tree} {root : Path} {u : UnitId} {source : String}
  {helpers : List (String × String)}

theorem exists_of_isOk {ε α : Type} {r : Except ε α} (h : r.isOk = true) : ∃ x, r = .ok x := by
  cases r with
  | ok x => exact ⟨x, rfl⟩
  | error f => cases h

theorem outcome_purge (s : Loom) :
    (purge root u).outcome s = (Staging.purge s.files s.around.cwd root u).1 := by
  unfold purge
  simp only [Run.outcome_bind, Run.outcome_get, Run.final_get, Run.outcome_set, Run.outcome_lift]

theorem final_purge (s : Loom) :
    (purge root u).final s =
      { s with
        files := (Staging.purge s.files s.around.cwd root u).2.1
        log := s.log ++ (Staging.purge s.files s.around.cwd root u).2.2 } := by
  unfold purge
  simp only [Run.final_bind, Run.outcome_get, Run.final_get, Run.outcome_set, Run.final_set,
    Run.final_lift]

/-- Building a unit is completing it once it has been staged and purged. -/
theorem build_renewed (w : Weaver) (s : Loom) (hu : Text.isIdentifier u.name = true)
    (h : Renewable s.files s.around.cwd root u source helpers) :
    (w.build root u source helpers).outcome s =
        (w.complete root u source (sourcePath root u)).outcome
          { s with files := renewed s.files s.around.cwd root u source helpers } ∧
      (w.build root u source helpers).final s =
        (w.complete root u source (sourcePath root u)).final
          { s with files := renewed s.files s.around.cwd root u source helpers } := by
  obtain ⟨t₁, hstage, -, -⟩ := h.stages hu
  have hpath : (Staging.stage s.files s.around.cwd root u source helpers).1 =
      .ok (sourcePath root u) := congrArg Prod.fst hstage
  obtain ⟨removed, hremoved⟩ := exists_of_isOk h.purged
  have hbuild : w.build root u source helpers =
      Run.withFiles (fun t around => Staging.stage t around.cwd root u source helpers) >>=
        fun path => purge root u >>= fun _ => w.complete root u source path := rfl
  have hlog := h.silent
  rw [hbuild, Run.outcome_bind, Run.final_bind, Run.outcome_withFiles, Run.final_withFiles, hpath]
  dsimp only
  rw [Run.outcome_bind, Run.final_bind, outcome_purge, final_purge]
  dsimp only
  rw [hremoved, hlog, List.append_nil]
  exact ⟨rfl, rfl⟩

/-- Staged and purged trees of a unit are the same if they agree outside its files. -/
theorem renewed_eq {cwd : List String} (hu : Text.isIdentifier u.name = true)
    (hhelpers : ∀ h ∈ helpers, Text.isIdentifier h.1 = true) (ht : t.Ordered) (ht' : t'.Ordered)
    (hagree : AgreeOutside cwd root u t t')
    (h : Renewable t cwd root u source helpers) (h' : Renewable t' cwd root u source helpers) :
    renewed t cwd root u source helpers = renewed t' cwd root u source helpers := by
  obtain ⟨t₁, -, hstaged, hpurged⟩ := h.stages hu
  obtain ⟨t₁', -, hstaged', hpurged'⟩ := h'.stages hu
  exact eq_of_agreeOutside hu hhelpers ht ht' hagree hstaged hstaged' hpurged hpurged'

/-- Finding out the search path changes nothing. -/
theorem final_searchPathFor (w : Weaver) (source : Path) (u : UnitId) (s : Loom) :
    (w.searchPathFor source u).final s = s := by
  unfold searchPathFor
  cases w.searchPath with
  | some path =>
      simp only [Run.final_bind, Run.outcome_get, Run.final_get, Run.outcome_pure, Run.final_pure,
        Run.outcome_lift, Run.final_lift]
      split <;> rfl
  | none =>
      simp only [Run.final_bind, Run.outcome_get, Run.final_get, Run.final_pure, Run.outcome_lift,
        Run.final_lift]
      split
      · split <;> rfl
      · rfl

/-- Compiling a unit, and anything after that which writes no files, writes files of the unit only. -/
theorem sameFiles_compile_bind {α : Type} {w : Weaver} {i : Interpreter}
    (hw : w.toolchain = i.toolchain) (hu : Text.isIdentifier u.name = true) (s : Loom)
    (hnamed : ∀ helper, s.files.node? ((directory root u).goal s.around.cwd ++
      [helperFile u.name helper sourceSuffix]) ≠ none → '/' ∉ helper.toList)
    (searchPath : String) {next : Compilation → Run α}
    (hnext : ∀ compiled, (next compiled).Keeps Loom.KeepsFiles) :
    SameFiles s.around.cwd root u s.files
      ((w.toolchain.compile (sourcePath root u) searchPath (directory root u) >>=
        next).final s).files := by
  obtain ⟨t₁, hfinal, hcompile⟩ : ∃ t₁, (w.toolchain.compile (sourcePath root u) searchPath
      (directory root u)).final s = { s with files := t₁ } ∧
        SameFiles s.around.cwd root u s.files t₁ := by
    refine ⟨_, ?_, i.sameFiles_compile hu hnamed⟩
    rw [hw]
    dsimp only [Interpreter.toolchain]
    rw [Run.final_withFiles]
  rw [Run.final_bind, hfinal]
  cases (w.toolchain.compile (sourcePath root u) searchPath (directory root u)).outcome s with
  | error f => exact hcompile
  | ok compiled =>
      dsimp only
      rw [(hnext compiled).files_eq]
      exact hcompile

/-- Completing a unit writes files of the unit only. -/
theorem sameFiles_complete {w : Weaver} {i : Interpreter} (hw : w.toolchain = i.toolchain)
    (hhost : w.host.Keeps Loom.KeepsFiles) (hu : Text.isIdentifier u.name = true) (s : Loom)
    (hnamed : ∀ helper, s.files.node? ((directory root u).goal s.around.cwd ++
      [helperFile u.name helper sourceSuffix]) ≠ none → '/' ∉ helper.toList) :
    SameFiles s.around.cwd root u s.files
      ((w.complete root u source (sourcePath root u)).final s).files := by
  have hP := Loom.keepsFiles_isLoadFrame
  unfold complete
  rw [Run.final_bind, final_searchPathFor]
  cases (w.searchPathFor (sourcePath root u) u).outcome s with
  | error f => exact .refl _
  | ok searchPath =>
      refine sameFiles_compile_bind hw hu s hnamed searchPath fun compiled => ?_
      split
      · exact .bind hP.code (Loading.keeps_loadUnit hP hhost root u) fun _ => .pure hP.code _
      · exact .bind hP.code (.report hP.code _) fun _ => .pure hP.code _

/-- Generating a unit is building it, apart from what it leaves in the store. -/
theorem generate_eq (w : Weaver) (u : UnitId) (source : String) (helpers : List (String × String))
    (s : Loom) :
    (w.generate u source helpers).outcome s =
        (w.build (w.rootIn s.around) u source helpers).outcome s ∧
      (w.generate u source helpers).final s =
        (dropUnclaimed u).final ((w.build (w.rootIn s.around) u source helpers).final s) := by
  have hroot : w.stagingRoot.outcome s = .ok (w.rootIn s.around) := rfl
  have hstays : w.stagingRoot.final s = s := rfl
  unfold generate
  rw [Run.outcome_bind, Run.final_bind, hroot, hstays]
  exact ⟨Run.outcome_andFinally _ (outcome_dropUnclaimed u) s, Run.final_andFinally _ _ s⟩

/-- Generating a unit that can be staged writes files of the unit only. -/
theorem sameFiles_generate {w : Weaver} {i : Interpreter} (hw : w.toolchain = i.toolchain)
    (hhost : w.host.Keeps Loom.KeepsFiles) (hu : Text.isIdentifier u.name = true)
    (hhelpers : ∀ h ∈ helpers, Text.isIdentifier h.1 = true) (s : Loom)
    (h : Renewable s.files s.around.cwd (w.rootIn s.around) u source helpers) :
    SameFiles s.around.cwd (w.rootIn s.around) u s.files
      ((w.generate u source helpers).final s).files := by
  obtain ⟨t₁, -, hstaged, hpurged⟩ := h.stages hu
  refine (sameFiles_staged hu hhelpers hstaged hpurged).trans ?_
  obtain ⟨log, hdrop⟩ := final_dropUnclaimed u
    ((w.build (w.rootIn s.around) u source helpers).final s)
  rw [(generate_eq w u source helpers s).2, hdrop, (build_renewed w s hu h).2]
  refine sameFiles_complete hw hhost hu
    { s with files := renewed s.files s.around.cwd (w.rootIn s.around) u source helpers }
    fun helper hnode => ?_
  exact Text.not_mem_of_isIdentifier (helper_of_staged hu hhelpers hstaged hpurged hnode)
    (by decide) (by decide)

/-- Of the files of a unit that has been staged and purged there are the sources that were handed in,
    and no others. -/
theorem node?_renewed {cwd : List String} (hu : Text.isIdentifier u.name = true)
    (hhelpers : ∀ h ∈ helpers, Text.isIdentifier h.1 = true)
    (h : Renewable t cwd root u source helpers) {q : List String} (hq : IsUnitPlace cwd root u q) :
    (renewed t cwd root u source helpers).node? q =
      (written cwd q (sources root u source helpers)).map fun text => .file (.text text) := by
  obtain ⟨t₁, -, hstaged, hpurged⟩ := h.stages hu
  exact node?_of_staged hu hhelpers hstaged hpurged hq

/-- What earlier units of a name left behind does not show when a unit of that name is generated. From
    two trees that agree outside its files the request comes to the same: it has the same outcome and
    ends in the same state, with the same tree; and neither run makes, changes or deletes any file of
    anyone else. Everything that is compiled and loaded is found in a tree in which the unit has the
    sources that were handed in and no other files. All that is asked is that the unit can be staged
    and purged in both trees; whether its sources compile, and what becomes of it when it is loaded,
    does not matter. -/
theorem generate_renewed {w : Weaver} {i : Interpreter} (hw : w.toolchain = i.toolchain)
    (hhost : w.host.Keeps Loom.KeepsFiles) (s : Loom) {t t' : Tree}
    (hu : Text.isIdentifier u.name = true)
    (hhelpers : ∀ h ∈ helpers, Text.isIdentifier h.1 = true) (ht : t.Ordered) (ht' : t'.Ordered)
    (hagree : AgreeOutside s.around.cwd (w.rootIn s.around) u t t')
    (h : Renewable t s.around.cwd (w.rootIn s.around) u source helpers)
    (h' : Renewable t' s.around.cwd (w.rootIn s.around) u source helpers) :
    let root := w.rootIn s.around
    let cwd := s.around.cwd
    let request := w.generate u source helpers
    let after := request.final { s with files := t }
    let after' := request.final { s with files := t' }
    let clean := renewed t cwd root u source helpers
    request.outcome { s with files := t } = request.outcome { s with files := t' } ∧
      after = after' ∧
      SameFiles cwd root u t after.files ∧ SameFiles cwd root u t' after'.files ∧
      (request.outcome { s with files := t } =
          (w.complete root u source (sourcePath root u)).outcome { s with files := clean } ∧
        ∀ q, IsUnitPlace cwd root u q → clean.node? q =
          (written cwd q (sources root u source helpers)).map fun text => .file (.text text)) := by
  have hsame := renewed_eq hu hhelpers ht ht' hagree h h'
  have hbuild := build_renewed w { s with files := t } hu h
  have hbuild' := build_renewed w { s with files := t' } hu h'
  have hgenerate := generate_eq w u source helpers { s with files := t }
  have hgenerate' := generate_eq w u source helpers { s with files := t' }
  refine ⟨?_, ?_, sameFiles_generate hw hhost hu hhelpers { s with files := t } h,
    sameFiles_generate hw hhost hu hhelpers { s with files := t' } h', ?_,
    fun q hq => node?_renewed hu hhelpers h hq⟩
  · rw [hgenerate.1, hgenerate'.1, hbuild.1, hbuild'.1, hsame]
  · rw [hgenerate.2, hgenerate'.2, hbuild.2, hbuild'.2, hsame]
  · rw [hgenerate.1, hbuild.1]

end

/-- A weaver that compiles in the interpreter that is running. -/
def plainWeaver : Weaver :=
  { root := some (.parse "/stage"), host := .silent, toolchain := Interpreter.toolchain {},
    searchPath := some "" }

/-- A unit whose name is used again and again. -/
def fixedUnit : UnitId := ⟨"woven", "fixed", by decide, by decide, by decide⟩

/-- A tree in which an earlier unit of the name left a source, a helper and compiled files. -/
def clutteredTree : Tree :=
  [(["stage"], .directory), (["stage", "kept.txt"], .file (.text "kept")),
    (["stage", "woven"], .directory), (["stage", "woven", "fixed.py"], .file (.text "old")),
    (["stage", "woven", "fixed.pyc"], .file (.bytes [0])),
    (["stage", "woven", "fixed__old.py"], .file (.text "old")),
    (["stage", "woven", "fixed__old.pyc"], .file (.bytes [0]))]

/-- The same tree before there was any unit of the name. -/
def freshTree : Tree :=
  [(["stage"], .directory), (["stage", "kept.txt"], .file (.text "kept"))]

/-- Is every directory of a tree in its root, or in a directory of the root? -/
def shallow (t : Tree) : Bool :=
  t.all fun e => match e.2 with
    | .directory => e.1.length ≤ 2
    | .file _ => true

theorem goal_fixedUnit : (directory (.parse "/stage") fixedUnit).goal [] = ["stage", "woven"] := by
  decide +kernel

theorem roomy_fixedUnit {t : Tree}
    (hmade : (t.makeDirectory [] (directory (.parse "/stage") fixedUnit)).1 = .ok ())
    (hshallow : shallow (t.makeDirectory [] (directory (.parse "/stage") fixedUnit)).2 = true)
    (hfine : ∀ q ∈ Assoc.keys t,
      ((directory (.parse "/stage") fixedUnit).child (q.getLastD "")).Fine) :
    Roomy t [] (.parse "/stage") fixedUnit [("new", "b = 2\n")] where
  made := hmade
  regular := by
    rintro q ⟨name, -, rfl⟩ hnode
    rw [goal_fixedUnit, Tree.node?, if_neg (by simp)] at hnode
    have hmem := List.all_eq_true.mp hshallow _ (Assoc.mem_of_find? hnode)
    simp at hmem
  present := by
    intro name _ hnode
    rw [goal_fixedUnit, Tree.node?_ne_none_iff (by simp)] at hnode
    simpa using hfine _ hnode
  own := by decide +kernel
  handed := by decide +kernel

theorem clutteredTree_agree :
    AgreeOutside [] (.parse "/stage") fixedUnit clutteredTree freshTree := by
  intro q hunit htrail
  have hown (suffix : String) (h : suffix ∈ fileSuffixes) :
      ["stage", "woven", "fixed" ++ suffix] ≠ q := by
    rintro rfl
    exact hunit ⟨_, .own h, by rw [goal_fixedUnit]; rfl⟩
  have hhelper (suffix : String) (h : suffix ∈ fileSuffixes) :
      ["stage", "woven", helperFile "fixed" "old" suffix] ≠ q := by
    rintro rfl
    exact hunit ⟨_, .helper h "old", by rw [goal_fixedUnit]; rfl⟩
  have hdirectory : ["stage", "woven"] ≠ q := by
    rintro rfl
    exact htrail (by decide +kernel)
  have hsource : ["stage", "woven", "fixed.py"] ≠ q := hown _ mem_sourceSuffix
  have hartifact : ["stage", "woven", "fixed.pyc"] ≠ q := hown _ mem_artifactSuffix
  have hold : ["stage", "woven", "fixed__old.py"] ≠ q := hhelper _ mem_sourceSuffix
  have holdArtifact : ["stage", "woven", "fixed__old.pyc"] ≠ q := hhelper _ mem_artifactSuffix
  simp [Tree.node?, clutteredTree, freshTree, Assoc.find?, hdirectory, hsource, hartifact, hold,
    holdArtifact]

theorem generate_renewed_clutteredTree :
    let request := plainWeaver.generate fixedUnit "a = 1\n" [("new", "b = 2\n")]
    let s : Loom := { world := {}, files := clutteredTree }
    let s' : Loom := { world := {}, files := freshTree }
    request.outcome s = request.outcome s' ∧ request.final s = request.final s' := by
  have hhost : plainWeaver.host.Keeps Loom.KeepsFiles :=
    Host.silent_keeps Loom.keepsFiles_isLoadFrame
  have hhelpers : ∀ h ∈ [("new", "b = 2\n")], Text.isIdentifier h.1 = true := by decide +kernel
  have hcluttered : clutteredTree.Ordered := ⟨by decide +kernel, by decide +kernel⟩
  have hfresh : freshTree.Ordered := ⟨by decide +kernel, by decide +kernel⟩
  have hunit : Text.isIdentifier fixedUnit.name = true := by decide +kernel
  have hroom : Roomy clutteredTree [] (.parse "/stage") fixedUnit [("new", "b = 2\n")] :=
    roomy_fixedUnit rfl (by decide +kernel) (by decide +kernel)
  have hroom' : Roomy freshTree [] (.parse "/stage") fixedUnit [("new", "b = 2\n")] :=
    roomy_fixedUnit rfl (by decide +kernel) (by decide +kernel)
  have hrenewable : Renewable clutteredTree [] (.parse "/stage") fixedUnit "a = 1\n" _ :=
    hroom.renewable hunit hhelpers hcluttered
  have hrenewable' : Renewable freshTree [] (.parse "/stage") fixedUnit "a = 1\n" _ :=
    hroom'.renewable hunit hhelpers hfresh
  have h := generate_renewed (w := plainWeaver) (i := {}) rfl hhost { world := {} } hunit hhelpers
    hcluttered hfresh clutteredTree_agree hrenewable hrenewable'
  exact ⟨h.1, h.2.1⟩

end Weaver

end FragmentWeaver
