import FragmentWeaver.Proofs.Compiling

/-!
# Units side by side

Which file belongs to which unit is told by names alone: whatever starts with the name of a unit and
the helper mark passes for a file of one of its helpers. So staging and purging a unit leave all files
alone that bear other names, and those of another unit exactly if none of its stems can be taken for
one of the unit, or the two have different directories.
-/

namespace FragmentWeaver.Staging

open Files

/-- The stems of the files of a unit with some helpers. -/
def stems (u : UnitId) (helpers : List (String × String)) : List String :=
  u.name :: helpers.map fun h => u.name ++ helperMark ++ h.1

/-- A stem belongs to a unit of a name if it is the name, or goes on with the helper mark. -/
theorem isStem_iff {name stem : String} :
    IsStem name stem ↔ stem = name ∨ (name ++ helperMark).toList <+: stem.toList := by
  constructor
  · rintro (_ | helper)
    · exact .inl rfl
    · exact .inr ⟨helper.toList, by simp⟩
  · rintro (rfl | ⟨rest, hrest⟩)
    · exact .own
    · have hstem : stem = name ++ helperMark ++ String.ofList rest := by
        rw [← String.toList_inj, ← hrest]
        simp
      exact hstem ▸ .helper _

instance (name stem : String) : Decidable (IsStem name stem) :=
  decidable_of_iff _ isStem_iff.symm

/-- A stem is what is left of the name of a file. -/
theorem stem_eq_of_append_eq {stem other suffix suffix' : String} (hsuffix : suffix ∈ fileSuffixes)
    (hsuffix' : suffix' ∈ fileSuffixes) (h : stem ++ suffix = other ++ suffix') : stem = other := by
  rw [fileSuffixes, List.mem_pair] at hsuffix hsuffix'
  rcases hsuffix with rfl | rfl <;> rcases hsuffix' with rfl | rfl
  · rw [← String.toList_inj] at h ⊢
    simpa using h
  · exact absurd h (append_sourceSuffix_ne stem other)
  · exact absurd h.symm (append_sourceSuffix_ne other stem)
  · rw [← String.toList_inj] at h ⊢
    simpa using h

/-- No file of a unit with some helpers can be taken for a file of another unit. -/
def Apart (cwd : List String) (root : Path) (u v : UnitId) (helpers : List (String × String)) :
    Prop :=
  (directory root u).goal cwd ≠ (directory root v).goal cwd ∨
    ∀ stem ∈ stems v helpers, ¬IsStem u.name stem

/-- The sources and the compiled files of a unit with some helpers are there, and another tree has the
    same ones. -/
def KeepsUnit (cwd : List String) (root : Path) (v : UnitId) (helpers : List (String × String))
    (t t' : Tree) : Prop :=
  ∀ stem ∈ stems v helpers, ∀ suffix ∈ fileSuffixes, ∃ c,
    t.node? ((directory root v).goal cwd ++ [stem ++ suffix]) = some (.file c) ∧
      t'.node? ((directory root v).goal cwd ++ [stem ++ suffix]) = some (.file c)

section

variable {t t' : Tree} {cwd : List String} {root : Path} {u v : UnitId} {source : String}
  {helpers : List (String × String)}

theorem mem_of_deleteStale {ps removed : List Path} (h : (deleteStale t cwd ps).1 = .ok removed) :
    removed ⊆ ps := by
  induction ps generalizing t removed with
  | nil =>
      obtain rfl := Except.ok.inj h
      exact List.Subset.refl _
  | cons p ps ih =>
      rw [deleteStale] at h
      split at h
      · next t' hdelete =>
          cases hrest : (deleteStale t' cwd ps).1 with
          | error f => simp [hrest, Except.map] at h
          | ok rest =>
              simp only [hrest, Except.map, Except.ok.injEq] at h
              rw [← h]
              exact List.cons_subset_cons p (ih hrest)
      · exact List.Subset.trans (ih h) (List.subset_cons_self p ps)
      · cases h

theorem mem_stems {stem : String} (h : stem ∈ stems v helpers) : IsStem v.name stem := by
  rcases List.mem_cons.mp h with rfl | h
  · exact .own
  · obtain ⟨helper, -, rfl⟩ := List.mem_map.mp h
    exact .helper helper.1

/-- Files of units that are apart stand at different places. -/
theorem not_isUnitPlace (h : Apart cwd root u v helpers) {stem suffix : String}
    (hstem : stem ∈ stems v helpers) (hsuffix : suffix ∈ fileSuffixes) :
    ¬IsUnitPlace cwd root u ((directory root v).goal cwd ++ [stem ++ suffix]) := by
  rintro ⟨name, hname, hplace⟩
  obtain ⟨other, hother, suffix', hsuffix', rfl⟩ := hname.exists_stem
  obtain ⟨hgoal, hlast⟩ := List.append_inj' hplace rfl
  rcases h with h | h
  · exact h hgoal.symm
  · have hsame := stem_eq_of_append_eq hsuffix hsuffix' (List.singleton_inj.mp hlast)
    exact h stem hstem (hsame ▸ hother)

section

variable (hu : Text.isIdentifier u.name = true)

include hu

/-- Staging a unit changes no other file. -/
theorem sameFiles_stage {path : Path} (hhelpers : ∀ h ∈ helpers, Text.isIdentifier h.1 = true)
    (h : stage t cwd root u source helpers = (.ok path, t')) : SameFiles cwd root u t t' := by
  have hstaged := (stage_ok hu h).2
  intro q hq c
  have hwritten : written cwd q (sources root u source helpers) = none := by
    by_contra hsome
    exact hq (isUnitPlace_of_written hu hhelpers hsome)
  rcases hstaged.kept q (fun hplace => hq (hplace.isUnitPlace mem_sourceSuffix)) hwritten with
    hsame | ⟨htrail, hnone⟩
  · rw [hsame]
  · rw [(Tree.isDirectory_iff.mp hstaged.directory).2 q htrail, hnone]
    simp

/-- Purging a unit deletes compiled files that bear its name, and changes no other file, whether all
    of them can be deleted or not. -/
theorem purge_unit (hdirectory : t.isDirectory cwd (directory root u) = true) :
    SameFiles cwd root u t (purge t cwd root u).2.1 ∧
      ∀ removed, (purge t cwd root u).1 = .ok removed → ∀ p ∈ removed,
        ∃ stem, IsStem u.name stem ∧ p = (directory root u).child (stem ++ artifactSuffix) := by
  rw [purge]
  cases hstale : artifacts t cwd u (directory root u) with
  | error f =>
      refine ⟨.refl t, fun removed hremoved => ?_⟩
      cases hremoved
  | ok stale =>
      dsimp only
      constructor
      · intro q hq c
        rw [(shrunk_deleteStale t cwd stale).node?_eq]
        intro hmem
        obtain ⟨p, hp, rfl⟩ := List.mem_map.mp hmem
        obtain ⟨name, rfl, hname, hplace, -⟩ := exists_of_mem_artifacts hu hdirectory hstale hp
        rw [Path.goal_child _ _ (hname.ne_up hu)] at hq
        exact hq hplace.isUnitPlace
      · intro removed hremoved p hp
        obtain ⟨name, rfl, -, hplace, -⟩ :=
          exists_of_mem_artifacts hu hdirectory hstale (mem_of_deleteStale hremoved hp)
        rcases hplace with hplace | ⟨helper, hplace⟩
        · rw [List.singleton_inj.mp (List.append_cancel_left hplace)]
          exact ⟨_, .own, rfl⟩
        · rw [List.singleton_inj.mp (List.append_cancel_left hplace)]
          exact ⟨_, .helper helper, rfl⟩

end

section

variable (hv : Text.isIdentifier v.name = true)
  (hhelpers : ∀ h ∈ helpers, Text.isIdentifier h.1 = true)

include hv hhelpers

/-- Each stem of a unit is that of one of its sources, and of the compiled file that belongs to it. -/
theorem exists_of_mem_stems (root : Path) (source : String) {stem : String}
    (h : stem ∈ stems v helpers) :
    ∃ p text, (p, text) ∈ sources root v source helpers ∧
      p = (directory root v).child (stem ++ sourceSuffix) ∧
      artifactFor (directory root v) p = (directory root v).child (stem ++ artifactSuffix) := by
  rcases List.mem_cons.mp h with rfl | h
  · refine ⟨sourcePath root v, source, mem_sources.mpr (.inl rfl), sourcePath_eq hv, ?_⟩
    rw [sourcePath_eq hv, artifactFor_own hv]
  · obtain ⟨helper, hhelper, rfl⟩ := List.mem_map.mp h
    have hname := unslashed_of_isIdentifier (hhelpers helper hhelper)
    refine ⟨helperPath root v helper.1, helper.2,
      mem_sources.mpr (.inr ⟨helper, hhelper, rfl⟩), helperPath_eq hv hname, ?_⟩
    rw [helperPath_eq hv hname, artifactFor_helper hv _ hname]
    rfl

/-- A unit that has been staged and compiled has a source and a compiled file for each of its stems. -/
theorem files_of_compiled {i : Interpreter} {around : Surroundings} {t₁ t₂ : Tree} {path : Path}
    {c : Compilation} (hscript : i.settings.errand = .script) (ht : t.Ordered)
    (honce : (helpers.map Prod.fst).Nodup)
    (hstaged : stage t around.cwd root v source helpers = (.ok path, t₁))
    (hcompiled : i.compile t₁ around (sourcePath root v) (directory root v) = (.ok c, t₂))
    (hsuccess : c.success = true) : KeepsUnit around.cwd root v helpers t₂ t₂ := by
  have hhas := hasSources_stage hv hstaged
  have hordered := (stage_ok hv hstaged).2.ordered ht
  obtain ⟨beside, hbeside, hends⟩ :=
    Interpreter.ends_compile hscript hordered hhas.placed hcompiled
  cases hends with
  | early hfailed =>
      rw [hsuccess] at hfailed
      cases hfailed
  | compiled digits y hdigits hrun hrejected hnone =>
      have hplain := unslashed_helpers hhelpers
      obtain ⟨accepted, -, hleaves⟩ := hhas.leaves hv hplain honce hdigits hbeside
      rw [hrun] at hleaves
      have hempty := hnone.mp hsuccess
      intro stem hstem suffix hsuffix
      obtain ⟨p, text, hfile, hpath, hartifact⟩ := exists_of_mem_stems hv hhelpers root source hstem
      have hpair := List.mem_map_of_mem (f := fun p => (p, artifactFor (directory root v) p))
        ((hhas.mem_beside hv hplain hbeside).mpr ⟨_, hfile, rfl⟩)
      suffices h : ∃ c, t₂.node? ((directory root v).goal around.cwd ++ [stem ++ suffix]) =
          some (.file c) from h.imp fun _ h => ⟨h, h⟩
      rw [← goal_child_stem hv (mem_stems hstem) hsuffix]
      rw [fileSuffixes, List.mem_pair] at hsuffix
      rcases hsuffix with rfl | rfl
      · rw [← hpath]
        refine hleaves.files _ ⟨.text text, ?_⟩
        exact (Tree.contents_eq_ok_iff.mp (hhas.contents hv hplain honce hfile)).2.2
      · have hsources : ∀ x ∈ y.rejected, ∃ f, x.2 = Rejection.source f := by
          rw [hempty]
          exact fun x hx => absurd hx List.not_mem_nil
        obtain ⟨a, hnode⟩ := hleaves.written hsources _ hpair (hleaves.all hempty _ hpair)
        dsimp only at hnode
        rw [← hartifact]
        exact ⟨a, hnode⟩

end

/-- What becomes of the files of a unit that has been staged and compiled with its helpers when another
    one is staged and purged. Files that do not bear the name of the other one are left alone, and
    what purging says it deleted are compiled files that bear it. So the first unit keeps its sources
    and its compiled files if the two are apart; and if they are not, it keeps them only when compiled
    files cannot be deleted, which is reported. -/
theorem keepsUnit_of_purge {i : Interpreter} {around : Surroundings} {t₁ t₂ t₃ t₄ : Tree}
    {path path' : Path} {c : Compilation} {source' : String} {helpers' : List (String × String)}
    {removed : List Path} {log : List LogRecord} (hscript : i.settings.errand = .script)
    (ht : t.Ordered) (hu : Text.isIdentifier u.name = true) (hv : Text.isIdentifier v.name = true)
    (hhelpers : ∀ h ∈ helpers, Text.isIdentifier h.1 = true) (honce : (helpers.map Prod.fst).Nodup)
    (hhelpers' : ∀ h ∈ helpers', Text.isIdentifier h.1 = true)
    (hstaged : stage t around.cwd root v source helpers = (.ok path, t₁))
    (hcompiled : i.compile t₁ around (sourcePath root v) (directory root v) = (.ok c, t₂))
    (hsuccess : c.success = true)
    (hstage : stage t₂ around.cwd root u source' helpers' = (.ok path', t₃))
    (hpurge : purge t₃ around.cwd root u = (.ok removed, t₄, log)) :
    SameFiles around.cwd root u t₂ t₄ ∧
      (∀ p ∈ removed, ∃ stem, IsStem u.name stem ∧
        p = (directory root u).child (stem ++ artifactSuffix)) ∧
      KeepsUnit around.cwd root v helpers t₂ t₂ ∧
      (Apart around.cwd root u v helpers → KeepsUnit around.cwd root v helpers t₂ t₄) ∧
      (KeepsUnit around.cwd root v helpers t₂ t₄ → Apart around.cwd root u v helpers ∨ log ≠ []) := by
  have hthere := files_of_compiled hv hhelpers hscript ht honce hstaged hcompiled hsuccess
  have hdirectory := (stage_ok hu hstage).2.directory
  have hpurged := purge_unit hu hdirectory
  have hgone := purge_ok hu hdirectory
  rw [hpurge] at hpurged hgone
  have hsame := (sameFiles_stage hu hhelpers' hstage).trans hpurged.1
  refine ⟨hsame, hpurged.2 removed rfl, hthere, fun hapart stem hstem suffix hsuffix => ?_,
    fun hkept => ?_⟩
  · obtain ⟨c, hnode, -⟩ := hthere stem hstem suffix hsuffix
    exact ⟨c, hnode, (hsame _ (not_isUnitPlace hapart hstem hsuffix) c).mpr hnode⟩
  · by_contra hlost
    obtain ⟨hmeet, hlog⟩ := not_or.mp hlost
    obtain ⟨hgoal, hshared⟩ := not_or.mp hmeet
    simp only [not_forall, not_not] at hgoal hshared
    obtain ⟨stem, hstem, hother⟩ := hshared
    obtain ⟨c, -, hnode⟩ := hkept stem hstem artifactSuffix mem_artifactSuffix
    rw [← hgoal, (hgone rfl (not_not.mp hlog)).cleared _ (isArtifactPlace_of_stem hother)] at hnode
    cases hnode

end

/-- A unit whose name bears that of `bearer` and the helper mark. -/
def bearing : UnitId :=
  { Weaver.fixedUnit with name := "a__b", name_ne := by decide, name_undotted := by decide }

/-- A unit whose helpers have names like that of `bearing`. -/
def bearer : UnitId :=
  { Weaver.fixedUnit with name := "a", name_ne := by decide, name_undotted := by decide }

/-- Where the two are staged. -/
def sharedRoot : Path := .parse "/stage"

/-- What surrounds the two. -/
def shared : Surroundings := {}

/-- The one unit is staged with a helper. -/
def bearingStaged : Except Fault Path × Tree :=
  stage Weaver.freshTree shared.cwd sharedRoot bearing "a = 1\n" [("c", "b = 2\n")]

/-- After that it is compiled. -/
def bearingCompiled : Except Fault Compilation × Tree :=
  Interpreter.compile {} bearingStaged.2 shared (sourcePath sharedRoot bearing)
    (directory sharedRoot bearing)

/-- Then the other unit is staged. -/
def bearerStaged : Except Fault Path × Tree :=
  stage bearingCompiled.2 shared.cwd sharedRoot bearer "a = 1\n" []

/-- At last the other unit is purged. -/
def bearerPurged : Except Fault (List Path) × Tree × List LogRecord :=
  purge bearerStaged.2 shared.cwd sharedRoot bearer

theorem eq_mk_of_fst {α β : Type} {p : α × β} {a : α} (h : p.1 = a) : p = (a, p.2) := by
  rw [← h]

/-- The compiled files of the one unit are deleted as those of helpers of the other. -/
theorem keepsUnit_of_purge_bearer :
    KeepsUnit shared.cwd sharedRoot bearing [("c", "b = 2\n")] bearingCompiled.2
        bearingCompiled.2 ∧
      ¬KeepsUnit shared.cwd sharedRoot bearing [("c", "b = 2\n")] bearingCompiled.2
        bearerPurged.2.1 := by
  have hscript : (({} : Interpreter)).settings.errand = .script := by decide +kernel
  have hfresh : Weaver.freshTree.Ordered := ⟨by decide +kernel, by decide +kernel⟩
  have hstagedOk : bearingStaged.1.isOk = true := by decide +kernel
  have hcompiledOk : bearingCompiled.1.toOption.map (·.success) = some true := by decide +kernel
  have hstageOk : bearerStaged.1.isOk = true := by decide +kernel
  have hpurgeOk : bearerPurged.1.isOk = true := by decide +kernel
  have hlog : bearerPurged.2.2 = [] := List.isEmpty_iff.mp (by decide +kernel)
  obtain ⟨path, hstaged⟩ := Weaver.exists_of_isOk hstagedOk
  obtain ⟨c, hcompiled, hsuccess⟩ := Weaver.exists_of_map_eq_some hcompiledOk
  obtain ⟨path', hstage⟩ := Weaver.exists_of_isOk hstageOk
  obtain ⟨removed, hremoved⟩ := Weaver.exists_of_isOk hpurgeOk
  have hpurge : bearerPurged = (.ok removed, bearerPurged.2.1, bearerPurged.2.2) := by
    rw [← hremoved]
  obtain ⟨-, -, hthere, -, hkept⟩ := keepsUnit_of_purge hscript hfresh (by decide +kernel)
    (by decide +kernel) (by decide +kernel) (by decide +kernel) (List.forall_mem_nil _)
    (eq_mk_of_fst hstaged) (eq_mk_of_fst hcompiled) hsuccess (eq_mk_of_fst hstage)
    hpurge
  refine ⟨hthere, fun h => ?_⟩
  rcases hkept h with (hgoal | hstems) | hsome
  · exact hgoal (by decide +kernel)
  · exact hstems _ List.mem_cons_self (.helper "b")
  · exact hsome hlog

end FragmentWeaver.Staging
