import FragmentWeaver.Proofs.FileNames
import FragmentWeaver.Staging.Stage

/-!
# Staging a unit again

What staging leaves of the files that an earlier unit of the same name had. Sources of helpers are
deleted before the new ones are written, the source of the unit is written over, and compiled files are
deleted; nothing else is touched but directories on the way to that of the unit. So two trees that
differ only in files of the unit are the same tree once the unit has been staged and purged in both.
-/

namespace FragmentWeaver

namespace Files.Tree

/-- A tree has what another one has, except for files at some places. -/
structure Shrunk (places : List (List String)) (t t' : Tree) : Prop where
  nodes : ∀ q, t'.node? q = t.node? q ∨
    q ∈ places ∧ (∃ c, t.node? q = some (.file c)) ∧ t'.node? q = none
  ordered : t.Ordered → t'.Ordered

/-- Have two trees the same directories? -/
def SameDirectories (t t' : Tree) : Prop :=
  ∀ q, t'.node? q = some .directory ↔ t.node? q = some .directory

section

variable {t t' t'' : Tree} {cwd : List String} {p : Path} {places : List (List String)}

theorem SameDirectories.refl (t : Tree) : t.SameDirectories t :=
  fun _ => .rfl

theorem SameDirectories.trans (h : t.SameDirectories t') (h' : t'.SameDirectories t'') :
    t.SameDirectories t'' :=
  fun q => (h' q).trans (h q)

theorem SameDirectories.holds (h : t.SameDirectories t') (hplaces : t.Holds places) :
    t'.Holds places :=
  fun q hq => (h q).mpr (hplaces q hq)

theorem Shrunk.refl (places : List (List String)) (t : Tree) : Shrunk places t t :=
  ⟨fun _ => .inl rfl, id⟩

theorem Shrunk.trans (h : Shrunk places t t') (h' : Shrunk places t' t'') :
    Shrunk places t t'' := by
  refine ⟨fun q => ?_, h'.ordered ∘ h.ordered⟩
  rcases h'.nodes q with hsame | ⟨hmem, ⟨c, hfile⟩, hnone⟩
  · rw [hsame]
    exact h.nodes q
  · rcases h.nodes q with hsame | ⟨-, -, hgone⟩
    · exact .inr ⟨hmem, ⟨c, hsame ▸ hfile⟩, hnone⟩
    · rw [hgone] at hfile
      cases hfile

theorem Shrunk.mono {more : List (List String)} (hmore : places ⊆ more)
    (h : Shrunk places t t') : Shrunk more t t' :=
  ⟨fun q => (h.nodes q).imp_right fun hq => ⟨hmore hq.1, hq.2⟩, h.ordered⟩

theorem Shrunk.sameDirectories (h : Shrunk places t t') : t.SameDirectories t' := by
  intro q
  rcases h.nodes q with hsame | ⟨-, ⟨c, hfile⟩, hnone⟩
  · rw [hsame]
  · rw [hfile, hnone]
    simp

theorem Shrunk.node?_eq (h : Shrunk places t t') {q : List String} (hq : q ∉ places) :
    t'.node? q = t.node? q :=
  (h.nodes q).resolve_right fun hmem => hq hmem.1

theorem Shrunk.node?_eq_none (h : Shrunk places t t') {q : List String}
    (hq : t.node? q = none) : t'.node? q = none := by
  rcases h.nodes q with hsame | ⟨-, -, hnone⟩
  · rw [hsame, hq]
  · exact hnone

theorem shrunk_delete (h : t.delete cwd p = .ok t') : Shrunk [p.goal cwd] t t' := by
  obtain ⟨⟨c, hfile⟩, rfl⟩ := delete_eq_ok h
  refine ⟨fun q => ?_, fun ht => ht.erase _⟩
  rw [node?_erase (ne_nil_of_node? (by rw [hfile]; nofun))]
  split
  · next hq => exact .inr ⟨by simp [hq], ⟨c, hq ▸ hfile⟩, rfl⟩
  · exact .inl rfl

theorem node?_delete (h : t.delete cwd p = .ok t') : t'.node? (p.goal cwd) = none := by
  obtain ⟨⟨c, hfile⟩, rfl⟩ := delete_eq_ok h
  rw [node?_erase (ne_nil_of_node? (by rw [hfile]; nofun)), if_pos rfl]

theorem sameDirectories_write {c : Contents} (h : t.write cwd p c = .ok t') :
    t.SameDirectories t' := by
  obtain ⟨hnode, rfl⟩ := write_eq_ok h
  intro q
  rw [node?_put (ne_nil_of_node? hnode)]
  split
  · next hq =>
      subst hq
      simp [hnode]
  · exact .rfl

end

end Files.Tree

namespace Staging

open Files

section

variable {t : Tree} {cwd : List String} {ps : List Path}

/-! ### Deleting several files -/

theorem isOk_map {ε α β : Type} (f : α → β) (r : Except ε α) : (r.map f).isOk = r.isOk := by
  cases r <;> rfl

theorem shrunk_deleteAll (t : Tree) (cwd : List String) (ps : List Path) :
    Tree.Shrunk (ps.map (Path.goal cwd)) t (deleteAll t cwd ps).2 := by
  induction ps generalizing t with
  | nil => exact .refl _ t
  | cons p ps ih =>
      have hrest (t : Tree) := (ih t).mono (List.subset_cons_self (p.goal cwd) _)
      rw [deleteAll]
      split
      · next t' hdelete =>
          exact ((Tree.shrunk_delete hdelete).mono (by simp)).trans (hrest t')
      · exact hrest t
      · exact .refl _ t

/-- If all goes well none of the files is left. -/
theorem gone_deleteAll (hways : ∀ p ∈ ps, t.Holds (p.way cwd))
    (hok : (deleteAll t cwd ps).1 = .ok ()) :
    ∀ p ∈ ps, (deleteAll t cwd ps).2.node? (p.goal cwd) = none := by
  induction ps generalizing t with
  | nil => nofun
  | cons p ps ih =>
      have hway := hways p List.mem_cons_self
      have hways (t' : Tree) (h : t.SameDirectories t') : ∀ q ∈ ps, t'.Holds (q.way cwd) :=
        fun q hq => h.holds (hways q (List.mem_cons_of_mem p hq))
      rw [deleteAll] at hok ⊢
      split at hok
      · next t' hdelete =>
          have hrest := ih (hways t' (Tree.shrunk_delete hdelete).sameDirectories) hok
          rintro q (_ | ⟨_, hq⟩)
          · exact (shrunk_deleteAll t' cwd ps).node?_eq_none (Tree.node?_delete hdelete)
          · exact hrest q hq
      · next said hdelete =>
          have hrest := ih (hways t (.refl t)) hok
          rintro q (_ | ⟨_, hq⟩)
          · exact (shrunk_deleteAll t cwd ps).node?_eq_none
              (Tree.node?_of_delete_notFound hdelete hway)
          · exact hrest q hq
      · cases hok

theorem shrunk_deleteStale (t : Tree) (cwd : List String) (ps : List Path) :
    Tree.Shrunk (ps.map (Path.goal cwd)) t (deleteStale t cwd ps).2.1 := by
  induction ps generalizing t with
  | nil => exact .refl _ t
  | cons p ps ih =>
      have hrest (t : Tree) := (ih t).mono (List.subset_cons_self (p.goal cwd) _)
      rw [deleteStale]
      split
      · next t' hdelete =>
          exact ((Tree.shrunk_delete hdelete).mono (by simp)).trans (hrest t')
      · exact hrest t
      · exact .refl _ t

/-- If nothing is reported none of the files is left. -/
theorem gone_deleteStale (hok : (deleteStale t cwd ps).1.isOk = true)
    (hlog : (deleteStale t cwd ps).2.2 = []) :
    ∀ p ∈ ps, (deleteStale t cwd ps).2.1.node? (p.goal cwd) = none := by
  induction ps generalizing t with
  | nil => nofun
  | cons p ps ih =>
      rw [deleteStale] at hok hlog ⊢
      split at hok
      · next t' hdelete =>
          have hok : (deleteStale t' cwd ps).1.isOk = true := by
            rw [← isOk_map (p :: ·)]
            exact hok
          simp only [hdelete] at hlog
          have hrest := ih hok hlog
          rintro q (_ | ⟨_, hq⟩)
          · exact (shrunk_deleteStale t' cwd ps).node?_eq_none (Tree.node?_delete hdelete)
          · exact hrest q hq
      · next f hdelete =>
          simp only [hdelete] at hlog
          cases hlog
      · cases hok

/-! ### Writing several files -/

/-- What some files that are written one after the other leave at a place, if one of them goes
    there. -/
def written (cwd : List String) (q : List String) : List (Path × String) → Option String
  | [] => none
  | (p, text) :: rest =>
      (written cwd q rest).or (if p.goal cwd = q then some text else none)

theorem written_ne_none {q : List String} {files : List (Path × String)}
    (h : written cwd q files ≠ none) : ∃ file ∈ files, file.1.goal cwd = q := by
  induction files with
  | nil => exact absurd rfl h
  | cons file files ih =>
      by_cases hq : file.1.goal cwd = q
      · exact ⟨file, List.mem_cons_self, hq⟩
      · rw [written, if_neg hq, Option.or_none] at h
        obtain ⟨other, hother, hgoal⟩ := ih h
        exact ⟨other, List.mem_cons_of_mem _ hother, hgoal⟩

theorem written_ne_none_of_mem {files : List (Path × String)} {p : Path} {text : String}
    (hfile : (p, text) ∈ files) : written cwd (p.goal cwd) files ≠ none := by
  induction files with
  | nil => cases hfile
  | cons first rest ih =>
      rw [written, ne_eq, Option.or_eq_none_iff, not_and_or]
      rcases List.mem_cons.mp hfile with rfl | hfile
      · exact .inr (by simp)
      · exact .inl (ih hfile)

/-- What stands at a place once several files have been written. -/
theorem node?_writeAll (t : Tree) (cwd : List String) (files : List (Path × String))
    (hok : (writeAll t cwd files).1 = .ok ()) (q : List String) :
    (writeAll t cwd files).2.node? q =
      match written cwd q files with
      | some text => some (.file (.text text))
      | none => t.node? q := by
  induction files generalizing t with
  | nil => rfl
  | cons file files ih =>
      obtain ⟨p, text⟩ := file
      rw [writeAll] at hok ⊢
      cases hwrite : t.write cwd p (.text text) with
      | error f => simp [hwrite] at hok
      | ok t' =>
          obtain ⟨hnode, rfl⟩ := Tree.write_eq_ok hwrite
          simp only [hwrite] at hok ⊢
          rw [ih _ hok, written]
          cases written cwd q files with
          | some _ => rfl
          | none =>
              simp only [Tree.node?_put (Tree.ne_nil_of_node? hnode), Option.none_or]
              by_cases hq : q = p.goal cwd <;> simp [hq, eq_comm]

theorem sameDirectories_writeAll (t : Tree) (cwd : List String) (files : List (Path × String)) :
    t.SameDirectories (writeAll t cwd files).2 := by
  induction files generalizing t with
  | nil => exact .refl t
  | cons file files ih =>
      rw [writeAll]
      split
      · next t' hwrite => exact (Tree.sameDirectories_write hwrite).trans (ih t')
      · exact .refl t

theorem ordered_writeAll (ht : t.Ordered) (cwd : List String) (files : List (Path × String)) :
    (writeAll t cwd files).2.Ordered := by
  induction files generalizing t with
  | nil => exact ht
  | cons file files ih =>
      rw [writeAll]
      split
      · next t' hwrite =>
          obtain ⟨hnode, rfl⟩ := Tree.write_eq_ok hwrite
          exact ih (ht.put (Tree.ne_nil_of_node? hnode) _)
      · exact ht

end

/-- The place of a file of a unit. -/
def IsUnitPlace (cwd : List String) (root : Path) (u : UnitId) (q : List String) : Prop :=
  ∃ name, IsUnitFile u.name name ∧ q = (directory root u).goal cwd ++ [name]

/-- The place of a file of a helper, with a suffix. -/
def IsHelperPlace (cwd : List String) (root : Path) (u : UnitId) (suffix : String)
    (q : List String) : Prop :=
  ∃ helper, q = (directory root u).goal cwd ++ [helperFile u.name helper suffix]

/-- The place of a compiled file of a unit. -/
def IsArtifactPlace (cwd : List String) (root : Path) (u : UnitId) (q : List String) : Prop :=
  q = (directory root u).goal cwd ++ [u.name ++ artifactSuffix] ∨
    IsHelperPlace cwd root u artifactSuffix q

theorem isArtifactPlace_of_stem {cwd : List String} {root : Path} {u : UnitId} {stem : String}
    (h : IsStem u.name stem) :
    IsArtifactPlace cwd root u ((directory root u).goal cwd ++ [stem ++ artifactSuffix]) := by
  cases h with
  | own => exact .inl rfl
  | helper helper => exact .inr ⟨helper, rfl⟩

section

variable {t t₁ : Tree} {cwd : List String} {root : Path} {u : UnitId} {source : String}
  {helpers : List (String × String)} (hu : Text.isIdentifier u.name = true)

theorem IsHelperPlace.isUnitPlace {suffix : String} (hsuffix : suffix ∈ fileSuffixes)
    {q : List String} (h : IsHelperPlace cwd root u suffix q) : IsUnitPlace cwd root u q := by
  obtain ⟨helper, rfl⟩ := h
  exact ⟨_, .helper hsuffix helper, rfl⟩

theorem IsArtifactPlace.isUnitPlace {q : List String} (h : IsArtifactPlace cwd root u q) :
    IsUnitPlace cwd root u q := by
  rcases h with rfl | h
  · exact ⟨_, .own mem_artifactSuffix, rfl⟩
  · exact h.isUnitPlace mem_artifactSuffix

/-- No slash stands in an identifier. -/
theorem unslashed_of_isIdentifier {name : String} (h : Text.isIdentifier name = true) :
    '/' ∉ name.toList :=
  Text.not_mem_of_isIdentifier h (by decide) (by decide)

theorem unslashed_helpers (hhelpers : ∀ h ∈ helpers, Text.isIdentifier h.1 = true) :
    ∀ h ∈ helpers, '/' ∉ h.1.toList :=
  fun h hh => unslashed_of_isIdentifier (hhelpers h hh)

include hu

theorem goal_helperFile (directory : Path) (helper suffix : String) :
    (directory.child (helperFile u.name helper suffix)).goal cwd =
      directory.goal cwd ++ [helperFile u.name helper suffix] :=
  Path.goal_child cwd directory (helperFile_ne_up hu helper suffix)

theorem sourcePath_eq : sourcePath root u = (directory root u).child (u.name ++ sourceSuffix) :=
  Path.join_name (isName_own hu mem_sourceSuffix) _

theorem goal_sourcePath : (sourcePath root u).goal cwd =
    (directory root u).goal cwd ++ [u.name ++ sourceSuffix] := by
  rw [sourcePath_eq hu]
  exact Path.goal_child cwd _ (isName_own hu mem_sourceSuffix).ne_up

theorem artifactPath_eq (directory : Path) :
    artifactPath directory u = directory.child (u.name ++ artifactSuffix) :=
  Path.join_name (isName_own hu mem_artifactSuffix) _

theorem goal_artifactPath (directory : Path) : (artifactPath directory u).goal cwd =
    directory.goal cwd ++ [u.name ++ artifactSuffix] := by
  rw [artifactPath_eq hu]
  exact Path.goal_child cwd _ (isName_own hu mem_artifactSuffix).ne_up

theorem helperPath_eq {helper : String} (hhelper : '/' ∉ helper.toList) :
    helperPath root u helper =
      (directory root u).child (helperFile u.name helper sourceSuffix) :=
  Path.join_name (isName_helper hu mem_sourceSuffix hhelper) _

theorem goal_helperPath {helper : String} (hhelper : '/' ∉ helper.toList) :
    (helperPath root u helper).goal cwd =
      (directory root u).goal cwd ++ [helperFile u.name helper sourceSuffix] := by
  rw [helperPath_eq hu hhelper, goal_helperFile hu]

/-- Files of a unit stand in its directory. -/
theorem goal_child_stem {stem suffix : String} (hstem : IsStem u.name stem)
    (hsuffix : suffix ∈ fileSuffixes) :
    ((directory root u).child (stem ++ suffix)).goal cwd =
      (directory root u).goal cwd ++ [stem ++ suffix] :=
  Path.goal_child _ _ ((hstem.isUnitFile hsuffix).ne_up hu)

omit hu in
/-- The sources of a unit are its own and those of the helpers that were handed in. -/
theorem mem_sources {file : Path × String} :
    file ∈ sources root u source helpers ↔
      file = (sourcePath root u, source) ∨
        ∃ h ∈ helpers, file = (helperPath root u h.1, h.2) := by
  rw [sources, List.mem_cons, List.mem_map]
  simp only [eq_comm]

/-- Each source of a unit has a stem of the unit and stands in its directory, and its compiled file has
    the same stem. -/
theorem stem_of_mem_sources (hhelpers : ∀ h ∈ helpers, '/' ∉ h.1.toList) {p : Path} {text : String}
    (h : (p, text) ∈ sources root u source helpers) :
    ∃ stem, IsStem u.name stem ∧ p = (directory root u).child (stem ++ sourceSuffix) ∧
      artifactFor (directory root u) p = (directory root u).child (stem ++ artifactSuffix) := by
  rcases mem_sources.mp h with heq | ⟨⟨helper, _⟩, hhelper, heq⟩
  · obtain ⟨rfl, rfl⟩ := Prod.mk.inj heq
    refine ⟨u.name, .own, sourcePath_eq hu, ?_⟩
    rw [sourcePath_eq hu, artifactFor_own hu]
  · obtain ⟨rfl, rfl⟩ := Prod.mk.inj heq
    have hplain := hhelpers _ hhelper
    refine ⟨_, .helper helper, helperPath_eq hu hplain, ?_⟩
    rw [helperPath_eq hu hplain, artifactFor_helper hu _ hplain]
    rfl

/-- The sources of a unit are written at places of the unit. -/
theorem isUnitPlace_of_written (hhelpers : ∀ h ∈ helpers, Text.isIdentifier h.1 = true)
    {q : List String} (h : written cwd q (sources root u source helpers) ≠ none) :
    IsUnitPlace cwd root u q := by
  obtain ⟨file, hfile, rfl⟩ := written_ne_none h
  obtain ⟨stem, hstem, hpath, -⟩ := stem_of_mem_sources hu (unslashed_helpers hhelpers) hfile
  refine ⟨stem ++ sourceSuffix, hstem.isUnitFile mem_sourceSuffix, ?_⟩
  rw [hpath, goal_child_stem hu hstem mem_sourceSuffix]

theorem written_source :
    written cwd ((directory root u).goal cwd ++ [u.name ++ sourceSuffix])
      (sources root u source helpers) ≠ none := by
  rw [sources, written, if_pos (goal_sourcePath hu)]
  cases written cwd _ _ <;> simp

/-- Where a helper of a unit has its source something is written if that helper was handed in. -/
theorem written_helper_iff (hhelpers : ∀ h ∈ helpers, '/' ∉ h.1.toList) (helper : String) :
    written cwd ((directory root u).goal cwd ++ [helperFile u.name helper sourceSuffix])
        (sources root u source helpers) ≠ none ↔
      helper ∈ helpers.map Prod.fst := by
  constructor
  · intro h
    obtain ⟨file, hfile, hgoal⟩ := written_ne_none h
    rcases mem_sources.mp hfile with rfl | ⟨other, hother, rfl⟩
    · rw [goal_sourcePath hu] at hgoal
      exact absurd (List.singleton_inj.mp (List.append_cancel_left hgoal))
        (own_ne_helperFile _ mem_sourceSuffix _ _)
    · rw [goal_helperPath hu (hhelpers other hother)] at hgoal
      rw [← helperFile_injective (List.singleton_inj.mp (List.append_cancel_left hgoal))]
      exact List.mem_map_of_mem hother
  · intro hmem
    obtain ⟨handed, hhanded, rfl⟩ := List.mem_map.mp hmem
    have hfile : (helperPath root u handed.1, handed.2) ∈ sources root u source helpers :=
      mem_sources.mpr (.inr ⟨handed, hhanded, rfl⟩)
    rw [← goal_helperPath hu (hhelpers handed hhanded)]
    exact written_ne_none_of_mem hfile

/-! ### Staging -/

omit hu in
/-- What a tree is like once a unit has been staged in it. -/
structure Staged (cwd : List String) (root : Path) (u : UnitId) (files : List (Path × String))
    (t t₁ : Tree) : Prop where
  ordered : t.Ordered → t₁.Ordered
  directory : t₁.isDirectory cwd (directory root u) = true
  sources : ∀ q text, written cwd q files = some text → t₁.node? q = some (.file (.text text))
  cleared : ∀ q, IsHelperPlace cwd root u sourceSuffix q → written cwd q files = none →
    t₁.node? q = none
  kept : ∀ q, ¬IsHelperPlace cwd root u sourceSuffix q → written cwd q files = none →
    t₁.node? q = t.node? q ∨
      q ∈ (Staging.directory root u).trail cwd ∧ t.node? q = none

/-- The sources of helpers that are found in a directory are gone once they have been deleted. -/
theorem cleared_deleteAll {directory : Path} {stale : List Path}
    (hdirectory : t.isDirectory cwd directory = true)
    (hglob : t.glob cwd directory (helperPattern u.name sourceSuffix) = .ok stale)
    (hok : (deleteAll t cwd stale).1 = .ok ()) (helper : String) :
    (deleteAll t cwd stale).2.node?
      (directory.goal cwd ++ [helperFile u.name helper sourceSuffix]) = none := by
  by_cases hnode : t.node? (directory.goal cwd ++ [helperFile u.name helper sourceSuffix]) = none
  · exact (shrunk_deleteAll t cwd stale).node?_eq_none hnode
  · have hways : ∀ p ∈ stale, t.Holds (p.way cwd) := by
      intro p hp
      obtain ⟨helper, rfl, -⟩ := exists_of_mem_glob hu mem_sourceSuffix hglob hp
      rw [Path.way_child]
      exact (Tree.isDirectory_iff.mp hdirectory).2
    rw [← goal_helperFile hu]
    exact gone_deleteAll hways hok _ (mem_glob hu mem_sourceSuffix hglob hdirectory hnode)

omit hu in
/-- The steps of staging a unit: its directory is made, the sources of helpers there are deleted, and
    the sources are written. -/
theorem stage_eq_ok {path : Path} (h : stage t cwd root u source helpers = (.ok path, t₁)) :
    path = sourcePath root u ∧ ∃ t₂ stale t₃,
      t.makeDirectory cwd (directory root u) = (.ok (), t₂) ∧
      t₂.glob cwd (directory root u) (helperPattern u.name sourceSuffix) = .ok stale ∧
      deleteAll t₂ cwd stale = (.ok (), t₃) ∧
      writeAll t₃ cwd (sources root u source helpers) = (.ok (), t₁) := by
  rw [stage] at h
  rcases hmade : t.makeDirectory cwd (directory root u) with ⟨_ | _, t₂⟩
  · rw [hmade] at h
    cases h
  · rw [hmade] at h
    dsimp only at h
    split at h
    · cases h
    · next stale hglob =>
        rcases hdelete : deleteAll t₂ cwd stale with ⟨_ | _, t₃⟩
        · rw [hdelete] at h
          cases h
        · rw [hdelete] at h
          dsimp only at h
          rcases hwrite : writeAll t₃ cwd (sources root u source helpers) with ⟨_ | _, t₄⟩
          · rw [hwrite] at h
            cases h
          · rw [hwrite] at h
            cases h
            exact ⟨rfl, t₂, stale, t₃, rfl, hglob, hdelete, hwrite⟩

/-- Staging a unit gives the path of its source. -/
theorem stage_ok {path : Path} (h : stage t cwd root u source helpers = (.ok path, t₁)) :
    path = sourcePath root u ∧ Staged cwd root u (sources root u source helpers) t t₁ := by
  obtain ⟨hpath, t₂, stale, t₃, hmade, hglob, hdelete, hwrite⟩ := stage_eq_ok h
  have hmakes := Tree.makes_directory t cwd (directory root u)
  rw [hmade] at hmakes
  have hdirectory : t₂.isDirectory cwd (directory root u) = true := hmakes.made rfl
  have hshrunk := shrunk_deleteAll t₂ cwd stale
  have hcleared := cleared_deleteAll hu hdirectory hglob
  rw [hdelete] at hshrunk hcleared
  have hnodes := node?_writeAll t₃ cwd (sources root u source helpers)
  have hsame := sameDirectories_writeAll t₃ cwd (sources root u source helpers)
  have hordered (ht : t₃.Ordered) := ordered_writeAll ht cwd (sources root u source helpers)
  rw [hwrite] at hnodes hsame hordered
  refine ⟨hpath, fun ht => hordered (hshrunk.ordered (hmakes.ordered ht)), ?_,
    fun q text hq => ?_, fun q hq hnone => ?_, fun q hq hnone => ?_⟩
  · have hholds := Tree.isDirectory_iff.mp hdirectory
    exact Tree.isDirectory_iff.mpr
      ⟨hholds.1, (hshrunk.sameDirectories.trans hsame).holds hholds.2⟩
  · rw [hnodes rfl q, hq]
  · obtain ⟨helper, rfl⟩ := hq
    rw [hnodes rfl, hnone]
    exact hcleared rfl helper
  · have hstale : q ∉ stale.map (Path.goal cwd) := by
      intro hmem
      obtain ⟨p, hp, rfl⟩ := List.mem_map.mp hmem
      obtain ⟨helper, rfl, -⟩ := exists_of_mem_glob hu mem_sourceSuffix hglob hp
      exact hq ⟨helper, goal_helperFile hu _ _ _⟩
    rw [hnodes rfl, hnone]
    dsimp only
    rw [hshrunk.node?_eq hstale]
    exact (hmakes.grown q).imp_right fun hgrown => ⟨hgrown.1, hgrown.2.1⟩

/-! ### Purging -/

omit hu in
/-- What a tree is like once the compiled files of a unit have been purged from it. -/
structure Purged (cwd : List String) (root : Path) (u : UnitId) (t t₁ : Tree) : Prop where
  ordered : t.Ordered → t₁.Ordered
  directory : t₁.isDirectory cwd (directory root u) = true
  cleared : ∀ q, IsArtifactPlace cwd root u q → t₁.node? q = none
  kept : ∀ q, ¬IsArtifactPlace cwd root u q → t₁.node? q = t.node? q

/-- The compiled files of a unit that are found: its own one if it is there, then those of helpers. -/
theorem artifacts_eq_ok (hdirectory : t.isDirectory cwd (directory root u) = true)
    {stale : List Path} (h : artifacts t cwd u (directory root u) = .ok stale) :
    ∃ found, t.glob cwd (directory root u) (helperPattern u.name artifactSuffix) = .ok found ∧
      stale = (if (t.node? ((directory root u).goal cwd ++ [u.name ++ artifactSuffix])).isSome then
        [(directory root u).child (u.name ++ artifactSuffix)] else []) ++ found := by
  rw [artifacts] at h
  cases hglob : t.glob cwd (directory root u) (helperPattern u.name artifactSuffix) with
  | error f =>
      rw [hglob] at h
      cases h
  | ok found =>
      rw [hglob] at h
      cases hprobe : t.probe cwd (artifactPath (directory root u) u) with
      | error f =>
          simp only [hprobe, bind, Except.bind] at h
          cases h
      | ok own =>
          have hway : t.Holds ((artifactPath (directory root u) u).way cwd) := by
            rw [artifactPath_eq hu, Path.way_child]
            exact (Tree.isDirectory_iff.mp hdirectory).2
          have hown := Tree.probe_eq_ok hway hprobe
          rw [goal_artifactPath hu] at hown
          simp only [hprobe, bind, Except.bind] at h
          refine ⟨found, rfl, ?_⟩
          rw [← hown, ← artifactPath_eq hu]
          exact (Except.ok.inj h).symm

/-- Nothing but compiled files of the unit is found, and what is found is there. -/
theorem exists_of_mem_artifacts (hdirectory : t.isDirectory cwd (directory root u) = true)
    {stale : List Path} (h : artifacts t cwd u (directory root u) = .ok stale) {p : Path}
    (hp : p ∈ stale) :
    ∃ name, p = (directory root u).child name ∧ IsUnitFile u.name name ∧
      IsArtifactPlace cwd root u ((directory root u).goal cwd ++ [name]) ∧
      t.node? ((directory root u).goal cwd ++ [name]) ≠ none := by
  obtain ⟨found, hglob, rfl⟩ := artifacts_eq_ok hu hdirectory h
  rcases List.mem_append.mp hp with hp | hp
  · split at hp
    · next hnode =>
        obtain rfl := List.mem_singleton.mp hp
        exact ⟨_, rfl, .own mem_artifactSuffix, .inl rfl, Option.isSome_iff_ne_none.mp hnode⟩
    · cases hp
  · obtain ⟨helper, rfl, hnode⟩ := exists_of_mem_glob hu mem_artifactSuffix hglob hp
    exact ⟨_, rfl, .helper mem_artifactSuffix helper, .inr ⟨helper, rfl⟩, hnode⟩

/-- Every compiled file of the unit that is there is found. -/
theorem mem_artifacts (hdirectory : t.isDirectory cwd (directory root u) = true)
    {stale : List Path} (h : artifacts t cwd u (directory root u) = .ok stale) {q : List String}
    (hq : IsArtifactPlace cwd root u q) (hnode : t.node? q ≠ none) :
    q ∈ stale.map (Path.goal cwd) := by
  obtain ⟨found, hglob, rfl⟩ := artifacts_eq_ok hu hdirectory h
  rcases hq with rfl | ⟨helper, rfl⟩
  · rw [if_pos (Option.isSome_iff_ne_none.mpr hnode)]
    exact List.mem_map.mpr ⟨_, List.mem_append_left _ (List.mem_singleton_self _),
      Path.goal_child _ _ (isName_own hu mem_artifactSuffix).ne_up⟩
  · exact List.mem_map.mpr ⟨_, List.mem_append_right _
      (mem_glob hu mem_artifactSuffix hglob hdirectory hnode), goal_helperFile hu _ _ _⟩

/-- Purging without a report leaves no compiled file of the unit. -/
theorem purge_ok (hdirectory : t.isDirectory cwd (directory root u) = true)
    (hok : (purge t cwd root u).1.isOk = true) (hlog : (purge t cwd root u).2.2 = []) :
    Purged cwd root u t (purge t cwd root u).2.1 := by
  unfold purge at hok hlog ⊢
  cases hartifacts : artifacts t cwd u (directory root u) with
  | error f =>
      rw [hartifacts] at hok
      cases hok
  | ok stale =>
      rw [hartifacts] at hok hlog
      dsimp only at hok hlog ⊢
      have hshrunk := shrunk_deleteStale t cwd stale
      have hholds := Tree.isDirectory_iff.mp hdirectory
      refine ⟨hshrunk.ordered,
        Tree.isDirectory_iff.mpr ⟨hholds.1, hshrunk.sameDirectories.holds hholds.2⟩, fun q hq => ?_,
        fun q hq => hshrunk.node?_eq fun hmem => ?_⟩
      · by_cases hnode : t.node? q = none
        · exact hshrunk.node?_eq_none hnode
        · obtain ⟨p, hp, rfl⟩ := List.mem_map.mp (mem_artifacts hu hdirectory hartifacts hq hnode)
          exact gone_deleteStale hok hlog p hp
      · obtain ⟨p, hp, rfl⟩ := List.mem_map.mp hmem
        obtain ⟨name, rfl, hname, hplace, -⟩ :=
          exists_of_mem_artifacts hu hdirectory hartifacts hp
        rw [Path.goal_child _ _ (hname.ne_up hu)] at hq
        exact hq hplace

/-! ### Both together -/

/-- No source is written where compiled files stand. -/
theorem written_artifact (hhelpers : ∀ h ∈ helpers, '/' ∉ h.1.toList)
    {q : List String} (hq : IsArtifactPlace cwd root u q) :
    written cwd q (sources root u source helpers) = none := by
  by_contra h
  obtain ⟨base, rfl⟩ : ∃ base, q = (directory root u).goal cwd ++ [base ++ artifactSuffix] := by
    rcases hq with rfl | ⟨helper, rfl⟩
    · exact ⟨_, rfl⟩
    · exact ⟨_, rfl⟩
  obtain ⟨file, hfile, hgoal⟩ := written_ne_none h
  obtain ⟨stem, hstem, hpath, -⟩ := stem_of_mem_sources hu hhelpers hfile
  rw [hpath, goal_child_stem hu hstem mem_sourceSuffix] at hgoal
  exact append_sourceSuffix_ne _ _ (List.singleton_inj.mp (List.append_cancel_left hgoal))

/-- Of the files of a unit that has been staged and purged there are the sources that were handed in,
    and no others. -/
theorem node?_of_staged {t₂ : Tree} (hhelpers : ∀ h ∈ helpers, Text.isIdentifier h.1 = true)
    (hstaged : Staged cwd root u (sources root u source helpers) t t₁)
    (hpurged : Purged cwd root u t₁ t₂) {q : List String} (hq : IsUnitPlace cwd root u q) :
    t₂.node? q =
      (written cwd q (sources root u source helpers)).map fun text => .file (.text text) := by
  by_cases hartifact : IsArtifactPlace cwd root u q
  · rw [hpurged.cleared q hartifact, written_artifact hu (unslashed_helpers hhelpers) hartifact]
    rfl
  · rw [hpurged.kept q hartifact]
    cases hwritten : written cwd q (sources root u source helpers) with
    | some text => exact hstaged.sources q text hwritten
    | none =>
        obtain ⟨name, hname, rfl⟩ := hq
        cases hname with
        | own hsuffix =>
            rcases List.mem_cons.mp hsuffix with rfl | hsuffix
            · exact absurd hwritten (written_source hu)
            · obtain rfl := List.mem_singleton.mp hsuffix
              exact absurd (.inl rfl) hartifact
        | helper hsuffix helper =>
            rcases List.mem_cons.mp hsuffix with rfl | hsuffix
            · exact hstaged.cleared _ ⟨helper, rfl⟩ hwritten
            · obtain rfl := List.mem_singleton.mp hsuffix
              exact absurd (.inr ⟨helper, rfl⟩) hartifact

/-- The only sources of helpers in a tree in which a unit has been staged and purged are those that
    were handed in. -/
theorem helper_of_staged {t₂ : Tree} (hhelpers : ∀ h ∈ helpers, Text.isIdentifier h.1 = true)
    (hstaged : Staged cwd root u (sources root u source helpers) t t₁)
    (hpurged : Purged cwd root u t₁ t₂) {helper : String}
    (h : t₂.node? ((directory root u).goal cwd ++ [helperFile u.name helper sourceSuffix]) ≠ none) :
    Text.isIdentifier helper = true := by
  rw [node?_of_staged hu hhelpers hstaged hpurged ⟨_, .helper mem_sourceSuffix helper, rfl⟩, ne_eq,
    Option.map_eq_none_iff] at h
  obtain ⟨handed, hhanded, rfl⟩ :=
    List.mem_map.mp ((written_helper_iff hu (unslashed_helpers hhelpers) helper).mp h)
  exact hhelpers handed hhanded

/-- Staging and purging a unit change nothing else but directories on the way to that of the unit. -/
theorem kept_of_staged {t₂ : Tree} (hhelpers : ∀ h ∈ helpers, Text.isIdentifier h.1 = true)
    (hstaged : Staged cwd root u (sources root u source helpers) t t₁)
    (hpurged : Purged cwd root u t₁ t₂) {q : List String} (hq : ¬IsUnitPlace cwd root u q) :
    t₂.node? q = t.node? q ∨ q ∈ (directory root u).trail cwd ∧ t.node? q = none := by
  have hwritten : written cwd q (sources root u source helpers) = none := by
    by_contra h
    exact hq (isUnitPlace_of_written hu hhelpers h)
  rw [hpurged.kept q fun h => hq h.isUnitPlace]
  exact hstaged.kept q (fun h => hq (h.isUnitPlace mem_sourceSuffix)) hwritten

omit hu in
/-- The way to the directory of a unit that has been staged and purged leads through directories. -/
theorem holds_of_staged {t₂ : Tree} (hpurged : Purged cwd root u t₁ t₂) :
    t₂.Holds ((directory root u).trail cwd) :=
  (Tree.isDirectory_iff.mp hpurged.directory).2

omit hu in
/-- Do two trees agree apart from the files of a unit, and from which directories on the way to them are
    there? -/
def AgreeOutside (cwd : List String) (root : Path) (u : UnitId) (t t' : Tree) : Prop :=
  ∀ q, ¬IsUnitPlace cwd root u q → q ∉ (directory root u).trail cwd → t.node? q = t'.node? q

/-- Trees that agree outside the files of a unit are the same once the unit has been staged and
    purged in both. -/
theorem eq_of_agreeOutside {t₂ t' t₁' t₂' : Tree}
    (hhelpers : ∀ h ∈ helpers, Text.isIdentifier h.1 = true) (ht : t.Ordered) (ht' : t'.Ordered)
    (hagree : AgreeOutside cwd root u t t')
    (hstaged : Staged cwd root u (sources root u source helpers) t t₁)
    (hstaged' : Staged cwd root u (sources root u source helpers) t' t₁')
    (hpurged : Purged cwd root u t₁ t₂) (hpurged' : Purged cwd root u t₁' t₂') : t₂ = t₂' := by
  refine (hpurged.ordered (hstaged.ordered ht)).ext (hpurged'.ordered (hstaged'.ordered ht'))
    fun q => ?_
  by_cases hunit : IsUnitPlace cwd root u q
  · rw [node?_of_staged hu hhelpers hstaged hpurged hunit,
      node?_of_staged hu hhelpers hstaged' hpurged' hunit]
  · by_cases hq : q ∈ (directory root u).trail cwd
    · rw [holds_of_staged hpurged q hq, holds_of_staged hpurged' q hq]
    · have hkept := (kept_of_staged hu hhelpers hstaged hpurged hunit).resolve_right (hq ·.1)
      have hkept' := (kept_of_staged hu hhelpers hstaged' hpurged' hunit).resolve_right (hq ·.1)
      rw [hkept, hkept', hagree q hunit hq]

omit hu in
/-- Do two trees have the same files outside those of a unit? -/
def SameFiles (cwd : List String) (root : Path) (u : UnitId) (t t' : Tree) : Prop :=
  ∀ q, ¬IsUnitPlace cwd root u q → ∀ c, t'.node? q = some (.file c) ↔ t.node? q = some (.file c)

omit hu in
theorem SameFiles.refl (t : Tree) : SameFiles cwd root u t t :=
  fun _ _ _ => .rfl

omit hu in
theorem SameFiles.trans {t₂ : Tree} (h : SameFiles cwd root u t t₁)
    (h' : SameFiles cwd root u t₁ t₂) : SameFiles cwd root u t t₂ :=
  fun q hq c => (h' q hq c).trans (h q hq c)

omit hu in
theorem sameFiles_of_grown {places : List (List String)} (h : Tree.Grown places t t₁) :
    SameFiles cwd root u t t₁ := by
  intro q _ c
  rcases h q with hsame | ⟨-, hnone, hdirectory⟩
  · rw [hsame]
  · rw [hnone, hdirectory]
    simp

/-- Staging and purging a unit change no other file. -/
theorem sameFiles_staged {t₂ : Tree} (hhelpers : ∀ h ∈ helpers, Text.isIdentifier h.1 = true)
    (hstaged : Staged cwd root u (sources root u source helpers) t t₁)
    (hpurged : Purged cwd root u t₁ t₂) : SameFiles cwd root u t t₂ := by
  intro q hq c
  rcases kept_of_staged hu hhelpers hstaged hpurged hq with hsame | ⟨htrail, hnone⟩
  · rw [hsame]
  · rw [holds_of_staged hpurged q htrail, hnone]
    simp

end

end Staging

end FragmentWeaver
