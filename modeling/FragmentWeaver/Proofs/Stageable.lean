import FragmentWeaver.Proofs.Restaging

/-!
# When a unit can be staged

Staging and purging can only fail where files are written and deleted. A path takes a file when it can
be used, its parent is there and no directory stands at its end; writing and deleting other files
changes nothing about that, so a unit can be staged and purged wherever the paths of its files take
files.
-/

namespace FragmentWeaver

namespace Files

/-- Can a file system work with the path? -/
structure Path.Fine (p : Path) : Prop where
  usable : p.isUnusable = false
  short : p.Short

instance (p : Path) : Decidable p.Fine :=
  decidable_of_iff (p.isUnusable = false ∧ p.text.utf8ByteSize < Tree.pathLimit ∧
      ∀ n ∈ p.names, n ≠ ".." → n.utf8ByteSize ≤ Tree.nameLimit)
    ⟨fun h => ⟨h.1, h.2⟩, fun h => ⟨h.usable, h.short⟩⟩

namespace Tree

/-- Can a file be written at a path, or deleted if it is there? -/
structure Takes (t : Tree) (cwd : List String) (p : Path) : Prop where
  fine : p.Fine
  way : t.Holds (p.way cwd)
  above : t.node? (p.goal cwd).dropLast = some .directory
  free : t.node? (p.goal cwd) ≠ some .directory

section

variable {t t' : Tree} {cwd : List String} {p : Path}

theorem Takes.of_sameDirectories (h : t.Takes cwd p) (hsame : t.SameDirectories t') :
    t'.Takes cwd p :=
  ⟨h.fine, hsame.holds h.way, (hsame _).mpr h.above, mt (hsame _).mp h.free⟩

theorem Takes.place_eq (h : t.Takes cwd p) : t.place cwd p = .ok (p.goal cwd) :=
  place_eq_ok_iff.mpr ⟨rfl, h.fine.short, h.way⟩

theorem Takes.write (h : t.Takes cwd p) (c : Contents) : ∃ t', t.write cwd p c = .ok t' := by
  have hplace := h.place_eq
  have hfree := h.free
  rw [Tree.write, h.fine.usable]
  simp only [Bool.false_eq_true, if_false, hplace, bind, Except.bind, blame_eq_ok_iff, h.above]
  cases hnode : t.node? (p.goal cwd) with
  | none => exact ⟨_, rfl⟩
  | some n =>
      cases n with
      | file c => exact ⟨_, rfl⟩
      | directory => exact absurd hnode hfree

theorem Takes.delete (h : t.Takes cwd p) (hnode : t.node? (p.goal cwd) ≠ none) :
    ∃ t', t.delete cwd p = .ok t' := by
  have hplace := h.place_eq
  have hfree := h.free
  rw [Tree.delete, h.fine.usable]
  simp only [Bool.false_eq_true, if_false, hplace, bind, Except.bind, blame_eq_ok_iff]
  cases hnode' : t.node? (p.goal cwd) with
  | none => exact absurd hnode' hnode
  | some n =>
      cases n with
      | file c => exact ⟨_, rfl⟩
      | directory => exact absurd hnode' hfree

theorem Takes.delete_none (h : t.Takes cwd p) (hnode : t.node? (p.goal cwd) = none) :
    t.delete cwd p = .error (.file ⟨.notFound, p.text⟩) := by
  have hplace := h.place_eq
  rw [Tree.delete, h.fine.usable]
  simp only [Bool.false_eq_true, if_false, hplace, bind, Except.bind, hnode]
  rfl

/-- A path at which a file has been written is one that a file system can work with. -/
theorem fine_of_write {c : Contents} (h : t.write cwd p c = .ok t') : p.Fine := by
  rw [Tree.write] at h
  split at h
  · cases h
  · next husable =>
      rw [blame_eq_ok_iff] at h
      cases hplace : t.place cwd p with
      | error cause => simp [hplace, bind, Except.bind] at h
      | ok place => exact ⟨by simpa using husable, (place_eq_ok_iff.mp hplace).2.1⟩

/-- What a file holds can be read exactly where directories lead to it. -/
theorem contents_eq_ok_iff {c : Contents} :
    t.contents cwd p = .ok c ↔
      p.Fine ∧ t.Holds (p.way cwd) ∧ t.node? (p.goal cwd) = some (.file c) := by
  have hfine : p.Fine ↔ p.isUnusable = false ∧ p.Short := ⟨fun h => ⟨h.1, h.2⟩, fun h => ⟨h.1, h.2⟩⟩
  rw [hfine, and_assoc, ← stat_eq_ok_iff, contents]
  cases p.isUnusable with
  | true => simp
  | false =>
      simp only [Bool.false_eq_true, if_false, blame_eq_ok_iff, true_and]
      cases t.stat cwd p with
      | error cause => simp [bind, Except.bind]
      | ok n => cases n <;> simp [bind, Except.bind]

/-- Looking for something on a short path to a directory that is there does not fail. -/
theorem probe_isOk (hshort : p.Short) (hway : t.Holds (p.way cwd)) :
    ∃ found, t.probe cwd p = .ok found := by
  have hplace : t.place cwd p = .ok (p.goal cwd) := place_eq_ok_iff.mpr ⟨rfl, hshort, hway⟩
  rw [probe, stat, hplace]
  simp only [bind, Except.bind]
  cases t.node? (p.goal cwd) with
  | none => exact ⟨_, rfl⟩
  | some n => exact ⟨_, rfl⟩

/-- In a tree in order no name stands twice below a place. -/
theorem nodup_namesBelow (ht : t.Ordered) (place : List String) :
    (t.namesBelow place).Nodup := by
  have hkeys : t.filterMap (fun e => if isChild place e.1 then e.1.getLast? else none) =
      (Assoc.keys t).filterMap fun q => if isChild place q then q.getLast? else none := by
    rw [Assoc.keys, List.filterMap_map]
    rfl
  rw [namesBelow, (Text.sorted_perm _).nodup_iff, hkeys]
  refine ht.nodup.filterMap fun q q' name hq hq' => ?_
  simp only [isChild, Bool.and_eq_true, decide_eq_true_eq, Option.ite_none_right_eq_some,
    Option.mem_def] at hq hq'
  rw [← List.dropLast_append_getLast? name hq.2, ← List.dropLast_append_getLast? name hq'.2,
    hq.1.2, hq'.1.2]

/-- In a directory of a tree in order one wildcard finds each path once. -/
theorem glob_wild_isOk {directory : Path} {pattern : String} {pieces : List Piece}
    (ht : t.Ordered) (hdirectory : t.isDirectory cwd directory = true)
    (hpattern : parsePattern pattern = .ok [.wild pieces]) :
    ∃ found, t.glob cwd directory pattern = .ok found ∧ found.Nodup := by
  obtain ⟨hshort, hholds⟩ := isDirectory_iff.mp hdirectory
  have hstat : t.stat cwd directory = .ok .directory :=
    stat_eq_ok_iff.mpr ⟨hshort, holds_trail_iff.mp hholds⟩
  have hnames : (t.list cwd directory).Nodup := by
    rw [list]
    cases t.place cwd directory with
    | error c => exact List.nodup_nil
    | ok place =>
        dsimp only
        rw [if_pos hdirectory]
        exact nodup_namesBelow ht place
  refine ⟨Path.sorted (((t.list cwd directory).filter fun name =>
    Wildcard.fits pieces name.toList).map directory.child), ?_, ?_⟩
  · rw [glob, hpattern, probe, hstat]
    change Path.sorted <$> t.select cwd [.wild pieces] directory = _
    rw [select_wild]
    rfl
  · rw [Path.sorted, (ascending_perm _ _).nodup_iff]
    refine (hnames.filter _).map fun name name' h => ?_
    exact List.singleton_inj.mp (List.append_cancel_left (congrArg Path.names h))

end

end Tree

end Files

namespace Staging

open Files

section

variable {t : Tree} {cwd : List String} {ps : List Path}

/-- Files can be deleted where paths take files, whether they are there or not. -/
theorem deleteAll_isOk (h : ∀ p ∈ ps, t.Takes cwd p) : (deleteAll t cwd ps).1 = .ok () := by
  induction ps generalizing t with
  | nil => rfl
  | cons p ps ih =>
      have hp := h p List.mem_cons_self
      have hps := fun q hq => h q (List.mem_cons_of_mem p hq)
      rw [deleteAll]
      by_cases hnode : t.node? (p.goal cwd) = none
      · rw [hp.delete_none hnode]
        exact ih hps
      · obtain ⟨t', hdelete⟩ := hp.delete hnode
        have hsame := (Tree.shrunk_delete hdelete).sameDirectories
        rw [hdelete]
        exact ih fun q hq => (hps q hq).of_sameDirectories hsame

theorem writeAll_isOk {files : List (Path × String)} (h : ∀ file ∈ files, t.Takes cwd file.1) :
    (writeAll t cwd files).1 = .ok () := by
  induction files generalizing t with
  | nil => rfl
  | cons file files ih =>
      obtain ⟨p, text⟩ := file
      obtain ⟨t', hwrite⟩ := (h _ List.mem_cons_self).write (.text text)
      have hsame := Tree.sameDirectories_write hwrite
      rw [writeAll, hwrite]
      exact ih fun f hf => (h f (List.mem_cons_of_mem _ hf)).of_sameDirectories hsame

/-- Files that have been written are at paths that a file system can work with. -/
theorem fine_of_writeAll {files : List (Path × String)} (hok : (writeAll t cwd files).1 = .ok ()) :
    ∀ file ∈ files, file.1.Fine := by
  induction files generalizing t with
  | nil => nofun
  | cons file files ih =>
      obtain ⟨p, text⟩ := file
      rw [writeAll] at hok
      split at hok
      · next t' hwrite => exact List.forall_mem_cons.mpr ⟨Tree.fine_of_write hwrite, ih hok⟩
      · cases hok

/-- Nothing is reported about files that are there and can be deleted, each of them listed once. -/
theorem deleteStale_silent (h : ∀ p ∈ ps, t.Takes cwd p)
    (hthere : ∀ p ∈ ps, t.node? (p.goal cwd) ≠ none) (honce : (ps.map (Path.goal cwd)).Nodup) :
    (deleteStale t cwd ps).1.isOk = true ∧ (deleteStale t cwd ps).2.2 = [] := by
  induction ps generalizing t with
  | nil => exact ⟨rfl, rfl⟩
  | cons p ps ih =>
      obtain ⟨hfirst, honce⟩ := List.nodup_cons.mp honce
      obtain ⟨t', hdelete⟩ := (h p List.mem_cons_self).delete (hthere p List.mem_cons_self)
      have hshrunk := Tree.shrunk_delete hdelete
      have hrest := ih (t := t')
        (fun q hq => (h q (List.mem_cons_of_mem p hq)).of_sameDirectories hshrunk.sameDirectories)
        (fun q hq => by
          rw [hshrunk.node?_eq]
          · exact hthere q (List.mem_cons_of_mem p hq)
          · exact fun hmem => hfirst (List.mem_singleton.mp hmem ▸ List.mem_map_of_mem hq))
        honce
      rw [deleteStale, hdelete]
      exact ⟨(isOk_map _ _).trans hrest.1, hrest.2⟩

end

/-- The files after a unit has been staged and purged. -/
def renewed (t : Tree) (cwd : List String) (root : Path) (u : UnitId) (source : String)
    (helpers : List (String × String)) : Tree :=
  (purge (stage t cwd root u source helpers).2 cwd root u).2.1

/-- A unit can be staged and purged: whatever has to be made, written or deleted for it can be. -/
structure Renewable (t : Tree) (cwd : List String) (root : Path) (u : UnitId) (source : String)
    (helpers : List (String × String)) : Prop where
  staged : (stage t cwd root u source helpers).1.isOk = true
  purged : (purge (stage t cwd root u source helpers).2 cwd root u).1.isOk = true
  silent : (purge (stage t cwd root u source helpers).2 cwd root u).2.2 = []

/-- A tree of regular files has room for a unit: its directory can be made, no directory stands
    where the unit has files, and file systems can work with the paths of the files that it has and of
    those that are written. -/
structure Roomy (t : Tree) (cwd : List String) (root : Path) (u : UnitId)
    (helpers : List (String × String)) : Prop where
  made : (t.makeDirectory cwd (directory root u)).1 = .ok ()
  regular : ∀ q, IsUnitPlace cwd root u q →
    (t.makeDirectory cwd (directory root u)).2.node? q ≠ some .directory
  present : ∀ name, IsUnitFile u.name name →
    t.node? ((directory root u).goal cwd ++ [name]) ≠ none → ((directory root u).child name).Fine
  own : ∀ suffix ∈ fileSuffixes, ((directory root u).child (u.name ++ suffix)).Fine
  handed : ∀ h ∈ helpers, ((directory root u).child (helperFile u.name h.1 sourceSuffix)).Fine

section

variable {t t₁ : Tree} {cwd : List String} {root : Path} {u : UnitId} {source : String}
  {helpers : List (String × String)} (hu : Text.isIdentifier u.name = true)

include hu

/-- Staging a unit that can be staged and purged gives the path of its source; its sources are there
    then, and purging takes its compiled files away. -/
theorem Renewable.stages (h : Renewable t cwd root u source helpers) :
    ∃ t₁, stage t cwd root u source helpers = (.ok (sourcePath root u), t₁) ∧
      Staged cwd root u (sources root u source helpers) t t₁ ∧
      Purged cwd root u t₁ (renewed t cwd root u source helpers) := by
  obtain ⟨hstaged, hpurged, hsilent⟩ := h
  unfold renewed
  rcases hstage : stage t cwd root u source helpers with ⟨f | path, t₁⟩
  · rw [hstage] at hstaged
    cases hstaged
  · rw [hstage] at hpurged hsilent
    dsimp only at hpurged hsilent
    obtain ⟨rfl, hthere⟩ := stage_ok hu hstage
    exact ⟨t₁, rfl, hthere, purge_ok hu hthere.directory hpurged hsilent⟩

/-- A file of a unit can be written in the directory of the unit, where there is no directory of its
    name. -/
theorem takes_unitFile (hdirectory : t.isDirectory cwd (directory root u) = true) {name : String}
    (hname : IsUnitFile u.name name) (hfine : ((directory root u).child name).Fine)
    (hfree : t.node? ((directory root u).goal cwd ++ [name]) ≠ some .directory) :
    t.Takes cwd ((directory root u).child name) := by
  obtain ⟨-, hholds⟩ := Tree.isDirectory_iff.mp hdirectory
  have hgoal := Path.goal_child cwd (directory root u) (hname.ne_up hu)
  refine ⟨hfine, ?_, ?_, ?_⟩
  · rwa [Path.way_child]
  · rw [hgoal, List.dropLast_concat]
    exact (Tree.holds_trail_iff.mp hholds).2
  · rwa [hgoal]

/-- Staging a unit goes well where there is room for it. -/
theorem stage_isOk (hhelpers : ∀ h ∈ helpers, Text.isIdentifier h.1 = true) (ht : t.Ordered)
    (h : Roomy t cwd root u helpers) : (stage t cwd root u source helpers).1.isOk = true := by
  have hmakes := Tree.makes_directory t cwd (directory root u)
  have hmade := h.made
  have hregular := h.regular
  rw [stage]
  rcases hmake : t.makeDirectory cwd (directory root u) with ⟨r, t₁⟩
  rw [hmake] at hmakes hmade hregular
  obtain rfl : r = .ok () := hmade
  have hdirectory : t₁.isDirectory cwd (directory root u) = true := hmakes.made rfl
  have htakes (name : String) (hname : IsUnitFile u.name name)
      (hfine : ((directory root u).child name).Fine) :=
    takes_unitFile hu hdirectory hname hfine (hregular _ ⟨name, hname, rfl⟩)
  obtain ⟨stale, hglob, -⟩ := Tree.glob_wild_isOk (hmakes.ordered ht) hdirectory
    (parsePattern_helperPattern hu mem_sourceSuffix)
  dsimp only
  rw [hglob]
  have hstale : ∀ p ∈ stale, t₁.Takes cwd p := by
    intro p hp
    obtain ⟨helper, rfl, hnode⟩ := exists_of_mem_glob hu mem_sourceSuffix hglob hp
    have hfile : IsUnitFile u.name (helperFile u.name helper sourceSuffix) :=
      .helper mem_sourceSuffix helper
    refine htakes _ hfile (h.present _ hfile fun hnone => ?_)
    rcases hmakes.grown ((directory root u).goal cwd ++ [helperFile u.name helper sourceSuffix])
      with hsame | ⟨-, -, hnew⟩
    · exact hnode (hsame.trans hnone)
    · exact hregular _ ⟨_, hfile, rfl⟩ hnew
  have hsources : ∀ file ∈ sources root u source helpers, t₁.Takes cwd file.1 := by
    intro file hfile
    rcases List.mem_cons.mp hfile with rfl | hfile
    · dsimp only
      rw [sourcePath_eq hu]
      exact htakes _ (.own mem_sourceSuffix) (h.own _ mem_sourceSuffix)
    · obtain ⟨helper, hhelper, rfl⟩ := List.mem_map.mp hfile
      dsimp only
      rw [helperPath_eq hu (unslashed_of_isIdentifier (hhelpers helper hhelper))]
      exact htakes _ (.helper mem_sourceSuffix _) (h.handed helper hhelper)
  have hdeleted := deleteAll_isOk hstale
  have hsame := (shrunk_deleteAll t₁ cwd stale).sameDirectories
  dsimp only
  rcases hdelete : deleteAll t₁ cwd stale with ⟨r, t₂⟩
  rw [hdelete] at hdeleted hsame
  obtain rfl : r = .ok () := hdeleted
  dsimp only
  rw [isOk_map, writeAll_isOk fun file hfile => (hsources file hfile).of_sameDirectories hsame]
  rfl

/-- Where there was room for a unit, its compiled files are still there after staging. -/
theorem artifact_of_staged (hhelpers : ∀ h ∈ helpers, Text.isIdentifier h.1 = true)
    (h : Roomy t cwd root u helpers)
    (hstaged : Staged cwd root u (sources root u source helpers) t t₁) {q : List String}
    (hq : IsArtifactPlace cwd root u q) :
    t₁.node? q = t.node? q ∧ t.node? q ≠ some .directory := by
  have hmakes := Tree.makes_directory t cwd (directory root u)
  have hregular := h.regular q hq.isUnitPlace
  have hfree : t.node? q ≠ some .directory := mt (hmakes.grown.within q) hregular
  refine ⟨?_, hfree⟩
  have hhelper : ¬IsHelperPlace cwd root u sourceSuffix q := by
    rintro ⟨helper, rfl⟩
    rcases hq with hq | ⟨other, hq⟩
    · exact append_sourceSuffix_ne _ _ (List.singleton_inj.mp (List.append_cancel_left hq))
    · exact append_sourceSuffix_ne _ _ (List.singleton_inj.mp (List.append_cancel_left hq))
  refine (hstaged.kept q hhelper (written_artifact hu (unslashed_helpers hhelpers) hq)).resolve_right fun hnew => ?_
  exact hregular ((Tree.isDirectory_iff.mp (hmakes.made h.made)).2 q hnew.1)

/-- The compiled files of a unit can be looked for, and each is found once. -/
theorem artifacts_isOk (ht : t.Ordered) (hdirectory : t.isDirectory cwd (directory root u) = true)
    (hshort : ((directory root u).child (u.name ++ artifactSuffix)).Short) :
    ∃ stale, artifacts t cwd u (directory root u) = .ok stale ∧
      (stale.map (Path.goal cwd)).Nodup := by
  obtain ⟨found, hglob, honce⟩ := Tree.glob_wild_isOk ht hdirectory
    (parsePattern_helperPattern hu mem_artifactSuffix)
  obtain ⟨own, hprobe⟩ : ∃ own, t.probe cwd (artifactPath (directory root u) u) = .ok own := by
    rw [artifactPath_eq hu]
    refine Tree.probe_isOk hshort ?_
    rw [Path.way_child]
    exact (Tree.isDirectory_iff.mp hdirectory).2
  have hartifacts : ∃ stale, artifacts t cwd u (directory root u) = .ok stale := by
    rw [artifacts, hglob]
    simp only [hprobe, bind, Except.bind]
    exact ⟨_, rfl⟩
  obtain ⟨stale, hartifacts⟩ := hartifacts
  refine ⟨stale, hartifacts, List.Nodup.map_on (fun p hp p' hp' hgoal => ?_) ?_⟩
  · obtain ⟨name, rfl, hname, -⟩ := exists_of_mem_artifacts hu hdirectory hartifacts hp
    obtain ⟨name', rfl, hname', -⟩ := exists_of_mem_artifacts hu hdirectory hartifacts hp'
    rw [Path.goal_child _ _ (hname.ne_up hu), Path.goal_child _ _ (hname'.ne_up hu)] at hgoal
    rw [List.singleton_inj.mp (List.append_cancel_left hgoal)]
  · obtain ⟨found', hglob', rfl⟩ := artifacts_eq_ok hu hdirectory hartifacts
    obtain rfl := Except.ok.inj (hglob.symm.trans hglob')
    split
    · refine List.nodup_cons.mpr ⟨fun hmem => ?_, honce⟩
      obtain ⟨helper, heq, -⟩ := exists_of_mem_glob hu mem_artifactSuffix hglob hmem
      have hname := List.append_cancel_left (congrArg Path.names heq)
      exact own_ne_helperFile _ mem_artifactSuffix _ _ (List.singleton_inj.mp hname)
    · exact honce

omit hu in
/-- To purge a unit is to delete the compiled files that are found. -/
theorem purge_of_artifacts {stale : List Path}
    (h : artifacts t cwd u (directory root u) = .ok stale) :
    purge t cwd root u = deleteStale t cwd stale := by
  unfold purge
  rw [h]

/-- Purging a unit goes well once it has been staged where there was room for it. -/
theorem purge_isOk (hhelpers : ∀ h ∈ helpers, Text.isIdentifier h.1 = true) (ht : t.Ordered)
    (h : Roomy t cwd root u helpers)
    (hstaged : Staged cwd root u (sources root u source helpers) t t₁) :
    (purge t₁ cwd root u).1.isOk = true ∧ (purge t₁ cwd root u).2.2 = [] := by
  obtain ⟨stale, hartifacts, honce⟩ := artifacts_isOk hu (hstaged.ordered ht) hstaged.directory
    (h.own _ mem_artifactSuffix).short
  rw [purge_of_artifacts hartifacts]
  refine deleteStale_silent (fun p hp => ?_) (fun p hp => ?_) honce
  · obtain ⟨name, rfl, hname, hplace, hnode⟩ :=
      exists_of_mem_artifacts hu hstaged.directory hartifacts hp
    obtain ⟨hsame, hfree⟩ := artifact_of_staged hu hhelpers h hstaged hplace
    rw [hsame] at hnode
    exact takes_unitFile hu hstaged.directory hname (h.present _ hname hnode) (hsame ▸ hfree)
  · obtain ⟨name, rfl, hname, -, hnode⟩ :=
      exists_of_mem_artifacts hu hstaged.directory hartifacts hp
    rwa [Path.goal_child _ _ (hname.ne_up hu)]

/-- Where there is room for a unit it can be staged and purged. -/
theorem Roomy.renewable (hhelpers : ∀ h ∈ helpers, Text.isIdentifier h.1 = true)
    (ht : t.Ordered) (h : Roomy t cwd root u helpers) : Renewable t cwd root u source helpers := by
  have hstage : (stage t cwd root u source helpers).1.isOk = true := stage_isOk hu hhelpers ht h
  cases hpath : (stage t cwd root u source helpers).1 with
  | error f =>
      rw [hpath] at hstage
      cases hstage
  | ok path =>
      have hstaged := (stage_ok hu (Prod.ext hpath rfl)).2
      have hpurge := purge_isOk hu hhelpers ht h hstaged
      exact ⟨hstage, hpurge.1, hpurge.2⟩

end

end Staging

end FragmentWeaver
