import FragmentWeaver.Proofs.Compiling
import FragmentWeaver.Proofs.Once
import FragmentWeaver.Proofs.UnitNames
import Mathlib.Data.List.Rotate
import Mathlib.Data.Set.List

/-!
# Which compiled files a unit has

The compiled files of a unit are named in several places, each of which finds them out for itself: the
command that compiles them lists them beside the sources, and the script takes that list apart again;
the outcome of compiling lists them; they are looked for in the directory of the unit; and so they are
when its modules are loaded. All of these name the same files in the same order. Names of helpers
without dots make the difference between sources and compiled files irrelevant for the order, and what
an earlier unit has left behind is gone by then.
-/

namespace FragmentWeaver

open Files Staging

namespace Text

/-- Where the first dots of two texts are followed by the same, what follows does not matter for the
    order of the texts. -/
theorem dotted_lt_dotted_iff {cs ds : List Char} (hcs : '.' ∉ cs) (hds : '.' ∉ ds)
    (rest : List Char) :
    cs ++ '.' :: rest < ds ++ '.' :: rest ↔ cs ++ ['.'] < ds ++ ['.'] := by
  induction cs generalizing ds with
  | nil =>
      cases ds with
      | nil => simp
      | cons d ds =>
          have hd : '.' ≠ d := fun hd => hds (hd ▸ List.mem_cons_self)
          simp [List.cons_lt_cons_iff, hd]
  | cons c cs ih =>
      rw [List.mem_cons, not_or] at hcs
      cases ds with
      | nil => simp [List.cons_lt_cons_iff, Ne.symm hcs.1]
      | cons d ds =>
          rw [List.mem_cons, not_or] at hds
          simp only [List.cons_append, List.cons_lt_cons_iff, ih hcs.2 hds.2]

end Text

namespace Files.Path

/-- Paths in one directory are in the order of their names. -/
theorem upTo_child_iff (p : Path) (name other : String) :
    upTo (p.child name) (p.child other) = true ↔ name ≤ other := by
  have hnames (names : List String) :
      namesUpTo (names ++ [name]) (names ++ [other]) = true ↔ name ≤ other := by
    induction names with
    | nil =>
        rw [List.nil_append, List.nil_append, namesUpTo]
        split
        · next h => simp [namesUpTo, h]
        · exact decide_eq_true_iff
    | cons first names ih => rwa [List.cons_append, List.cons_append, namesUpTo, if_pos rfl]
  rw [upTo]
  exact (iff_of_eq (congrArg (· = true) (if_pos rfl))).trans (hnames p.names)

end Files.Path

namespace Interpreter

theorem everySecond_flatMap {α : Type} (f g : α → String) (as : List α) :
    everySecond (as.flatMap fun a => [f a, g a]) = as.map f ∧
      everySecond ((as.flatMap fun a => [f a, g a]).drop 1) = as.map g := by
  induction as with
  | nil => exact ⟨rfl, rfl⟩
  | cons a as ih =>
      obtain ⟨hfirst, hsecond⟩ := ih
      refine ⟨congrArg (f a :: ·) hfirst, ?_⟩
      cases as with
      | nil => rfl
      | cons b as => exact congrArg (g a :: ·) hsecond

/-- The script reads from its arguments what the command was made of. -/
theorem pairsRead_command {i : Interpreter} (h : i.options = []) (around : Surroundings)
    (script : String) (sources : List Path) (directory : Path) :
    pairsRead (scriptArguments (i.command around script sources directory)) =
      (targets sources directory).map fun (s, a) => (s.text, a.text) := by
  have hcommand : scriptArguments (i.command around script sources directory) =
      "-c" :: Number.wholeText i.level ::
        (targets sources directory).flatMap fun (s, a) => [s.text, a.text] := by
    rw [command, h]
    rfl
  obtain ⟨hfirst, hsecond⟩ := everySecond_flatMap (fun pair : Path × Path => pair.1.text)
    (fun pair => pair.2.text) (targets sources directory)
  rw [hcommand, pairsRead]
  change (everySecond (List.flatMap _ _)).zip (everySecond (List.drop 1 (List.flatMap _ _))) = _
  rw [hfirst, hsecond, List.zip_map']

/-- Compiled files are written at paths that a file system can work with, or something is
    rejected. -/
theorem fine_compileAll {t : Tree} {cwd : List String} {manner : Manner} {told : List String}
    {pairs : List (Path × Path)} (h : (compileAll t cwd manner told pairs).1.rejected = []) :
    ∀ pair ∈ pairs, pair.2.Fine := by
  induction pairs generalizing t told with
  | nil => nofun
  | cons pair pairs ih =>
      obtain ⟨source, target⟩ := pair
      rw [compileAll] at h
      split at h
      · next hone =>
          obtain ⟨a, hwrite⟩ := write_of_compileOne hone
          exact List.forall_mem_cons.mpr ⟨Tree.fine_of_write hwrite, ih h⟩
      · cases h
      · cases h

end Interpreter

namespace Staging

/-! ### The files of a unit in order -/

/-- The files of a unit with a suffix: its own one, then those of helpers. -/
def unitFiles (root : Path) (u : UnitId) (names : List String) (suffix : String) : List Path :=
  (directory root u).child (u.name ++ suffix) ::
    names.map fun name => (directory root u).child (helperFile u.name name suffix)

section

variable {x suffix suffix' : String} (hx : Text.isIdentifier x = true)

include hx

theorem undotted_stem {name : String} (h : '.' ∉ name.toList) :
    '.' ∉ (x ++ helperMark ++ name).toList := by
  have hdot : '.' ∉ x.toList := Text.not_mem_of_isIdentifier hx (by decide) (by decide)
  simp [helperMark, hdot, h]

/-- Whether sources or compiled files are put in order makes no difference. -/
theorem helperFile_le_iff (hsuffix : suffix ∈ fileSuffixes) (hsuffix' : suffix' ∈ fileSuffixes)
    {name other : String} (hname : '.' ∉ name.toList) (hother : '.' ∉ other.toList) :
    helperFile x name suffix ≤ helperFile x other suffix ↔
      helperFile x name suffix' ≤ helperFile x other suffix' := by
  have hstems {suffix : String} (h : suffix ∈ fileSuffixes) :
      helperFile x name suffix ≤ helperFile x other suffix ↔
        ¬(x ++ helperMark ++ other).toList ++ ['.'] < (x ++ helperMark ++ name).toList ++ ['.'] := by
    obtain ⟨cs, hcs, -⟩ := toList_suffix h
    rw [← String.not_lt, String.lt_iff_toList_lt, helperFile, helperFile,
      String.toList_append (t := suffix), String.toList_append (t := suffix), hcs,
      Text.dotted_lt_dotted_iff (undotted_stem hx hother) (undotted_stem hx hname)]
  rw [hstems hsuffix, hstems hsuffix']

/-- What the pattern of the helpers finds when just the helpers of a list have files with a suffix:
    these files, in order. -/
theorem glob_helperPattern (hsuffix : suffix ∈ fileSuffixes) {t : Tree} (ht : t.Ordered)
    {cwd : List String} {directory : Path} (hdirectory : t.isDirectory cwd directory = true)
    {helpers : List String} (honce : helpers.Nodup)
    (hthere : ∀ helper, t.node? (directory.goal cwd ++ [helperFile x helper suffix]) ≠ none ↔
      helper ∈ helpers) :
    ∃ names : List String, names.Perm helpers ∧
      names.Pairwise (helperFile x · suffix ≤ helperFile x · suffix) ∧
      t.glob cwd directory (helperPattern x suffix) =
        .ok (names.map fun name => directory.child (helperFile x name suffix)) := by
  obtain ⟨found, hglob, hnodup⟩ :=
    Tree.glob_wild_isOk ht hdirectory (parsePattern_helperPattern hx hsuffix)
  have hfound : found ∈ Set.range (List.map fun name =>
      directory.child (helperFile x name suffix)) := by
    rw [Set.range_list_map]
    intro p hp
    obtain ⟨helper, rfl, -⟩ := exists_of_mem_glob hx hsuffix hglob hp
    exact ⟨helper, rfl⟩
  obtain ⟨names, rfl⟩ := hfound
  have hinjective {name other : String} (h : directory.child (helperFile x name suffix) =
      directory.child (helperFile x other suffix)) : name = other :=
    helperFile_injective (List.singleton_inj.mp
      (List.append_cancel_left (congrArg Path.names h)))
  refine ⟨names, (List.perm_ext_iff_of_nodup hnodup.of_map honce).mpr fun helper => ?_, ?_, hglob⟩
  · rw [← hthere helper]
    constructor
    · intro hmem
      obtain ⟨other, hpath, hnode⟩ :=
        exists_of_mem_glob hx hsuffix hglob (List.mem_map_of_mem hmem)
      exact hinjective hpath ▸ hnode
    · intro hnode
      obtain ⟨other, hother, hpath⟩ :=
        List.mem_map.mp (mem_glob hx hsuffix hglob hdirectory hnode)
      exact hinjective hpath ▸ hother
  · refine (List.pairwise_map.mp (Loading.pairwise_glob hglob)).imp fun h => ?_
    exact (Path.upTo_child_iff directory _ _).mp h

/-- Names without dots that are in the order of sources and in that of compiled files are the same. -/
theorem eq_of_ordered {names others : List String} (hperm : names.Perm others)
    (hdots : ∀ name ∈ others, '.' ∉ name.toList)
    (hnames : names.Pairwise (helperFile x · sourceSuffix ≤ helperFile x · sourceSuffix))
    (hothers : others.Pairwise (helperFile x · artifactSuffix ≤ helperFile x · artifactSuffix)) :
    names = others := by
  refine hperm.eq_of_pairwise (fun name other _ _ hle hle' => ?_) hnames
    (hothers.imp_of_mem fun hname hother h => ?_)
  · exact helperFile_injective (String.le_antisymm hle hle')
  · exact (helperFile_le_iff hx mem_artifactSuffix mem_sourceSuffix (hdots _ hname)
      (hdots _ hother)).mp h

end

/-! ### Compiling -/

section

variable {t t' : Tree} {root : Path} {u : UnitId} {source : String}
  {helpers : List (String × String)} (hu : Text.isIdentifier u.name = true)
  (hhelpers : ∀ h ∈ helpers, '/' ∉ h.1.toList)

include hu

/-- The sources of a unit with the compiled files that belong to them. -/
theorem targets_unitFiles (root : Path) {names : List String}
    (hnames : ∀ name ∈ names, '/' ∉ name.toList) :
    Interpreter.targets (unitFiles root u names sourceSuffix) (directory root u) =
      (unitFiles root u names sourceSuffix).zip (unitFiles root u names artifactSuffix) := by
  have hartifacts : (unitFiles root u names sourceSuffix).map (artifactFor (directory root u)) =
      unitFiles root u names artifactSuffix := by
    rw [unitFiles, unitFiles, List.map_cons, List.map_map, artifactFor_own hu, List.cons_inj_right]
    refine List.map_congr_left fun name hname => ?_
    rw [Function.comp_apply, artifactFor_helper hu (directory root u) (hnames name hname)]
  rw [← hartifacts, Interpreter.targets, List.map_prod_left_eq_zip]

theorem goal_of_mem_unitFiles (cwd : List String) {names : List String} {suffix : String}
    (hsuffix : suffix ∈ fileSuffixes) {p : Path} (hp : p ∈ unitFiles root u names suffix) :
    ∃ stem, IsStem u.name stem ∧ p = (directory root u).child (stem ++ suffix) ∧
      p.goal cwd = (directory root u).goal cwd ++ [stem ++ suffix] := by
  rcases List.mem_cons.mp hp with rfl | hp
  · exact ⟨_, .own, rfl, goal_child_stem hu .own hsuffix⟩
  · obtain ⟨name, -, rfl⟩ := List.mem_map.mp hp
    exact ⟨_, .helper name, rfl, goal_child_stem hu (.helper name) hsuffix⟩

/-- The files of a unit with a suffix are different ones. -/
theorem nodup_goals_unitFiles (cwd : List String) {names : List String} (hnames : names.Nodup)
    {suffix : String} (hsuffix : suffix ∈ fileSuffixes) :
    ((unitFiles root u names suffix).map (Path.goal cwd)).Nodup := by
  have hgoals : (names.map fun name =>
      (directory root u).child (helperFile u.name name suffix)).map (Path.goal cwd) =
        names.map fun name => (directory root u).goal cwd ++ [helperFile u.name name suffix] := by
    rw [List.map_map]
    exact List.map_congr_left fun name _ => goal_helperFile hu _ _ _
  rw [unitFiles, List.map_cons, hgoals, goal_child_stem hu .own hsuffix, List.nodup_cons]
  refine ⟨fun hmem => ?_, hnames.map fun name other h => ?_⟩
  · obtain ⟨name, -, heq⟩ := List.mem_map.mp hmem
    exact own_ne_helperFile u.name hsuffix name suffix
      (List.singleton_inj.mp (List.append_cancel_left heq)).symm
  · exact helperFile_injective (List.singleton_inj.mp (List.append_cancel_left h))

include hhelpers

/-- Where the sources of a unit are, they are compiled one after the other in order. -/
theorem HasSources.sourcesBeside_eq {cwd : List String} (ht : t.Ordered)
    (h : HasSources cwd root u (sources root u source helpers) t)
    (honce : (helpers.map Prod.fst).Nodup) :
    ∃ names : List String, names.Perm (helpers.map Prod.fst) ∧
      names.Pairwise (helperFile u.name · sourceSuffix ≤ helperFile u.name · sourceSuffix) ∧
      Interpreter.sourcesBeside t cwd (sourcePath root u) =
        .ok (unitFiles root u names sourceSuffix) := by
  obtain ⟨names, hperm, hsorted, hglob⟩ :=
    glob_helperPattern hu mem_sourceSuffix ht h.placed honce (h.node?_helper hu hhelpers)
  refine ⟨names, hperm, hsorted, ?_⟩
  rw [Interpreter.sourcesBeside, sourcePath_eq hu, Path.parent_child,
    stem_child (ne_empty_of_isIdentifier hu) mem_sourceSuffix, hglob]
  rfl

/-- What there is once the sources of a unit have been compiled, and none of them was rejected: of the
    compiled files of the unit, those of the sources, and no others. -/
structure HasArtifacts (cwd : List String) (root : Path) (u : UnitId) (names : List String)
    (t : Tree) : Prop where
  ordered : t.Ordered
  placed : t.isDirectory cwd (directory root u) = true
  fine : ∀ p ∈ unitFiles root u names artifactSuffix, p.Fine
  there : ∀ p ∈ unitFiles root u names artifactSuffix, ∃ c, t.node? (p.goal cwd) = some (.file c)
  only : ∀ q, IsArtifactPlace cwd root u q → t.node? q ≠ none →
    ∃ p ∈ unitFiles root u names artifactSuffix, p.goal cwd = q

/-- To compile the sources of a unit where none of its compiled files is there. -/
theorem HasSources.compiled {i : Interpreter} {around : Surroundings} {c : Compilation}
    (hscript : i.settings.errand = .script) (ht : t.Ordered)
    (h : HasSources around.cwd root u (sources root u source helpers) t)
    (hcleared : ∀ q, IsArtifactPlace around.cwd root u q → t.node? q = none)
    (honce : (helpers.map Prod.fst).Nodup)
    (hcompile : i.compile t around (sourcePath root u) (directory root u) = (.ok c, t'))
    (hsuccess : c.success = true) :
    ∃ names : List String, names.Perm (helpers.map Prod.fst) ∧
      names.Pairwise (helperFile u.name · sourceSuffix ≤ helperFile u.name · sourceSuffix) ∧
      Interpreter.sourcesBeside t around.cwd (sourcePath root u) =
        .ok (unitFiles root u names sourceSuffix) ∧
      c.artifacts = unitFiles root u names artifactSuffix ∧
      HasArtifacts around.cwd root u names t' := by
  obtain ⟨names, hperm, hsorted, hbeside⟩ := h.sourcesBeside_eq hu hhelpers ht honce
  have hnames : ∀ name ∈ names, '/' ∉ name.toList := by
    intro name hname
    obtain ⟨handed, hhanded, rfl⟩ := List.mem_map.mp (hperm.mem_iff.mp hname)
    exact hhelpers handed hhanded
  have htargets := targets_unitFiles hu root hnames
  have hsecond : ((unitFiles root u names sourceSuffix).zip
      (unitFiles root u names artifactSuffix)).map Prod.snd =
        unitFiles root u names artifactSuffix :=
    List.map_snd_zip (by simp [unitFiles])
  refine ⟨names, hperm, hsorted, hbeside, ?_⟩
  obtain ⟨beside, hbeside', hends⟩ := Interpreter.ends_compile hscript ht h.placed hcompile
  obtain rfl := Except.ok.inj (hbeside.symm.trans hbeside')
  cases hends with
  | early hfailed =>
      rw [hsuccess] at hfailed
      cases hfailed
  | compiled digits y hdigits hrun _ hnone _ hlisted =>
      obtain ⟨accepted, -, hleaves⟩ := h.leaves hu hhelpers honce hdigits hbeside
      have hempty := hnone.mp hsuccess
      have hfine := Interpreter.fine_compileAll (congrArg (·.1.rejected) hrun |>.trans hempty)
      rw [hrun] at hleaves
      rw [htargets] at hleaves hfine
      -- Every compiled file belongs to a source that was accepted.
      have hpair {p : Path} (hp : p ∈ unitFiles root u names artifactSuffix) :
          ∃ pair ∈ (unitFiles root u names sourceSuffix).zip
            (unitFiles root u names artifactSuffix), pair.2 = p := by
        rw [← hsecond] at hp
        exact List.mem_map.mp hp
      refine ⟨by rw [hlisted hsuccess, htargets, hsecond], hleaves.ordered ht, ?_, fun p hp => ?_,
        fun p hp => ?_, fun q hq hnode => ?_⟩
      · have hthere := Tree.isDirectory_iff.mp h.placed
        exact Tree.isDirectory_iff.mpr ⟨hthere.1, hleaves.directories.holds hthere.2⟩
      · obtain ⟨pair, hmem, rfl⟩ := hpair hp
        exact hfine pair hmem
      · obtain ⟨pair, hmem, rfl⟩ := hpair hp
        exact hleaves.written (by rw [hempty]; nofun) pair hmem (hleaves.all hempty pair hmem)
      · rcases hleaves.changed q with hsame | ⟨pair, hmem, -, hgoal⟩
        · rw [hsame, hcleared q hq] at hnode
          exact absurd rfl hnode
        · exact ⟨pair.2, hsecond ▸ List.mem_map_of_mem hmem, hgoal⟩

end

/-! ### Finding compiled files -/

section

variable {t : Tree} {cwd : List String} {root : Path} {u : UnitId} {names : List String}
  (hu : Text.isIdentifier u.name = true)

include hu

/-- The compiled files of helpers are found in the order of their sources. -/
theorem HasArtifacts.glob_eq (h : HasArtifacts cwd root u names t) (honce : names.Nodup)
    (hdots : ∀ name ∈ names, '.' ∉ name.toList)
    (hsorted : names.Pairwise
      (helperFile u.name · sourceSuffix ≤ helperFile u.name · sourceSuffix)) :
    t.glob cwd (directory root u) (helperPattern u.name artifactSuffix) =
      .ok (unitFiles root u names artifactSuffix).tail := by
  have hthere (helper : String) :
      t.node? ((directory root u).goal cwd ++ [helperFile u.name helper artifactSuffix]) ≠ none ↔
        helper ∈ names := by
    constructor
    · intro hnode
      obtain ⟨p, hp, hgoal⟩ := h.only _ (isArtifactPlace_of_stem (.helper helper)) hnode
      rcases List.mem_cons.mp hp with rfl | hp
      · rw [goal_child_stem hu .own mem_artifactSuffix] at hgoal
        exact absurd (List.singleton_inj.mp (List.append_cancel_left hgoal))
          (own_ne_helperFile _ mem_artifactSuffix _ _)
      · obtain ⟨name, hname, rfl⟩ := List.mem_map.mp hp
        rw [goal_helperFile hu] at hgoal
        rwa [← helperFile_injective (List.singleton_inj.mp (List.append_cancel_left hgoal))]
    · intro hmem
      obtain ⟨c, hnode⟩ := h.there _ (List.mem_cons_of_mem _ (List.mem_map_of_mem hmem))
      rw [goal_helperFile hu] at hnode
      rw [hnode]
      nofun
  obtain ⟨others, hperm, hothers, hglob⟩ :=
    glob_helperPattern hu mem_artifactSuffix h.ordered h.placed honce hthere
  obtain rfl : names = others :=
    eq_of_ordered hu hperm.symm (fun name hname => hdots name (hperm.mem_iff.mp hname)) hsorted
      hothers
  exact hglob

/-- Looking at a compiled file of the unit shows that it is there. -/
theorem HasArtifacts.probe_eq (h : HasArtifacts cwd root u names t) {p : Path}
    (hp : p ∈ unitFiles root u names artifactSuffix) : ∃ c, t.probe cwd p = .ok (some (.file c)) := by
  obtain ⟨c, hnode⟩ := h.there p hp
  obtain ⟨stem, -, rfl, -⟩ := goal_of_mem_unitFiles hu cwd mem_artifactSuffix hp
  have hway : t.Holds (((directory root u).child (stem ++ artifactSuffix)).way cwd) := by
    rw [Path.way_child]
    exact (Tree.isDirectory_iff.mp h.placed).2
  obtain ⟨found, hprobe⟩ := Tree.probe_isOk (h.fine _ hp).short hway
  refine ⟨c, ?_⟩
  rw [hprobe, Tree.probe_eq_ok hway hprobe, hnode]

/-- The compiled files that are found for a unit. -/
theorem HasArtifacts.artifacts_eq (h : HasArtifacts cwd root u names t)
    (hglob : t.glob cwd (directory root u) (helperPattern u.name artifactSuffix) =
      .ok (unitFiles root u names artifactSuffix).tail) :
    artifacts t cwd u (directory root u) = .ok (unitFiles root u names artifactSuffix) := by
  obtain ⟨c, hprobe⟩ := h.probe_eq hu (p := artifactPath (directory root u) u) (by
    rw [artifactPath_eq hu]
    exact List.mem_cons_self)
  rw [artifacts, hglob]
  simp only [hprobe, bind, Except.bind]
  rw [artifactPath_eq hu]
  rfl

end

end Staging

namespace Context

/-- The names of packages that a context serves begin its namespace. -/
theorem prefix_of_mem_packages {context : Context} {name : String}
    (h : name ∈ context.packages) : name.toList <+: context.space.toList := by
  have hglue (pieces : List (List Char)) (k : Nat) :
      Text.glue ['.'] (pieces.take k) <+: Text.glue ['.'] pieces := by
    induction pieces generalizing k with
    | nil => simp [Text.glue]
    | cons piece pieces ih =>
        cases k with
        | zero => exact List.nil_prefix
        | succ k =>
            cases pieces with
            | nil => simp
            | cons other pieces =>
                cases k with
                | zero => simp [Text.glue]
                | succ k =>
                    have hrest := ih (k + 1)
                    simpa [Text.glue] using hrest
  obtain ⟨parts, hparts, rfl⟩ := List.mem_map.mp h
  obtain ⟨k, -, rfl⟩ := List.mem_map.mp hparts
  have hpieces : ((Text.split '.' context.space).take (k + 1)).map String.toList =
      (Text.cutAt '.' context.space.toList).take (k + 1) := by
    simp [Text.split, List.map_take]
  rw [Text.join, String.toList_ofList, hpieces]
  have hwhole := hglue (Text.cutAt '.' context.space.toList) (k + 1)
  rwa [Text.glue_cutAt] at hwhole

/-- The module of a compiled file that is there comes from it. -/
theorem source?_member {context : Context} (hclosed : context.closed = false) {files : Tree}
    {cwd : List String} {simple : String} (hsimple : '.' ∉ simple.toList)
    (hname : Path.IsName (simple ++ artifactSuffix)) {c : Contents}
    (hprobe : files.probe cwd (context.directory.child (simple ++ artifactSuffix)) =
      .ok (some (.file c))) :
    context.source? files cwd (context.space ++ "." ++ simple) =
      .ok (some (.artifact (context.directory.child (simple ++ artifactSuffix)))) := by
  have hpackage : context.packages.contains (context.space ++ "." ++ simple) = false := by
    rw [List.contains_eq_mem, decide_eq_false_iff_not]
    intro hmem
    have hlength := (prefix_of_mem_packages hmem).length_le
    simp at hlength
  rw [source?, if_neg (by simp [hclosed]), if_neg (by simp only [hpackage]; exact Bool.false_ne_true),
    UnitId.partsOf_member hsimple]
  dsimp only
  rw [if_neg (by simp), Path.join_name hname, hprobe]
  rfl

end Context

namespace Staging

section

variable {root : Path} {u : UnitId} {names : List String} {context : Context}
  (hu : Text.isIdentifier u.name = true)

include hu

/-- The names of the modules that are loaded for a unit are those of its compiled files, the unit's own
    one last. -/
theorem HasArtifacts.loadedNames_eq {s : Loom}
    (hglob : s.files.glob s.around.cwd (directory root u)
      (helperPattern u.name artifactSuffix) = .ok (unitFiles root u names artifactSuffix).tail)
    (hroot : context.root = root) (hspace : context.space = u.space) :
    Loading.loadedNames context s u =
      ((unitFiles root u names artifactSuffix).rotate 1).map fun p => u.space ++ "." ++ p.stem := by
  have hdirectory : context.directory = directory root u := by
    rw [Context.directory, hroot, hspace]
    rfl
  have hhelpers : Loading.helperNames context s.files s.around.cwd u =
      .ok ((unitFiles root u names artifactSuffix).tail.map fun p => u.space ++ "." ++ p.stem) := by
    rw [Loading.helperNames, hdirectory, hglob, hspace]
    rfl
  rw [Loading.loadedNames_of_ok hhelpers, unitFiles, List.rotate_cons_succ, List.rotate_zero,
    List.tail_cons, List.map_append, List.map_singleton,
    stem_child (ne_empty_of_isIdentifier hu) mem_artifactSuffix]
  rfl

/-- The module of a compiled file of the unit comes from that file. -/
theorem HasArtifacts.source?_eq {t : Tree} {cwd : List String}
    (h : HasArtifacts cwd root u names t)
    (hplain : ∀ name ∈ names, '.' ∉ name.toList ∧ '/' ∉ name.toList)
    (hroot : context.root = root) (hspace : context.space = u.space)
    (hclosed : context.closed = false) {p : Path}
    (hp : p ∈ unitFiles root u names artifactSuffix) :
    context.source? t cwd (u.space ++ "." ++ p.stem) = .ok (some (.artifact p)) := by
  have hdirectory : context.directory = directory root u := by
    rw [Context.directory, hroot, hspace]
    rfl
  obtain ⟨c, hprobe⟩ := h.probe_eq hu hp
  suffices hstem : ∃ stem, stem ≠ "" ∧ '.' ∉ stem.toList ∧ Path.IsName (stem ++ artifactSuffix) ∧
      p = (directory root u).child (stem ++ artifactSuffix) by
    obtain ⟨stem, hne, hdot, hname, rfl⟩ := hstem
    rw [stem_child hne mem_artifactSuffix, ← hspace, ← hdirectory]
    exact context.source?_member hclosed hdot hname (hdirectory ▸ hprobe)
  rcases List.mem_cons.mp hp with rfl | hp
  · exact ⟨_, ne_empty_of_isIdentifier hu, Text.not_mem_of_isIdentifier hu (by decide) (by decide),
      isName_own hu mem_artifactSuffix, rfl⟩
  · obtain ⟨name, hname, rfl⟩ := List.mem_map.mp hp
    refine ⟨u.name ++ helperMark ++ name, fun h => ?_, undotted_stem hu (hplain name hname).1,
      isName_helper hu mem_artifactSuffix (hplain name hname).2, rfl⟩
    have h := congrArg String.toList h
    simp [helperMark] at h

end

end Staging

namespace Weaver

/-- A request to generate a unit has come as far as compiling its sources, and that goes well: the unit
    has been staged and purged without a report, there is a search path, and the interpreter compiles
    the sources in the tree that this leaves. -/
structure HasCompiled (w : Weaver) (i : Interpreter) (u : UnitId) (source : String)
    (helpers : List (String × String)) (s : Loom) (c : Compilation) (t : Tree) : Prop where
  toolchain : w.toolchain = i.toolchain
  renewable : Renewable s.files s.around.cwd (w.rootIn s.around) u source helpers
  searched : ((w.searchPathFor (sourcePath (w.rootIn s.around) u) u).outcome
    { s with files := renewed s.files s.around.cwd (w.rootIn s.around) u source helpers }).isOk = true
  compiled : i.compile (renewed s.files s.around.cwd (w.rootIn s.around) u source helpers) s.around
    (sourcePath (w.rootIn s.around) u) (directory (w.rootIn s.around) u) = (.ok c, t)
  success : c.success = true

section

variable {w : Weaver} {i : Interpreter} {u : UnitId} {source : String}
  {helpers : List (String × String)} {s : Loom} {c : Compilation} {t : Tree}

/-- What is left of a request that has compiled its sources is to load the unit. -/
theorem HasCompiled.outcome_generate (hu : Text.isIdentifier u.name = true)
    (h : w.HasCompiled i u source helpers s c t) :
    (w.generate u source helpers).outcome s =
      ((Loading.loadUnit (some w.host) (w.rootIn s.around) u).outcome { s with files := t }).map
        fun loaded => ⟨u, source, c, loaded.handle⟩ := by
  obtain ⟨searchPath, hsearch⟩ := exists_of_isOk h.searched
  rw [(generate_eq w u source helpers s).1, (build_renewed w s hu h.renewable).1, complete,
    Run.outcome_bind, hsearch, final_searchPathFor]
  dsimp only
  rw [h.toolchain, Interpreter.toolchain]
  dsimp only
  rw [Run.outcome_bind, Run.outcome_withFiles, Run.final_withFiles, h.compiled]
  dsimp only
  rw [if_pos h.success, Run.outcome_bind]
  cases (Loading.loadUnit (some w.host) (w.rootIn s.around) u).outcome { s with files := t } <;> rfl

/-- All views of the compiled files of a unit agree, once its sources have been compiled. There is an
    order of the helpers that were handed in, in which the script reads the sources, each with its
    compiled file, from the arguments it is given; and the compiled files of these pairs are the ones
    that the outcome lists, the ones that are found for the unit, and, with that of the unit last, the
    ones that its modules come from when they are loaded, all in this order. They are different files,
    and none of them was there before. -/
theorem compiled_files_agree (hu : Text.isIdentifier u.name = true) (hoptions : i.options = [])
    (hhelpers : ∀ h ∈ helpers, '.' ∉ h.1.toList ∧ '/' ∉ h.1.toList)
    (honce : (helpers.map Prod.fst).Nodup) (ht : s.files.Ordered)
    (h : w.HasCompiled i u source helpers s c t) :
    let root := w.rootIn s.around
    let cwd := s.around.cwd
    let before := renewed s.files cwd root u source helpers
    ∃ names : List String, names.Perm (helpers.map Prod.fst) ∧
      names.Pairwise (helperFile u.name · sourceSuffix ≤ helperFile u.name · sourceSuffix) ∧
      let sources := unitFiles root u names sourceSuffix
      let compiled := unitFiles root u names artifactSuffix
      (Interpreter.sourcesBeside before cwd (sourcePath root u) = .ok sources ∧
        ∀ script, Interpreter.pairsRead (Interpreter.scriptArguments
            (i.command s.around script sources (directory root u))) =
          (sources.zip compiled).map fun (source, artifact) => (source.text, artifact.text)) ∧
      c.artifacts = compiled ∧
      artifacts t cwd u (directory root u) = .ok compiled ∧
      (∀ context : Context, context.root = root → context.space = u.space →
        context.closed = false →
        Loading.loadedNames context { s with files := t } u =
            (compiled.rotate 1).map (fun p => u.space ++ "." ++ p.stem) ∧
          ∀ p ∈ compiled,
            context.source? t cwd (u.space ++ "." ++ p.stem) = .ok (some (.artifact p))) ∧
      (compiled.map (Path.goal cwd)).Nodup ∧
      (∀ p ∈ compiled, before.node? (p.goal cwd) = none) ∧
      (w.generate u source helpers).outcome s =
        ((Loading.loadUnit (some w.host) root u).outcome { s with files := t }).map
          fun loaded => ⟨u, source, c, loaded.handle⟩ := by
  have hslashes : ∀ h ∈ helpers, '/' ∉ h.1.toList := fun h hh => (hhelpers h hh).2
  have hscript : i.settings.errand = .script := by
    rw [Interpreter.settings, hoptions]
    rfl
  obtain ⟨t₁, -, hstaged, hpurged⟩ := h.renewable.stages hu
  have hhas := hasSources_renewed hu hslashes h.renewable
  obtain ⟨names, hperm, hsorted, hbeside, hlisted, hartifacts⟩ := hhas.compiled hu hslashes hscript
    (hpurged.ordered (hstaged.ordered ht)) hpurged.cleared honce h.compiled h.success
  have hnames : ∀ name ∈ names, '.' ∉ name.toList ∧ '/' ∉ name.toList := by
    intro name hname
    obtain ⟨handed, hhanded, rfl⟩ := List.mem_map.mp (hperm.mem_iff.mp hname)
    exact hhelpers handed hhanded
  have hnodup : names.Nodup := hperm.nodup_iff.mpr honce
  have hglob := hartifacts.glob_eq hu hnodup (fun name hname => (hnames name hname).1) hsorted
  refine ⟨names, hperm, hsorted, ⟨hbeside, fun script => ?_⟩, hlisted,
    hartifacts.artifacts_eq hu hglob, fun context hroot hspace hclosed => ⟨?_, fun p hp => ?_⟩,
    nodup_goals_unitFiles hu s.around.cwd hnodup mem_artifactSuffix, fun p hp => ?_,
    h.outcome_generate hu⟩
  · rw [Interpreter.pairsRead_command hoptions,
      targets_unitFiles hu _ fun name hname => (hnames name hname).2]
  · exact HasArtifacts.loadedNames_eq (s := { s with files := t }) hu hglob hroot hspace
  · exact hartifacts.source?_eq hu hnames hroot hspace hclosed hp
  · obtain ⟨stem, hstem, -, hgoal⟩ := goal_of_mem_unitFiles hu s.around.cwd
      mem_artifactSuffix hp
    rw [hgoal]
    exact hpurged.cleared _ (isArtifactPlace_of_stem hstem)

end

/-- Sources of helpers with names that follow each other in an order of their own. -/
def orderedHelpers : List (String × String) := [("a", "x = 1\n"), ("a-b", "y = 2\n")]

/-- A state in which there has been a unit of the name. -/
def clutteredLoom : Loom := { world := {}, files := clutteredTree }

/-- In it the unit is compiled with these helpers. -/
def orderedCompiled : Except Fault Compilation × Tree :=
  Interpreter.compile {}
    (renewed clutteredTree clutteredLoom.around.cwd (plainWeaver.rootIn clutteredLoom.around)
      fixedUnit "a = 1\n" orderedHelpers)
    clutteredLoom.around (sourcePath (plainWeaver.rootIn clutteredLoom.around) fixedUnit)
    (directory (plainWeaver.rootIn clutteredLoom.around) fixedUnit)

/-- Files of an earlier unit of the name are not listed, and a hyphen comes before a dot. -/
theorem compiled_files_agree_clutteredLoom :
    ∃ c, plainWeaver.HasCompiled {} fixedUnit "a = 1\n" orderedHelpers clutteredLoom c
        orderedCompiled.2 ∧
      c.artifacts.map Path.text =
        ["/stage/woven/fixed.pyc", "/stage/woven/fixed__a-b.pyc", "/stage/woven/fixed__a.pyc"] ∧
      artifacts orderedCompiled.2 clutteredLoom.around.cwd fixedUnit
        (directory (plainWeaver.rootIn clutteredLoom.around) fixedUnit) = .ok c.artifacts := by
  obtain ⟨c, hcompiled, hc⟩ : ∃ c, orderedCompiled.1 = .ok c ∧
      (c.success, c.artifacts.map Path.text) = (true,
        ["/stage/woven/fixed.pyc", "/stage/woven/fixed__a-b.pyc", "/stage/woven/fixed__a.pyc"]) :=
    exists_of_map_eq_some (by decide +kernel)
  obtain ⟨hsuccess, htexts⟩ := Prod.mk.inj hc
  have hrenewable : Renewable clutteredLoom.files clutteredLoom.around.cwd
      (plainWeaver.rootIn clutteredLoom.around) fixedUnit "a = 1\n" orderedHelpers :=
    ⟨by decide +kernel, by decide +kernel, List.isEmpty_iff.mp (by decide +kernel)⟩
  have hpair : orderedCompiled = (.ok c, orderedCompiled.2) := by rw [← hcompiled]
  have h : plainWeaver.HasCompiled {} fixedUnit "a = 1\n" orderedHelpers clutteredLoom c
      orderedCompiled.2 :=
    ⟨rfl, hrenewable, by decide +kernel, hpair, hsuccess⟩
  have hunit : Text.isIdentifier fixedUnit.name = true := by decide +kernel
  have hhelpers : ∀ h ∈ orderedHelpers, '.' ∉ h.1.toList ∧ '/' ∉ h.1.toList := by decide +kernel
  have honce : (orderedHelpers.map Prod.fst).Nodup := by decide +kernel
  have hcluttered : clutteredLoom.files.Ordered := ⟨by decide +kernel, by decide +kernel⟩
  obtain ⟨names, -, -, -, hlisted, hfound, -⟩ :=
    compiled_files_agree hunit rfl hhelpers honce hcluttered h
  exact ⟨c, h, htexts, hlisted ▸ hfound⟩

end Weaver

end FragmentWeaver
