import FragmentWeaver.Proofs.Rebuilding

/-!
# What a failed compilation leaves

The sources of a unit are compiled one after the other, and each one that is accepted is written at
once; a source that is rejected later does not take it back. So when the sources of a unit are not all
accepted, the outcome lists no compiled files, but those of the accepted sources are there.
-/

namespace FragmentWeaver

open Files Staging

namespace WarningRules

/-- Remarks are a reason to refuse a source if one of them is, whatever has been shown before. -/
theorem shown?_eq_none_iff {rules : WarningRules} {source : Path} {lines : List String}
    {remarks : List Script.Remark} (told : List String) :
    rules.shown? source lines told remarks = none ↔
      ∃ m ∈ remarks, rules.reaction (moduleOf source) m = .refused := by
  induction remarks generalizing told with
  | nil => simp [shown?]
  | cons m rest ih =>
      simp only [shown?, List.mem_cons, or_and_right, exists_or, exists_eq_left]
      cases rules.reaction (moduleOf source) m with
      | refused => simp
      | ignored => simp [ih]
      | shown =>
          rw [← ih told]
          cases rules.shown? source lines told rest <;> simp
      | shownOnce =>
          dsimp only
          split
          · simp [ih]
          · rw [← ih (m.text :: told)]
            cases rules.shown? source lines (m.text :: told) rest <;> simp

end WarningRules

namespace Files.Tree

variable {t t' : Tree} {cwd : List String} {p q : Path}

/-- What one file holds can be read as before when another one has been written. -/
theorem contents_of_write {c d : Contents} (h : t.write cwd p c = .ok t')
    (hne : q.goal cwd ≠ p.goal cwd) (hq : t.contents cwd q = .ok d) :
    t'.contents cwd q = .ok d := by
  obtain ⟨hfine, hway, hnode⟩ := contents_eq_ok_iff.mp hq
  refine contents_eq_ok_iff.mpr ⟨hfine, (sameDirectories_write h).holds hway, ?_⟩
  obtain ⟨hplace, rfl⟩ := write_eq_ok h
  rw [node?_put (ne_nil_of_node? hplace), if_neg hne, hnode]

/-- Making a directory that is there changes nothing. -/
theorem makeDirectory_there (ht : t.Ordered) (h : t.isDirectory cwd p = true) :
    (t.makeDirectory cwd p).2 = t := by
  have hmakes := makes_directory t cwd p
  refine (hmakes.ordered ht).ext ht fun q => ?_
  rcases hmakes.grown q with hsame | ⟨htrail, hnone, -⟩
  · exact hsame
  · rw [(isDirectory_iff.mp h).2 q htrail] at hnone
    cases hnone

end Files.Tree

namespace Interpreter

/-- Is a source accepted that holds some bytes? It has to keep the rules of the language, and no
    remark about it may be a reason to refuse it. -/
def Manner.accepts (manner : Manner) (source : Path) (bytes : List UInt8) : Bool :=
  match Script.compile bytes source.text manner.checks manner.digits with
  | .error _ => false
  | .ok (_, remarks) =>
      remarks.all fun m => manner.rules.reaction (WarningRules.moduleOf source) m ≠ .refused

section

variable {t t' : Tree} {cwd : List String} {manner : Manner}

/-- A source that can be read is accepted and its compiled file written, or it is not accepted; else
    files are in the way. -/
theorem cases_compileOne {source : Path} {c : Contents} (h : t.contents cwd source = .ok c)
    (manner : Manner) (told : List String) (target : Path) :
    (∃ shown a t', compileOne t cwd manner told source target = .ok (shown, t') ∧
        t.write cwd target (.artifact a) = .ok t' ∧ manner.accepts source c.asBytes = true) ∨
      (∃ f, compileOne t cwd manner told source target = .error (.source f) ∧
        manner.accepts source c.asBytes = false) ∨
      ∃ cause, compileOne t cwd manner told source target = .error (.file cause) := by
  rw [compileOne]
  split
  · exact .inr (.inr ⟨_, rfl⟩)
  · rw [h, Manner.accepts]
    dsimp only
    cases Script.compile c.asBytes source.text manner.checks manner.digits with
    | error f => exact .inr (.inl ⟨f, rfl, rfl⟩)
    | ok compiled =>
        obtain ⟨a, remarks⟩ := compiled
        dsimp only
        cases hshown : manner.rules.shown? source (sourceLines c.asBytes) told remarks with
        | none =>
            obtain ⟨m, hm, hrefused⟩ := (WarningRules.shown?_eq_none_iff told).mp hshown
            exact .inr (.inl ⟨_, rfl, by simpa using ⟨m, hm, hrefused⟩⟩)
        | some shown =>
            have hall : ∀ m ∈ remarks,
                manner.rules.reaction (WarningRules.moduleOf source) m ≠ .refused := by
              intro m hm hrefused
              rw [(WarningRules.shown?_eq_none_iff told).mpr ⟨m, hm, hrefused⟩] at hshown
              cases hshown
            cases hwrite : t.write cwd target (.artifact a) with
            | ok t' => exact .inl ⟨shown, a, t', by simp, hwrite, by simpa using hall⟩
            | error f => cases f <;> exact .inr (.inr ⟨_, rfl⟩)

/-- What a run over several sources leaves. Only compiled files of accepted sources are new; files are
    written over at most; unless files were in the way, every accepted source has its compiled file;
    and if nothing is rejected, all sources are accepted. -/
structure Leaves (cwd : List String) (accepted : Path → Bool) (pairs : List (Path × Path)) (t : Tree)
    (run : Yield × Tree) : Prop where
  ordered : t.Ordered → run.2.Ordered
  directories : t.SameDirectories run.2
  changed : ∀ q, run.2.node? q = t.node? q ∨
    ∃ pair ∈ pairs, accepted pair.1 = true ∧ pair.2.goal cwd = q
  files : ∀ q, (∃ c, t.node? q = some (.file c)) → ∃ c, run.2.node? q = some (.file c)
  written : (∀ x ∈ run.1.rejected, ∃ f, x.2 = .source f) → ∀ pair ∈ pairs,
    accepted pair.1 = true → ∃ c, run.2.node? (pair.2.goal cwd) = some (.file c)
  all : run.1.rejected = [] → ∀ pair ∈ pairs, accepted pair.1 = true

variable {accepted : Path → Bool} {pair : Path × Path} {pairs : List (Path × Path)}
  {run : Yield × Tree}

/-- Before the sources that are left one has been accepted, and its compiled file written. -/
theorem Leaves.cons_written {a : Script.Artifact} {shown : List String}
    (hwrite : t.write cwd pair.2 (.artifact a) = .ok t') (haccepted : accepted pair.1 = true)
    (h : Leaves cwd accepted pairs t' run) :
    Leaves cwd accepted (pair :: pairs) t ({ run.1 with shown := shown }, run.2) := by
  obtain ⟨hplace, rfl⟩ := Tree.write_eq_ok hwrite
  have hroot := Tree.ne_nil_of_node? hplace
  refine ⟨fun ht => h.ordered (ht.put hroot _), (Tree.sameDirectories_write hwrite).trans
    h.directories, fun q => ?_, fun q hq => h.files q ?_, fun hall other hother hacc => ?_,
    fun hnone => List.forall_mem_cons.mpr ⟨haccepted, h.all hnone⟩⟩
  · rcases h.changed q with hsame | ⟨other, hother, hacc, hgoal⟩
    · by_cases hq : q = pair.2.goal cwd
      · exact .inr ⟨pair, List.mem_cons_self, haccepted, hq.symm⟩
      · rw [hsame, Tree.node?_put hroot, if_neg hq]
        exact .inl rfl
    · exact .inr ⟨other, List.mem_cons_of_mem _ hother, hacc, hgoal⟩
  · rw [Tree.node?_put hroot]
    split
    · exact ⟨_, rfl⟩
    · exact hq
  · rcases List.mem_cons.mp hother with rfl | hother
    · exact h.files _ ⟨_, by rw [Tree.node?_put hroot, if_pos rfl]⟩
    · exact h.written hall other hother hacc

/-- Before the sources that are left one has been rejected. -/
theorem Leaves.cons_rejected {x : String × Rejection} (hrejected : accepted pair.1 = false)
    (h : Leaves cwd accepted pairs t run) :
    Leaves cwd accepted (pair :: pairs) t
      ({ run.1 with rejected := x :: run.1.rejected }, run.2) := by
  refine ⟨h.ordered, h.directories, fun q => ?_, h.files, fun hall other hother hacc => ?_, nofun⟩
  · exact (h.changed q).imp_right fun ⟨other, hother, hrest⟩ =>
      ⟨other, List.mem_cons_of_mem _ hother, hrest⟩
  · rcases List.mem_cons.mp hother with rfl | hother
    · rw [hrejected] at hacc
      cases hacc
    · exact h.written (fun y hy => hall y (List.mem_cons_of_mem _ hy)) other hother hacc

/-- Compiling several sources that can be read, in files that are not their compiled ones. -/
theorem leaves_compileAll (told : List String) {held : Path → Contents}
    (hread : ∀ pair ∈ pairs, t.contents cwd pair.1 = .ok (held pair.1))
    (hapart : ∀ pair ∈ pairs, ∀ other ∈ pairs, pair.1.goal cwd ≠ other.2.goal cwd) :
    Leaves cwd (fun p => manner.accepts p (held p).asBytes) pairs t
      (compileAll t cwd manner told pairs) := by
  induction pairs generalizing t told with
  | nil =>
      exact ⟨id, .refl t, fun _ => .inl rfl, fun _ => id,
        fun _ pair hpair => absurd hpair List.not_mem_nil,
        fun _ pair hpair => absurd hpair List.not_mem_nil⟩
  | cons pair pairs ih =>
      obtain ⟨source, target⟩ := pair
      have hfirst := hread _ List.mem_cons_self
      have hapart' : ∀ pair ∈ pairs, ∀ other ∈ pairs, pair.1.goal cwd ≠ other.2.goal cwd :=
        fun p hp q hq => hapart p (List.mem_cons_of_mem _ hp) q (List.mem_cons_of_mem _ hq)
      rw [compileAll]
      rcases cases_compileOne hfirst manner told target with
        ⟨⟨shown, told'⟩, a, t', hone, hwrite, haccepted⟩ | ⟨f, hone, hrejected⟩ | ⟨cause, hone⟩
      · have hrest := ih told' (t := t') (fun p hp => Tree.contents_of_write hwrite
          (hapart p (List.mem_cons_of_mem _ hp) _ List.mem_cons_self)
          (hread p (List.mem_cons_of_mem _ hp))) hapart'
        rw [hone]
        exact hrest.cons_written hwrite haccepted
      · rw [hone]
        exact (ih told (fun p hp => hread p (List.mem_cons_of_mem _ hp)) hapart').cons_rejected
          hrejected
      · rw [hone]
        refine ⟨id, .refl t, fun _ => .inl rfl, fun _ => id, fun hall => ?_, fun hnone => ?_⟩
        · obtain ⟨f, hf⟩ := hall _ List.mem_cons_self
          cases hf
        · cases hnone

end

/-- The manner in which an interpreter compiles that keeps numbers to so many digits. -/
def manner (i : Interpreter) (around : Surroundings) (digits : Nat) : Manner :=
  ⟨i.keepsChecks around, digits, (WarningRules.read (i.settings.allWarnings around)).1⟩

/-- Does an interpreter accept a source? -/
def accepts (i : Interpreter) (around : Surroundings) (source : Path) (text : String) : Bool :=
  match i.settings.digits around with
  | .error _ => false
  | .ok digits => (i.manner around digits).accepts source (Contents.text text).asBytes

section

variable {i : Interpreter} {t t' : Tree} {around : Surroundings} {source directory : Path}
  {c : Compilation}

/-- How carrying out the script ends: it fails before it starts, or it has compiled the sources, and
    that went well if none was rejected. -/
inductive Ends (i : Interpreter) (around : Surroundings) (directory : Path) (t : Tree)
    (sources : List Path) (c : Compilation) (t' : Tree) : Prop where
  | early (failed : c.success = false) (artifacts : c.artifacts = []) (rejected : c.rejected = [])
      (same : t' = t)
  | compiled (digits : Nat) (y : Yield) (hdigits : i.settings.digits around = .ok digits)
      (hrun : compileAll t around.cwd (i.manner around digits) [] (targets sources directory) =
        (y, t'))
      (rejected : c.rejected = y.rejected) (success : c.success = true ↔ y.rejected = [])
      (artifacts : c.success = false → c.artifacts = [])
      (listed : c.success = true → c.artifacts = (targets sources directory).map Prod.snd)

theorem ends_carryOut {sources : List Path}
    (h : i.carryOut t around source directory sources = (c, t')) :
    Ends i around directory t sources c t' := by
  rw [carryOut] at h
  cases hdigits : i.settings.digits around with
  | error said =>
      rw [hdigits] at h
      obtain ⟨rfl, rfl⟩ := Prod.mk.inj h
      exact .early rfl rfl rfl rfl
  | ok digits =>
      rw [hdigits] at h
      dsimp only at h
      split at h
      · next hnone =>
          obtain ⟨rfl, rfl⟩ := Prod.mk.inj h
          have hnone := List.isEmpty_iff.mp hnone
          exact .compiled digits _ hdigits rfl hnone.symm ⟨fun _ => hnone, fun _ => rfl⟩
            (fun hfailed => absurd hfailed.symm Bool.false_ne_true) fun _ => rfl
      · next hsome =>
          obtain ⟨rfl, rfl⟩ := Prod.mk.inj h
          have hsome := mt List.isEmpty_iff.mpr hsome
          exact .compiled digits _ hdigits rfl rfl
            ⟨fun hok => absurd hok Bool.false_ne_true, fun hnone => absurd hnone hsome⟩
            (fun _ => rfl) fun hok => absurd hok Bool.false_ne_true

theorem run_script (hscript : i.settings.errand = .script) (sources : List Path) :
    i.run t around source directory sources =
      i.carryOut t around source directory sources := by
  unfold run
  rw [hscript]

/-- An interpreter that is started for the script, where the directory for compiled files is there,
    ends as the script does; or it fails before that. -/
theorem ends_compile (hscript : i.settings.errand = .script) (ht : t.Ordered)
    (hdirectory : t.isDirectory around.cwd directory = true)
    (h : i.compile t around source directory = (.ok c, t')) :
    ∃ sources, sourcesBeside t around.cwd source = .ok sources ∧
      Ends i around directory t sources c t' := by
  have hthere := Tree.makeDirectory_there ht hdirectory
  unfold compile at h
  cases hsources : sourcesBeside t around.cwd source with
  | error f => simp [hsources] at h
  | ok sources =>
      rw [hsources] at h
      refine ⟨sources, rfl, ?_⟩
      rcases hmade : t.makeDirectory around.cwd directory with ⟨r, t₁⟩
      rw [hmade] at hthere h
      obtain rfl : t₁ = t := hthere
      have hnothing {reason : String}
          (h : ((.ok (.failed source reason), t₁) : Except Fault Compilation × Tree) =
            (.ok c, t')) :
          Ends i around directory t₁ sources c t' := by
        obtain ⟨hc, rfl⟩ := Prod.mk.inj h
        obtain rfl := Except.ok.inj hc
        exact .early rfl rfl rfl rfl
      cases r with
      | error f =>
          cases f with
          | file f => exact hnothing h
          | _ => cases (Prod.mk.inj h).1
      | ok _ =>
          dsimp only at h
          cases hstart : start t₁ around (i.programIn around) with
          | error f =>
              rw [hstart] at h
              exact hnothing h
          | ok _ =>
              rw [hstart] at h
              dsimp only at h
              cases hexpires : i.expires with
              | error f =>
                  rw [hexpires] at h
                  cases (Prod.mk.inj h).1
              | ok limit =>
                  rw [hexpires] at h
                  cases limit with
                  | some l => exact hnothing h
                  | none =>
                      dsimp only at h
                      rw [run_script hscript] at h
                      exact ends_carryOut
                        (Prod.ext (Except.ok.inj (Prod.mk.inj h).1) (Prod.mk.inj h).2)

end

end Interpreter

namespace Staging

section

variable {t : Tree} {cwd : List String} {root : Path} {u : UnitId} {source : String}
  {helpers : List (String × String)}

theorem written_of_mem {files : List (Path × String)}
    (honce : (files.map fun file => file.1.goal cwd).Nodup) {file : Path × String}
    (hfile : file ∈ files) : written cwd (file.1.goal cwd) files = some file.2 := by
  induction files with
  | nil => cases hfile
  | cons first rest ih =>
      obtain ⟨hfirst, honce⟩ := List.nodup_cons.mp honce
      rw [written]
      rcases List.mem_cons.mp hfile with rfl | hfile
      · have hrest : written cwd (file.1.goal cwd) rest = none := by
          by_contra h
          obtain ⟨other, hother, hgoal⟩ := written_ne_none h
          exact hfirst (List.mem_map.mpr ⟨other, hother, hgoal⟩)
        rw [hrest, if_pos rfl]
        rfl
      · rw [ih honce hfile]
        rfl

variable (hu : Text.isIdentifier u.name = true) (hhelpers : ∀ h ∈ helpers, '/' ∉ h.1.toList)

include hu hhelpers

/-- The sources of a unit go to different places, when no helper is named twice. -/
theorem nodup_goals_sources (honce : (helpers.map Prod.fst).Nodup) :
    ((sources root u source helpers).map fun file => file.1.goal cwd).Nodup := by
  have hgoals : (helpers.map fun h => (helperPath root u h.1).goal cwd) =
      (helpers.map Prod.fst).map fun helper =>
        (directory root u).goal cwd ++ [helperFile u.name helper sourceSuffix] := by
    rw [List.map_map]
    exact List.map_congr_left fun h hh => goal_helperPath hu (hhelpers h hh)
  simp only [sources, List.map_cons, List.map_map, Function.comp_def]
  rw [hgoals, goal_sourcePath hu, List.nodup_cons]
  refine ⟨fun hmem => ?_, honce.map fun helper other h => ?_⟩
  · obtain ⟨helper, -, heq⟩ := List.mem_map.mp hmem
    exact own_ne_helperFile u.name mem_sourceSuffix helper sourceSuffix
      (List.singleton_inj.mp (List.append_cancel_left heq)).symm
  · exact helperFile_injective (List.singleton_inj.mp (List.append_cancel_left h))

omit hu hhelpers in
/-- A tree has the sources of a unit, in paths that a file system can work with, and no sources of other
    helpers of its name. -/
structure HasSources (cwd : List String) (root : Path) (u : UnitId) (files : List (Path × String))
    (t : Tree) : Prop where
  placed : t.isDirectory cwd (directory root u) = true
  fine : ∀ file ∈ files, file.1.Fine
  there : ∀ q text, written cwd q files = some text → t.node? q = some (.file (.text text))
  cleared : ∀ q, IsHelperPlace cwd root u sourceSuffix q → written cwd q files = none →
    t.node? q = none

omit hhelpers in
/-- Once a unit has been staged, its sources are there. -/
theorem hasSources_stage {path : Path} {t₁ : Tree}
    (h : stage t cwd root u source helpers = (.ok path, t₁)) :
    HasSources cwd root u (sources root u source helpers) t₁ := by
  have hstaged := (stage_ok hu h).2
  obtain ⟨-, t₂, stale, t₃, -, -, -, hwrite⟩ := stage_eq_ok h
  exact ⟨hstaged.directory, fine_of_writeAll (by rw [hwrite]), hstaged.sources, hstaged.cleared⟩

/-- Purging deletes no sources. -/
theorem HasSources.purged {t₂ : Tree}
    (h : HasSources cwd root u (sources root u source helpers) t)
    (hpurged : Purged cwd root u t t₂) :
    HasSources cwd root u (sources root u source helpers) t₂ := by
  refine ⟨hpurged.directory, h.fine, fun q text hq => ?_, fun q hq hnone => ?_⟩
  · rw [hpurged.kept q fun hartifact => ?_]
    · exact h.there q text hq
    · rw [written_artifact hu hhelpers hartifact] at hq
      cases hq
  · by_cases hartifact : IsArtifactPlace cwd root u q
    · exact hpurged.cleared q hartifact
    · rw [hpurged.kept q hartifact]
      exact h.cleared q hq hnone

theorem hasSources_renewed (h : Renewable t cwd root u source helpers) :
    HasSources cwd root u (sources root u source helpers)
      (renewed t cwd root u source helpers) := by
  obtain ⟨t₁, hstage, -, hpurged⟩ := h.stages hu
  exact (hasSources_stage hu hstage).purged hu hhelpers hpurged

/-- The sources of a unit that are there can be read. -/
theorem HasSources.contents (h : HasSources cwd root u (sources root u source helpers) t)
    (honce : (helpers.map Prod.fst).Nodup) {file : Path × String}
    (hfile : file ∈ sources root u source helpers) :
    t.contents cwd file.1 = .ok (.text file.2) := by
  obtain ⟨stem, hstem, hpath, -⟩ := stem_of_mem_sources hu hhelpers hfile
  refine Tree.contents_eq_ok_iff.mpr ⟨h.fine file hfile, ?_, ?_⟩
  · rw [hpath, Path.way_child]
    exact (Tree.isDirectory_iff.mp h.placed).2
  · exact h.there _ _ (written_of_mem (nodup_goals_sources hu hhelpers honce) hfile)

/-- Where the sources of a unit are, those of its helpers belong to the helpers that were handed in. -/
theorem HasSources.node?_helper
    (h : HasSources cwd root u (sources root u source helpers) t) (helper : String) :
    t.node? ((directory root u).goal cwd ++ [helperFile u.name helper sourceSuffix]) ≠ none ↔
      helper ∈ helpers.map Prod.fst := by
  refine Iff.trans ⟨mt (h.cleared _ ⟨helper, rfl⟩), fun hwritten => ?_⟩
    (written_helper_iff hu hhelpers helper)
  obtain ⟨text, htext⟩ := Option.ne_none_iff_exists'.mp hwritten
  rw [h.there _ text htext]
  exact Option.some_ne_none _

/-- The sources that are compiled for a unit are its own. -/
theorem HasSources.mem_beside (h : HasSources cwd root u (sources root u source helpers) t)
    {beside : List Path}
    (hbeside : Interpreter.sourcesBeside t cwd (sourcePath root u) = .ok beside) {p : Path} :
    p ∈ beside ↔ ∃ file ∈ sources root u source helpers, file.1 = p := by
  constructor
  · intro hp
    rcases Interpreter.mem_sourcesBeside hu hbeside hp with rfl | ⟨helper, rfl, hthere⟩
    · rw [← sourcePath_eq hu]
      exact ⟨(sourcePath root u, source), mem_sources.mpr (.inl rfl), rfl⟩
    · obtain ⟨handed, hhanded, rfl⟩ :=
        List.mem_map.mp ((h.node?_helper hu hhelpers helper).mp hthere)
      rw [← helperPath_eq hu (hhelpers handed hhanded)]
      exact ⟨(helperPath root u handed.1, handed.2),
        mem_sources.mpr (.inr ⟨handed, hhanded, rfl⟩), rfl⟩
  · rintro ⟨file, hfile, rfl⟩
    rw [Interpreter.sourcesBeside, sourcePath_eq hu, Path.parent_child,
      stem_child (ne_empty_of_isIdentifier hu) mem_sourceSuffix] at hbeside
    cases hglob : t.glob cwd (directory root u) (helperPattern u.name sourceSuffix) with
    | error f => simp [hglob, bind, Except.bind] at hbeside
    | ok found =>
        rw [hglob] at hbeside
        obtain rfl := Except.ok.inj hbeside
        rcases mem_sources.mp hfile with rfl | ⟨handed, hhanded, rfl⟩
        · dsimp only
          rw [← sourcePath_eq hu]
          exact List.mem_cons_self
        · dsimp only
          rw [helperPath_eq hu (hhelpers handed hhanded)]
          exact List.mem_cons_of_mem _ (mem_glob hu mem_sourceSuffix hglob h.placed
            ((h.node?_helper hu hhelpers handed.1).mpr (List.mem_map_of_mem hhanded)))

omit hhelpers in
/-- The compiled files that are found are those that are there. -/
theorem artifacts_found (ht : t.Ordered) (hdirectory : t.isDirectory cwd (directory root u) = true)
    (hshort : ((directory root u).child (u.name ++ artifactSuffix)).Short) :
    ∃ found, artifacts t cwd u (directory root u) = .ok found ∧ ∀ p, p ∈ found ↔
      ∃ name, p = (directory root u).child name ∧
        IsArtifactPlace cwd root u ((directory root u).goal cwd ++ [name]) ∧
        t.node? ((directory root u).goal cwd ++ [name]) ≠ none := by
  obtain ⟨found, hfound, -⟩ := artifacts_isOk hu ht hdirectory hshort
  refine ⟨found, hfound, fun p => ⟨fun hp => ?_, ?_⟩⟩
  · obtain ⟨name, hpath, -, hplace, hnode⟩ := exists_of_mem_artifacts hu hdirectory hfound hp
    exact ⟨name, hpath, hplace, hnode⟩
  · rintro ⟨name, rfl, hplace, hnode⟩
    obtain ⟨p, hp, hgoal⟩ := List.mem_map.mp (mem_artifacts hu hdirectory hfound hplace hnode)
    obtain ⟨other, rfl, hname, -⟩ := exists_of_mem_artifacts hu hdirectory hfound hp
    rw [Path.goal_child _ _ (hname.ne_up hu)] at hgoal
    rwa [List.singleton_inj.mp (List.append_cancel_left hgoal)] at hp

omit hhelpers in
/-- Purging looks for the compiled file of the unit, whose path is therefore not too long. -/
theorem short_of_renewable (h : Renewable t cwd root u source helpers) :
    ((directory root u).child (u.name ++ artifactSuffix)).Short := by
  obtain ⟨t₁, hstage, hstaged, -⟩ := h.stages hu
  have hway := (Tree.isDirectory_iff.mp hstaged.directory).2
  have hpurged := h.purged
  rw [hstage, purge] at hpurged
  dsimp only at hpurged
  cases hartifacts : artifacts t₁ cwd u (directory root u) with
  | error f =>
      rw [hartifacts] at hpurged
      cases hpurged
  | ok found =>
      rw [artifacts, artifactPath_eq hu] at hartifacts
      cases hprobe : t₁.probe cwd ((directory root u).child (u.name ++ artifactSuffix)) with
      | error f =>
          simp only [hprobe, bind, Except.bind] at hartifacts
          split at hartifacts <;> cases hartifacts
      | ok own =>
          refine Tree.short_of_probe ?_ hprobe
          rw [Path.way_child]
          exact hway

/-- Compiling the sources of a unit writes compiled files of those that are accepted, and of all of
    them unless files are in the way. -/
theorem HasSources.leaves {i : Interpreter} {around : Surroundings}
    (h : HasSources around.cwd root u (sources root u source helpers) t)
    (honce : (helpers.map Prod.fst).Nodup) {digits : Nat}
    (hdigits : i.settings.digits around = .ok digits) {beside : List Path}
    (hbeside : Interpreter.sourcesBeside t around.cwd (sourcePath root u) = .ok beside) :
    ∃ accepted : Path → Bool,
      (∀ file ∈ sources root u source helpers, accepted file.1 = i.accepts around file.1 file.2) ∧
      Interpreter.Leaves around.cwd accepted (Interpreter.targets beside (directory root u)) t
        (Interpreter.compileAll t around.cwd (i.manner around digits) []
          (Interpreter.targets beside (directory root u))) := by
  let held (p : Path) : Contents := (t.contents around.cwd p).toOption.getD default
  have hread {file : Path × String} (hfile : file ∈ sources root u source helpers) :
      t.contents around.cwd file.1 = .ok (.text file.2) :=
    h.contents hu hhelpers honce hfile
  have hheld {file : Path × String} (hfile : file ∈ sources root u source helpers) :
      held file.1 = .text file.2 := by
    simp only [held, hread hfile, Except.toOption, Option.getD_some]
  -- Every pair belongs to one of the sources that were handed in.
  have hpair {pair : Path × Path} (hp : pair ∈ Interpreter.targets beside (directory root u)) :
      ∃ file ∈ sources root u source helpers,
        pair = (file.1, artifactFor (directory root u) file.1) := by
    obtain ⟨p, hmem, rfl⟩ := List.mem_map.mp hp
    obtain ⟨file, hfile, rfl⟩ := (h.mem_beside hu hhelpers hbeside).mp hmem
    exact ⟨file, hfile, rfl⟩
  refine ⟨fun p => (i.manner around digits).accepts p (held p).asBytes, fun file hfile => ?_,
    Interpreter.leaves_compileAll [] (fun pair hp => ?_) fun pair hp other hother => ?_⟩
  · dsimp only
    rw [hheld hfile, Interpreter.accepts, hdigits]
  · obtain ⟨file, hfile, rfl⟩ := hpair hp
    exact (hread hfile).trans (congrArg Except.ok (hheld hfile).symm)
  · obtain ⟨file, hfile, rfl⟩ := hpair hp
    obtain ⟨file', hfile', rfl⟩ := hpair hother
    obtain ⟨stem, hstem, hpath, -⟩ := stem_of_mem_sources hu hhelpers hfile
    obtain ⟨other, hother, -, hartifact⟩ := stem_of_mem_sources hu hhelpers hfile'
    dsimp only
    rw [hpath, hartifact, goal_child_stem hu hstem mem_sourceSuffix,
      goal_child_stem hu hother mem_artifactSuffix]
    intro heq
    exact append_sourceSuffix_ne _ _ (List.singleton_inj.mp (List.append_cancel_left heq))

omit hhelpers in
/-- What a failed compilation leaves of the compiled files of a unit: those of accepted sources only;
    none at all if no source was rejected; and if sources were rejected, and no files were in the way,
    those of all accepted sources. -/
theorem artifacts_of_failed {i : Interpreter} {around : Surroundings} {c : Compilation} {t' : Tree}
    (hnames : ∀ h ∈ helpers, Text.isIdentifier h.1 = true) (hscript : i.settings.errand = .script)
    (ht : t.Ordered) (honce : (helpers.map Prod.fst).Nodup)
    (h : Renewable t around.cwd root u source helpers)
    (hcompile : i.compile (renewed t around.cwd root u source helpers) around (sourcePath root u)
      (directory root u) = (.ok c, t'))
    (hfailed : c.success = false) :
    c.artifacts = [] ∧ ∃ found, artifacts t' around.cwd u (directory root u) = .ok found ∧
      (∀ p ∈ found, ∃ file ∈ sources root u source helpers,
        i.accepts around file.1 file.2 = true ∧ p = artifactFor (directory root u) file.1) ∧
      (c.rejected = [] → found = []) ∧
      (c.rejected ≠ [] → (∀ x ∈ c.rejected, ∃ f, x.2 = .source f) →
        ∀ file ∈ sources root u source helpers, i.accepts around file.1 file.2 = true →
          artifactFor (directory root u) file.1 ∈ found) := by
  have hhelpers := unslashed_helpers hnames
  obtain ⟨t₁, -, hstaged, hpurged⟩ := h.stages hu
  have hordered : (renewed t around.cwd root u source helpers).Ordered :=
    hpurged.ordered (hstaged.ordered ht)
  have hcleared {q : List String} (hq : IsArtifactPlace around.cwd root u q) :
      (renewed t around.cwd root u source helpers).node? q = none := hpurged.cleared q hq
  have hhas := hasSources_renewed hu hhelpers h
  have hshort := short_of_renewable hu h
  obtain ⟨beside, hbeside, hends⟩ :=
    Interpreter.ends_compile hscript hordered hpurged.directory hcompile
  cases hends with
  | early _ hlisted hnone hsame =>
      subst hsame
      obtain ⟨found, hfound, hmem⟩ := artifacts_found hu hordered hpurged.directory hshort
      have hempty : found = [] := by
        refine List.eq_nil_iff_forall_not_mem.mpr fun p hp => ?_
        obtain ⟨name, -, hplace, hnode⟩ := (hmem p).mp hp
        exact hnode (hcleared hplace)
      exact ⟨hlisted, found, hfound, by simp [hempty], fun _ => hempty,
        fun hsome => absurd hnone hsome⟩
  | compiled digits y hdigits hrun hrejected hsuccess hlisted =>
      have hsome : c.rejected ≠ [] := by
        rw [hrejected]
        intro hnone
        rw [hsuccess.mpr hnone] at hfailed
        cases hfailed
      obtain ⟨accepted, haccepted, hleaves⟩ := hhas.leaves hu hhelpers honce hdigits hbeside
      rw [hrun] at hleaves
      have hdirectory : t'.isDirectory around.cwd (directory root u) = true := by
        have hthere := Tree.isDirectory_iff.mp hpurged.directory
        exact Tree.isDirectory_iff.mpr ⟨hthere.1, hleaves.directories.holds hthere.2⟩
      obtain ⟨found, hfound, hmem⟩ :=
        artifacts_found hu (hleaves.ordered hordered) hdirectory hshort
      refine ⟨hlisted hfailed, found, hfound, fun p hp => ?_, fun hnone => absurd hnone hsome,
        fun _ hsources file hfile hacc => ?_⟩
      · obtain ⟨name, rfl, hplace, hnode⟩ := (hmem p).mp hp
        rcases hleaves.changed ((directory root u).goal around.cwd ++ [name]) with
          hsame | ⟨pair, hpair, hacc, hgoal⟩
        · rw [hsame, hcleared hplace] at hnode
          exact absurd rfl hnode
        · obtain ⟨source', hsource', rfl⟩ := List.mem_map.mp hpair
          obtain ⟨file, hfile, rfl⟩ := (hhas.mem_beside hu hhelpers hbeside).mp hsource'
          obtain ⟨stem, hstem, -, hartifact⟩ := stem_of_mem_sources hu hhelpers hfile
          rw [hartifact, goal_child_stem hu hstem mem_artifactSuffix] at hgoal
          refine ⟨file, hfile, (haccepted file hfile).symm.trans hacc, ?_⟩
          rw [hartifact, List.singleton_inj.mp (List.append_cancel_left hgoal)]
      · obtain ⟨stem, hstem, -, hartifact⟩ := stem_of_mem_sources hu hhelpers hfile
        have hmember := (hhas.mem_beside hu hhelpers hbeside).mpr ⟨file, hfile, rfl⟩
        obtain ⟨a, hnode⟩ := hleaves.written (fun x hx => hsources x (hrejected ▸ hx)) _
          (List.mem_map_of_mem hmember) ((haccepted file hfile).trans hacc)
        dsimp only at hnode
        rw [hartifact, goal_child_stem hu hstem mem_artifactSuffix] at hnode
        refine (hmem _).mpr ⟨_, hartifact, isArtifactPlace_of_stem hstem, ?_⟩
        rw [hnode]
        nofun

end

end Staging

namespace Weaver

section

variable {w : Weaver} {root : Path} {u : UnitId} {source : String}
  {helpers : List (String × String)} {s : Loom} {r : WovenUnit}

/-- When a unit comes out as not compiled, its files are left as the toolchain left them. -/
theorem complete_failed {path : Path} (hr : (w.complete root u source path).outcome s = .ok r)
    (hfailed : r.compilation.success = false) :
    ∃ searchPath,
      (w.toolchain.compile path searchPath (directory root u)).outcome s = .ok r.compilation ∧
        ((w.complete root u source path).final s).files =
          ((w.toolchain.compile path searchPath (directory root u)).final s).files := by
  unfold complete at hr ⊢
  rw [Run.outcome_bind, final_searchPathFor] at hr
  rw [Run.final_bind, final_searchPathFor]
  cases hpath : (w.searchPathFor path u).outcome s with
  | error f =>
      rw [hpath] at hr
      cases hr
  | ok searchPath =>
      rw [hpath] at hr
      dsimp only at hr ⊢
      refine ⟨searchPath, ?_⟩
      rw [Run.outcome_bind] at hr
      rw [Run.final_bind]
      cases hcompiled : (w.toolchain.compile path searchPath (directory root u)).outcome s with
      | error f =>
          rw [hcompiled] at hr
          cases hr
      | ok compiled =>
          rw [hcompiled] at hr
          dsimp only at hr ⊢
          cases hsuccess : compiled.success with
          | true =>
              rw [if_pos hsuccess, Run.outcome_bind] at hr
              split at hr
              · obtain rfl := Except.ok.inj hr
                rw [hsuccess] at hfailed
                cases hfailed
              · cases hr
          | false =>
              rw [if_neg (by rw [hsuccess]; nofun), Run.outcome_bind] at hr
              obtain rfl := Except.ok.inj hr
              exact ⟨rfl, rfl⟩

/-- What is left when a unit was generated and its compilation failed. The outcome lists no compiled
    files; those that are there belong to sources of the unit that the interpreter accepts. There are
    none if no source was rejected, so that nothing was compiled at all; but if sources were rejected,
    and no files were in the way, the compiled files of all accepted sources are there. -/
theorem generate_failed {i : Interpreter} (hw : w.toolchain = i.toolchain)
    (hscript : i.settings.errand = .script) (hu : Text.isIdentifier u.name = true)
    (hhelpers : ∀ h ∈ helpers, Text.isIdentifier h.1 = true)
    (honce : (helpers.map Prod.fst).Nodup) (ht : s.files.Ordered)
    (h : Renewable s.files s.around.cwd (w.rootIn s.around) u source helpers)
    (hr : (w.generate u source helpers).outcome s = .ok r)
    (hfailed : r.compilation.success = false) :
    let directory := Staging.directory (w.rootIn s.around) u
    let handed := sources (w.rootIn s.around) u source helpers
    let after := (w.generate u source helpers).final s
    r.compilation.artifacts = [] ∧
      ∃ found, artifacts after.files s.around.cwd u directory = .ok found ∧
        (∀ p ∈ found, ∃ file ∈ handed,
          i.accepts s.around file.1 file.2 = true ∧ p = artifactFor directory file.1) ∧
        (r.compilation.rejected = [] → found = []) ∧
        (r.compilation.rejected ≠ [] → (∀ x ∈ r.compilation.rejected, ∃ f, x.2 = .source f) →
          ∀ file ∈ handed, i.accepts s.around file.1 file.2 = true →
            artifactFor directory file.1 ∈ found) := by
  have hgenerate := generate_eq w u source helpers s
  have hbuild := build_renewed w s hu h
  obtain ⟨log, hdrop⟩ := final_dropUnclaimed u
    ((w.build (w.rootIn s.around) u source helpers).final s)
  rw [hgenerate.1, hbuild.1] at hr
  obtain ⟨searchPath, hcompiled, hfiles⟩ := complete_failed hr hfailed
  have hafter : ((w.generate u source helpers).final s).files =
      (i.compile (renewed s.files s.around.cwd (w.rootIn s.around) u source helpers) s.around
        (sourcePath (w.rootIn s.around) u) (directory (w.rootIn s.around) u)).2 := by
    rw [hgenerate.2, hdrop, hbuild.2, hfiles, hw]
    dsimp only [Interpreter.toolchain]
    rw [Run.final_withFiles]
  rw [hw] at hcompiled
  dsimp only [Interpreter.toolchain] at hcompiled
  rw [Run.outcome_withFiles] at hcompiled
  dsimp only at hcompiled ⊢
  rw [hafter]
  rcases hcompile : i.compile (renewed s.files s.around.cwd (w.rootIn s.around) u source helpers)
    s.around (sourcePath (w.rootIn s.around) u) (directory (w.rootIn s.around) u) with ⟨c, t'⟩
  rw [hcompile] at hcompiled
  obtain rfl : c = .ok r.compilation := hcompiled
  exact artifacts_of_failed hu hhelpers hscript ht honce h hcompile hfailed

end

/-- Sources of helpers, of which one keeps no rules. -/
def brokenHelper : List (String × String) := [("bad", "x = (")]

/-- A state in which there has been no unit yet. -/
def freshLoom : Loom := { world := {}, files := freshTree }

theorem renewable_brokenHelper :
    Renewable freshLoom.files freshLoom.around.cwd (plainWeaver.rootIn freshLoom.around) fixedUnit
      "a = 1\n" brokenHelper :=
  ⟨by decide +kernel, by decide +kernel, List.isEmpty_iff.mp (by decide +kernel)⟩

theorem exists_of_map_eq_some {ε α β : Type} {o : Except ε α} {f : α → β} {x : β}
    (h : o.toOption.map f = some x) : ∃ r, o = .ok r ∧ f r = x := by
  cases o with
  | error e => cases h
  | ok r => exact ⟨r, rfl, Option.some.inj h⟩

/-- A helper is rejected, and still the compiled file of the unit is there. -/
theorem generate_failed_brokenHelper :
    ∃ r found, (plainWeaver.generate fixedUnit "a = 1\n" brokenHelper).outcome freshLoom = .ok r ∧
      r.compilation.success = false ∧ r.compilation.artifacts = [] ∧
      artifacts ((plainWeaver.generate fixedUnit "a = 1\n" brokenHelper).final freshLoom).files
        freshLoom.around.cwd fixedUnit
        (directory (plainWeaver.rootIn freshLoom.around) fixedUnit) = .ok found ∧
      artifactFor (directory (plainWeaver.rootIn freshLoom.around) fixedUnit)
        (sourcePath (plainWeaver.rootIn freshLoom.around) fixedUnit) ∈ found := by
  obtain ⟨r, hr, hr'⟩ : ∃ r,
      (plainWeaver.generate fixedUnit "a = 1\n" brokenHelper).outcome freshLoom = .ok r ∧
        (r.compilation.success, r.compilation.rejected) =
          (false, [("fixed__bad.py", .source .malformed)]) :=
    exists_of_map_eq_some (by decide +kernel)
  obtain ⟨hfailed, hrejected⟩ := Prod.mk.inj hr'
  obtain ⟨hlisted, found, hfound, -, -, hwritten⟩ := generate_failed (w := plainWeaver) (i := {}) rfl
    (by decide +kernel) (by decide +kernel) (by decide +kernel) (by decide +kernel)
    ⟨by decide +kernel, by decide +kernel⟩ renewable_brokenHelper hr hfailed
  have hsome : r.compilation.rejected ≠ [] := by
    rw [hrejected]
    nofun
  have hsource : ∀ x ∈ r.compilation.rejected, ∃ f, x.2 = .source f := by
    rw [hrejected]
    exact List.forall_mem_singleton.mpr ⟨_, rfl⟩
  have hown := hwritten hsome hsource
    (sourcePath (plainWeaver.rootIn freshLoom.around) fixedUnit, "a = 1\n") List.mem_cons_self
    (by decide +kernel)
  exact ⟨r, found, hr, hfailed, hlisted, hfound, hown⟩

end Weaver

end FragmentWeaver
