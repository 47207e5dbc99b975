import FragmentWeaver.Proofs.Field
import FragmentWeaver.Proofs.Stageable
import FragmentWeaver.Proofs.Stopping

/-!
# The entries of a search path

A search for archives goes down a finite tree, name by name in their order; so it finds each archive
below the place it is started at once, and the archives stand in the order of their names from
there. It fails exactly when it comes to a path that is too long. A search path is cut into its
entries again at the colons; they are the first occurrences of what belongs on it.
-/

namespace FragmentWeaver

/-- What is joined begins with what its first pieces come to. -/
theorem Text.exists_join_append (sep : String) (pieces others : List String) :
    ∃ more, join sep (pieces ++ others) = join sep pieces ++ more := by
  induction pieces with
  | nil => exact ⟨join sep others, rfl⟩
  | cons piece pieces ih =>
      obtain ⟨more, hmore⟩ := ih
      cases pieces with
      | nil =>
          cases others with
          | nil => exact ⟨"", by simp⟩
          | cons other others =>
              refine ⟨sep ++ join sep (other :: others), ?_⟩
              rw [List.singleton_append, join_cons (by simp), join_singleton, String.append_assoc]
      | cons next pieces =>
          refine ⟨more, ?_⟩
          rw [List.cons_append, join_cons (by simp), hmore,
            join_cons (List.cons_ne_nil next pieces)]
          simp only [String.append_assoc]

namespace Files

/-- A path is short if one that goes on from it is. -/
theorem Path.Short.of_descend {p : Path} {names : List String} (h : (p.descend names).Short) :
    p.Short := by
  refine ⟨?_, fun n hn => h.2 n (List.mem_append_left names hn)⟩
  have hlong := h.1
  rw [Path.text] at hlong ⊢
  split
  · decide
  · next hdot =>
      have hnames : ¬((p.descend names).anchor = "" && (p.descend names).names.isEmpty) = true := by
        simp only [Bool.and_eq_true, List.isEmpty_iff, descend, List.append_eq_nil_iff] at hdot ⊢
        exact fun h => hdot ⟨h.1, h.2.1⟩
      obtain ⟨more, hmore⟩ := Text.exists_join_append "/" p.names names
      rw [if_neg hnames, descend, hmore, ← String.append_assoc, String.utf8ByteSize_append] at hlong
      exact lt_of_le_of_lt (Nat.le_add_right ..) hlong

/-- An archive has a name. -/
theorem Path.text_ne_empty {p : Path} (h : p.isArchive = true) : p.text ≠ "" := by
  have hname : p.name ≠ "" := by
    intro hname
    rw [isArchive, suffix, hname] at h
    exact absurd h (by decide)
  obtain ⟨c, hc⟩ : ∃ c, c ∈ p.name.toList :=
    List.exists_mem_of_ne_nil _ (mt String.toList_eq_nil_iff.mp hname)
  rw [text]
  split
  · decide
  · intro htext
    have hlast : p.name ∈ p.names := by
      rw [Path.name] at hname ⊢
      cases hnames : p.names.getLast? with
      | none => exact absurd (by rw [hnames]; rfl) hname
      | some last => exact List.mem_of_getLast? hnames
    have hjoined : c ∈ (Text.join "/" p.names).toList := by
      have hglued : c ∈ Text.glue ['/'] (p.names.map String.toList) :=
        Text.mem_glue_of_mem (List.mem_map_of_mem hlast) hc
      rwa [Text.join, String.toList_ofList]
    have hnone := congrArg String.toList htext
    rw [String.toList_append] at hnone
    simp_all

namespace Tree

variable {t : Tree} {cwd : List String} {p q : Path} {depth : Nat}

/-! ### What lies below a place -/

/-- A hidden name is not looked at, so none of those that are leads up. -/
theorem ne_up_of_seen {name : String} (h : isHidden name = false) : name ≠ ".." := by
  rintro rfl
  exact absurd h (by decide)

theorem isDirectory_of_mem_list {name : String} (h : name ∈ t.list cwd p) :
    t.isDirectory cwd p = true := by
  rw [list] at h
  split at h
  · split at h
    · assumption
    · cases h
  · cases h

/-- How many nodes lie below a place. -/
def countBelow (t : Tree) (place : List String) : Nat :=
  (Assoc.keys t).countP fun q => place <+: q ∧ q ≠ place

theorem countBelow_le (t : Tree) (place : List String) : t.countBelow place ≤ t.length :=
  List.countP_le_length.trans_eq (List.length_map _)

/-- Less lies below a name in a directory than below the directory. -/
theorem countBelow_child {name : String} (h : name ∈ t.list cwd p) (hseen : isHidden name = false) :
    t.countBelow ((p.child name).goal cwd) < t.countBelow (p.goal cwd) := by
  have hmem := (Tree.mem_list (isDirectory_of_mem_list h)).mp h
  rw [node?_ne_none_iff (by simp)] at hmem
  rw [Path.goal_child cwd p (ne_up_of_seen hseen)]
  have hsub : ((Assoc.keys t).filter fun q =>
        p.goal cwd ++ [name] <+: q ∧ q ≠ p.goal cwd ++ [name]).Sublist
      ((Assoc.keys t).filter fun q => p.goal cwd <+: q ∧ q ≠ p.goal cwd) := by
    refine List.monotone_filter_right _ fun q hq => ?_
    simp only [decide_eq_true_eq] at hq ⊢
    refine ⟨(List.prefix_append _ [name]).trans hq.1, ?_⟩
    rintro rfl
    simpa using hq.1.length_le
  rw [countBelow, countBelow, List.countP_eq_length_filter, List.countP_eq_length_filter]
  refine lt_of_le_of_ne hsub.length_le fun hlength => ?_
  -- The name is among what lies below the directory, but does not lie below itself.
  have hchild : p.goal cwd ++ [name] ∈ (Assoc.keys t).filter fun q =>
      p.goal cwd ++ [name] <+: q ∧ q ≠ p.goal cwd ++ [name] := by
    rw [hsub.eq_of_length hlength]
    simpa using hmem
  simp at hchild

/-- The names in a directory are in order, and none is there twice. -/
theorem ascending_list (ht : t.Ordered) (cwd : List String) (p : Path) :
    (t.list cwd p).Pairwise (· < ·) := by
  rw [list]
  split
  · next place _ =>
      split
      · have hsorted := Text.pairwise_sorted
          (t.filterMap fun e => if isChild place e.1 then e.1.getLast? else none)
        refine hsorted.imp₂ (fun a b hab hne => ?_) (nodup_namesBelow ht place)
        exact lt_of_le_of_ne (of_decide_eq_true hab) hne
      · exact .nil
  · exact .nil

/-- The paths that a search comes to. -/
inductive Searched (t : Tree) (cwd : List String) (p : Path) : Path → Prop
  | start : Searched t cwd p p
  | down {q : Path} {name : String} (hq : Searched t cwd p q) (hname : name ∈ t.list cwd q)
      (hseen : isHidden name = false) : Searched t cwd p (q.child name)

/-- Is the second path that of an archive at the first one, or below it with no hidden name on the
    way from there? -/
structure ArchiveAt (t : Tree) (cwd : List String) (p q : Path) : Prop where
  below : ∃ names, (∀ n ∈ names, isHidden n = false) ∧ q = p.descend names
  file : t.isFile cwd q = true
  archive : q.isArchive = true

/-- Paths are those of the archives at a path, each of them once and in the order of their names. -/
structure Archives (t : Tree) (cwd : List String) (p : Path) (found : List Path) : Prop where
  mem_iff : ∀ q, q ∈ found ↔ t.ArchiveAt cwd p q
  ascending : found.Pairwise (·.names < ·.names)

/-- There is one way to list the archives at a path. -/
theorem Archives.unique {found found' : List Path} (h : t.Archives cwd p found)
    (h' : t.Archives cwd p found') : found = found' := by
  have hnodup {ps : List Path} (hps : ps.Pairwise (·.names < ·.names)) : ps.Nodup := by
    refine hps.imp fun {q r} hlt => ?_
    rintro rfl
    exact lt_irrefl q.names hlt
  have hperm : found.Perm found' :=
    (List.perm_ext_iff_of_nodup (hnodup h.ascending) (hnodup h'.ascending)).mpr
      fun q => (h.mem_iff q).trans (h'.mem_iff q).symm
  exact hperm.eq_of_pairwise (fun a b _ _ hab hba => absurd hba (lt_asymm hab)) h.ascending
    h'.ascending

theorem searched_iff :
    t.Searched cwd p q ↔
      q = p ∨ ∃ name ∈ t.list cwd p, isHidden name = false ∧ t.Searched cwd (p.child name) q := by
  constructor
  · intro h
    induction h with
    | start => exact .inl rfl
    | @down q name hq hname hseen ih =>
        rcases ih with rfl | ⟨first, hfirst, hseen', hq'⟩
        · exact .inr ⟨name, hname, hseen, .start⟩
        · exact .inr ⟨first, hfirst, hseen', hq'.down hname hseen⟩
  · rintro (rfl | ⟨name, hname, hseen, h⟩)
    · exact .start
    · induction h with
      | start => exact Searched.start.down hname hseen
      | down _ hname hseen ih => exact ih.down hname hseen

/-- What is below a path lies at it, or at one of its children. -/
theorem archiveAt_iff :
    t.ArchiveAt cwd p q ↔
      (q = p ∧ t.isFile cwd p = true ∧ p.isArchive = true) ∨
        ∃ name, isHidden name = false ∧ t.ArchiveAt cwd (p.child name) q := by
  constructor
  · rintro ⟨⟨names, hnames, rfl⟩, hfile, harchive⟩
    cases names with
    | nil =>
        rw [Path.descend_nil] at hfile harchive
        exact .inl ⟨Path.descend_nil p, hfile, harchive⟩
    | cons name names =>
        obtain ⟨hseen, hrest⟩ := List.forall_mem_cons.mp hnames
        rw [Path.descend_cons] at hfile harchive ⊢
        exact .inr ⟨name, hseen, ⟨names, hrest, rfl⟩, hfile, harchive⟩
  · rintro (⟨rfl, hfile, harchive⟩ | ⟨name, hseen, ⟨names, hnames, rfl⟩, hfile, harchive⟩)
    · exact ⟨⟨[], by simp, (Path.descend_nil q).symm⟩, hfile, harchive⟩
    · exact ⟨⟨name :: names, List.forall_mem_cons.mpr ⟨hseen, hnames⟩, Path.descend_cons .. ▸ rfl⟩,
        hfile, harchive⟩

theorem isFile_iff :
    t.isFile cwd p = true ↔
      p.Short ∧ t.Holds (p.way cwd) ∧ ∃ c, t.node? (p.goal cwd) = some (.file c) := by
  have hstat : t.isFile cwd p = true ↔ ∃ c, t.stat cwd p = .ok (.file c) := by
    rw [isFile]
    cases t.stat cwd p with
    | error c => simp
    | ok n => cases n <;> simp
  simp only [hstat, stat_eq_ok_iff, exists_and_left]

/-- Where an archive is at a path or below it, there is a node, and the path is found. -/
theorem ArchiveAt.exists_stat (h : t.ArchiveAt cwd p q) : ∃ n, t.stat cwd p = .ok n := by
  obtain ⟨⟨names, -, rfl⟩, hfile, -⟩ := h
  obtain ⟨hshort, hway, c, hnode⟩ := isFile_iff.mp hfile
  cases names with
  | nil =>
      rw [Path.descend_nil] at hshort hway hnode
      exact ⟨_, stat_eq_ok_iff.mpr ⟨hshort, hway, hnode⟩⟩
  | cons name names =>
      rw [Path.way_descend] at hway
      refine ⟨.directory, stat_eq_ok_iff.mpr ⟨hshort.of_descend, ?_, ?_⟩⟩
      · exact fun r hr => hway r (List.mem_append_left _ hr)
      · exact hway _ (List.mem_append_right _ List.mem_cons_self)

/-- An archive below a path lies at or below a name in the directory there. -/
theorem ArchiveAt.mem_list {name : String} (hseen : isHidden name = false)
    (h : t.ArchiveAt cwd (p.child name) q) : t.isDirectory cwd p = true ∧ name ∈ t.list cwd p := by
  obtain ⟨n, hn⟩ := h.exists_stat
  obtain ⟨hshort, hway, hnode⟩ := stat_eq_ok_iff.mp hn
  have hshort' : (p.descend [name]).Short := by rwa [Path.descend_cons, Path.descend_nil]
  have hdirectory : t.isDirectory cwd p = true :=
    isDirectory_iff.mpr ⟨hshort'.of_descend, by rwa [Path.trail, ← Path.way_child cwd p name]⟩
  rw [Path.goal_child cwd p (ne_up_of_seen hseen)] at hnode
  refine ⟨hdirectory, (Tree.mem_list hdirectory).mpr ?_⟩
  rw [hnode]
  exact Option.some_ne_none n

theorem Archives.nil (h : ∀ n, t.stat cwd p ≠ .ok n) : t.Archives cwd p [] := by
  refine ⟨fun q => ⟨fun hq => absurd hq List.not_mem_nil, fun hq => ?_⟩, .nil⟩
  obtain ⟨n, hn⟩ := hq.exists_stat
  exact absurd hn (h n)

theorem Archives.file {c : Contents} (h : t.stat cwd p = .ok (.file c)) :
    t.Archives cwd p (if p.isArchive then [p] else []) := by
  have hfile : t.isFile cwd p = true := by rw [isFile, h]
  have hbelow (q : Path) :
      ¬∃ name, isHidden name = false ∧ t.ArchiveAt cwd (p.child name) q := by
    rintro ⟨name, hseen, hq⟩
    have hdirectory := (hq.mem_list hseen).1
    rw [isDirectory, h] at hdirectory
    cases hdirectory
  refine ⟨fun q => ?_, ?_⟩
  · rw [archiveAt_iff, or_iff_left (hbelow q), hfile]
    cases p.isArchive <;> simp
  · split
    · exact List.pairwise_singleton _ _
    · exact .nil

/-- The archives below a directory are those of its names, one after the other. -/
theorem Archives.directory (ht : t.Ordered) (hdirectory : t.isDirectory cwd p = true)
    {found : String → List Path}
    (hfound : ∀ name ∈ t.list cwd p, isHidden name = false →
      t.Archives cwd (p.child name) (found name)) :
    t.Archives cwd p (((t.list cwd p).filter fun name => !isHidden name).flatMap found) := by
  have hseen {name : String} (h : name ∈ (t.list cwd p).filter fun name => !isHidden name) :
      name ∈ t.list cwd p ∧ isHidden name = false := by
    simpa [List.mem_filter] using h
  have hfile : t.isFile cwd p = false := by
    rw [isFile]
    rw [isDirectory] at hdirectory
    split at hdirectory <;> simp_all
  refine ⟨fun q => ?_, List.pairwise_flatMap.mpr ⟨fun name hname => ?_, ?_⟩⟩
  · rw [archiveAt_iff, or_iff_right (by simp [hfile]), List.mem_flatMap]
    constructor
    · rintro ⟨name, hname, hq⟩
      obtain ⟨hmem, hshown⟩ := hseen hname
      exact ⟨name, hshown, ((hfound name hmem hshown).mem_iff q).mp hq⟩
    · rintro ⟨name, hshown, hq⟩
      have hmem := (hq.mem_list hshown).2
      exact ⟨name, by simpa [hmem] using hshown, ((hfound name hmem hshown).mem_iff q).mpr hq⟩
  · obtain ⟨hmem, hshown⟩ := hseen hname
    exact (hfound name hmem hshown).ascending
  · refine ((ascending_list ht cwd p).filter _).imp_of_mem
      fun {name name'} hname hname' hlt q hq q' hq' => ?_
    obtain ⟨hmem, hshown⟩ := hseen hname
    obtain ⟨hmem', hshown'⟩ := hseen hname'
    obtain ⟨names, -, rfl⟩ := (((hfound name hmem hshown).mem_iff q).mp hq).below
    obtain ⟨names', -, rfl⟩ := (((hfound name' hmem' hshown').mem_iff q').mp hq').below
    simp only [Path.descend, Path.child, List.append_assoc, List.singleton_append]
    exact List.Lex.append_left _ (.rel hlt) _

/-! ### Searching -/

/-- On a way that leads through directories only, a path that is not short is too long to be looked
    at. -/
theorem stat_long (hway : t.Holds (p.way cwd)) (h : ¬p.Short) :
    t.stat cwd p = .error .nameTooLong := by
  rw [stat]
  cases hplace : t.place cwd p with
  | error c => rw [place_error hway hplace]; rfl
  | ok place => exact absurd (place_eq_ok_iff.mp hplace).2.1 h

/-- A search that comes to a path that is too long fails there. -/
theorem archivesWithin_long (h : t.stat cwd p = .error .nameTooLong) (depth : Nat) :
    t.archivesWithin cwd depth p = .error (.file ⟨.nameTooLong, p.text⟩) := by
  unfold archivesWithin
  rw [probe, h]
  rfl

theorem archivesWithin_missing {c : FileCause} (h : t.stat cwd p = .error c)
    (hc : c ≠ .nameTooLong) (depth : Nat) : t.archivesWithin cwd depth p = .ok [] := by
  unfold archivesWithin
  rw [probe, h]
  cases c <;> first | rfl | exact absurd rfl hc

theorem archivesWithin_file {c : Contents} (h : t.stat cwd p = .ok (.file c)) (depth : Nat) :
    t.archivesWithin cwd depth p = .ok (if p.isArchive then [p] else []) := by
  unfold archivesWithin
  rw [probe, h]
  rfl

theorem archivesWithin_directory (h : t.stat cwd p = .ok .directory) (depth : Nat) :
    t.archivesWithin cwd (depth + 1) p =
      List.flatten <$> ((t.list cwd p).filter fun n => !isHidden n).mapM fun n =>
        t.archivesWithin cwd depth (p.child n) := by
  rw [archivesWithin, probe, h]
  rfl

/-- A search that is started where there is no directory looks there only. -/
theorem archivesWithin_ok_leaf (hleaf : t.stat cwd p ≠ .ok .directory) {found : List Path}
    (h : t.archivesWithin cwd depth p = .ok found) :
    t.Archives cwd p found ∧ ∀ q, t.Searched cwd p q → t.stat cwd q ≠ .error .nameTooLong := by
  have hlist (name : String) : name ∉ t.list cwd p := by
    intro hname
    have hdirectory := isDirectory_of_mem_list hname
    rw [isDirectory] at hdirectory
    split at hdirectory
    · contradiction
    · cases hdirectory
  have honly (hstat : t.stat cwd p ≠ .error .nameTooLong) (q : Path)
      (hq : t.Searched cwd p q) : t.stat cwd q ≠ .error .nameTooLong := by
    rcases searched_iff.mp hq with rfl | ⟨name, hname, -⟩
    · exact hstat
    · exact absurd hname (hlist name)
  cases hstat : t.stat cwd p with
  | error c =>
      by_cases hc : c = .nameTooLong
      · rw [archivesWithin_long (hc ▸ hstat)] at h
        cases h
      · rw [archivesWithin_missing hstat hc] at h
        cases h
        exact ⟨.nil (by simp [hstat]), honly (by simpa [hstat] using hc)⟩
  | ok n =>
      cases n with
      | directory => contradiction
      | file c =>
          rw [archivesWithin_file hstat] at h
          cases h
          exact ⟨.file hstat, honly (by simp [hstat])⟩

theorem archives_directory (ht : t.Ordered) (hstat : t.stat cwd p = .ok .directory)
    (found : String → List Path)
    (hfound : ∀ name ∈ t.list cwd p, isHidden name = false →
      t.Archives cwd (p.child name) (found name) ∧
        ∀ q, t.Searched cwd (p.child name) q → t.stat cwd q ≠ .error .nameTooLong) :
    t.Archives cwd p (((t.list cwd p).filter fun name => !isHidden name).flatMap found) ∧
      ∀ q, t.Searched cwd p q → t.stat cwd q ≠ .error .nameTooLong := by
  have hdirectory : t.isDirectory cwd p = true := by rw [isDirectory, hstat]
  refine ⟨.directory ht hdirectory fun name hname hseen => (hfound name hname hseen).1,
    fun q hq => ?_⟩
  rcases searched_iff.mp hq with rfl | ⟨name, hname, hseen, hq⟩
  · simp [hstat]
  · exact (hfound name hname hseen).2 q hq

/-- A search that is deep enough and does not fail finds the archives, and comes to no path that is
    too long. -/
theorem archivesWithin_ok (ht : t.Ordered) (hdepth : t.countBelow (p.goal cwd) ≤ depth)
    {found : List Path} (h : t.archivesWithin cwd depth p = .ok found) :
    t.Archives cwd p found ∧ ∀ q, t.Searched cwd p q → t.stat cwd q ≠ .error .nameTooLong := by
  induction depth generalizing p found with
  | zero =>
      by_cases hstat : t.stat cwd p = .ok .directory
      · -- Nothing lies below the directory, so there is no name to go on with.
        have hnone : ∀ name ∈ t.list cwd p, isHidden name = false → False := fun name hname hseen =>
          absurd (countBelow_child hname hseen) (by omega)
        have hfound : found = [] := by
          unfold archivesWithin at h
          rw [probe, hstat] at h
          exact (Except.ok.inj h).symm
        have hempty : (t.list cwd p).filter (fun name => !isHidden name) = [] := by
          refine List.filter_eq_nil_iff.mpr fun name hname => ?_
          simpa using hnone name hname
        have hall := archives_directory ht hstat (fun _ => [])
          fun name hname hseen => (hnone name hname hseen).elim
        rwa [hempty, List.flatMap_nil, ← hfound] at hall
      · exact archivesWithin_ok_leaf hstat h
  | succ depth ih =>
      by_cases hstat : t.stat cwd p = .ok .directory
      · rw [archivesWithin_directory hstat] at h
        cases hnames : ((t.list cwd p).filter fun n => !isHidden n).mapM fun n =>
            t.archivesWithin cwd depth (p.child n) with
        | error f =>
            rw [hnames] at h
            cases h
        | ok founds =>
            rw [hnames] at h
            obtain rfl : founds.flatten = found := Except.ok.inj h
            obtain ⟨g, hg, rfl⟩ := exists_of_mapM_ok hnames
            rw [← List.flatMap_def]
            refine archives_directory ht hstat g fun name hname hseen => ?_
            have hless := countBelow_child hname hseen
            exact ih (by omega) (hg name (List.mem_filter.mpr ⟨hname, by simp [hseen]⟩))
      · exact archivesWithin_ok_leaf hstat h

theorem archivesWithin_error_leaf (hleaf : t.stat cwd p ≠ .ok .directory) {f : Fault}
    (h : t.archivesWithin cwd depth p = .error f) :
    t.stat cwd p = .error .nameTooLong ∧ f = .file ⟨.nameTooLong, p.text⟩ := by
  cases hstat : t.stat cwd p with
  | error c =>
      by_cases hc : c = .nameTooLong
      · subst hc
        rw [archivesWithin_long hstat] at h
        exact ⟨rfl, (Except.error.inj h).symm⟩
      · rw [archivesWithin_missing hstat hc] at h
        cases h
  | ok n =>
      cases n with
      | directory => contradiction
      | file c =>
          rw [archivesWithin_file hstat] at h
          cases h

/-- What a search fails with is that a path is too long that it comes to. -/
theorem archivesWithin_error {f : Fault} (h : t.archivesWithin cwd depth p = .error f) :
    ∃ q, t.Searched cwd p q ∧ t.stat cwd q = .error .nameTooLong ∧
      f = .file ⟨.nameTooLong, q.text⟩ := by
  induction depth generalizing p with
  | zero =>
      by_cases hstat : t.stat cwd p = .ok .directory
      · unfold archivesWithin at h
        rw [probe, hstat] at h
        cases h
      · exact ⟨p, .start, archivesWithin_error_leaf hstat h⟩
  | succ depth ih =>
      by_cases hstat : t.stat cwd p = .ok .directory
      · rw [archivesWithin_directory hstat] at h
        obtain ⟨name, hname, hfault⟩ := exists_of_mapM_error (of_map_error h)
        obtain ⟨hmem, hseen⟩ := List.mem_filter.mp hname
        obtain ⟨q, hq, hlong⟩ := ih hfault
        exact ⟨q, searched_iff.mpr (.inr ⟨name, hmem, by simpa using hseen, hq⟩), hlong⟩
      · exact ⟨p, .start, archivesWithin_error_leaf hstat h⟩

end Tree

end Files

namespace SearchPath

open Files

/-! ### Entries -/

/-- The second list has the elements of the first one, in the order in which they first come there,
    and each of them once. -/
structure FirstOccurrences {α : Type} [DecidableEq α] (xs ys : List α) : Prop where
  mem_iff : ∀ x, x ∈ ys ↔ x ∈ xs
  ascending : ys.Pairwise fun x y => xs.idxOf x < xs.idxOf y

section

variable {α : Type} [DecidableEq α]

theorem FirstOccurrences.nodup {xs ys : List α} (h : FirstOccurrences xs ys) : ys.Nodup :=
  h.ascending.imp fun hlt heq => by simp [heq] at hlt

theorem distinct_concat (xs : List α) (x : α) :
    distinct (xs ++ [x]) = if x ∈ xs then distinct xs else distinct xs ++ [x] := by
  have hstep : distinct (xs ++ [x]) =
      if (distinct xs).contains x then distinct xs else distinct xs ++ [x] := by
    rw [distinct, List.foldl_append, List.foldl_cons, List.foldl_nil, ← distinct]
  rw [hstep]
  by_cases hx : x ∈ xs
  · rw [if_pos hx, if_pos (List.contains_iff_mem.mpr (mem_distinct.mpr hx))]
  · rw [if_neg hx, if_neg (mt List.contains_iff_mem.mp (mt mem_distinct.mp hx))]

theorem firstOccurrences_distinct (xs : List α) : FirstOccurrences xs (distinct xs) := by
  refine ⟨fun x => mem_distinct, ?_⟩
  induction xs using List.reverseRecOn with
  | nil => exact .nil
  | append_singleton xs x ih =>
      have hold : (distinct xs).Pairwise fun y z => (xs ++ [x]).idxOf y < (xs ++ [x]).idxOf z := by
        refine ih.imp_of_mem fun {y z} hy hz hlt => ?_
        rwa [List.idxOf_append_of_mem (mem_distinct.mp hy),
          List.idxOf_append_of_mem (mem_distinct.mp hz)]
      rw [distinct_concat]
      split
      · exact hold
      · next hx =>
          refine List.pairwise_append.mpr ⟨hold, List.pairwise_singleton _ _, fun y hy z hz => ?_⟩
          have hmem := mem_distinct.mp hy
          rw [List.mem_singleton.mp hz, List.idxOf_append_of_mem hmem,
            List.idxOf_append_of_notMem hx]
          exact (List.idxOf_lt_length_of_mem hmem).trans_le (Nat.le_add_right ..)

/-- What is left out before repetitions are dropped may as well be left out afterwards. -/
theorem filter_distinct (p : α → Bool) (xs : List α) :
    (distinct xs).filter p = distinct (xs.filter p) := by
  induction xs using List.reverseRecOn with
  | nil => rfl
  | append_singleton xs x ih =>
      rw [distinct_concat, List.filter_append]
      by_cases hp : p x
      · have hmem : x ∈ xs.filter p ↔ x ∈ xs := by simp [List.mem_filter, hp]
        rw [List.filter_cons_of_pos hp, List.filter_nil, distinct_concat]
        simp only [hmem]
        split
        · exact ih
        · rw [List.filter_append, ih, List.filter_cons_of_pos hp, List.filter_nil]
      · rw [List.filter_cons_of_neg hp, List.filter_nil, List.append_nil]
        split
        · exact ih
        · rw [List.filter_append, ih, List.filter_cons_of_neg hp, List.filter_nil,
            List.append_nil]

end

theorem foldl_append {path : String} (hpath : path ≠ "") {entries : List String}
    (h : ∀ e ∈ entries, e ≠ "") :
    entries.foldl append path = Text.join ":" (path :: entries) := by
  rw [← Script.join_foldl]
  induction entries generalizing path with
  | nil => rfl
  | cons e entries ih =>
      have hone : append path e = path ++ ":" ++ e := by
        rw [append, if_neg (h e List.mem_cons_self), if_neg hpath]
      rw [List.foldl_cons, List.foldl_cons, hone]
      exact ih (by simp [hpath]) fun e' he' => h e' (List.mem_cons_of_mem e he')

/-- A search path is made of the entries that are not empty. -/
theorem ofEntries_eq (entries : List String) :
    ofEntries entries = Text.join ":" (entries.filter (· ≠ "")) := by
  have hfilter : ofEntries entries = ofEntries (entries.filter (· ≠ "")) := by
    unfold ofEntries
    rw [List.foldl_filter]
    congr 1
    funext path e
    by_cases he : e = "" <;> simp [append, he]
  have hne : ∀ e ∈ entries.filter (· ≠ ""), e ≠ "" := by simp
  rw [hfilter]
  cases hentries : entries.filter (· ≠ "") with
  | nil => rfl
  | cons e rest =>
      rw [hentries, List.forall_mem_cons] at hne
      have hfirst : append "" e = e := by simp [append, hne.1]
      rw [ofEntries, List.foldl_cons, hfirst, foldl_append hne.1 hne.2]

/-- Entries that are joined can be told apart again if none is empty and none holds a colon. -/
theorem split_join_distinct {entries : List String} (hne : "" ∉ entries)
    (hcolon : ∀ e ∈ entries, ':' ∉ e.toList) :
    (Text.join ":" (distinct entries) = "" ↔ entries = []) ∧
      (entries ≠ [] →
        FirstOccurrences entries (Text.split ':' (Text.join ":" (distinct entries)))) := by
  cases entries with
  | nil => exact ⟨iff_of_true rfl rfl, fun h => absurd rfl h⟩
  | cons e rest =>
      have hmem : e ∈ distinct (e :: rest) := mem_distinct.mpr List.mem_cons_self
      have hsplit : Text.split ':' (Text.join ":" (distinct (e :: rest))) = distinct (e :: rest) :=
        Text.split_join (List.ne_nil_of_mem hmem) fun e' he' => hcolon e' (mem_distinct.mp he')
      refine ⟨iff_of_false (fun h => hne ?_) (List.cons_ne_nil e rest), fun _ => ?_⟩
      · -- The empty path is cut into one empty entry.
        rw [h] at hsplit
        rw [← mem_distinct, ← hsplit]
        decide
      · rw [hsplit]
        exact firstOccurrences_distinct (e :: rest)

/-- The entries that belong on the search path: the directories that modules are imported from, the
    directories that a user named, each with the archives that were found for it, and what was asked
    for besides. -/
def wanted (around : Surroundings) (found : String → List Path) (extra : List String) :
    List String :=
  around.importPath.filter (· ≠ "") ++
    (named around).flatMap (fun d => d :: (found d).map Path.text) ++ extra.filter (· ≠ "")

section

variable {t : Tree} {around : Surroundings} {found : String → List Path} {extra : List String}

/-- No named directory is empty, and neither is the path of an archive. -/
theorem ne_empty_of_mem_named
    (hfound : ∀ d ∈ named around, t.Archives around.cwd (.parse d) (found d)) {e : String}
    (he : e ∈ (named around).flatMap fun d => d :: (found d).map Path.text) : e ≠ "" := by
  obtain ⟨d, hd, he⟩ := List.mem_flatMap.mp he
  rcases List.mem_cons.mp he with rfl | he
  · simpa using (List.mem_filter.mp hd).2
  · obtain ⟨q, hq, rfl⟩ := List.mem_map.mp he
    exact Path.text_ne_empty (((hfound d hd).mem_iff q).mp hq).archive

theorem not_mem_wanted
    (hfound : ∀ d ∈ named around, t.Archives around.cwd (.parse d) (found d))
    (extra : List String) : "" ∉ wanted around found extra := by
  simp only [wanted, List.mem_append, not_or]
  exact ⟨⟨by simp, fun h => ne_empty_of_mem_named hfound h rfl⟩, by simp⟩

theorem standard_error {f : Fault} (h : standard t around extra = .error f) :
    ∃ d ∈ named around, ∃ q, t.Searched around.cwd (.parse d) q ∧
      t.stat around.cwd q = .error .nameTooLong ∧ f = .file ⟨.nameTooLong, q.text⟩ := by
  unfold standard sources at h
  cases hnamed : (named around).mapM (withArchives t around.cwd) with
  | ok found =>
      rw [hnamed] at h
      cases h
  | error g =>
      rw [hnamed] at h
      cases h
      obtain ⟨d, hd, hfault⟩ := exists_of_mapM_error hnamed
      unfold withArchives at hfault
      cases harchives : t.archives around.cwd (.parse d) with
      | ok found =>
          rw [harchives] at hfault
          cases hfault
      | error g =>
          rw [harchives] at hfault
          cases hfault
          exact ⟨d, hd, Tree.archivesWithin_error harchives⟩

/-- A search path that is found is that of the wanted entries, and no search came to a path that is
    too long. -/
theorem standard_ok (ht : t.Ordered) {path : String} (h : standard t around extra = .ok path) :
    ∃ found, (∀ d ∈ named around, t.Archives around.cwd (.parse d) (found d) ∧
        ∀ q, t.Searched around.cwd (.parse d) q → t.stat around.cwd q ≠ .error .nameTooLong) ∧
      path = Text.join ":" (distinct (wanted around found extra)) := by
  unfold standard sources at h
  cases hnamed : (named around).mapM (withArchives t around.cwd) with
  | error f =>
      rw [hnamed] at h
      cases h
  | ok listed =>
      rw [hnamed] at h
      obtain rfl := Except.ok.inj h
      obtain ⟨g, hg, rfl⟩ := exists_of_mapM_ok hnamed
      let found (d : String) : List Path := (t.archives around.cwd (.parse d)).toOption.getD []
      have harchives (d : String) (hd : d ∈ named around) :
          t.archives around.cwd (.parse d) = .ok (found d) ∧
            g d = d :: (found d).map Path.text := by
        have hd := hg d hd
        unfold withArchives at hd
        cases hsearch : t.archives around.cwd (.parse d) with
        | error f =>
            rw [hsearch] at hd
            cases hd
        | ok ps =>
            rw [hsearch] at hd
            simp only [found, hsearch]
            exact ⟨rfl, (Except.ok.inj hd).symm⟩
      have hfound (d : String) (hd : d ∈ named around) :=
        Tree.archivesWithin_ok ht (t.countBelow_le _) (harchives d hd).1
      refine ⟨found, hfound, ?_⟩
      have hlisted : ((named around).map g).flatten =
          (named around).flatMap fun d => d :: (found d).map Path.text := by
        rw [List.flatMap_def, List.map_congr_left fun d hd => (harchives d hd).2]
      have hkept : ((named around).flatMap fun d => d :: (found d).map Path.text).filter (· ≠ "") =
          (named around).flatMap fun d => d :: (found d).map Path.text :=
        List.filter_eq_self.mpr fun e he => by
          simpa using ne_empty_of_mem_named (fun d hd => (hfound d hd).1) he
      rw [ofEntries_eq, filter_distinct, hlisted, List.filter_append, List.filter_append, hkept,
        List.filter_filter]
      simp only [Bool.and_self]
      rfl

end

/-- The search path over any tree, surroundings and further entries. It is found unless a search for
    archives comes to a path that is too long to be looked at, which is then the fault. It is cut at
    its colons into the first occurrences of the wanted entries, in their order, if no entry holds a
    colon; and no entry is empty. -/
theorem standard_search_path {t : Tree} (ht : t.Ordered) (around : Surroundings)
    (extra : List String) :
    ((∃ path, standard t around extra = .ok path) ↔
      ∀ d ∈ named around, ∀ q, t.Searched around.cwd (.parse d) q →
        t.stat around.cwd q ≠ .error .nameTooLong) ∧
    (∀ f, standard t around extra = .error f →
      ∃ d ∈ named around, ∃ q, t.Searched around.cwd (.parse d) q ∧
        t.stat around.cwd q = .error .nameTooLong ∧ f = .file ⟨.nameTooLong, q.text⟩) ∧
    ∀ path, standard t around extra = .ok path →
      ∃ found, (∀ d ∈ named around, t.Archives around.cwd (.parse d) (found d)) ∧
        ((∀ e ∈ wanted around found extra, ':' ∉ e.toList) →
          (path = "" ↔ wanted around found extra = []) ∧
          (wanted around found extra ≠ [] →
            FirstOccurrences (wanted around found extra) (Text.split ':' path) ∧
              "" ∉ Text.split ':' path ∧ (Text.split ':' path).Nodup)) := by
  refine ⟨⟨?_, fun hshort => ?_⟩, fun f => standard_error, fun path hpath => ?_⟩
  · rintro ⟨path, hpath⟩ d hd
    obtain ⟨found, hfound, -⟩ := standard_ok ht hpath
    exact (hfound d hd).2
  · cases hpath : standard t around extra with
    | ok path => exact ⟨path, rfl⟩
    | error f =>
        obtain ⟨d, hd, q, hq, hlong, -⟩ := standard_error hpath
        exact absurd hlong (hshort d hd q hq)
  · obtain ⟨found, hfound, rfl⟩ := standard_ok ht hpath
    have harchives (d : String) (hd : d ∈ named around) := (hfound d hd).1
    have hne := not_mem_wanted harchives extra
    refine ⟨found, harchives, fun hcolon => ?_⟩
    obtain ⟨hempty, hsplit⟩ := split_join_distinct hne hcolon
    refine ⟨hempty, fun hwanted => ?_⟩
    have hfirst := hsplit hwanted
    exact ⟨hfirst, mt (hfirst.mem_iff "").mp hne, hfirst.nodup⟩

/-- A directory with archives in it, beside them and below names like those of archives. -/
def stocked : Tree :=
  [(["lib"], .directory), (["lib", ".old.zip"], .file (.text "")), (["lib", "a"], .directory),
    (["lib", "a", "x.whl"], .file (.text "")), (["lib", "a.zip"], .file (.text "")),
    (["lib", "b.zip"], .directory), (["lib", "b.zip", "c.egg"], .file (.text "")),
    (["lib", "notes"], .file (.text ""))]

/-- The directory is named twice, with nothing in between. -/
def namingTwice : Surroundings :=
  { importPath := ["", "/usr/lib"], environment := [("CODEWEAVE_PATH", "/lib::/lib")] }

theorem standard_search_path_stocked :
    ∃ found, stocked.Archives [] (.parse "/lib") (found "/lib") ∧
      FirstOccurrences (wanted namingTwice found ["", "/usr/lib", "more"])
        ["/usr/lib", "/lib", "/lib/a/x.whl", "/lib/a.zip", "/lib/b.zip/c.egg", "more"] := by
  have hordered : stocked.Ordered := ⟨by decide, by decide⟩
  have hpath : standard stocked namingTwice ["", "/usr/lib", "more"] =
      .ok "/usr/lib:/lib:/lib/a/x.whl:/lib/a.zip:/lib/b.zip/c.egg:more" := by
    decide +kernel
  have hlib : stocked.archives [] (.parse "/lib") =
      .ok [.parse "/lib/a/x.whl", .parse "/lib/a.zip", .parse "/lib/b.zip/c.egg"] := by
    decide +kernel
  have hnamed : named namingTwice = ["/lib", "/lib"] := by decide
  obtain ⟨found, hfound, hsplit⟩ :=
    (standard_search_path hordered namingTwice ["", "/usr/lib", "more"]).2.2 _ hpath
  have harchives := hfound "/lib" (by rw [hnamed]; decide)
  have hsame := harchives.unique (Tree.archivesWithin_ok hordered (stocked.countBelow_le _) hlib).1
  have hwanted : wanted namingTwice found ["", "/usr/lib", "more"] =
      ["/usr/lib", "/lib", "/lib/a/x.whl", "/lib/a.zip", "/lib/b.zip/c.egg", "/lib",
        "/lib/a/x.whl", "/lib/a.zip", "/lib/b.zip/c.egg", "/usr/lib", "more"] := by
    rw [wanted, hnamed]
    simp only [List.flatMap_cons, List.flatMap_nil, hsame]
    decide
  refine ⟨found, harchives, ?_⟩
  have hfirst := ((hsplit (by rw [hwanted]; decide)).2 (by rw [hwanted]; decide)).1
  exact hfirst

/-- A name of so many letters. -/
def longName (n : Nat) : String :=
  String.ofList (List.replicate n 'a')

theorem eq_of_mem_longName {n : Nat} {c : Char} (h : c ∈ (longName n).toList) : c = 'a' := by
  rw [longName, String.toList_ofList] at h
  exact List.eq_of_mem_replicate h

theorem utf8ByteSize_longName (n : Nat) : (longName n).utf8ByteSize = n := by
  rw [longName, String.utf8ByteSize_ofList]
  induction n with
  | zero => rfl
  | succ n ih =>
      rw [List.replicate_succ, String.utf8Len_cons, ih]
      rfl

/-- One directory is named, by a name that has one byte too many. -/
def namingLong : Surroundings :=
  { environment := [("CODEWEAVE_PATH", longName 256)] }

/-- No archives are there and no entry holds a colon, but there is no search path. -/
theorem standard_long_name :
    Tree.Archives [] [] (.parse (longName 256)) [] ∧ named namingLong = [longName 256] ∧
      (∀ e ∈ wanted namingLong (fun _ => []) [], ':' ∉ e.toList) ∧
      ∀ path, standard [] namingLong [] ≠ .ok path := by
  have hletters (c : Char) (hc : c ≠ 'a') : c ∉ (longName 256).toList :=
    fun h => hc (eq_of_mem_longName h)
  have hsize := utf8ByteSize_longName 256
  have hcut : Text.split ':' (longName 256) = [longName 256] := by
    rw [Text.split, Text.cutAt_of_not_mem (hletters ':' (by decide)), List.map_singleton,
      String.ofList_toList]
  have hne (s : String) (hs : s.utf8ByteSize ≠ 256) : longName 256 ≠ s := by
    rintro rfl
    exact hs hsize
  have hnamed : named namingLong = [longName 256] := by
    have hsetting : namingLong.searchDirectories = longName 256 := rfl
    rw [named, hsetting, hcut, List.filter_cons_of_pos (by simpa using hne "" (by decide)),
      List.filter_nil]
  have hwanted : wanted namingLong (fun _ => []) [] = [longName 256] := by
    rw [wanted, hnamed]
    rfl
  have hpath : Path.parse (longName 256) = ⟨"", [longName 256]⟩ :=
    Path.parse_name ⟨hletters '/' (by decide), hne "" (by decide), hne "." (by decide),
      hne ".." (by decide)⟩
  have hstat : Tree.stat [] [] (.parse (longName 256)) = .error .nameTooLong := by
    refine Tree.stat_long ?_ fun hshort => ?_
    · rw [hpath]
      exact fun q hq => by rw [List.mem_singleton.mp hq]; rfl
    · have hname := hshort.2 (longName 256) (by rw [hpath]; exact List.mem_cons_self)
        (hne ".." (by decide))
      rw [hsize] at hname
      exact absurd hname (by decide)
  refine ⟨.nil fun n hn => ?_, hnamed, ?_, fun path hfound => ?_⟩
  · rw [hstat] at hn
    cases hn
  · rw [hwanted, List.forall_mem_singleton]
    exact hletters ':' (by decide)
  · obtain ⟨found, hall, -⟩ := standard_ok ⟨.nil, List.not_mem_nil⟩ hfound
    exact (hall (longName 256) (by rw [hnamed]; exact List.mem_cons_self)).2 _ .start hstat

end SearchPath

end FragmentWeaver
