import FragmentWeaver.Proofs.Neighbours
import FragmentWeaver.Proofs.SearchPaths

/-!
# What staging reaches

The directory of a unit lies at the staging root or below it as long as no part of its namespace
starts from the root of all files; otherwise it is the same directory for every staging root. A
source of a helper can lie elsewhere only if its name climbs. Apart from these two, nothing outside
the staging root is written or deleted: at most, directories are made on the way to it.
-/

namespace FragmentWeaver

/-- What is put behind a text and does not hold the separator makes the last piece longer. -/
theorem Text.exists_cutAt_append {sep : Char} (cs : List Char) {ds : List Char} (h : sep ∉ ds) :
    ∃ pieces last, cutAt sep cs = pieces ++ [last] ∧
      cutAt sep (cs ++ ds) = pieces ++ [last ++ ds] := by
  induction cs with
  | nil => exact ⟨[], [], rfl, by simpa using cutAt_of_not_mem h⟩
  | cons c cs ih =>
      obtain ⟨pieces, last, hcs, hds⟩ := ih
      rw [List.cons_append, cutAt, cutAt, hcs, hds]
      split
      · exact ⟨[] :: pieces, last, rfl, rfl⟩
      · cases pieces with
        | nil => exact ⟨[], c :: last, rfl, rfl⟩
        | cons piece pieces => exact ⟨(c :: piece) :: pieces, last, rfl, rfl⟩

theorem of_map_ok {ε α β : Type} {g : α → β} {r : Except ε α} {y : β} (h : g <$> r = .ok y) :
    ∃ x, r = .ok x ∧ g x = y := by
  cases r with
  | error e => cases h
  | ok x => exact ⟨x, rfl, Except.ok.inj h⟩

theorem of_ite_ok {ε α : Type} {c : Prop} [Decidable c] {r : Except ε α} {x y : α}
    (h : (if c then r else .ok x) = .ok y) : r = .ok y ∨ x = y := by
  split at h
  · exact .inl h
  · exact .inr (Except.ok.inj h)

namespace Files

namespace Path

/-! ### Names that lead down -/

/-- A name of a text is made of its characters. -/
theorem mem_of_mem_namesOf {s n : String} (h : n ∈ namesOf s) {c : Char} (hc : c ∈ n.toList) :
    c ∈ s.toList := by
  obtain ⟨piece, hpiece, rfl⟩ := List.mem_map.mp (List.mem_filter.mp h).1
  rw [String.toList_ofList] at hc
  exact Text.mem_of_mem_cutAt hpiece hc

theorem up_not_mem_namesOf {s : String} (h : '.' ∉ s.toList) : ".." ∉ namesOf s :=
  fun hmem => h (mem_of_mem_namesOf hmem (by decide))

theorem append_ne (opening : String) {ending word : String} {c : Char} (hc : c ∈ ending.toList)
    (hword : c ∉ word.toList) : opening ++ ending ≠ word := by
  rintro rfl
  rw [String.toList_append] at hword
  exact hword (List.mem_append_right _ hc)

/-- An ending without slashes stays at the end of the last name. -/
theorem exists_namesOf_append (s : String) {ending : String} (hslash : '/' ∉ ending.toList)
    {c : Char} (hc : c ∈ ending.toList) (hdot : c ≠ '.') :
    ∃ names opening, namesOf (s ++ ending) = names ++ [opening ++ ending] ∧
      ∀ n ∈ names, n ∈ namesOf s := by
  obtain ⟨pieces, last, hs, hlonger⟩ := Text.exists_cutAt_append s.toList hslash
  have hlast : String.ofList (last ++ ending.toList) = String.ofList last ++ ending := by
    rw [String.ofList_append, String.ofList_toList]
  have hempty : String.ofList last ++ ending ≠ "" := append_ne _ hc (by simp)
  have hhere : String.ofList last ++ ending ≠ "." := append_ne _ hc (by simpa using hdot)
  refine ⟨(pieces.map String.ofList).filter fun n => n ≠ "" && n ≠ ".", String.ofList last, ?_,
    fun n hn => ?_⟩
  · have hkept : [String.ofList last ++ ending].filter (fun n => n ≠ "" && n ≠ ".") =
        [String.ofList last ++ ending] := by
      refine List.filter_eq_self.mpr fun n hn => ?_
      rw [List.mem_singleton.mp hn]
      exact Bool.and_eq_true_iff.mpr ⟨decide_eq_true hempty, decide_eq_true hhere⟩
    rw [namesOf, Text.split, String.toList_append, hlonger, List.map_append, List.filter_append,
      List.map_singleton, hlast, hkept]
  · rw [namesOf, Text.split, hs, List.map_append, List.filter_append]
    exact List.mem_append_left _ hn

/-! ### Going on with a text -/

theorem isAbsolute_of_starts {s : String} (h : s.toList.head? = some '/') :
    (parse s).isAbsolute = true := by
  obtain ⟨rest, hs⟩ := List.head?_eq_some_iff.mp h
  simp only [isAbsolute, parse, anchorOf, hs, decide_eq_true_eq]
  simp only [List.takeWhile_cons, decide_true, if_true, List.length_cons]
  split
  · contradiction
  · split <;> decide

theorem join_relative {s : String} (h : s.toList.head? ≠ some '/') (p : Path) :
    p.join s = p.descend (namesOf s) := by
  rw [join, append, if_neg (mt starts_of_isAbsolute h)]
  rfl

/-- Texts of which none starts at the root are gone on with from any path. -/
theorem joinAll_relative {ss : List String} (h : ∀ s ∈ ss, s.toList.head? ≠ some '/') (p : Path) :
    p.joinAll ss = p.descend (ss.flatMap namesOf) := by
  induction ss generalizing p with
  | nil => exact (descend_nil p).symm
  | cons s ss ih =>
      obtain ⟨hs, hrest⟩ := List.forall_mem_cons.mp h
      have hcons : p.joinAll (s :: ss) = (p.join s).joinAll ss := rfl
      rw [hcons, join_relative hs, ih hrest, descend_descend, List.flatMap_cons]

/-- A text that starts at the root makes what was before it forgotten. -/
theorem joinAll_rooted {ss : List String} {s : String} (hmem : s ∈ ss)
    (h : s.toList.head? = some '/') (p q : Path) : p.joinAll ss = q.joinAll ss := by
  induction ss generalizing p q with
  | nil => cases hmem
  | cons first ss ih =>
      have hcons (p : Path) : p.joinAll (first :: ss) = (p.join first).joinAll ss := rfl
      rw [hcons, hcons]
      rcases List.mem_cons.mp hmem with rfl | hmem
      · simp only [join, append, isAbsolute_of_starts h, if_true]
      · exact ih hmem _ _

/-! ### Places below a place -/

/-- Does a place lie below another one? -/
def Beneath (place q : List String) : Prop :=
  place <+: q ∧ q ≠ place

instance : DecidableRel Beneath :=
  fun place q => inferInstanceAs (Decidable (place <+: q ∧ q ≠ place))

/-- Do names lead from a place so many names below another one to places at or below that one all
    the way? -/
def staysBelow : Nat → List String → Bool
  | _, [] => true
  | depth, name :: rest =>
      if name = ".." then 0 < depth && staysBelow (depth - 1) rest
      else staysBelow (depth + 1) rest

variable {place below : List String}

theorem beneath_append {more : List String} (h : more ≠ []) : Beneath place (place ++ more) :=
  ⟨List.prefix_append .., by simpa using h⟩

theorem foldl_step_down {names : List String} (h : ".." ∉ names) (place : List String) :
    names.foldl step place = place ++ names := by
  induction names generalizing place with
  | nil => simp
  | cons name names ih =>
      rw [List.mem_cons, not_or] at h
      rw [List.foldl_cons, step, if_neg (Ne.symm h.1), ih h.2]
      simp

theorem prefix_foldl_step {names : List String} (h : staysBelow below.length names = true) :
    place <+: names.foldl step (place ++ below) := by
  induction names generalizing below with
  | nil => exact List.prefix_append ..
  | cons name names ih =>
      rw [List.foldl_cons, step]
      by_cases hup : name = ".."
      · rw [if_pos hup]
        rw [staysBelow, if_pos hup] at h
        cases below using List.reverseRecOn with
        | nil => simp at h
        | append_singleton below last =>
            rw [← List.append_assoc, List.dropLast_concat]
            exact ih (by simpa using h)
      · rw [if_neg hup, List.append_assoc]
        rw [staysBelow, if_neg hup] at h
        exact ih (by simpa using h)

/-- What has left a place does not come back to it without its last name. -/
theorem not_prefix_foldl_step {names : List String} {last : String} (hlast : last ∉ names)
    {q : List String} (h : ¬place ++ [last] <+: q) : ¬place ++ [last] <+: names.foldl step q := by
  induction names generalizing q with
  | nil => exact h
  | cons name names ih =>
      rw [List.mem_cons, not_or] at hlast
      rw [List.foldl_cons]
      refine ih hlast.2 fun hpre => h ?_
      rw [step] at hpre
      split at hpre
      · exact hpre.trans <| List.dropLast_prefix q
      · rcases List.prefix_concat_iff.mp hpre with heq | hpre
        · exact absurd (List.append_inj_right' heq rfl) (by simpa using hlast.1)
        · exact hpre

theorem not_prefix_of_leaves {names : List String} {last : String} (hlast : last ∉ names)
    (h : staysBelow below.length names = false) :
    ¬place ++ [last] <+: names.foldl step (place ++ [last] ++ below) := by
  induction names generalizing below with
  | nil => cases h
  | cons name names ih =>
      have hrest : last ∉ names := fun hmem => hlast (List.mem_cons_of_mem name hmem)
      rw [List.foldl_cons, step]
      by_cases hup : name = ".."
      · rw [if_pos hup]
        rw [staysBelow, if_pos hup] at h
        cases below using List.reverseRecOn with
        | nil =>
            rw [List.append_nil, List.dropLast_concat]
            exact not_prefix_foldl_step hrest fun hpre => by simpa using hpre.length_le
        | append_singleton below last' =>
            rw [← List.append_assoc, List.dropLast_concat]
            exact ih hrest (by simpa using h)
      · rw [if_neg hup, List.append_assoc]
        rw [staysBelow, if_neg hup] at h
        exact ih hrest (by simpa using h)

theorem staysBelow_append_left {depth : Nat} {names more : List String}
    (h : staysBelow depth (names ++ more) = true) : staysBelow depth names = true := by
  induction names generalizing depth with
  | nil => rfl
  | cons name names ih =>
      rw [List.cons_append, staysBelow] at h
      rw [staysBelow]
      split
      · next hup =>
          rw [if_pos hup, Bool.and_eq_true] at h
          rw [ih h.2, h.1]
          rfl
      · next hup =>
          rw [if_neg hup] at h
          exact ih h

/-- Names that leave every place lead away from one of another name. -/
theorem not_prefix_of_leaves_root {names : List String} {last : String} (hlast : last ∉ names)
    (h : staysBelow 0 names = false) : ¬[last] <+: names.foldl step [last] :=
  @not_prefix_of_leaves [] [] names last hlast h

/-- Names whose last one leads down and which never leave a place lead below it. -/
theorem beneath_foldl_step {names : List String} {last : String} (hlast : last ≠ "..")
    (h : staysBelow 0 (names ++ [last]) = true) (place : List String) :
    Beneath place ((names ++ [last]).foldl step place) := by
  have hshorter : place <+: names.foldl step (place ++ []) :=
    prefix_foldl_step (staysBelow_append_left h)
  rw [List.append_nil] at hshorter
  rw [List.foldl_append, List.foldl_cons, List.foldl_nil, step, if_neg hlast]
  refine ⟨hshorter.trans (List.prefix_append _ [last]), fun heq => ?_⟩
  have hlength := congrArg List.length heq
  rw [List.length_append, List.length_singleton] at hlength
  exact absurd hshorter.length_le (by omega)

/-! ### Places without dots -/

theorem up_not_mem_step {place : List String} (h : ".." ∉ place) (name : String) :
    ".." ∉ step place name := by
  rw [step]
  split
  · exact fun hmem => h (List.dropLast_subset place hmem)
  · next hup => simpa [h] using Ne.symm hup

theorem up_not_mem_foldl_step {place names : List String} (h : ".." ∉ place) :
    ".." ∉ names.foldl step place := by
  induction names generalizing place with
  | nil => exact h
  | cons name names ih => exact ih (up_not_mem_step h name)

theorem up_not_mem_passed {place names : List String} (h : ".." ∉ place) :
    ∀ q ∈ passed place names, ".." ∉ q := by
  induction names generalizing place with
  | nil => nofun
  | cons name names ih =>
      intro q hq
      rcases List.mem_cons.mp hq with rfl | hq
      · exact h
      · exact ih (up_not_mem_step h name) q hq

/-- An anchored path comes by no place with a name of two dots. -/
theorem up_not_mem_trail {p : Path} (h : p.isAbsolute = true) (cwd : List String) :
    ∀ q ∈ p.trail cwd, ".." ∉ q := by
  have hstart : ".." ∉ p.start cwd := by
    rw [start, if_pos h]
    exact List.not_mem_nil
  intro q hq
  rcases List.mem_append.mp hq with hq | hq
  · exact up_not_mem_passed hstart q hq
  · rw [List.mem_singleton.mp hq]
    exact up_not_mem_foldl_step hstart

/-- Where names lead down to lies below the path, on the way and in the end. -/
theorem trail_descend {p : Path} {names : List String} (h : ".." ∉ names) (cwd : List String)
    {q : List String} (hq : q ∈ (p.descend names).trail cwd) :
    q ∈ p.trail cwd ∨ Beneath (p.goal cwd) q := by
  induction names using List.reverseRecOn with
  | nil => exact .inl (by rwa [descend_nil] at hq)
  | append_singleton names name ih =>
      rw [List.mem_append, not_or, List.mem_singleton] at h
      rw [descend_concat, trail, way_child, goal_child cwd _ (Ne.symm h.2), List.mem_append] at hq
      rcases hq with hq | hq
      · exact ih h.1 hq
      · rw [List.mem_singleton.mp hq, goal_descend, foldl_step_down h.1, List.append_assoc]
        exact .inr (beneath_append (by simp))

end Path

namespace Tree

variable {t t' : Tree} {cwd : List String} {p q : Path}

/-- No name in the tree is two dots. -/
def Plain (t : Tree) : Prop :=
  ∀ q, t.node? q ≠ none → ".." ∉ q

theorem plain_of_keys (h : ∀ q ∈ Assoc.keys t, ".." ∉ q) : t.Plain := by
  intro q hq
  by_cases hroot : q = []
  · rw [hroot]
    exact List.not_mem_nil
  · exact h q ((node?_ne_none_iff hroot).mp hq)

theorem Plain.grown {places : List (List String)} (h : t.Plain) (hplaces : ∀ q ∈ places, ".." ∉ q)
    (hgrown : Grown places t t') : t'.Plain := by
  intro q hq
  rcases hgrown q with hsame | ⟨hmem, -⟩
  · exact h q (hsame ▸ hq)
  · exact hplaces q hmem

theorem Plain.mem_list (h : t.Plain) {name : String} (hname : name ∈ t.list cwd p) :
    name ≠ ".." := by
  have hnode := (Tree.mem_list (isDirectory_of_mem_list hname)).mp hname
  rintro rfl
  exact h _ hnode (by simp)

/-- The names of a tree that a search goes down by. -/
theorem descends_of_mem_directoriesWithin (ht : t.Plain) {depth : Nat}
    (h : q ∈ t.directoriesWithin cwd depth p) : ∃ names, q = p.descend names ∧ ".." ∉ names := by
  induction depth generalizing p with
  | zero =>
      rw [directoriesWithin, List.mem_singleton] at h
      exact ⟨[], by rw [h, Path.descend_nil], List.not_mem_nil⟩
  | succ depth ih =>
      rw [directoriesWithin] at h
      rcases List.mem_cons.mp h with rfl | h
      · exact ⟨[], (Path.descend_nil q).symm, List.not_mem_nil⟩
      · obtain ⟨name, hname, h⟩ := List.mem_flatMap.mp h
        obtain ⟨names, rfl, hnames⟩ := ih h
        have hup := ht.mem_list (List.mem_filter.mp hname).1
        exact ⟨name :: names, (Path.descend_cons p name names).symm, by simp [hnames, Ne.symm hup]⟩

/-- What a pattern finds that does not climb lies below where it is looked for. -/
theorem descends_of_mem_select (ht : t.Plain) {steps : List Step} {found : List Path}
    (hup : .up ∉ steps) (hexactly : .exactly ".." ∉ steps)
    (h : t.select cwd steps p = .ok found) (hq : q ∈ found) :
    ∃ names, q = p.descend names ∧ ".." ∉ names ∧
      ∀ pieces, .wild pieces ∈ steps → names ≠ [] := by
  induction steps generalizing p found with
  | nil =>
      cases h
      rw [List.mem_singleton.mp hq]
      exact ⟨[], (Path.descend_nil p).symm, List.not_mem_nil, fun _ h => absurd h List.not_mem_nil⟩
  | cons step rest ih =>
      rw [List.mem_cons, not_or] at hup hexactly
      have hih {p : Path} {found : List Path} (h : t.select cwd rest p = .ok found)
          (hq : q ∈ found) := ih hup.2 hexactly.2 h hq
      cases step with
      | up => exact absurd rfl hup.1
      | exactly name =>
          have hname : ".." ≠ name := fun heq => hexactly.1 (heq ▸ rfl)
          rw [select] at h
          cases hprobe : t.probe cwd (p.child name) with
          | error f =>
              rw [hprobe] at h
              cases h
          | ok there =>
              rw [hprobe] at h
              dsimp only [bind, Except.bind] at h
              rcases of_ite_ok h with h | rfl
              · obtain ⟨names, rfl, hnames, -⟩ := hih h hq
                exact ⟨name :: names, (Path.descend_cons p name names).symm,
                  by simp [hname, hnames], fun _ _ => List.cons_ne_nil _ _⟩
              · cases hq
      | wild pieces =>
          rw [select] at h
          obtain ⟨founds, hfounds, rfl⟩ := of_map_ok h
          obtain ⟨g, hg, rfl⟩ := exists_of_mapM_ok hfounds
          obtain ⟨qs, hqs, hq⟩ := List.mem_flatten.mp hq
          obtain ⟨name, hname, rfl⟩ := List.mem_map.mp hqs
          obtain ⟨names, rfl, hnames, -⟩ := hih (hg name hname) hq
          have hname := ht.mem_list (List.mem_filter.mp hname).1
          exact ⟨name :: names, (Path.descend_cons p name names).symm,
            by simp [Ne.symm hname, hnames], fun _ _ => List.cons_ne_nil _ _⟩
      | anyDepth =>
          rw [select] at h
          obtain ⟨founds, hfounds, rfl⟩ := of_map_ok h
          obtain ⟨g, hg, rfl⟩ := exists_of_mapM_ok hfounds
          obtain ⟨qs, hqs, hq⟩ := List.mem_flatten.mp (mem_distinct.mp hq)
          obtain ⟨directory, hdirectory, rfl⟩ := List.mem_map.mp hqs
          obtain ⟨above, rfl, habove⟩ := descends_of_mem_directoriesWithin ht hdirectory
          obtain ⟨names, rfl, hnames, hwild⟩ := hih (hg _ hdirectory) hq
          refine ⟨above ++ names, Path.descend_descend .., by simp [habove, hnames],
            fun pieces hpieces => ?_⟩
          have hmem : .wild pieces ∈ rest :=
            (List.mem_cons.mp hpieces).resolve_left (by intro heq; cases heq)
          exact List.append_ne_nil_of_right_ne_nil above (hwild pieces hmem)

end Tree

end Files

namespace Staging

open Files Path

variable {t : Tree} {cwd : List String} {root : Path} {u : UnitId}

/-- Does every part of the namespace go on from what is before it? -/
def IsNested (u : UnitId) : Prop :=
  ∀ part ∈ Text.split '.' u.space, part.toList.head? ≠ some '/'

instance : DecidablePred IsNested := fun u =>
  inferInstanceAs (Decidable (∀ part ∈ Text.split '.' u.space, part.toList.head? ≠ some '/'))

/-- The names that the namespace of a unit leads down by. -/
def spaceNames (u : UnitId) : List String :=
  (Text.split '.' u.space).flatMap namesOf

/-- The names by which a helper of a unit is reached from the staging root. -/
def helperNames (u : UnitId) (helper : String) : List String :=
  spaceNames u ++ namesOf (u.name ++ helperMark ++ helper ++ sourceSuffix)

/-! ### The directory -/

theorem directory_nested (h : IsNested u) (root : Path) :
    directory root u = root.descend (spaceNames u) :=
  joinAll_relative h root

/-- A unit that is not nested has one directory, whatever the root. -/
theorem directory_not_nested (h : ¬IsNested u) (root root' : Path) :
    directory root u = directory root' u := by
  simp only [IsNested, not_forall, not_not] at h
  obtain ⟨part, hpart, hstarts⟩ := h
  exact joinAll_rooted hpart hstarts root root'

theorem up_not_mem_spaceNames (u : UnitId) : ".." ∉ spaceNames u := by
  intro hmem
  obtain ⟨part, hpart, hmem⟩ := List.mem_flatMap.mp hmem
  obtain ⟨piece, hpiece, rfl⟩ := List.mem_map.mp hpart
  refine up_not_mem_namesOf ?_ hmem
  rw [String.toList_ofList]
  exact Text.sep_notMem_of_mem_cutAt hpiece

theorem goal_directory (h : IsNested u) (cwd : List String) (root : Path) :
    (directory root u).goal cwd = root.goal cwd ++ spaceNames u := by
  rw [directory_nested h, goal_descend, foldl_step_down (up_not_mem_spaceNames u)]

/-! ### Names behind the simple name -/

/-- What is read behind the simple name of a unit, if it does not hold dots but in its ending. -/
theorem exists_names_append (u : UnitId) {ending : String} (hslash : '/' ∉ ending.toList)
    {c : Char} (hc : c ∈ ending.toList) (hdot : c ≠ '.') :
    ".." ∉ namesOf (u.name ++ ending) ∧ namesOf (u.name ++ ending) ≠ [] := by
  obtain ⟨names, opening, heq, hnames⟩ := exists_namesOf_append u.name hslash hc hdot
  rw [heq]
  refine ⟨fun hmem => ?_, by simp⟩
  rcases List.mem_append.mp hmem with hmem | hmem
  · exact up_not_mem_namesOf u.name_undotted (hnames _ hmem)
  · exact append_ne opening hc (by simpa using hdot) (List.mem_singleton.mp hmem).symm

/-- A name with a star in it is a wildcard, unless it is two stars. -/
theorem wild_of_parse {name : String} {s : Step} (h : Step.parse name = .ok s)
    (hstar : '*' ∈ name.toList) (hdeep : name ≠ "**") : ∃ pieces, s = .wild pieces := by
  have hup : name ≠ ".." := by
    rintro rfl
    exact absurd hstar (by decide)
  have hpattern : Wildcard.isPattern name = true :=
    List.any_eq_true.mpr ⟨'*', hstar, by decide⟩
  rw [Step.parse, if_neg hdeep, if_neg hup, hpattern] at h
  split at h
  · cases h
  · exact ⟨_, (Except.ok.inj h).symm⟩

/-- Only two dots are read as a step up. -/
theorem eq_up_of_parse {name : String} {s : Step} (h : Step.parse name = .ok s)
    (hs : s = .up ∨ s = .exactly "..") : name = ".." := by
  unfold Step.parse at h
  split at h
  · cases h
    rcases hs with hs | hs <;> cases hs
  · split at h
    · assumption
    · split at h
      · cases h
      · split at h
        · cases h
          rcases hs with hs | hs <;> cases hs
        · cases h
          rcases hs with hs | hs
          · cases hs
          · exact Step.exactly.inj hs

theorem parsePattern_eq_ok {pattern : String} {steps : List Step}
    (h : parsePattern pattern = .ok steps) :
    pattern.toList.head? ≠ some '/' ∧ (namesOf pattern).mapM Step.parse = .ok steps := by
  unfold parsePattern at h
  dsimp only at h
  split at h
  · cases h
  · next habsolute => exact ⟨fun hstarts => habsolute (isAbsolute_of_starts hstarts), h⟩

/-- The pattern of the helpers of a unit goes down at least one name and never climbs. -/
theorem parse_helperPattern_down {suffix : String} (hsuffix : suffix ∈ fileSuffixes)
    {steps : List Step} (h : parsePattern (helperPattern u.name suffix) = .ok steps) :
    ¬IsRooted u ∧ .up ∉ steps ∧ .exactly ".." ∉ steps ∧ ∃ pieces, .wild pieces ∈ steps := by
  obtain ⟨hstarts, hsteps⟩ := parsePattern_eq_ok h
  obtain ⟨-, -, -, -, hslash, -⟩ := toList_suffix hsuffix
  have hending : helperPattern u.name suffix = u.name ++ (helperMark ++ "*" ++ suffix) := by
    simp only [helperPattern, String.append_assoc]
  have hunslashed : '/' ∉ (helperMark ++ "*" ++ suffix).toList := by
    simpa [helperMark] using hslash
  have hstar : '*' ∈ (helperMark ++ "*" ++ suffix).toList := by simp
  have hmark : '_' ∈ (helperMark ++ "*" ++ suffix).toList := by simp [helperMark]
  rw [hending] at hsteps hstarts
  have hdown := (exists_names_append u hunslashed hstar (by decide)).1
  obtain ⟨names, opening, hnames, -⟩ := exists_namesOf_append u.name hunslashed hstar (by decide)
  have : Inhabited Step := ⟨.up⟩
  obtain ⟨g, hg, rfl⟩ := exists_of_mapM_ok hsteps
  refine ⟨fun hrooted => hstarts ?_, fun hmem => ?_, fun hmem => ?_, ?_⟩
  · rw [String.toList_append, List.head?_append, hrooted]
    rfl
  · obtain ⟨name, hname, hup⟩ := List.mem_map.mp hmem
    exact hdown (eq_up_of_parse (hg name hname) (.inl hup) ▸ hname)
  · obtain ⟨name, hname, hup⟩ := List.mem_map.mp hmem
    exact hdown (eq_up_of_parse (hg name hname) (.inr hup) ▸ hname)
  · have hlast : opening ++ (helperMark ++ "*" ++ suffix) ∈
        namesOf (u.name ++ (helperMark ++ "*" ++ suffix)) := by
      rw [hnames]
      exact List.mem_append_right _ (List.mem_singleton_self _)
    obtain ⟨pieces, hpieces⟩ := wild_of_parse (hg _ hlast)
      (by rw [String.toList_append]; exact List.mem_append_right _ hstar)
      (append_ne opening hmark (by decide))
    exact ⟨pieces, List.mem_map.mpr ⟨_, hlast, hpieces⟩⟩

/-- The pattern of the helpers of a unit finds what lies below the directory, and nothing else. -/
theorem descends_of_mem_glob (ht : t.Plain) {suffix : String} (hsuffix : suffix ∈ fileSuffixes)
    {directory : Path} {found : List Path}
    (h : t.glob cwd directory (helperPattern u.name suffix) = .ok found) :
    ¬IsRooted u ∧
      ∀ q ∈ found, ∃ names, q = directory.descend names ∧ ".." ∉ names ∧ names ≠ [] := by
  unfold Tree.glob at h
  split at h
  · cases h
  · next steps hpattern =>
      obtain ⟨hrooted, hup, hexactly, pieces, hwild⟩ := parse_helperPattern_down hsuffix hpattern
      refine ⟨hrooted, fun q hq => ?_⟩
      cases hprobe : t.probe cwd directory with
      | error f =>
          rw [hprobe] at h
          cases h
      | ok there =>
          rw [hprobe] at h
          dsimp only [bind, Except.bind] at h
          split at h
          · obtain ⟨selected, hselect, rfl⟩ := of_map_ok h
            rw [Path.sorted, (ascending_perm upTo selected).mem_iff] at hq
            obtain ⟨names, rfl, hnames, hne⟩ :=
              Tree.descends_of_mem_select ht hup hexactly hselect hq
            exact ⟨names, rfl, hnames, hne pieces hwild⟩
          · cases h
            cases hq

/-! ### What is written and deleted -/

/-- A path below the directory of a nested unit leads below the root. -/
theorem beneath_descend (h : IsNested u) (cwd : List String) (root : Path) {names : List String}
    (hup : ".." ∉ names) (hne : names ≠ []) :
    Beneath (root.goal cwd) (((directory root u).descend names).goal cwd) := by
  rw [goal_descend, foldl_step_down hup, goal_directory h, List.append_assoc]
  exact beneath_append (List.append_ne_nil_of_right_ne_nil _ hne)

theorem starts_append (hrooted : ¬IsRooted u) (rest : String) :
    (u.name ++ rest).toList.head? ≠ some '/' := by
  rw [String.toList_append, List.head?_append]
  cases hname : u.name.toList with
  | nil => exact absurd (String.toList_eq_nil_iff.mp hname) u.name_ne
  | cons first others =>
      rw [IsRooted, hname] at hrooted
      exact hrooted

/-- The name of a unit with a suffix leads below its directory. -/
theorem join_name_suffix (hrooted : ¬IsRooted u) {suffix : String} (hsuffix : suffix ∈ fileSuffixes)
    (directory : Path) : ∃ names, directory.join (u.name ++ suffix) = directory.descend names ∧
      ".." ∉ names ∧ names ≠ [] := by
  obtain ⟨cs, hcs, hne, hdot, hslash, -⟩ := toList_suffix hsuffix
  obtain ⟨c, hc⟩ := List.exists_mem_of_ne_nil cs hne
  exact ⟨_, join_relative (starts_append hrooted suffix) directory, exists_names_append u hslash
    (by rw [hcs]; exact List.mem_cons_of_mem _ hc) fun heq => hdot (heq ▸ hc)⟩

/-- A helper of a nested unit is reached from the root by its names. -/
theorem helperPath_eq_descend (h : IsNested u) (hrooted : ¬IsRooted u) (root : Path)
    (helper : String) : helperPath root u helper = root.descend (helperNames u helper) := by
  have hstarts := starts_append hrooted (helperMark ++ helper ++ sourceSuffix)
  rw [helperPath, helperNames, directory_nested h, ← descend_descend]
  simp only [String.append_assoc] at hstarts ⊢
  exact join_relative hstarts _

/-- A longer name than all of some names. -/
def strangeName (names : List String) : String :=
  String.ofList (List.replicate (names.foldr (fun n k => n.length + k) 0 + 1) 'x')

theorem length_le_foldr {names : List String} {n : String} (hn : n ∈ names) :
    n.length ≤ names.foldr (fun n k => n.length + k) 0 := by
  induction names with
  | nil => cases hn
  | cons m names ih =>
      rw [List.foldr_cons]
      rcases List.mem_cons.mp hn with rfl | hn
      · exact Nat.le_add_right _ _
      · exact Nat.le_trans (ih hn) (Nat.le_add_left _ _)

theorem strangeName_not_mem (names : List String) : strangeName names ∉ names := by
  intro hmem
  have hle := length_le_foldr hmem
  rw [strangeName, String.length_ofList, List.length_replicate] at hle
  omega

theorem goal_strangeName (cwd names : List String) :
    (⟨"/", [strangeName names]⟩ : Path).goal cwd = [strangeName names] := by
  have hup : strangeName names ≠ ".." := by
    intro h
    have hdot : '.' ∈ (strangeName names).toList := by
      rw [h]
      decide
    rw [strangeName, String.toList_ofList] at hdot
    exact absurd (List.eq_of_mem_replicate hdot) (by decide)
  exact foldl_step_down (mt List.mem_singleton.mp (Ne.symm hup)) []

/-- A helper of a nested unit stays below every root exactly if its names never leave it. -/
theorem staysBelow_helperNames_iff (h : IsNested u) (hrooted : ¬IsRooted u) (helper : String) :
    staysBelow 0 (helperNames u helper) = true ↔
      ∀ (cwd : List String) (root : Path), root.isAbsolute = true →
        Beneath (root.goal cwd) ((helperPath root u helper).goal cwd) := by
  constructor
  · intro hstays cwd root _
    have hy : 'y' ∈ sourceSuffix.toList := by decide
    obtain ⟨names, opening, hnames, -⟩ :=
      exists_namesOf_append (u.name ++ helperMark ++ helper) (by decide : '/' ∉ sourceSuffix.toList)
        hy (by decide)
    rw [helperPath_eq_descend h hrooted, goal_descend]
    rw [helperNames, hnames, ← List.append_assoc] at hstays ⊢
    exact beneath_foldl_step (append_ne opening hy (by decide)) hstays _
  · intro hall
    by_contra hleaves
    rw [Bool.not_eq_true] at hleaves
    have hbelow := (hall [] ⟨"/", [strangeName (helperNames u helper)]⟩ rfl).1
    rw [helperPath_eq_descend h hrooted, goal_descend, goal_strangeName] at hbelow
    exact not_prefix_of_leaves_root (strangeName_not_mem _) hleaves hbelow

/-- A unit is nested exactly if its directory lies at or below every root. -/
theorem isNested_iff :
    IsNested u ↔ ∀ (cwd : List String) (root : Path), root.isAbsolute = true →
      root.goal cwd <+: (directory root u).goal cwd := by
  constructor
  · intro h cwd root _
    rw [goal_directory h]
    exact List.prefix_append ..
  · intro hall
    by_contra hnested
    let fixed := (directory ⟨"/", []⟩ u).goal []
    have hinside := hall [] ⟨"/", [strangeName fixed]⟩ rfl
    rw [goal_strangeName, directory_not_nested hnested _ ⟨"/", []⟩] at hinside
    exact strangeName_not_mem fixed (hinside.subset (List.mem_singleton_self _))

/-! ### Staging and purging -/

section

variable {source : String} {helpers : List (String × String)}

theorem node?_writeAll_of_not_mem {files : List (Path × String)} {q : List String}
    (h : ∀ file ∈ files, file.1.goal cwd ≠ q) : (writeAll t cwd files).2.node? q = t.node? q := by
  induction files generalizing t with
  | nil => rfl
  | cons file files ih =>
      obtain ⟨hfile, hrest⟩ := List.forall_mem_cons.mp h
      rw [writeAll]
      split
      · next t' hwrite =>
          obtain ⟨hnode, rfl⟩ := Tree.write_eq_ok hwrite
          rw [ih hrest, Tree.node?_put (Tree.ne_nil_of_node? hnode), if_neg (Ne.symm hfile)]
      · rfl

/-- Every source of a nested unit lies below the root, if no helper climbs out. -/
theorem beneath_of_mem_sources (h : IsNested u) (hrooted : ¬IsRooted u)
    (habsolute : root.isAbsolute = true)
    (hhelpers : ∀ h ∈ helpers, staysBelow 0 (helperNames u h.1) = true) {file : Path × String}
    (hfile : file ∈ sources root u source helpers) :
    Beneath (root.goal cwd) (file.1.goal cwd) := by
  rcases mem_sources.mp hfile with rfl | ⟨helper, hhelper, rfl⟩
  · obtain ⟨names, hpath, hup, hne⟩ := join_name_suffix hrooted mem_sourceSuffix (directory root u)
    have hsource : sourcePath root u = (directory root u).descend names := hpath
    rw [hsource]
    exact beneath_descend h cwd root hup hne
  · exact (staysBelow_helperNames_iff h hrooted helper.1).mp (hhelpers helper hhelper) cwd root
      habsolute

/-- Every compiled file that is found for a nested unit lies below the root. -/
theorem beneath_of_mem_artifacts (h : IsNested u) (ht : t.Plain) {stale : List Path}
    (hstale : artifacts t cwd u (directory root u) = .ok stale) :
    ∀ p ∈ stale, Beneath (root.goal cwd) (p.goal cwd) := by
  unfold artifacts at hstale
  cases hglob : t.glob cwd (directory root u) (helperPattern u.name artifactSuffix) with
  | error f =>
      rw [hglob] at hstale
      cases hstale
  | ok found =>
      obtain ⟨hrooted, hfound⟩ := descends_of_mem_glob ht mem_artifactSuffix hglob
      rw [hglob] at hstale
      cases hprobe : t.probe cwd (artifactPath (directory root u) u) with
      | error f =>
          simp only [hprobe, bind, Except.bind] at hstale
          cases hstale
      | ok own =>
          simp only [hprobe, bind, Except.bind] at hstale
          obtain rfl := Except.ok.inj hstale
          intro p hp
          rcases List.mem_append.mp hp with hp | hp
          · obtain ⟨names, hpath, hup, hne⟩ :=
              join_name_suffix hrooted mem_artifactSuffix (directory root u)
            have hown : p = (directory root u).descend names := by
              split at hp
              · exact (List.mem_singleton.mp hp).trans hpath
              · cases hp
            rw [hown]
            exact beneath_descend h cwd root hup hne
          · obtain ⟨names, rfl, hup, hne⟩ := hfound p hp
            exact beneath_descend h cwd root hup hne

/-- Staging a nested unit changes nothing outside the root but for directories that are made on the
    way to it. -/
theorem stage_confined (h : IsNested u) (habsolute : root.isAbsolute = true) (ht : t.Plain)
    (hhelpers : ¬IsRooted u → ∀ h ∈ helpers, staysBelow 0 (helperNames u h.1) = true)
    {q : List String} (hq : ¬Beneath (root.goal cwd) q) :
    (stage t cwd root u source helpers).2.node? q = t.node? q ∨
      q ∈ root.trail cwd ∧ t.node? q = none ∧
        (stage t cwd root u source helpers).2.node? q = some .directory := by
  have hmakes := Tree.makes_directory t cwd (directory root u)
  have hplain : (t.makeDirectory cwd (directory root u)).2.Plain := by
    refine ht.grown (up_not_mem_trail ?_ cwd) hmakes.grown
    rw [directory_nested h]
    exact habsolute
  have hmade : (t.makeDirectory cwd (directory root u)).2.node? q = t.node? q ∨
      q ∈ root.trail cwd ∧ t.node? q = none ∧
        (t.makeDirectory cwd (directory root u)).2.node? q = some .directory := by
    refine (hmakes.grown q).imp_right fun hmem => ⟨?_, hmem.2⟩
    rw [directory_nested h] at hmem
    exact (trail_descend (up_not_mem_spaceNames u) cwd hmem.1).resolve_right hq
  unfold stage
  generalize t.makeDirectory cwd (directory root u) = made at hplain hmade ⊢
  obtain ⟨_ | _, t₁⟩ := made
  · exact hmade
  · dsimp only at hplain hmade ⊢
    split
    · exact hmade
    · next stale hglob =>
        -- From here on, files are deleted and written below the root only.
        obtain ⟨hrooted, hstale⟩ := descends_of_mem_glob hplain mem_sourceSuffix hglob
        have hdeleted : (deleteAll t₁ cwd stale).2.node? q = t₁.node? q := by
          refine (shrunk_deleteAll t₁ cwd stale).node?_eq fun hmem => hq ?_
          obtain ⟨p, hp, rfl⟩ := List.mem_map.mp hmem
          obtain ⟨names, rfl, hup, hne⟩ := hstale p hp
          exact beneath_descend h cwd root hup hne
        generalize deleteAll t₁ cwd stale = deleted at hdeleted ⊢
        obtain ⟨_ | _, t₂⟩ := deleted
        · rwa [hdeleted]
        · have hwritten : (writeAll t₂ cwd (sources root u source helpers)).2.node? q =
              t₂.node? q := by
            refine node?_writeAll_of_not_mem fun file hfile hgoal => hq ?_
            rw [← hgoal]
            exact beneath_of_mem_sources h hrooted habsolute (hhelpers hrooted) hfile
          dsimp only at hdeleted ⊢
          rwa [hwritten, hdeleted]

/-- Purging changes nothing outside the root. -/
theorem purge_confined (h : IsNested u) (ht : t.Plain) {q : List String}
    (hq : ¬Beneath (root.goal cwd) q) : (purge t cwd root u).2.1.node? q = t.node? q := by
  unfold purge
  split
  · rfl
  · next stale hstale =>
      refine (shrunk_deleteStale t cwd stale).node?_eq fun hmem => hq ?_
      obtain ⟨p, hp, rfl⟩ := List.mem_map.mp hmem
      exact beneath_of_mem_artifacts h ht hstale p hp

end

/-- What staging reaches, for every unit. Its directory lies at or below every root exactly if the
    unit is nested; otherwise it is one and the same for all roots. The source of a helper of a
    nested unit lies below every root exactly if its names never leave it. If none does, then in
    every tree of files staging and purging the unit write and delete below the root only; besides,
    directories are made where nothing was on the way to the root. -/
theorem staging_confined (u : UnitId) :
    (IsNested u ↔ ∀ (cwd : List String) (root : Path), root.isAbsolute = true →
      root.goal cwd <+: (directory root u).goal cwd) ∧
    (¬IsNested u → ∀ root root' : Path, directory root u = directory root' u) ∧
    (IsNested u → ¬IsRooted u → ∀ helper, staysBelow 0 (helperNames u helper) = true ↔
      ∀ (cwd : List String) (root : Path), root.isAbsolute = true →
        Beneath (root.goal cwd) ((helperPath root u helper).goal cwd)) ∧
    (IsNested u → ∀ (cwd : List String) (root : Path), root.isAbsolute = true →
      ∀ t : Tree, t.Plain →
        (∀ (source : String) (helpers : List (String × String)),
          (¬IsRooted u → ∀ h ∈ helpers, staysBelow 0 (helperNames u h.1) = true) →
          ∀ q, ¬Beneath (root.goal cwd) q →
            (stage t cwd root u source helpers).2.node? q = t.node? q ∨
              q ∈ root.trail cwd ∧ t.node? q = none ∧
                (stage t cwd root u source helpers).2.node? q = some .directory) ∧
        (∀ q, ¬Beneath (root.goal cwd) q → (purge t cwd root u).2.1.node? q = t.node? q) ∧
        ∀ removed, (purge t cwd root u).1 = .ok removed →
          ∀ p ∈ removed, Beneath (root.goal cwd) (p.goal cwd)) := by
  refine ⟨isNested_iff, directory_not_nested, staysBelow_helperNames_iff,
    fun h cwd root habsolute t ht => ⟨fun source helpers hhelpers q hq => ?_, fun q hq => ?_,
      fun removed hremoved p hp => ?_⟩⟩
  · exact stage_confined h habsolute ht hhelpers hq
  · exact purge_confined h ht hq
  · unfold purge at hremoved
    split at hremoved
    · cases hremoved
    · next stale hstale =>
        exact beneath_of_mem_artifacts h ht hstale p (mem_of_deleteStale hremoved hp)

/-- A staging root with the source of a helper in it, and a file beside it. -/
def besideRoot : Tree :=
  [(["kept.py"], .file (.text "")), (["stage"], .directory), (["stage", "woven"], .directory),
    (["stage", "woven", "gen1__old.py"], .file (.text ""))]

theorem staging_confined_gen1 :
    (stage besideRoot [] (.parse "/stage") (.numbered 1) "pass" [("new", "")]).2.node? ["kept.py"] =
      some (.file (.text "")) ∧
    (purge besideRoot [] (.parse "/stage") (.numbered 1)).2.1.node? ["kept.py"] =
      some (.file (.text "")) := by
  have hnested : IsNested (.numbered 1) := by decide
  have hstays : staysBelow 0 (helperNames (.numbered 1) "new") = true := by decide +kernel
  have hplain : besideRoot.Plain := Tree.plain_of_keys (by decide)
  have hbeside : ¬Beneath (Path.goal [] (.parse "/stage")) ["kept.py"] := by decide
  obtain ⟨hstage, hpurge, -⟩ :=
    (staging_confined (.numbered 1)).2.2.2 hnested [] (.parse "/stage") (by decide) besideRoot
      hplain
  refine ⟨?_, (hpurge _ hbeside).trans rfl⟩
  rcases hstage "pass" [("new", "")] (by simpa using fun _ => hstays) _ hbeside with hsame | hmade
  · exact hsame.trans rfl
  · cases hmade.2.1

/-- A namespace that starts at the root of all files leaves every staging root. -/
example : directory (.parse "/stage") ⟨"/etc", "x", by decide, by decide, by decide⟩ =
    .parse "/etc" := by
  decide

/-- So does the name of a helper that climbs. -/
example : (helperPath (.parse "/stage") (.numbered 1) "/../../../kept").goal [] = ["kept.py"] := by
  decide +kernel

end Staging

end FragmentWeaver
