import FragmentWeaver.Proofs.FileTree
import FragmentWeaver.Staging.Layout
import FragmentWeaver.Files.Glob
import FragmentWeaver.Text.Identifier

/-!
# The names of a unit's files

A unit whose name is an identifier has four kinds of files: its source, its compiled file, and those
of its helpers. An identifier holds no character that means anything to paths or patterns; so each of
these names is one name of a path, the pattern of the helpers fits their names and no others, and the
compiled file that belongs to a source is again a file of the unit.
-/

namespace FragmentWeaver

namespace Text

theorem cutLast_append {sep : Char} {ds : List Char} (h : sep ∉ ds) (cs : List Char) :
    cutLast sep (cs ++ sep :: ds) = some (cs, ds) := by
  rw [cutLast, cutAt_append, cutAt_of_not_mem h, List.reverse_append, List.reverse_singleton,
    List.singleton_append]
  cases hpieces : (cutAt sep cs).reverse with
  | nil => exact absurd (List.reverse_eq_nil_iff.mp hpieces) (cutAt_ne_nil sep cs)
  | cons piece pieces =>
      dsimp only
      rw [← hpieces, List.reverse_reverse, glue_cutAt]

end Text

namespace Files

/-! ### Names below a place -/

namespace Tree

theorem mem_namesBelow {t : Tree} {place : List String} {name : String} :
    name ∈ t.namesBelow place ↔ place ++ [name] ∈ Assoc.keys t := by
  rw [namesBelow, (Text.sorted_perm _).mem_iff, List.mem_filterMap]
  constructor
  · rintro ⟨⟨q, n⟩, hq, h⟩
    simp only [isChild, Bool.and_eq_true, decide_eq_true_eq, Option.ite_none_right_eq_some] at h
    obtain ⟨⟨-, hparent⟩, hlast⟩ := h
    have hsplit : place ++ [name] = q := by
      rw [← hparent]
      exact List.dropLast_append_getLast? _ hlast
    rw [hsplit]
    exact Assoc.mem_keys hq
  · intro h
    obtain ⟨⟨q, n⟩, hq, rfl⟩ := List.mem_map.mp h
    exact ⟨_, hq, by simp [isChild]⟩

/-- The names in a directory are those of the nodes below its goal. -/
theorem mem_list {t : Tree} {cwd : List String} {p : Path} (h : t.isDirectory cwd p = true)
    {name : String} : name ∈ t.list cwd p ↔ t.node? (p.goal cwd ++ [name]) ≠ none := by
  obtain ⟨hshort, hholds⟩ := isDirectory_iff.mp h
  rw [list, place_eq_ok_iff.mpr ⟨rfl, hshort, (holds_trail_iff.mp hholds).1⟩]
  dsimp only
  rw [if_pos h, mem_namesBelow, node?_ne_none_iff (by simp)]

theorem select_wild (t : Tree) (cwd : List String) (pieces : List Piece) (p : Path) :
    t.select cwd [.wild pieces] p =
      .ok (((t.list cwd p).filter fun name => Wildcard.fits pieces name.toList).map p.child) := by
  have hone (names : List String) :
      (names.mapM fun name => t.select cwd [] (p.child name)) =
        .ok (names.map fun name => [p.child name]) := List.mapM_pure
  rw [select]
  simp only [List.isEmpty_nil, Bool.true_or, Bool.and_true, hone]
  change Except.ok _ = _
  rw [List.flatten_eq_flatMap, List.flatMap_map, List.map_eq_flatMap]
  rfl

/-- One wildcard in a directory finds the names there that it fits; elsewhere it finds nothing. -/
theorem mem_glob_wild {t : Tree} {cwd : List String} {directory : Path} {pattern : String}
    {pieces : List Piece} (hpattern : parsePattern pattern = .ok [.wild pieces])
    {found : List Path} (h : t.glob cwd directory pattern = .ok found) {p : Path} :
    p ∈ found ↔ t.isDirectory cwd directory = true ∧ ∃ name ∈ t.list cwd directory,
      Wildcard.fits pieces name.toList = true ∧ p = directory.child name := by
  rw [glob, hpattern] at h
  dsimp only at h
  rw [probe] at h
  rw [isDirectory]
  cases hstat : t.stat cwd directory with
  | error c =>
      rw [hstat] at h
      have hnone : found = [] := by
        cases c <;> first | exact (Except.ok.inj h).symm | cases h
      simp [hnone]
  | ok n =>
      rw [hstat] at h
      cases n with
      | file c =>
          obtain rfl : [] = found := Except.ok.inj h
          simp
      | directory =>
          change Path.sorted <$> t.select cwd [.wild pieces] directory = .ok found at h
          rw [select_wild] at h
          obtain rfl := Except.ok.inj h
          simp only [Path.sorted, (ascending_perm _ _).mem_iff, List.mem_map,
            List.mem_filter, true_and]
          constructor
          · rintro ⟨name, ⟨hname, hfits⟩, rfl⟩
            exact ⟨name, hname, hfits, rfl⟩
          · rintro ⟨name, hname, hfits, rfl⟩
            exact ⟨name, ⟨hname, hfits⟩, rfl⟩

end Tree

/-! ### Paths of one name -/

namespace Path

/-- Is the text read as one name, which leads down? -/
structure IsName (s : String) : Prop where
  unslashed : '/' ∉ s.toList
  ne_empty : s ≠ ""
  ne_here : s ≠ "."
  ne_up : s ≠ ".."

theorem parse_name {s : String} (h : IsName s) : parse s = ⟨"", [s]⟩ := by
  have hanchor : anchorOf s.toList = "" := by
    have htake : s.toList.takeWhile (· = '/') = [] := by
      cases hs : s.toList with
      | nil => rfl
      | cons c cs =>
          have hc : c ≠ '/' := fun hc => h.unslashed (by simp [hs, hc])
          simp [hc]
    simp [anchorOf, htake]
  rw [parse, hanchor, namesOf, Text.split, Text.cutAt_of_not_mem h.unslashed]
  simp [h.ne_empty, h.ne_here]

theorem join_name {s : String} (h : IsName s) (p : Path) : p.join s = p.child s := by
  rw [join, parse_name h]
  rfl

theorem parent_child (p : Path) (name : String) : (p.child name).parent = p := by
  simp [parent, child]

theorem name_child (p : Path) (name : String) : (p.child name).name = name := by
  simp [Path.name, child]

/-- A name is cut before its suffix. -/
theorem splitName_append {base suffix : List Char} (hbase : base ≠ []) (hsuffix : suffix ≠ [])
    (hdot : '.' ∉ suffix) :
    splitName (String.ofList (base ++ '.' :: suffix)) =
      (String.ofList base, String.ofList ('.' :: suffix)) := by
  rw [splitName, String.toList_ofList, Text.cutLast_append hdot]
  simp [hbase, hsuffix]

end Path

/-! ### Patterns with one star -/

namespace Wildcard

/-- Is the character no wildcard? -/
def IsPlain (c : Char) : Prop := c ≠ '*' ∧ c ≠ '?' ∧ c ≠ '['

theorem parseWithin_plain {cs : List Char} (hcs : ∀ c ∈ cs, IsPlain c) (fuel : Nat)
    (rest : List Char) :
    parseWithin (cs.length + fuel) (cs ++ rest) = cs.map .exactly ++ parseWithin fuel rest := by
  induction cs with
  | nil => simp
  | cons c cs ih =>
      obtain ⟨hstar, hmark, hopen⟩ := hcs c List.mem_cons_self
      rw [List.length_cons, Nat.add_right_comm, List.cons_append, parseWithin,
        ih fun d hd => hcs d (List.mem_cons_of_mem c hd)]
      · rfl
      · exact hstar
      · exact hmark
      · exact hopen

/-- A pattern of plain characters around one star. -/
theorem parse_star {before after : List Char} (hbefore : ∀ c ∈ before, IsPlain c)
    (hafter : ∀ c ∈ after, IsPlain c) :
    parse (String.ofList (before ++ '*' :: after)) =
      before.map .exactly ++ Piece.star :: after.map .exactly := by
  have hend : parseWithin after.length after = after.map .exactly := by
    have h := parseWithin_plain hafter 0 []
    simpa [parseWithin] using h
  have hlength : (String.ofList (before ++ '*' :: after)).length =
      before.length + (after.length + 1) := by
    rw [String.length_ofList, List.length_append, List.length_cons]
  rw [parse, hlength, String.toList_ofList, parseWithin_plain hbefore, parseWithin, hend]

theorem fits_exactly (cs : List Char) (ps : List Piece) (ds : List Char) :
    fits (cs.map .exactly ++ ps) ds = true ↔ ∃ rest, ds = cs ++ rest ∧ fits ps rest = true := by
  induction cs generalizing ds with
  | nil => simp
  | cons c cs ih =>
      cases ds with
      | nil => simp [fits]
      | cons d ds =>
          simp only [List.map_cons, List.cons_append, fits, Bool.and_eq_true, decide_eq_true_eq,
            ih, List.cons.injEq]
          constructor
          · rintro ⟨rfl, rest, rfl, h⟩
            exact ⟨rest, ⟨rfl, rfl⟩, h⟩
          · rintro ⟨rest, ⟨rfl, rfl⟩, h⟩
            exact ⟨rfl, rest, rfl, h⟩

theorem anyRest_iff (test : List Char → Bool) (cs : List Char) :
    anyRest test cs = true ↔ ∃ some rest, cs = some ++ rest ∧ test rest = true := by
  induction cs with
  | nil => simp [anyRest]
  | cons c cs ih =>
      rw [anyRest, Bool.or_eq_true, ih]
      constructor
      · rintro (h | ⟨some, rest, rfl, h⟩)
        · exact ⟨[], c :: cs, rfl, h⟩
        · exact ⟨c :: some, rest, rfl, h⟩
      · rintro ⟨some, rest, heq, h⟩
        cases some with
        | nil =>
            obtain rfl : c :: cs = rest := heq
            exact .inl h
        | cons d some =>
            obtain ⟨-, rfl⟩ := List.cons.inj heq
            exact .inr ⟨some, rest, rfl, h⟩

theorem fits_star (before after ds : List Char) :
    fits (before.map .exactly ++ Piece.star :: after.map .exactly) ds = true ↔
      ∃ inside, ds = before ++ inside ++ after := by
  have hend (rest : List Char) : fits (after.map .exactly) rest = true ↔ rest = after := by
    have h := fits_exactly after [] rest
    simpa [fits] using h
  rw [fits_exactly]
  constructor
  · rintro ⟨rest, rfl, h⟩
    rw [fits, anyRest_iff] at h
    obtain ⟨inside, last, rfl, h⟩ := h
    exact ⟨inside, by rw [(hend last).mp h, List.append_assoc]⟩
  · rintro ⟨inside, rfl⟩
    refine ⟨inside ++ after, by rw [List.append_assoc], ?_⟩
    rw [fits, anyRest_iff]
    exact ⟨inside, after, rfl, (hend after).mpr rfl⟩

end Wildcard

theorem hasTwoStars_eq_false {before after : List Char} (hbefore : '*' ∉ before)
    (hafter : '*' ∉ after) : hasTwoStars (before ++ '*' :: after) = false := by
  have hplain {cs : List Char} (hcs : '*' ∉ cs) : hasTwoStars cs = false := by
    induction cs with
    | nil => rfl
    | cons c cs ih =>
        rw [List.mem_cons, not_or] at hcs
        rw [hasTwoStars, ih hcs.2]
        exact fun _ heq => absurd heq.symm hcs.1
  induction before with
  | nil =>
      cases after with
      | nil => rfl
      | cons c after =>
          rw [List.nil_append, hasTwoStars, hplain hafter]
          intro _ _ heq
          exact hafter ((List.cons.inj heq).1 ▸ List.mem_cons_self)
  | cons c before ih =>
      rw [List.mem_cons, not_or] at hbefore
      rw [List.cons_append, hasTwoStars, ih hbefore.2]
      exact fun _ heq => absurd heq.symm hbefore.1

end Files

namespace Staging

open Files

/-- What the names of a unit's files end in. -/
def fileSuffixes : List String := [sourceSuffix, artifactSuffix]

theorem mem_sourceSuffix : sourceSuffix ∈ fileSuffixes := by simp [fileSuffixes]

theorem mem_artifactSuffix : artifactSuffix ∈ fileSuffixes := by simp [fileSuffixes]

/-- The name of a file that belongs to a helper of a name. -/
def helperFile (name helper suffix : String) : String :=
  name ++ helperMark ++ helper ++ suffix

/-- The names of the files that belong to a unit of a name: those of its own, and those of any
    helper. -/
inductive IsUnitFile (name : String) : String → Prop where
  | own {suffix : String} (h : suffix ∈ fileSuffixes) : IsUnitFile name (name ++ suffix)
  | helper {suffix : String} (h : suffix ∈ fileSuffixes) (helper : String) :
      IsUnitFile name (helperFile name helper suffix)

/-- The stems of the files that belong to a unit of a name. -/
inductive IsStem (name : String) : String → Prop where
  | own : IsStem name name
  | helper (helper : String) : IsStem name (name ++ helperMark ++ helper)

theorem IsStem.isUnitFile {name stem suffix : String} (h : IsStem name stem)
    (hsuffix : suffix ∈ fileSuffixes) : IsUnitFile name (stem ++ suffix) := by
  cases h with
  | own => exact .own hsuffix
  | helper helper => exact .helper hsuffix helper

theorem IsUnitFile.exists_stem {name file : String} (h : IsUnitFile name file) :
    ∃ stem, IsStem name stem ∧ ∃ suffix ∈ fileSuffixes, file = stem ++ suffix := by
  cases h with
  | own hsuffix => exact ⟨_, .own, _, hsuffix, rfl⟩
  | helper hsuffix helper => exact ⟨_, .helper helper, _, hsuffix, rfl⟩

/-- Suffixes are extensions without special characters. -/
theorem toList_suffix {suffix : String} (h : suffix ∈ fileSuffixes) :
    ∃ cs, suffix.toList = '.' :: cs ∧ cs ≠ [] ∧ '.' ∉ cs ∧ '/' ∉ suffix.toList ∧
      ∀ c ∈ suffix.toList, Wildcard.IsPlain c := by
  rcases List.mem_cons.mp h with rfl | h
  · exact ⟨['p', 'y'], by decide, by decide, by decide, by decide, by simp [sourceSuffix, Wildcard.IsPlain]⟩
  · rcases List.mem_singleton.mp h with rfl
    exact ⟨['p', 'y', 'c'], by decide, by decide, by decide, by decide,
      by simp [artifactSuffix, Wildcard.IsPlain]⟩

section

variable {x : String} (hx : Text.isIdentifier x = true)

include hx

theorem toList_ne_nil : x.toList ≠ [] := by
  intro h
  simp [Text.isIdentifier, h, Text.isName] at hx

theorem plain_of_isIdentifier : ∀ c ∈ x.toList, Wildcard.IsPlain c := by
  intro c hc
  refine ⟨?_, ?_, ?_⟩
  all_goals
    rintro rfl
    exact Text.not_mem_of_isIdentifier hx (by decide) (by decide) hc

/-- Whatever starts with an identifier and holds no slash is one name of a path. -/
theorem isName_append {rest : String} (hrest : '/' ∉ rest.toList) : Path.IsName (x ++ rest) := by
  have hslash : '/' ∉ x.toList := Text.not_mem_of_isIdentifier hx (by decide) (by decide)
  have hdot : '.' ∉ x.toList := Text.not_mem_of_isIdentifier hx (by decide) (by decide)
  obtain ⟨c, cs, hcs⟩ := List.exists_cons_of_ne_nil (toList_ne_nil hx)
  have hc : c ≠ '.' := by
    rintro rfl
    exact hdot (by simp [hcs])
  refine ⟨by simp [hslash, hrest], ?_, ?_, ?_⟩
  all_goals
    intro h
    have h := congrArg String.toList h
    simp [hcs, hc] at h

theorem isName_own {suffix : String} (hsuffix : suffix ∈ fileSuffixes) :
    Path.IsName (x ++ suffix) := by
  obtain ⟨-, -, -, -, hslash, -⟩ := toList_suffix hsuffix
  exact isName_append hx hslash

theorem isName_helper {suffix helper : String} (hsuffix : suffix ∈ fileSuffixes)
    (hhelper : '/' ∉ helper.toList) : Path.IsName (helperFile x helper suffix) := by
  obtain ⟨-, -, -, -, hslash, -⟩ := toList_suffix hsuffix
  rw [helperFile, String.append_assoc, String.append_assoc]
  exact isName_append hx (by simp [helperMark, hhelper, hslash])

/-- A name that fits the pattern of the helpers leads down, whatever else is in it. -/
theorem helperFile_ne_up (helper suffix : String) : helperFile x helper suffix ≠ ".." := by
  intro h
  have h := congrArg String.toList h
  have hdot : '.' ∉ x.toList := Text.not_mem_of_isIdentifier hx (by decide) (by decide)
  obtain ⟨c, cs, hcs⟩ := List.exists_cons_of_ne_nil (toList_ne_nil hx)
  simp [helperFile, hcs] at h
  exact hdot (by simp [hcs, h.1])

theorem IsUnitFile.ne_up {name : String} (h : IsUnitFile x name) : name ≠ ".." := by
  cases h with
  | own hsuffix => exact (isName_own hx hsuffix).ne_up
  | helper _ helper => exact helperFile_ne_up hx helper _

/-! ### The pattern of the helpers -/

section

variable {suffix : String} (hsuffix : suffix ∈ fileSuffixes)

include hsuffix

theorem parse_helperPattern :
    Wildcard.parse (helperPattern x suffix) =
      (x.toList ++ helperMark.toList).map .exactly ++ Piece.star :: suffix.toList.map .exactly := by
  obtain ⟨-, -, -, -, -, hplain⟩ := toList_suffix hsuffix
  have hpattern : helperPattern x suffix =
      String.ofList ((x.toList ++ helperMark.toList) ++ '*' :: suffix.toList) := by
    rw [← String.toList_inj]
    simp [helperPattern, helperMark]
  rw [hpattern]
  refine Wildcard.parse_star (fun c hc => ?_) hplain
  rcases List.mem_append.mp hc with hc | hc
  · exact plain_of_isIdentifier hx c hc
  · simp only [helperMark] at hc
    simp_all [Wildcard.IsPlain]

/-- The pattern fits the files of helpers and nothing else. -/
theorem fits_helperPattern (name : String) :
    Wildcard.fits (Wildcard.parse (helperPattern x suffix)) name.toList = true ↔
      ∃ helper, name = helperFile x helper suffix := by
  rw [parse_helperPattern hx hsuffix, Wildcard.fits_star]
  constructor
  · rintro ⟨inside, h⟩
    refine ⟨String.ofList inside, ?_⟩
    rw [← String.toList_inj, h]
    simp [helperFile]
  · rintro ⟨helper, rfl⟩
    exact ⟨helper.toList, by simp [helperFile]⟩

theorem parsePattern_helperPattern :
    parsePattern (helperPattern x suffix) =
      .ok [.wild (Wildcard.parse (helperPattern x suffix))] := by
  obtain ⟨-, -, -, -, hslash, hplain⟩ := toList_suffix hsuffix
  have hname : Path.IsName (helperPattern x suffix) := by
    rw [helperPattern, String.append_assoc, String.append_assoc]
    exact isName_append hx (by simp [helperMark, hslash])
  have hstars : hasTwoStars (helperPattern x suffix).toList = false := by
    have hlist : (helperPattern x suffix).toList =
        (x.toList ++ helperMark.toList) ++ '*' :: suffix.toList := by
      simp [helperPattern, helperMark]
    rw [hlist]
    refine hasTwoStars_eq_false (fun hmem => ?_) fun hmem => (hplain _ hmem).1 rfl
    rcases List.mem_append.mp hmem with hmem | hmem
    · exact (plain_of_isIdentifier hx _ hmem).1 rfl
    · simp [helperMark] at hmem
  have hwild : Wildcard.isPattern (helperPattern x suffix) = true := by
    simp [Wildcard.isPattern, helperPattern]
  have hne : helperPattern x suffix ≠ "**" := by
    intro h
    simp [h, hasTwoStars] at hstars
  have hstep : Step.parse (helperPattern x suffix) =
      .ok (.wild (Wildcard.parse (helperPattern x suffix))) := by
    rw [Step.parse, if_neg hne, if_neg hname.ne_up, hstars, if_neg Bool.false_ne_true, hwild,
      if_pos rfl]
  rw [parsePattern, Path.parse_name hname]
  simp only [Path.isAbsolute, List.mapM_cons, hstep]
  rfl

/-- The pattern finds nothing but files of helpers, which are there. -/
theorem exists_of_mem_glob {t : Tree} {cwd : List String} {directory : Path} {found : List Path}
    (h : t.glob cwd directory (helperPattern x suffix) = .ok found) {p : Path} (hp : p ∈ found) :
    ∃ helper, p = directory.child (helperFile x helper suffix) ∧
      t.node? (directory.goal cwd ++ [helperFile x helper suffix]) ≠ none := by
  obtain ⟨hdirectory, name, hname, hfits, rfl⟩ :=
    (Tree.mem_glob_wild (parsePattern_helperPattern hx hsuffix) h).mp hp
  obtain ⟨helper, rfl⟩ := (fits_helperPattern hx hsuffix name).mp hfits
  exact ⟨helper, rfl, (Tree.mem_list hdirectory).mp hname⟩

/-- In a directory the pattern finds the files of all helpers. -/
theorem mem_glob {t : Tree} {cwd : List String} {directory : Path} {found : List Path}
    (h : t.glob cwd directory (helperPattern x suffix) = .ok found)
    (hdirectory : t.isDirectory cwd directory = true) {helper : String}
    (hnode : t.node? (directory.goal cwd ++ [helperFile x helper suffix]) ≠ none) :
    directory.child (helperFile x helper suffix) ∈ found :=
  (Tree.mem_glob_wild (parsePattern_helperPattern hx hsuffix) h).mpr
    ⟨hdirectory, _, (Tree.mem_list hdirectory).mpr hnode,
      (fits_helperPattern hx hsuffix _).mpr ⟨helper, rfl⟩, rfl⟩

end

end

/-! ### Sources and compiled files -/

/-- A source without its suffix. -/
theorem stem_child {base suffix : String} (hbase : base ≠ "") (hsuffix : suffix ∈ fileSuffixes)
    (directory : Path) : (directory.child (base ++ suffix)).stem = base := by
  obtain ⟨cs, hcs, hne, hdot, -, -⟩ := toList_suffix hsuffix
  have hname : base ++ suffix = String.ofList (base.toList ++ '.' :: cs) := by
    rw [← String.toList_inj]
    simp [hcs]
  have hlist : base.toList ≠ [] := by simpa using hbase
  rw [Path.stem, Path.name_child, hname, Path.splitName_append hlist hne hdot]
  simp

theorem ne_empty_of_isIdentifier {x : String} (hx : Text.isIdentifier x = true) : x ≠ "" := by
  rintro rfl
  exact toList_ne_nil hx rfl

/-- The compiled file of a unit's source is that of the unit. -/
theorem artifactFor_own {x : String} (hx : Text.isIdentifier x = true) (directory : Path) :
    artifactFor directory (directory.child (x ++ sourceSuffix)) =
      directory.child (x ++ artifactSuffix) := by
  rw [artifactFor, stem_child (ne_empty_of_isIdentifier hx) mem_sourceSuffix]
  exact Path.join_name (isName_own hx mem_artifactSuffix) directory

/-- The compiled file of a helper's source is that of the helper. -/
theorem artifactFor_helper {x : String} (hx : Text.isIdentifier x = true) (directory : Path)
    {helper : String} (hhelper : '/' ∉ helper.toList) :
    artifactFor directory (directory.child (helperFile x helper sourceSuffix)) =
      directory.child (helperFile x helper artifactSuffix) := by
  have hbase : x ++ helperMark ++ helper ≠ "" := by
    intro h
    have h := congrArg String.toList h
    simp [helperMark] at h
  rw [artifactFor, helperFile, stem_child hbase mem_sourceSuffix]
  exact Path.join_name (isName_helper hx mem_artifactSuffix hhelper) directory

/-- What ends as a source does not end as a compiled file. -/
theorem append_sourceSuffix_ne (base other : String) :
    base ++ sourceSuffix ≠ other ++ artifactSuffix := by
  intro h
  have hlast := congrArg (fun s => s.toList.getLast?) h
  simp [sourceSuffix, artifactSuffix] at hlast

/-- A file of the unit's own is not one of a helper. -/
theorem own_ne_helperFile (x : String) {own : String} (hown : own ∈ fileSuffixes)
    (helper suffix : String) : x ++ own ≠ helperFile x helper suffix := by
  obtain ⟨cs, hcs, -⟩ := toList_suffix hown
  intro h
  have h := congrArg String.toList h
  simp [helperFile, helperMark, hcs] at h

theorem helperFile_injective {x suffix helper other : String}
    (h : helperFile x helper suffix = helperFile x other suffix) : helper = other := by
  rw [← String.toList_inj] at h ⊢
  simpa [helperFile] using h

end Staging

end FragmentWeaver
