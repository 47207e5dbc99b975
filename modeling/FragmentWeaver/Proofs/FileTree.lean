import FragmentWeaver.Files.Tree
import Mathlib.Data.List.Lex
import Mathlib.Data.List.Nodup
import Mathlib.Data.String.Basic

/-!
# Looking into the tree of files

A tree is known by what stands at every place: two trees in order with the same nodes are the same.
Following a path goes where its names lead, whatever the tree, and succeeds exactly when every place on
the way holds a directory; so each operation on files is told by the one place it changes.
-/

namespace FragmentWeaver.Files

namespace Path

/-- Where a name leads from a place. -/
def step (place : List String) (name : String) : List String :=
  if name = ".." then place.dropLast else place ++ [name]

/-- The places that names pass on the way from a place, the last one left out. -/
def passed (place : List String) : List String → List (List String)
  | [] => []
  | name :: rest => place :: passed (step place name) rest

/-- The place that a path starts from. -/
def start (cwd : List String) (p : Path) : List String :=
  if p.isAbsolute then [] else cwd

/-- The place that a path leads to, seen from a directory, if directories are all the way there. -/
def goal (cwd : List String) (p : Path) : List String :=
  p.names.foldl step (p.start cwd)

/-- The places that a path passes on the way to its goal. -/
def way (cwd : List String) (p : Path) : List (List String) :=
  passed (p.start cwd) p.names

/-- The places that a path passes, and its goal. -/
def trail (cwd : List String) (p : Path) : List (List String) :=
  p.way cwd ++ [p.goal cwd]

/-- The path with some names after it. -/
def descend (p : Path) (names : List String) : Path :=
  ⟨p.anchor, p.names ++ names⟩

/-- Is neither the path nor a name of it too long? -/
def Short (p : Path) : Prop :=
  p.text.utf8ByteSize < Tree.pathLimit ∧
    ∀ n ∈ p.names, n ≠ ".." → n.utf8ByteSize ≤ Tree.nameLimit

theorem passed_append (place : List String) (names more : List String) :
    passed place (names ++ more) = passed place names ++ passed (names.foldl step place) more := by
  induction names generalizing place with
  | nil => rfl
  | cons name names ih => simp [passed, ih]

theorem goal_child (cwd : List String) (p : Path) {name : String} (h : name ≠ "..") :
    (p.child name).goal cwd = p.goal cwd ++ [name] := by
  have hstart : (p.child name).start cwd = p.start cwd := rfl
  rw [goal, hstart, child, List.foldl_append, ← goal, List.foldl_cons, List.foldl_nil, step,
    if_neg h]

theorem way_child (cwd : List String) (p : Path) (name : String) :
    (p.child name).way cwd = p.way cwd ++ [p.goal cwd] := by
  have hstart : (p.child name).start cwd = p.start cwd := rfl
  rw [way, hstart, child, passed_append]
  rfl

@[simp]
theorem descend_nil (p : Path) : p.descend [] = p := by
  simp [descend]

theorem descend_cons (p : Path) (name : String) (names : List String) :
    p.descend (name :: names) = (p.child name).descend names := by
  simp [descend, child]

theorem descend_concat (p : Path) (names : List String) (name : String) :
    p.descend (names ++ [name]) = (p.descend names).child name := by
  simp [descend, child]

theorem descend_descend (p : Path) (names more : List String) :
    (p.descend names).descend more = p.descend (names ++ more) := by
  simp [descend]

theorem goal_descend (cwd : List String) (p : Path) (names : List String) :
    (p.descend names).goal cwd = names.foldl step (p.goal cwd) := by
  have hstart : (p.descend names).start cwd = p.start cwd := rfl
  rw [goal, hstart, descend, List.foldl_append, ← goal]

theorem way_descend (cwd : List String) (p : Path) (names : List String) :
    (p.descend names).way cwd = p.way cwd ++ passed (p.goal cwd) names := by
  have hstart : (p.descend names).start cwd = p.start cwd := rfl
  rw [way, hstart, descend, passed_append]
  rfl

/-- A path comes by everything that its parent comes by. -/
theorem trail_parent (cwd : List String) (p : Path) : p.parent.trail cwd ⊆ p.trail cwd := by
  by_cases h : p.names = []
  · have hp : p.parent = p := by
      cases p
      simp_all [parent]
    rw [hp]
    exact List.Subset.refl _
  · have hp : p.parent.child (p.names.getLast h) = p := by
      simp [child, parent, List.dropLast_append_getLast h]
    have hway := way_child cwd p.parent (p.names.getLast h)
    rw [hp] at hway
    rw [trail, trail, hway]
    exact List.subset_append_left _ _

end Path

namespace Tree

/-- The nodes stand in the order of their places, and the root is not listed. -/
structure Ordered (t : Tree) : Prop where
  ascending : (Assoc.keys t).Pairwise (· < ·)
  rootless : [] ∉ Assoc.keys t

/-- Does the tree have a directory at every one of some places? -/
def Holds (t : Tree) (places : List (List String)) : Prop :=
  ∀ q ∈ places, t.node? q = some .directory

/-- Is every directory of a tree a directory of another one? -/
def Within (t t' : Tree) : Prop :=
  ∀ q, t.node? q = some .directory → t'.node? q = some .directory

theorem Within.holds {t t' : Tree} (h : t.Within t') {places : List (List String)}
    (hplaces : t.Holds places) : t'.Holds places :=
  fun q hq => h q (hplaces q hq)

section

variable {t t' : Tree} {cwd : List String} {p : Path} {place q : List String}

/-! ### Nodes -/

theorem node?_put (hplace : place ≠ []) (n : Node) :
    (t.put place n).node? q = if q = place then some n else t.node? q := by
  have hfind : Assoc.find? (t.put place n) q = if q = place then some n else Assoc.find? t q := by
    induction t with
    | nil => simp [put, Assoc.find?, eq_comm]
    | cons e t ih =>
        obtain ⟨r, m⟩ := e
        rw [put]
        by_cases hr : place = r
        · subst hr
          by_cases hq : q = place
          · simp [Assoc.find?, hq]
          · simp [Assoc.find?, hq, Ne.symm hq]
        · by_cases hlt : place < r
          · simp [Assoc.find?, hr, hlt, eq_comm]
          · rw [if_neg hr, if_neg hlt, Assoc.find?, ih, Assoc.find?]
            by_cases hq : q = place
            · simp [hq, Ne.symm hr]
            · simp [hq]
  rw [node?, node?, hfind]
  by_cases hq : q = []
  · simp [hq, Ne.symm hplace]
  · simp [hq]

theorem node?_erase (hplace : place ≠ []) :
    node? (Assoc.erase t place) q = if q = place then none else t.node? q := by
  rw [node?, node?]
  by_cases hroot : q = []
  · simp [hroot, Ne.symm hplace]
  · by_cases hq : q = place
    · simp [hq, hplace]
    · simp [hroot, hq, Assoc.find?_erase_of_ne hq]

/-- Where there is no node, or a file, is not the root. -/
theorem ne_nil_of_node? (h : t.node? place ≠ some .directory) : place ≠ [] := by
  rintro rfl
  exact h rfl

theorem node?_ne_none_iff (hplace : place ≠ []) : t.node? place ≠ none ↔ place ∈ Assoc.keys t := by
  rw [node?, if_neg hplace, ne_eq, Assoc.find?_eq_none_iff, not_not]

/-! ### Order -/

theorem mem_keys_put {n : Node} (h : q ∈ Assoc.keys (t.put place n)) :
    q = place ∨ q ∈ Assoc.keys t := by
  induction t with
  | nil => exact .inl (by simpa [put, Assoc.keys] using h)
  | cons e t ih =>
      obtain ⟨r, m⟩ := e
      rw [put] at h
      split at h
      · next hr =>
          subst hr
          exact .inr h
      · split at h
        · simpa [Assoc.keys] using h
        · rcases List.mem_cons.mp h with rfl | h
          · exact .inr List.mem_cons_self
          · exact (ih h).imp_right (List.mem_cons_of_mem _)

theorem Ordered.put (h : t.Ordered) (hplace : place ≠ []) (n : Node) :
    (t.put place n).Ordered := by
  refine ⟨?_, fun hmem => (mem_keys_put hmem).elim (hplace ·.symm) h.rootless⟩
  have hasc := h.ascending
  clear h
  induction t with
  | nil => exact List.pairwise_singleton _ _
  | cons e t ih =>
      obtain ⟨r, m⟩ := e
      obtain ⟨hhead, hrest⟩ := List.pairwise_cons.mp hasc
      rw [Tree.put]
      split
      · next hr =>
          subst hr
          exact hasc
      · next hr =>
          split
          · next hlt =>
              refine List.pairwise_cons.mpr ⟨fun q hq => ?_, hasc⟩
              rcases List.mem_cons.mp hq with rfl | hq
              · exact hlt
              · exact hlt.trans (hhead q hq)
          · next hlt =>
              refine List.pairwise_cons.mpr ⟨fun q hq => ?_, ih hrest⟩
              rcases mem_keys_put hq with rfl | hq
              · exact lt_of_le_of_ne (not_lt.mp hlt) (Ne.symm hr)
              · exact hhead q hq

theorem Ordered.erase (h : t.Ordered) (place : List String) :
    Ordered (Assoc.erase t place) := by
  have hkeys : (Assoc.keys (Assoc.erase t place)).Sublist (Assoc.keys t) :=
    List.filter_sublist.map _
  exact ⟨h.ascending.sublist hkeys, fun hmem => h.rootless (hkeys.subset hmem)⟩

theorem Ordered.nodup (h : t.Ordered) : (Assoc.keys t).Nodup :=
  h.ascending.imp ne_of_lt

/-- Trees in order are the same when the same stands at every place. -/
theorem Ordered.ext (h : t.Ordered) (h' : t'.Ordered) (hnodes : ∀ q, t.node? q = t'.node? q) :
    t = t' := by
  have hfind (q : List String) (hq : q ≠ []) : Assoc.find? t q = Assoc.find? t' q := by
    simpa [node?, hq] using hnodes q
  have hmem : ∀ e : List String × Node, e ∈ t ↔ e ∈ t' := by
    rintro ⟨q, n⟩
    constructor
    · intro he
      have hq : q ≠ [] := fun hroot => h.rootless (hroot ▸ Assoc.mem_keys he)
      exact Assoc.mem_of_find? (hfind q hq ▸ Assoc.find?_of_mem h.nodup he)
    · intro he
      have hq : q ≠ [] := fun hroot => h'.rootless (hroot ▸ Assoc.mem_keys he)
      exact Assoc.mem_of_find? (hfind q hq ▸ Assoc.find?_of_mem h'.nodup he)
  have hperm : t.Perm t' :=
    (List.perm_ext_iff_of_nodup (List.Nodup.of_map _ h.nodup)
      (List.Nodup.of_map _ h'.nodup)).mpr hmem
  refine hperm.eq_of_pairwise ?_ (List.pairwise_map.mp h.ascending)
    (List.pairwise_map.mp h'.ascending)
  exact fun a b _ _ hab hba => absurd hba (lt_asymm hab)

/-! ### Paths -/

theorem follow_eq_ok_iff {names : List String} :
    t.follow place names = .ok q ↔
      q = names.foldl Path.step place ∧ t.Holds (Path.passed place names) ∧
        ∀ n ∈ names, n ≠ ".." → n.utf8ByteSize ≤ nameLimit := by
  induction names generalizing place with
  | nil => simp [follow, Path.passed, Holds, eq_comm]
  | cons name names ih =>
      have hcons : t.Holds (Path.passed place (name :: names)) ↔
          t.node? place = some .directory ∧
            t.Holds (Path.passed (Path.step place name) names) := by
        simp [Path.passed, Holds]
      rw [follow, List.foldl_cons, hcons, List.forall_mem_cons]
      cases hnode : t.node? place with
      | none => simp
      | some n =>
          cases n with
          | file c => simp
          | directory =>
              by_cases hup : name = ".."
              · simp [hup, ih, Path.step]
              · by_cases hlong : nameLimit < name.utf8ByteSize
                · simp [hup, hlong, Nat.not_le.mpr hlong]
                · simp [hup, hlong, ih, Path.step, Nat.not_lt.mp hlong]

/-- A path is found exactly when it is short enough and leads through directories only. -/
theorem place_eq_ok_iff :
    t.place cwd p = .ok q ↔ q = p.goal cwd ∧ p.Short ∧ t.Holds (p.way cwd) := by
  rw [Tree.place, Path.goal, Path.Short, Path.way, Path.start]
  by_cases hlong : pathLimit ≤ p.text.utf8ByteSize
  · simp [hlong, Nat.not_lt.mpr hlong]
  · rw [if_neg hlong, follow_eq_ok_iff, and_comm (a := t.Holds _)]
    simp [Nat.not_le.mp hlong]

theorem follow_error {names : List String} (h : t.Holds (Path.passed place names))
    {c : FileCause} (herror : t.follow place names = .error c) : c = .nameTooLong := by
  induction names generalizing place with
  | nil => cases herror
  | cons name names ih =>
      have hplace : t.node? place = some .directory := h place List.mem_cons_self
      have hrest : t.Holds (Path.passed (Path.step place name) names) :=
        fun q hq => h q (List.mem_cons_of_mem _ hq)
      have hgo := ih hrest
      rw [follow, hplace] at herror
      by_cases hup : name = ".."
      · simp only [hup, if_true] at herror
        exact hgo (by simpa [hup, Path.step] using herror)
      · by_cases hlong : nameLimit < name.utf8ByteSize
        · simp only [hup, hlong, if_true, if_false] at herror
          exact (Except.error.inj herror).symm
        · simp only [hup, hlong, if_false] at herror
          exact hgo (by simpa [hup, Path.step] using herror)

/-- A way that leads through directories only can at most be too long. -/
theorem place_error (h : t.Holds (p.way cwd)) {c : FileCause}
    (herror : t.place cwd p = .error c) : c = .nameTooLong := by
  rw [Tree.place] at herror
  split at herror
  · exact (Except.error.inj herror).symm
  · exact follow_error h herror

theorem stat_eq_ok_iff {n : Node} :
    t.stat cwd p = .ok n ↔ p.Short ∧ t.Holds (p.way cwd) ∧ t.node? (p.goal cwd) = some n := by
  rw [stat]
  cases hplace : t.place cwd p with
  | error c =>
      simp only [bind, Except.bind, reduceCtorEq, false_iff]
      rintro ⟨hshort, hway, -⟩
      rw [place_eq_ok_iff.mpr ⟨rfl, hshort, hway⟩] at hplace
      cases hplace
  | ok place =>
      obtain ⟨rfl, hshort, hway⟩ := place_eq_ok_iff.mp hplace
      simp only [bind, Except.bind, hshort, hway, true_and]
      cases t.node? (p.goal cwd) <;> simp

/-- What is found on a way that leads through directories only is what stands there. -/
theorem probe_eq_ok {found : Option Node} (h : t.Holds (p.way cwd))
    (hprobe : t.probe cwd p = .ok found) : found = t.node? (p.goal cwd) := by
  rw [probe, stat] at hprobe
  cases hplace : t.place cwd p with
  | error c =>
      rw [hplace, place_error h hplace] at hprobe
      cases hprobe
  | ok place =>
      obtain ⟨rfl, -, -⟩ := place_eq_ok_iff.mp hplace
      simp only [hplace, bind, Except.bind] at hprobe
      cases hnode : t.node? (p.goal cwd) with
      | none =>
          rw [hnode] at hprobe
          exact (Except.ok.inj hprobe).symm
      | some n =>
          rw [hnode] at hprobe
          exact (Except.ok.inj hprobe).symm

/-- Looking at a path that is too long is a fault. -/
theorem short_of_probe {found : Option Node} (h : t.Holds (p.way cwd))
    (hprobe : t.probe cwd p = .ok found) : p.Short := by
  rw [probe, stat] at hprobe
  cases hplace : t.place cwd p with
  | error c =>
      rw [hplace, place_error h hplace] at hprobe
      cases hprobe
  | ok place => exact (place_eq_ok_iff.mp hplace).2.1

theorem holds_trail_iff :
    t.Holds (p.trail cwd) ↔
      t.Holds (p.way cwd) ∧ t.node? (p.goal cwd) = some .directory := by
  simp [Holds, Path.trail, or_imp, forall_and]

theorem isDirectory_iff :
    t.isDirectory cwd p = true ↔ p.Short ∧ t.Holds (p.trail cwd) := by
  rw [holds_trail_iff, ← stat_eq_ok_iff, isDirectory]
  cases t.stat cwd p with
  | error c => simp
  | ok n => cases n <;> simp

/-! ### Writing and deleting -/

theorem blame_eq_notFound {α : Type} {r : Except FileCause α} {said : String}
    (h : blame p r = .error (.file ⟨.notFound, said⟩)) : r = .error .notFound := by
  cases r with
  | error c =>
      simp only [blame, Except.mapError, Except.error.injEq, Fault.file.injEq,
        FileFault.mk.injEq] at h
      rw [h.1]
  | ok x => cases h

theorem blame_eq_ok_iff {α : Type} {r : Except FileCause α} {x : α} :
    blame p r = .ok x ↔ r = .ok x := by
  cases r <;> simp [blame, Except.mapError]

/-- What is written stands at the goal of the path, where no directory was. -/
theorem write_eq_ok {c : Contents} (h : t.write cwd p c = .ok t') :
    t.node? (p.goal cwd) ≠ some .directory ∧ t' = t.put (p.goal cwd) (.file c) := by
  rw [write] at h
  split at h
  · cases h
  · rw [blame_eq_ok_iff] at h
    cases hplace : t.place cwd p with
    | error cause => simp [hplace, bind, Except.bind] at h
    | ok place =>
        obtain ⟨rfl, -, -⟩ := place_eq_ok_iff.mp hplace
        simp only [hplace, bind, Except.bind] at h
        split at h
        · cases h
        · next hfile => exact ⟨by rw [hfile]; nofun, (Except.ok.inj h).symm⟩
        · next hnone =>
            refine ⟨by rw [hnone]; nofun, ?_⟩
            split at h <;> first | exact (Except.ok.inj h).symm | cases h

/-- What is deleted was a file at the goal of the path. -/
theorem delete_eq_ok (h : t.delete cwd p = .ok t') :
    (∃ c, t.node? (p.goal cwd) = some (.file c)) ∧ t' = Assoc.erase t (p.goal cwd) := by
  rw [delete] at h
  split at h
  · cases h
  · rw [blame_eq_ok_iff] at h
    cases hplace : t.place cwd p with
    | error cause => simp [hplace, bind, Except.bind] at h
    | ok place =>
        obtain ⟨rfl, -, -⟩ := place_eq_ok_iff.mp hplace
        simp only [hplace, bind, Except.bind] at h
        split at h
        · cases h
        · next c hfile => exact ⟨⟨c, hfile⟩, (Except.ok.inj h).symm⟩
        · cases h

/-- A file that is not found on a path that can be followed is not there. -/
theorem node?_of_delete_notFound {said : String}
    (h : t.delete cwd p = .error (.file ⟨.notFound, said⟩)) (hway : t.Holds (p.way cwd)) :
    t.node? (p.goal cwd) = none := by
  rw [delete] at h
  split at h
  · cases h
  · have h := blame_eq_notFound h
    cases hplace : t.place cwd p with
    | error cause =>
        simp only [hplace, bind, Except.bind, Except.error.injEq] at h
        cases (place_error hway hplace).symm.trans h
    | ok place =>
        obtain ⟨rfl, -, -⟩ := place_eq_ok_iff.mp hplace
        simp only [hplace, bind, Except.bind] at h
        split at h
        · cases h
        · cases h
        · assumption

/-! ### Making directories -/

/-- A tree has what another one has, and besides at most directories at some places that were
    empty. -/
def Grown (places : List (List String)) (t t' : Tree) : Prop :=
  ∀ q, t'.node? q = t.node? q ∨
    q ∈ places ∧ t.node? q = none ∧ t'.node? q = some .directory

theorem Grown.refl (places : List (List String)) (t : Tree) : Grown places t t :=
  fun _ => .inl rfl

theorem Grown.trans {places : List (List String)} {t'' : Tree} (h : Grown places t t')
    (h' : Grown places t' t'') : Grown places t t'' := by
  intro q
  rcases h q with hq | ⟨hmem, hnone, hdir⟩
  · rw [← hq]
    exact h' q
  · rcases h' q with hq' | ⟨-, hnone', -⟩
    · exact .inr ⟨hmem, hnone, hq'.trans hdir⟩
    · rw [hdir] at hnone'
      cases hnone'

theorem Grown.mono {places more : List (List String)} (hmore : places ⊆ more)
    (h : Grown places t t') : Grown more t t' :=
  fun q => (h q).imp_right fun hq => ⟨hmore hq.1, hq.2⟩

theorem Grown.within {places : List (List String)} (h : Grown places t t') : t.Within t' := by
  intro q hq
  rcases h q with hsame | ⟨-, -, hdir⟩
  · rw [hsame, hq]
  · exact hdir

theorem makeOne_eq_ok (h : t.makeOne cwd p = .ok t') :
    p.Short ∧ t.Holds (p.way cwd) ∧ t.node? (p.goal cwd) = none ∧
      t' = t.put (p.goal cwd) .directory := by
  rw [makeOne] at h
  cases hplace : t.place cwd p with
  | error cause => simp [hplace, bind, Except.bind] at h
  | ok place =>
      obtain ⟨rfl, hshort, hway⟩ := place_eq_ok_iff.mp hplace
      simp only [hplace, bind, Except.bind] at h
      split at h
      · cases h
      · next hnone =>
          split at h <;> first | exact ⟨hshort, hway, hnone, (Except.ok.inj h).symm⟩ | cases h

theorem grown_makeOne (h : t.makeOne cwd p = .ok t') : Grown (p.trail cwd) t t' := by
  obtain ⟨-, -, hnone, rfl⟩ := makeOne_eq_ok h
  have hroot := ne_nil_of_node? (by rw [hnone]; nofun : t.node? (p.goal cwd) ≠ some .directory)
  intro q
  rw [node?_put hroot]
  split
  · next hq => exact .inr ⟨by simp [hq, Path.trail], by rw [hq, hnone], rfl⟩
  · exact .inl rfl

theorem isDirectory_makeOne (h : t.makeOne cwd p = .ok t') : t'.isDirectory cwd p = true := by
  have hgrown := grown_makeOne h
  obtain ⟨hshort, hway, hnone, rfl⟩ := makeOne_eq_ok h
  have hroot := ne_nil_of_node? (by rw [hnone]; nofun : t.node? (p.goal cwd) ≠ some .directory)
  refine isDirectory_iff.mpr ⟨hshort, holds_trail_iff.mpr ⟨hgrown.within.holds hway, ?_⟩⟩
  rw [node?_put hroot, if_pos rfl]

theorem Ordered.makeOne (ht : t.Ordered) (h : t.makeOne cwd p = .ok t') : t'.Ordered := by
  obtain ⟨-, -, hnone, rfl⟩ := makeOne_eq_ok h
  exact ht.put (ne_nil_of_node? (by rw [hnone]; nofun)) _

/-- What making the directory of a path comes to: only directories are added, on the trail of the path,
    and if all goes well the directory is there. -/
structure Makes (cwd : List String) (p : Path) (t : Tree) (r : Except Fault Unit × Tree) :
    Prop where
  grown : Grown (p.trail cwd) t r.2
  ordered : t.Ordered → r.2.Ordered
  made : r.1 = .ok () → r.2.isDirectory cwd p = true

theorem makes_one (h : t.makeOne cwd p = .ok t') : Makes cwd p t (.ok (), t') :=
  ⟨grown_makeOne h, fun ht => ht.makeOne h, fun _ => isDirectory_makeOne h⟩

theorem makes_none (f : Fault) : Makes cwd p t (.error f, t) :=
  ⟨.refl _ t, id, nofun⟩

/-- A directory can be made in two steps, the first of which makes what is above it. -/
theorem Makes.after {t₁ : Tree} {r : Except Fault Unit × Tree} (h : Makes cwd p t₁ r)
    (hgrown : Grown (p.trail cwd) t t₁) (hordered : t.Ordered → t₁.Ordered) : Makes cwd p t r :=
  ⟨hgrown.trans h.grown, h.ordered ∘ hordered, h.made⟩

/-- A directory that cannot be made is fine if it is there. -/
theorem makes_given (f : Fault) :
    Makes cwd p t (if t.isDirectory cwd p then (.ok (), t) else (.error f, t)) := by
  split
  · next h => exact ⟨.refl _ t, id, fun _ => h⟩
  · exact makes_none f

theorem makes_within (parents : Nat) (t : Tree) (p : Path) :
    Makes cwd p t (t.makeWithin cwd parents p) := by
  induction parents generalizing t p with
  | zero =>
      rw [makeWithin]
      cases hone : t.makeOne cwd p with
      | ok t' => exact makes_one hone
      | error c => cases c <;> first | exact makes_given _ | exact makes_none _
  | succ parents ih =>
      rw [makeWithin]
      cases hone : t.makeOne cwd p with
      | ok t' => exact makes_one hone
      | error c =>
          cases c with
          | notFound =>
              have hparent := ih t p.parent
              have hgrown := hparent.grown.mono (Path.trail_parent cwd p)
              dsimp only
              cases hmade : t.makeWithin cwd parents p.parent with
              | mk r t₁ =>
                  rw [hmade] at hgrown hparent
                  cases r with
                  | error f => exact (makes_none f).after hgrown hparent.ordered
                  | ok _ =>
                      -- The parents are there; what is left is one more step from their tree.
                      dsimp only
                      cases htwo : t₁.makeOne cwd p with
                      | ok t₂ => exact (makes_one htwo).after hgrown hparent.ordered
                      | error c => exact (makes_given _).after hgrown hparent.ordered
          | _ => exact makes_given _

/-- Making a directory with its parents adds directories only, and if all goes well it is there. -/
theorem makes_directory (t : Tree) (cwd : List String) (p : Path) :
    Makes cwd p t (t.makeDirectory cwd p) := by
  rw [makeDirectory]
  split
  · exact makes_none _
  · exact makes_within _ t p

end

end Tree

end FragmentWeaver.Files
