import FragmentWeaver.Proofs.FileNames
import FragmentWeaver.Proofs.Scope
import FragmentWeaver.Weaver

/-!
# Where a unit stands and how the way back is found

The source of a unit lies as many directories below the staging root as its namespace has parts, and
climbing that many directories from it leads to the root again. So what the weaver puts first on the
search path is the directory from which the parts of the qualified name lead to the source. A context
looks for compiled files where units are staged, and no two units share a source.
-/

namespace FragmentWeaver

namespace Files.Path

/-- A path from the root in which nothing is undone, and which can be one of a file. -/
structure IsNormal (p : Path) : Prop where
  anchored : p.anchor = "/"
  downward : ∀ name ∈ p.names, name ≠ ".."
  usable : p.isUnusable = false

/-- Names that are gone on with one after the other all lead down. -/
theorem joinAll_names {names : List String} (h : ∀ name ∈ names, IsName name) (p : Path) :
    p.joinAll names = ⟨p.anchor, p.names ++ names⟩ := by
  unfold joinAll
  induction names generalizing p with
  | nil => simp
  | cons name rest ih =>
      rw [List.foldl_cons, join_name (h name List.mem_cons_self),
        ih fun other hother => h other (List.mem_cons_of_mem name hother)]
      simp [child]

theorem collapse_of_downward {names : List String} (h : ∀ name ∈ names, name ≠ "..") :
    collapse names = names := by
  have hfold (before : List String) :
      names.foldl (fun acc n => if n = ".." then acc.dropLast else acc ++ [n]) before =
        before ++ names := by
    induction names generalizing before with
    | nil => simp
    | cons name rest ih =>
        rw [List.foldl_cons, if_neg (h name List.mem_cons_self),
          ih fun other hother => h other (List.mem_cons_of_mem name hother), List.append_assoc]
        rfl
  exact hfold []

/-- To climb once for each of some things undoes as many names. -/
theorem climb_append {α : Type} (steps : List α) (anchor : String) (names : List String)
    {below : List String} (h : below.length = steps.length) :
    steps.foldl (fun d _ => d.parent) (⟨anchor, names ++ below⟩ : Path) = ⟨anchor, names⟩ := by
  induction steps generalizing below with
  | nil =>
      obtain rfl := List.eq_nil_of_length_eq_zero h
      simp
  | cons first rest ih =>
      have hne : below ≠ [] := List.ne_nil_of_length_eq_add_one h
      rw [List.foldl_cons, parent, List.dropLast_append_of_ne_nil hne]
      exact ih (by rw [List.length_dropLast, h, List.length_cons, Nat.add_sub_cancel])

end Files.Path

namespace Staging

open Files

/-- The parts of the namespace of a unit are names of directories, and its simple name is one of
    files. -/
structure IsPlaceable (u : UnitId) : Prop where
  parts : ∀ part ∈ Text.split '.' u.space,
    part ≠ "" ∧ '/' ∉ part.toList ∧ '\x00' ∉ part.toList
  name : '/' ∉ u.name.toList ∧ '\x00' ∉ u.name.toList

/-- A part of a namespace has no dot, and so it cannot lead up or nowhere. -/
theorem IsPlaceable.isName_part {u : UnitId} (hu : IsPlaceable u) {part : String}
    (hpart : part ∈ Text.split '.' u.space) : Path.IsName part := by
  obtain ⟨hne, hslash, -⟩ := hu.parts part hpart
  have hdot : '.' ∉ part.toList := by
    obtain ⟨cs, hcs, rfl⟩ := List.mem_map.mp hpart
    rw [String.toList_ofList]
    exact Text.sep_notMem_of_mem_cutAt hcs
  refine ⟨hslash, hne, ?_, ?_⟩
  all_goals
    rintro rfl
    exact hdot (by decide)

theorem IsPlaceable.isName_source {u : UnitId} (hu : IsPlaceable u) :
    Path.IsName (u.name ++ sourceSuffix) := by
  have hlast : 'y' ∈ (u.name ++ sourceSuffix).toList := by
    rw [String.toList_append]
    exact List.mem_append_right _ (by decide)
  refine ⟨?_, ?_, ?_, ?_⟩
  · rw [String.toList_append, List.mem_append, not_or]
    exact ⟨hu.name.1, by decide⟩
  all_goals
    intro heq
    rw [heq] at hlast
    exact absurd hlast (by decide)

theorem IsPlaceable.directory_eq {u : UnitId} (hu : IsPlaceable u) (root : Path) :
    directory root u = ⟨root.anchor, root.names ++ Text.split '.' u.space⟩ :=
  Path.joinAll_names (fun _ hpart => hu.isName_part hpart) root

theorem IsPlaceable.sourcePath_eq {u : UnitId} (hu : IsPlaceable u) (root : Path) :
    sourcePath root u =
      ⟨root.anchor, root.names ++ Text.split '.' u.space ++ [u.name ++ sourceSuffix]⟩ := by
  rw [sourcePath, hu.directory_eq, Path.join_name hu.isName_source]
  rfl

variable {root : Path} {u v : UnitId}

/-- A name below a normal path leads down, and can be one of a file. -/
theorem sourcePath_isNormal (hroot : root.IsNormal) (hu : IsPlaceable u) :
    (sourcePath root u).IsNormal := by
  rw [hu.sourcePath_eq]
  refine ⟨hroot.anchored, ?_, ?_⟩
  · intro name hname
    rcases List.mem_append.mp hname with hname | hname
    · rcases List.mem_append.mp hname with hname | hname
      · exact hroot.downward name hname
      · exact (hu.isName_part hname).ne_up
    · exact List.mem_singleton.mp hname ▸ hu.isName_source.ne_up
  · have hparts : (Text.split '.' u.space).any (·.toList.contains '\x00') = false := by
      simpa using fun part hpart => (hu.parts part hpart).2.2
    have hname : (u.name ++ sourceSuffix).toList.contains '\x00' = false := by
      rw [String.toList_append, List.contains_eq_mem, decide_eq_false_iff_not, List.mem_append,
        not_or]
      exact ⟨hu.name.2, by decide⟩
    have hroot' := hroot.usable
    unfold Path.isUnusable at hroot' ⊢
    rw [List.any_append, List.any_append, hroot', hparts, List.any_cons, hname]
    rfl

/-- Climbing from the source of a unit, once for each part of its namespace, leads to the root. -/
theorem sourceRoot_sourcePath (hroot : root.IsNormal) (hu : IsPlaceable u) (cwd : List String) :
    sourceRoot cwd (sourcePath root u) u = .ok root := by
  have hsource := sourcePath_isNormal hroot hu
  have hresolved : (sourcePath root u).resolve cwd =
      root.names ++ Text.split '.' u.space ++ [u.name ++ sourceSuffix] := by
    rw [Path.resolve, Path.isAbsolute, hsource.anchored, if_pos (by decide),
      Path.collapse_of_downward hsource.downward, hu.sourcePath_eq]
  rw [sourceRoot, hsource.usable, if_neg Bool.false_ne_true, hresolved, Path.ofRoot, Path.parent,
    List.dropLast_concat, Path.climb_append _ _ _ rfl, ← hroot.anchored]

/-- The path of a source tells the parts of the namespace and the simple name. -/
theorem sourcePath_injective (hu : IsPlaceable u) (hv : IsPlaceable v)
    (h : sourcePath root u = sourcePath root v) : u = v := by
  rw [hu.sourcePath_eq, hv.sourcePath_eq, Files.Path.mk.injEq, List.append_assoc, List.append_assoc] at h
  obtain ⟨hparts, hname⟩ := List.append_inj' (List.append_cancel_left h.2) rfl
  have hspace : u.space = v.space := by
    rw [← Text.join_split '.' u.space, hparts, Text.join_split]
  have hsimple : u.name = v.name := by
    have hlists := congrArg String.toList (List.cons.inj hname).1
    rw [String.toList_append, String.toList_append] at hlists
    exact String.toList_inj.mp (List.append_cancel_right hlists)
  cases u
  cases v
  cases hspace
  cases hsimple
  rfl

end Staging

namespace Weaver

open Files Staging

/-- The search path that a weaver is told to use, or the standard one. -/
def givenSearchPath (w : Weaver) (s : Loom) : Except Fault String :=
  match w.searchPath with
  | some path => .ok path
  | none => SearchPath.standard s.files s.around []

theorem outcome_searchPathFor (w : Weaver) (s : Loom) {source top : Path} {u : UnitId}
    (h : sourceRoot s.around.cwd source u = .ok top) :
    (w.searchPathFor source u).outcome s =
      (w.givenSearchPath s).map (SearchPath.append top.text) := by
  unfold searchPathFor givenSearchPath
  rw [Run.outcome_bind, Run.outcome_get, Run.final_get]
  dsimp only
  cases w.searchPath with
  | some path =>
      simp only [Run.outcome_bind, Run.outcome_pure, Run.final_pure, Run.outcome_lift, h]
      rfl
  | none =>
      simp only [Run.outcome_bind, Run.outcome_pure, Run.outcome_lift, Run.final_lift, h]
      cases SearchPath.standard s.files s.around [] <;> rfl

/-- Below a normal root, the source of a unit is reached by the parts of its namespace and its simple
    name. The way back leads to the root, which comes first on the search path; a context of the
    namespace has the directory of the unit; and no other unit has that source. -/
theorem layout_inverse {root : Path} (hroot : root.IsNormal) {u : UnitId} (hu : IsPlaceable u) :
    sourcePath root u =
        .ofRoot (root.names ++ Text.split '.' u.space ++ [u.name ++ sourceSuffix]) ∧
      (∀ cwd, sourceRoot cwd (sourcePath root u) u = .ok root) ∧
      (∀ (w : Weaver) (s : Loom), (w.searchPathFor (sourcePath root u) u).outcome s =
        (w.givenSearchPath s).map (SearchPath.append root.text)) ∧
      (∀ s : Loom, (((Loading.newContext root u.space).final s).contexts[s.contexts.size]?).map
        Context.directory = some (directory root u)) ∧
      ∀ v, IsPlaceable v → sourcePath root u = sourcePath root v → u = v := by
  have hback := sourceRoot_sourcePath hroot hu
  refine ⟨?_, hback, fun w s => outcome_searchPathFor w s (hback _), fun s => ?_,
    fun v hv h => sourcePath_injective hu hv h⟩
  · rw [hu.sourcePath_eq, hroot.anchored, Path.ofRoot]
  · have hmade : ((Loading.newContext root u.space).final s).contexts =
        s.contexts.push { root := root, space := u.space } := rfl
    rw [hmade, Array.getElem?_push_size]
    rfl

/-- A unit three directories below the root of the file system. -/
theorem layout_inverse_deep :
    let root := Path.parse "/"
    let u : UnitId := ⟨"a.b c.*", "x__h", by decide, by decide, by decide⟩
    root.IsNormal ∧ IsPlaceable u ∧ (sourcePath root u).text = "/a/b c/*/x__h.py" ∧
      (∀ cwd, sourceRoot cwd (sourcePath root u) u = .ok root) ∧
      ∀ v, IsPlaceable v → sourcePath root u = sourcePath root v → u = v := by
  intro root u
  have hroot : root.IsNormal := ⟨by decide, by decide, by decide⟩
  have hu : IsPlaceable u := ⟨by decide, by decide⟩
  obtain ⟨-, hback, -, -, hinj⟩ := layout_inverse hroot hu
  exact ⟨hroot, hu, by decide, hback, hinj⟩

end Weaver

end FragmentWeaver
