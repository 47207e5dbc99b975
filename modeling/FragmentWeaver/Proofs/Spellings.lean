import FragmentWeaver.Proofs.Once
import FragmentWeaver.Proofs.Packages

/-!
# The spellings of an import

A body can name a module of its namespace in two ways: by the module's own name, imported from the
namespace, or by its dotted path. The first finds the module in the package or else in the module
table; the second goes from package to package and finds only what is bound there. The import system
binds a module where it lies once its body was run; a context that loads it does not.
-/

namespace FragmentWeaver

open Script (Caller Expr Frame Importer Stmt eval exec readHooked)

namespace Loading

variable {path : List String} {s t : Loom} {f : Frame} {m : ModuleId} {n : String} {v : Value}

/-- The body of a module sees another module under a path: that one stands in the table, the context of
    the namespace answers to imports, and neither of the two modules is one of the packages. -/
structure Sees (s : Loom) (f : Frame) (path : List String) (m : ModuleId) : Prop where
  place : f.place = .module
  secret : f.secret = none
  supplies : s.Supplies (opening path (path.length - 1))
  orderly : Orderly path s.world
  stands : s.world.imported? (opening path path.length) = some m
  known : f.globals < s.world.modules.size
  apart : m ≠ f.globals
  other : ∀ {i}, 1 ≤ i → i < path.length → s.world.imported? (opening path i) ≠ some m
  own : ∀ {i}, 1 ≤ i → i < path.length → s.world.imported? (opening path i) ≠ some f.globals

/-- Every module on a path is bound in the package it lies in. -/
def Linked (path : List String) (w : World) : Prop :=
  ∀ i (_ : 1 ≤ i) (hlt : i < path.length), w.BindsMember (opening path i) path[i]

/-- Carry out a statement and find the value of an expression then. -/
def readAfter (importer : Importer) (depth : Nat) (f : Frame) (stmt : Stmt) (e : Expr) :
    Act Value := do
  let (_, f) ← exec importer depth f stmt
  eval importer depth f e

/-- Import a module from its namespace, and read a name from it by its own name. -/
def readByName (depth : Nat) (f : Frame) (space : List String) (simple n : String) : Act Value :=
  readAfter importModule depth f (.importsFrom 0 space [(simple, none)])
    (.attribute (.name simple) n)

/-- Import a module by its path, and read a name from it by this path. -/
def readByPath (depth : Nat) (f : Frame) (path : List String) (n : String) : Act Value :=
  readAfter importModule depth f (.imports [⟨path, none⟩]) (.attribute (.path path) n)

theorem importModule_opening (hpath : IsPath path) {i : Nat} (hi : 1 ≤ i) :
    importModule (opening path i) = importWithin importDepth (opening path i) := by
  rw [importModule, if_neg (hpath.opening_ne hi)]

theorem run_importModule_found (hpath : IsPath path) {i : Nat} (hi : 1 ≤ i) (hle : i ≤ path.length)
    (hm : s.world.imported? (opening path i) = some m) :
    (importModule (opening path i)).run s = .ok m (s.note (.imported (opening path i) m)) := by
  rw [importModule_opening hpath hi]
  exact run_importWithin_found (d := 149) hpath hi hle hm

/-- A package answers to the name of a module that is bound in it. -/
theorem run_readHooked_bound (again : Caller) {i : Nat} {p : ModuleId} (hi : 1 ≤ i)
    (hlt : i < path.length) (hp : t.world.imported? (opening path i) = some p)
    (hm : t.world.imported? (opening path (i + 1)) = some m)
    (hbinds : t.world.BindsMember (opening path i) path[i]) :
    (readHooked again (.module p) path[i]).run t = .ok (.module m) t := by
  obtain ⟨p', m', hp', hm', hbound⟩ := hbinds
  rw [← IsPath.opening_succ hi hlt] at hm'
  cases hp.symm.trans hp'
  cases hm.symm.trans hm'
  exact Script.run_readHooked_kept again hbound

/-- To a package the name of a module is missing that is not bound in it. -/
theorem run_readHooked_unbound (again : Caller) (hpath : IsPath path) (ht : Orderly path t.world)
    {i : Nat} {p : ModuleId} {r : ModuleRecord} (hi : 1 ≤ i) (hlt : i < path.length)
    (hp : t.world.imported? (opening path i) = some p) (hr : t.world.modules[p]? = some r)
    (hpackage : r.IsPackageOf (opening path i))
    (hunbound : ¬ t.world.BindsMember (opening path i) path[i]) :
    (readHooked again (.module p) path[i]).run t =
      .error (.script (Script.missingInModule r path[i])) t := by
  have hnone := (ht.member hi hlt hp).resolve_right hunbound
  rw [World.moduleAttribute?_of_get hr] at hnone
  exact Script.run_readHooked_missing again hr hpackage.plain hpackage.unhooked
    (hpath.free _ (List.getElem_mem hlt)) hnone

section ByName

variable (again : Caller) {i : Nat} {p : ModuleId} (hpath : IsPath path) (ht : Orderly path t.world)
  (hi : 1 ≤ i) (hlt : i < path.length) (hp : t.world.imported? (opening path i) = some p)
  (hm : t.world.imported? (opening path (i + 1)) = some m)

include hpath ht hi hlt hp hm

/-- To look whether a package holds a module that stands in the table changes nothing but what is
    remembered of imports. -/
theorem run_importMembers_one : ∃ u : Loom,
    (Script.importMembers again importModule p [path[i]]).run t = .ok () u ∧
      u.world = t.world ∧ t.SameStore u := by
  obtain ⟨r, hr, hpackage⟩ := ht.package hi hlt hp
  rw [Script.importMembers, List.forM_eq_forM, List.forM_cons, List.forM_nil, bind_pure,
    Act.run_bind_ok (Act.run_world t), World.getD_of_get hr]
  dsimp only
  rw [if_pos hpackage.package]
  by_cases hbinds : t.world.BindsMember (opening path i) path[i]
  · refine ⟨t, Act.run_tryCatch_ok ?_, rfl, .refl t⟩
    rw [Act.run_bind_ok (run_readHooked_bound again hi hlt hp hm hbinds)]
    rfl
  · have hread := run_readHooked_unbound again hpath ht hi hlt hp hr hpackage hbinds
    rw [Act.run_tryCatch_error (Act.run_bind_error hread), Act.run_bind_ok (Act.run_world t),
      if_pos (Script.isMissingAttribute_missingInModule ..), hpackage.own,
      ← IsPath.opening_succ hi hlt]
    refine ⟨t.note (.imported (opening path (i + 1)) m), Act.run_tryCatch_ok ?_, rfl, ⟨rfl, rfl⟩⟩
    rw [Act.run_bind_ok (run_importModule_found hpath (Nat.le_add_left 1 i) hlt hm)]
    rfl

/-- A module that stands in the table is found, whether its package holds it or not. -/
theorem run_importedName_member :
    (Script.importedName again p path[i]).run t = .ok (.module m) t := by
  rw [Script.importedName]
  by_cases hbinds : t.world.BindsMember (opening path i) path[i]
  · have hdone : (do
        let r ← readHooked again (.module p) path[i]
        ExceptT.run (pure r) : Act (Except Value Value)).run t = .ok (.ok (.module m)) t := by
      rw [Act.run_bind_ok (run_readHooked_bound again hi hlt hp hm hbinds)]
      rfl
    rw [Act.run_bind_ok (Act.run_tryCatch_ok hdone)]
    rfl
  · obtain ⟨r, hr, hpackage⟩ := ht.package hi hlt hp
    have hread := run_readHooked_unbound again hpath ht hi hlt hp hr hpackage hbinds
    have hfails : (do
        let r ← readHooked again (.module p) path[i]
        ExceptT.run (pure r) : Act (Except Value Value)).run t =
          .error (.script (Script.missingInModule r path[i])) t :=
      Act.run_bind_error hread
    have hfound : t.world.imported? (r.ownName ++ "." ++ path[i]) = some m := by
      rw [hpackage.own, ← IsPath.opening_succ hi hlt, hm]
    rw [Act.run_bind_tryCatch_error hfails, bind_assoc, Act.run_bind_ok (Act.run_world t),
      if_pos (Script.isMissingAttribute_missingInModule ..), World.getD_of_get hr]
    dsimp only
    rw [hfound]
    rfl

end ByName

/-- To import a module that stands in the table from its namespace binds the module, and may add packages
    of the namespace. -/
theorem run_importsFrom_member (hpath : IsPath path) (hshort : path.length ≤ importDepth) {i : Nat}
    (hi : i + 1 = path.length) (hsupplies : s.Supplies (opening path i))
    (horderly : Orderly path s.world) (hm : s.world.imported? (opening path (i + 1)) = some m)
    (depth : Nat) (f : Frame) : ∃ u : Loom, Opens path i s.world u.world ∧ s.SameStore u ∧
      (exec importModule (depth + 3) f
        (.importsFrom 0 (path.take i) [(path[i], none)])).run s = ((do
          let f ← f.bind path[i] (.module m)
          return (.next, f)) : Act (Script.Flow × Frame)).run u := by
  have hlong := hpath.long
  have hpos : 1 ≤ i := by omega
  have hlt : i < path.length := by omega
  have hspace : i = path.length - 1 := by omega
  obtain ⟨p, t, himport, hp, hopens, ht, hstore, -⟩ :=
    opened hpath hpos hlt (Nat.le_trans (Nat.le_of_lt hlt) hshort) (hspace ▸ hsupplies) horderly
  rw [← importModule_opening hpath hpos] at himport
  have hmt : t.world.imported? (opening path (i + 1)) = some m := hopens.entries hm
  obtain ⟨u, hmembers, hworld, hstore'⟩ :=
    run_importMembers_one (Script.call importModule (depth + 2)) hpath ht hpos hlt hp hmt
  have hname := run_importedName_member (Script.call importModule (depth + 2)) hpath
    (hworld ▸ ht) hpos hlt (hworld ▸ hp) (hworld ▸ hmt)
  refine ⟨u, hworld ▸ hopens, hstore.trans hstore', ?_⟩
  rw [exec]
  dsimp only
  rw [Script.absoluteName, if_pos rfl, pure_bind]
  change (importModule (opening path i) >>= _ : Act _).run s = _
  rw [Act.run_bind_ok himport, List.map_singleton, Act.run_bind_ok hmembers]
  simp only [List.foldlM_cons, List.foldlM_nil, Option.getD_none, bind_assoc, pure_bind]
  rw [Act.run_bind_ok hname]

/-- A module that stands in the table can be imported from its namespace, and then it is found by its own
    name. -/
theorem outcome_readByName (hpath : IsPath path) (hshort : path.length ≤ importDepth)
    (hsees : Sees s f path m) (hv : s.world.moduleAttribute? m n = some v) (depth : Nat)
    {i : Nat} (hi : i + 1 = path.length) :
    (readByName (depth + 3) f (path.take i) path[i] n).run.outcome s = .ok v := by
  have hlt : i < path.length := by omega
  have hspace : path.length - 1 = i := by omega
  obtain ⟨u, hopens, -, hexec⟩ := run_importsFrom_member hpath hshort hi
    (hspace ▸ hsees.supplies) hsees.orderly (hi ▸ hsees.stands) depth f
  let after := u.changeModule f.globals (·.put path[i] (.module m))
  have hbind := Frame.run_bind_module hsees.place hsees.secret path[i] (.module m) u
  rw [Act.run_bind_ok hbind] at hexec
  have hbound : after.world.moduleAttribute? f.globals path[i] = some (.module m) :=
    World.moduleAttribute?_put_self _ (Nat.lt_of_lt_of_le hsees.known hopens.size) ..
  have hkept : after.world.moduleAttribute? m n = some v := by
    refine (World.moduleAttribute?_changeModule_of_ne _ hsees.apart _ n).trans ?_
    rw [World.moduleAttribute?, hopens.modules (World.lt_size_of_kept hv) fun j hj hle =>
      hsees.other hj (Nat.lt_of_le_of_lt hle hlt)]
    exact hv
  have hread := Frame.run_read_kept hsees.place hsees.secret
    (hpath.unfixed _ (List.getElem_mem hlt)) hbound
  have hrun : (readByName (depth + 3) f (path.take i) path[i] n).run s = .ok v after := by
    rw [readByName, readAfter]
    refine (Act.run_bind_ok hexec).trans ?_
    dsimp only
    rw [eval, eval]
    rw [Act.run_bind_ok hread, Frame.key_of_public hsees.secret]
    exact Script.run_readHooked_kept _ hkept
  rw [Run.outcome, hrun]

theorem path_take_one (hlong : 2 ≤ path.length) :
    Expr.path (path.take 1) = .name path[0] := by
  cases path with
  | nil => simp at hlong
  | cons n rest => rfl

theorem path_take_succ {i : Nat} (hi : 1 ≤ i) (hlt : i < path.length) :
    Expr.path (path.take (i + 1)) = .attribute (Expr.path (path.take i)) path[i] := by
  rw [List.take_succ_eq_append_getElem hlt]
  cases path with
  | nil => simp at hlt
  | cons n rest =>
      obtain ⟨i, rfl⟩ : ∃ k, i = k + 1 := ⟨i - 1, by omega⟩
      rw [List.take_succ_cons, List.cons_append, Expr.path, List.foldl_append]
      rfl

/-- Going from package to package along a path leads to the module of every opening, up to a module
    that is not bound in the package it lies in. -/
theorem run_eval_path (hpath : IsPath path) (ht : Orderly path t.world)
    (hsecret : f.secret = none) {top : ModuleId} (htop : t.world.imported? (opening path 1) = some top)
    (hname : ∀ h : 0 < path.length, (f.read path[0]).run t = .ok (.module top) t) {i : Nat}
    (hi : 1 ≤ i) (hle : i ≤ path.length) :
    ((∀ {j} (_ : 1 ≤ j) (hlt : j < path.length), j < i →
        t.world.BindsMember (opening path j) path[j]) ∧
      ∃ p, t.world.imported? (opening path i) = some p ∧ ∀ {depth}, i ≤ depth →
        (eval importModule depth f (.path (path.take i))).run t = .ok (.module p) t) ∨
    ∃ (j : Nat) (hlt : j < path.length) (r : ModuleRecord), 1 ≤ j ∧
      ¬ t.world.BindsMember (opening path j) path[j] ∧ r.ownName = opening path j ∧
      ∀ {depth}, i ≤ depth → (eval importModule depth f (.path (path.take i))).run t =
        .error (.script (Script.missingInModule r path[j])) t := by
  have hlong := hpath.long
  induction i with
  | zero => omega
  | succ i ih =>
      by_cases hzero : i = 0
      · subst hzero
        refine .inl ⟨fun _ _ _ => by omega, top, htop, fun {depth} hdepth => ?_⟩
        obtain ⟨depth, rfl⟩ : ∃ d, depth = d + 1 := ⟨depth - 1, by omega⟩
        rw [path_take_one hlong, eval]
        exact hname (by omega)
      · have hpos : 1 ≤ i := by omega
        have hlt : i < path.length := by omega
        rcases ih hpos (by omega) with ⟨hbefore, p, hp, hread⟩ | ⟨j, hj, r, hj1, hunbound, hown, hread⟩
        · by_cases hbinds : t.world.BindsMember (opening path i) path[i]
          · have hbound := hbinds
            obtain ⟨-, m, -, hm, -⟩ := hbound
            rw [← IsPath.opening_succ hpos hlt] at hm
            refine .inl ⟨fun {j} hj hjlt hle => ?_, m, hm, fun {depth} hdepth => ?_⟩
            · rcases Nat.lt_succ_iff_lt_or_eq.mp hle with hji | rfl
              · exact hbefore hj hjlt hji
              · exact hbinds
            · obtain ⟨depth, rfl⟩ : ∃ d, depth = d + 1 := ⟨depth - 1, by omega⟩
              rw [path_take_succ hpos hlt, eval, Act.run_bind_ok (hread (by omega)),
                Frame.key_of_public hsecret]
              exact run_readHooked_bound _ hpos hlt hp hm hbinds
          · obtain ⟨r, hr, hpackage⟩ := ht.package hpos hlt hp
            refine .inr ⟨i, hlt, r, hpos, hbinds, hpackage.own, fun {depth} hdepth => ?_⟩
            obtain ⟨depth, rfl⟩ : ∃ d, depth = d + 1 := ⟨depth - 1, by omega⟩
            rw [path_take_succ hpos hlt, eval, Act.run_bind_ok (hread (by omega)),
              Frame.key_of_public hsecret]
            exact run_readHooked_unbound _ hpath ht hpos hlt hp hr hpackage hbinds
        · refine .inr ⟨j, hj, r, hj1, hunbound, hown, fun {depth} hdepth => ?_⟩
          obtain ⟨depth, rfl⟩ : ∃ d, depth = d + 1 := ⟨depth - 1, by omega⟩
          rw [path_take_succ hpos hlt, eval]
          exact Act.run_bind_error (hread (by omega))

/-- An import by a path binds the topmost module of the path. -/
theorem run_importItem_path (again : Caller) (hlong : 2 ≤ path.length) (s : Loom) :
    (Script.importItem again importModule f ⟨path, none⟩).run s = ((do
      let _ ← importModule (opening path path.length)
      let top ← importModule (opening path 1)
      f.bind path[0] (.module top)) : Act Frame).run s := by
  have hwhole : opening path path.length = Text.join "." path := by rw [opening, List.take_length]
  obtain _ | ⟨n, _ | ⟨next, rest⟩⟩ := path
  · exact absurd hlong (by decide)
  · exact absurd hlong (by simp)
  · rw [hwhole, IsPath.opening_one (List.cons_ne_nil _ _)]
    rfl

/-- Packages that are not the module of a frame stay what they are when a name is bound there. -/
theorem orderly_bind {w : World} {g : ModuleId} (ht : Orderly path w)
    (hown : ∀ {i}, 1 ≤ i → i < path.length → w.imported? (opening path i) ≠ some g)
    (change : ModuleRecord → ModuleRecord) :
    Orderly path (w.changeModule g change) ∧ ∀ {i} (_ : 1 ≤ i) (hlt : i < path.length),
      (w.changeModule g change).BindsMember (opening path i) path[i] ↔
        w.BindsMember (opening path i) path[i] := by
  have hattribute {i : Nat} {p : ModuleId} (hi : 1 ≤ i) (hlt : i < path.length)
      (hp : w.imported? (opening path i) = some p) (n : String) :
      (w.changeModule g change).moduleAttribute? p n = w.moduleAttribute? p n :=
    w.moduleAttribute?_changeModule_of_ne (fun heq : p = g => hown hi hlt (heq ▸ hp)) change n
  have hbinds {i : Nat} (hi : 1 ≤ i) (hlt : i < path.length) :
      (w.changeModule g change).BindsMember (opening path i) path[i] ↔
        w.BindsMember (opening path i) path[i] := by
    refine exists_congr fun p => exists_congr fun m => and_congr_right fun hp => ?_
    rw [hattribute hi hlt hp]
    rfl
  refine ⟨⟨fun {i p} hi hlt hp => ?_, fun {i p} hi hlt hp => ?_⟩, hbinds⟩
  · obtain ⟨r, hr, hpackage⟩ := ht.package hi hlt hp
    refine ⟨r, ?_, hpackage⟩
    rw [World.getElem?_changeModule, if_neg fun heq : g = p => hown hi hlt (heq ▸ hp)]
    exact hr
  · rw [hattribute hi hlt hp, hbinds hi hlt]
    exact ht.member hi hlt hp

/-- The dotted path of a module leads to it exactly if every module on the path is bound in the package
    it lies in; otherwise the first one that is not is missing. -/
theorem outcome_readByPath (hpath : IsPath path)
    (hsees : Sees s f path m) (hv : s.world.moduleAttribute? m n = some v) {depth : Nat}
    (hdepth : path.length ≤ depth) :
    (Linked path s.world → (readByPath (depth + 1) f path n).run.outcome s = .ok v) ∧
      (¬ Linked path s.world → ∃ (j : Nat) (hlt : j < path.length) (r : ModuleRecord), 1 ≤ j ∧
        r.ownName = opening path j ∧ (readByPath (depth + 1) f path n).run.outcome s =
          .error (.script (Script.missingInModule r path[j]))) := by
  have hlong := hpath.long
  have hfull := run_importModule_found hpath (by omega) (Nat.le_refl _) hsees.stands
  let s₁ := s.note (.imported (opening path path.length) m)
  obtain ⟨top, t, htoprun, htop, hopens, ht, -, hempty⟩ :=
    opened (d := importDepth) (s := s₁) hpath (Nat.le_refl 1) (by omega) (by decide) hsees.supplies hsees.orderly
  rw [← importModule_opening hpath (Nat.le_refl 1)] at htoprun
  have hlinked : Linked path t.world ↔ Linked path s.world := by
    cases hs : s.world.imported? (opening path 1) with
    | some top' =>
        have hsame := (run_importModule_found (s := s₁) hpath (Nat.le_refl 1) (by omega) hs).symm.trans
          htoprun
        cases hsame
        exact Iff.rfl
    | none =>
        refine ⟨fun h => ?_, fun h => ?_⟩
        · obtain ⟨p, m', hp, -, hbound⟩ := h 1 (Nat.le_refl 1) (by omega)
          cases htop.symm.trans hp
          cases hbound.symm.trans (hempty hs _ (hpath.free _ (List.getElem_mem _)))
        · obtain ⟨p, m', hp, -⟩ := h 1 (Nat.le_refl 1) (by omega)
          cases hs.symm.trans hp
  have hown {i : Nat} (hi : 1 ≤ i) (hlt : i < path.length) :
      t.world.imported? (opening path i) ≠ some f.globals := fun hg => by
    cases hs : s.world.imported? (opening path i) with
    | some k => exact hsees.own hi hlt (hs.trans ((hopens.entries hs).symm.trans hg))
    | none => exact absurd (hopens.new hs hg) (Nat.not_le_of_lt hsees.known)
  let u := t.changeModule f.globals (·.put path[0] (.module top))
  obtain ⟨hu, hbinds⟩ := orderly_bind ht hown (·.put path[0] (.module top))
  have hname : ∀ h : 0 < path.length, (f.read path[0]).run u = .ok (.module top) u := fun h =>
    Frame.run_read_kept hsees.place hsees.secret (hpath.unfixed _ (List.getElem_mem h))
      (World.moduleAttribute?_put_self _ (Nat.lt_of_lt_of_le hsees.known hopens.size) ..)
  have hkept : u.world.moduleAttribute? m n = some v := by
    refine (World.moduleAttribute?_changeModule_of_ne _ hsees.apart _ n).trans ?_
    rw [World.moduleAttribute?, hopens.modules (World.lt_size_of_kept hv) fun j hj hle =>
      hsees.other hj (by omega)]
    exact hv
  have hexec : (exec importModule (depth + 1) f (.imports [⟨path, none⟩])).run s =
      .ok (.next, f) u := by
    rw [exec]
    simp only [List.foldlM_cons, List.foldlM_nil, bind_pure]
    have hitem : (Script.importItem (Script.call importModule depth) importModule f
        ⟨path, none⟩).run s = .ok f u := by
      rw [run_importItem_path _ hlong, Act.run_bind_ok hfull, Act.run_bind_ok htoprun]
      exact Frame.run_bind_module hsees.place hsees.secret _ _ t
    rw [Act.run_bind_ok hitem]
    rfl
  have hread : (readByPath (depth + 1) f path n).run s =
      (eval importModule (depth + 1) f (.attribute (.path (path.take path.length)) n)).run u := by
    rw [List.take_length, readByPath, readAfter, Act.run_bind_ok hexec]
  have hpathu := run_eval_path (t := u) hpath hu hsees.secret htop hname (by omega) (Nat.le_refl _)
  rw [Run.outcome, hread, eval]
  rcases hpathu with ⟨hbefore, p, hp, heval⟩ | ⟨j, hj, r, hj1, hunbound, hown', heval⟩
  · have hall : Linked path s.world :=
      hlinked.mp fun _ hi hlt => (hbinds hi hlt).mp (hbefore hi hlt hlt)
    refine ⟨fun _ => ?_, fun hnot => absurd hall hnot⟩
    cases hp.symm.trans (hopens.entries hsees.stands)
    rw [Act.run_bind_ok (heval hdepth), Frame.key_of_public hsees.secret,
      Script.run_readHooked_kept _ hkept]
  · have hnot : ¬ Linked path s.world := fun hall =>
      hunbound ((hbinds hj1 hj).mpr (hlinked.mpr hall j hj1 hj))
    refine ⟨fun hall => absurd hall hnot, fun _ => ⟨j, hj, r, hj1, hown', ?_⟩⟩
    rw [Act.run_bind_error (heval hdepth)]

/-- What was imported from a package is bound in it, whatever its body did. -/
theorem importMember_binds {importer : Importer} {parent simple name : String}
    (h : (importMember importer parent simple name).run s = .ok m t) :
    ∃ p, t.world.imported? parent = some p ∧ t.world.imported? name = some m ∧
      (p < t.world.modules.size → t.world.moduleAttribute? p simple = some (.module m)) := by
  rw [importMember] at h
  obtain ⟨w, s', hworld, h⟩ := Act.exists_of_run_bind h
  cases hparent : w.imported? parent with
  | none =>
      rw [hparent] at h
      cases h
  | some p =>
      rw [hparent] at h
      dsimp only at h
      -- A parent that is no package has no members to import.
      split at h
      · obtain ⟨_, _, hfail, -⟩ := Act.exists_of_run_bind h
        cases hfail
      obtain ⟨_, u₁, _, hu⟩ := Act.exists_of_run_bind h
      obtain ⟨k, u₂, hnew, hu⟩ := Act.exists_of_run_bind hu
      obtain ⟨u₃, _, hnew, hended⟩ := Act.exists_of_run_andFinally hnew
      obtain ⟨_, u₄, _, hfound⟩ := Act.exists_of_run_bind hnew
      have hstands : u₃.world.imported? name = some k := by
        change Run.of (fun s => s.found name) u₄ = _ at hfound
        cases hm : u₄.world.imported? name with
        | none =>
            simp only [Run.of, Loom.found, hm] at hfound
            cases hfound
        | some k' =>
            simp only [Run.of, Loom.found, hm] at hfound
            cases hfound
            exact hm
      cases hended
      obtain ⟨w, u₅, hworld, hu⟩ := Act.exists_of_run_bind hu
      cases hworld
      cases hp : (u₃.changeModule p fun r =>
          { r with underway := r.underway.dropLast }).world.imported? parent with
      | none =>
          rw [hp] at hu
          cases hu
      | some q =>
          rw [hp] at hu
          obtain ⟨_, u₆, hset, hend⟩ := Act.exists_of_run_bind hu
          cases hset
          cases hend
          exact ⟨q, hp, hstands, fun hlt => World.moduleAttribute?_put_self _
            (World.size_changeModule .. ▸ hlt) ..⟩

/-- The import system binds a module in its namespace, whatever its body did but editing the table. -/
theorem importModule_binds (hpath : IsPath path) (hshort : path.length ≤ importDepth) {i : Nat}
    (hi : i + 1 = path.length) (hsupplies : s.Supplies (opening path i)) (horderly : Orderly path s.world)
    (hs : s.Traced) (habsent : s.world.imported? (opening path (i + 1)) = none)
    (himport : (importModule (opening path (i + 1))).run s = .ok m t) (hedits : t.edits = s.edits) :
    t.world.imported? (opening path (i + 1)) = some m ∧
      t.world.BindsMember (opening path i) path[i] := by
  have hlong := hpath.long
  have hpos : 1 ≤ i := by omega
  have hlt : i < path.length := by omega
  have hspace : i = path.length - 1 := by omega
  have htraces := ((importModule (opening path (i + 1))).follows s).traces
  rw [Run.final, himport] at htraces
  obtain ⟨edits, hsame, htraced⟩ := htraces
  obtain rfl : edits = [] := List.self_eq_append_right.mp (hedits.symm.trans hsame)
  have ht : t.Traced := htraced (fun _ h => absurd h List.not_mem_nil) hs
  obtain ⟨d, hd⟩ : ∃ d, importDepth = d + 1 := ⟨149, rfl⟩
  rw [importModule_opening hpath (by omega), hd] at himport
  rw [hd] at hshort
  obtain ⟨-, u, -, -, -, -, -, -, hrun⟩ := run_importWithin_member (d := d) hpath hpos hlt
    (hspace ▸ hsupplies) horderly habsent
    (opened hpath hpos hlt (by omega) (hspace ▸ hsupplies) horderly)
  obtain ⟨p, hp, hm, hbound⟩ := importMember_binds (hrun.symm.trans himport)
  refine ⟨hm, p, m, hp, ?_, hbound (ht.known hp)⟩
  rw [← IsPath.opening_succ hpos hlt]
  exact hm

/-- A context that loads a module does not bind it in its namespace: it is not bound when its body is
    started, and running the body is the last that is done to the modules. -/
theorem load_binds_nothing (hpath : IsPath path) {c i : Nat} (hi : 1 ≤ i) (hlt : i < path.length)
    (horderly : Orderly path s.world) (habsent : s.world.imported? (opening path (i + 1)) = none)
    (hload : (load c (opening path (i + 1))).outcome s = .ok m) :
    ∃ source,
      let spec : ModuleSpec := ⟨s.nextSpec, opening path (i + 1), source⟩
      let start := ((s.give c (opening path (i + 1))).enterNew spec false).2
      start.world.imported? (opening path (i + 1)) = some m ∧
        ¬ start.world.BindsMember (opening path i) path[i] ∧
        ((load c (opening path (i + 1))).final s).world =
          ((runBody importModule m source).run.final start).world := by
  have hloads := load_loads c (opening path (i + 1)) s
  generalize (load c (opening path (i + 1))).outcome s = r,
    (load c (opening path (i + 1))).final s = t at hloads hload ⊢
  cases hloads with
  | known hown =>
      obtain ⟨k, hk, -⟩ := Option.bind_eq_some_iff.mp hown
      cases habsent.symm.trans hk
  | unknown _ | unreadable _ | package _ | failed _ _ => cases hload
  | @made k context file hnew hmade =>
      cases hload
      refine ⟨.artifact file, ?_⟩
      intro spec start
      rcases enterLoaded_cases spec (s.give c spec.name) with ⟨hok, hend⟩ | ⟨f, hfault, -⟩
      · cases hok.symm.trans hmade
        have hworld : ((enterLoaded spec).final (s.give c spec.name)).world = _ :=
          congrArg Loom.world hend
        refine ⟨World.imported?_enter_self _ _ _, ?_, hworld⟩
        rintro ⟨p, m, hp, -, hbound⟩
        have hne : opening path i ≠ spec.name := fun heq =>
          absurd (hpath.opening_injective hi (Nat.le_add_left 1 i) (Nat.le_of_lt hlt) hlt heq)
            (Nat.ne_of_lt (Nat.lt_succ_self i))
        have hps : s.world.imported? (opening path i) = some p :=
          (World.imported?_enter_of_ne _ hne _).symm.trans hp
        obtain ⟨r, hr, -⟩ := horderly.package hi hlt hps
        have hp' : p < s.world.modules.size := (Array.getElem?_eq_some_iff.mp hr).1
        have hsame : start.world.moduleAttribute? p path[i] =
            s.world.moduleAttribute? p path[i] := by
          rw [World.moduleAttribute?_of_get hr, World.moduleAttribute?_of_get]
          change (s.world.modules.push _)[p]? = some r
          rw [Array.getElem?_push_lt hp', ← Array.getElem?_eq_getElem hp', hr]
        rcases horderly.member hi hlt hps with hnone | ⟨p', m', -, hm', -⟩
        · cases hnone.symm.trans (hsame.symm.trans hbound)
        · rw [← IsPath.opening_succ hi hlt] at hm'
          cases habsent.symm.trans hm'
      · cases hfault.symm.trans hmade

/-- What the spellings of an import come to. A helper that was loaded stands in the module table, and
    read by its own name it gives what it holds. By its dotted path it gives the same exactly if every
    module on the path is bound in the package it lies in, and otherwise the first one that is not is
    missing. The import system binds a module that it has made; a context that loads a module does not,
    so that what is bound then is what some body has left bound. -/
theorem spellings_agree_iff {space : List String} {simple : String}
    (hpath : IsPath (space ++ [simple])) (hshort : space.length + 1 ≤ importDepth) :
    let path := space ++ [simple]
    let parent := opening path space.length
    let full := opening path (space.length + 1)
    (∀ (c : Nat) (s : Loom) (names : List String), s.finders.head? = some c → IsOpen c s →
      (∀ name ∈ names, '.' ∈ name.toList ∧ s.world.imported? name = none) →
      (loadAll c names).outcome s = .ok () → ((loadAll c names).final s).edits = s.edits →
      full ∈ names → ((loadAll c names).final s).world.imported? full ≠ none) ∧
    (∀ (c : Nat) (s : Loom) (m : ModuleId), Orderly path s.world → s.world.imported? full = none →
      (load c full).outcome s = .ok m → ∃ source,
        let start := ((s.give c full).enterNew ⟨s.nextSpec, full, source⟩ false).2
        start.world.imported? full = some m ∧ ¬ start.world.BindsMember parent simple ∧
          ((load c full).final s).world =
            ((runBody importModule m source).run.final start).world) ∧
    (∀ (s : Loom) (m : ModuleId), s.Supplies parent → Orderly path s.world → s.Traced →
      s.world.imported? full = none → (importModule full).run.outcome s = .ok m →
      let t := (importModule full).run.final s
      t.edits = s.edits → t.world.imported? full = some m ∧ t.world.BindsMember parent simple) ∧
    ∀ (s : Loom) (f : Frame) (m : ModuleId) (n : String) (v : Value) (depth : Nat),
      Sees s f path m → s.world.moduleAttribute? m n = some v → space.length + 2 ≤ depth →
      (readByName (depth + 1) f space simple n).run.outcome s = .ok v ∧
      ((readByPath (depth + 1) f path n).run.outcome s = .ok v ↔ Linked path s.world) ∧
      (¬ Linked path s.world → ∃ (j : Nat) (hlt : j < path.length) (r : ModuleRecord), 1 ≤ j ∧
        r.ownName = opening path j ∧ (readByPath (depth + 1) f path n).run.outcome s =
          .error (.script (Script.missingInModule r path[j]))) := by
  intro path parent full
  have hlength : path.length = space.length + 1 := List.length_append
  have hlong := hpath.long
  have hpos : 1 ≤ space.length := by
    change 2 ≤ path.length at hlong
    omega
  have hlt : space.length < path.length := by omega
  have hlast : path[space.length] = simple := List.getElem_concat_length rfl _
  have hspace : path.take space.length = space := List.take_left' rfl
  refine ⟨fun c s names hfirst hopen hnames hok hedits hmem => ?_,
    fun c s m horderly habsent hok => ?_, fun s m hsupplies horderly hs habsent hok => ?_,
    fun s f m n v depth hsees hv hdepth => ?_⟩
  · obtain ⟨es, -, -, hall⟩ := loadAll_tracks hfirst hopen hnames (.refl s) hedits
    exact (hall hok).2 full hmem
  · have hload := load_binds_nothing hpath hpos hlt horderly habsent hok
    rwa [hlast] at hload
  · intro t hedits
    have hbinds := importModule_binds hpath (hlength ▸ hshort) hlength.symm hsupplies horderly hs habsent
      (Run.run_of_outcome hok) hedits
    rwa [hlast] at hbinds
  · have hdeep : path.length ≤ depth := by omega
    have hname := outcome_readByName hpath (hlength ▸ hshort) hsees hv (depth - 2) hlength.symm
    rw [hspace, hlast, show depth - 2 + 3 = depth + 1 by omega] at hname
    obtain ⟨hlinked, hunlinked⟩ := outcome_readByPath hpath hsees hv hdeep
    refine ⟨hname, ⟨fun hok => ?_, hlinked⟩, hunlinked⟩
    by_contra hnot
    obtain ⟨j, hj, r, -, -, hfails⟩ := hunlinked hnot
    cases hok.symm.trans hfails

section Spec

/-- A state with the compiled helper of a unit whose body is about to be run, in a context of its own. -/
def helperLoom : Loom where
  world :=
    { modules := #[{ name := "builtins" }, { name := "woven.x" }]
      table := [("builtins", 0), ("woven.x", 1)] }
  files :=
    [(["stage"], .directory), (["stage", "woven"], .directory),
      (["stage", "woven", "x__h.pyc"], .file (.artifact { body := [
        .assign [.name "NAME"] (.literal (.whole 5))] }))]
  contexts := #[{ root := .parse "/stage", space := "woven" }]
  asked := [.context 0]

def unitFrame : Frame where
  globals := 1

theorem isModule_helper :
    ∀ i < 2, Standard.isModule (opening ["woven", "x__h"] (i + 1)) = false := by
  decide +kernel

theorem isPath_helper : IsPath (["woven"] ++ ["x__h"]) where
  long := by decide
  named := by decide
  undotted := by decide +kernel
  free := by decide +kernel
  unfixed := by decide +kernel
  foreign i hi hle := by
    obtain ⟨k, rfl⟩ : ∃ k, i = k + 1 := ⟨i - 1, by omega⟩
    exact isModule_helper k hle

theorem supplies_helper : helperLoom.Supplies "woven" := ⟨0, _, rfl, rfl, rfl, rfl⟩

theorem helperLoom_traced : helperLoom.Traced where
  known {name m} hm := by
    have hmem := Assoc.mem_of_find? hm
    simp only [helperLoom, List.mem_cons, Prod.mk.injEq, List.not_mem_nil, or_false] at hmem
    rcases hmem with ⟨-, rfl⟩ | ⟨-, rfl⟩ <;> decide
  claims {m n} hn _ := by
    match m with
    | 0 | 1 => cases hn
    | _ + 2 => cases hn
  given {name m n} _ hn _ := by
    match m with
    | 0 | 1 => cases hn
    | _ + 2 => cases hn

/-- The helper that the context has loaded gives what it holds by its own name, and not by its path. By
    an import it would have been bound. -/
theorem spellings_agree_iff_helper :
    let loaded := (loadAll 0 ["woven.x__h"]).final helperLoom
    let imported := (importModule "woven.x__h").run.final helperLoom
    loaded.world.imported? "woven.x__h" ≠ none ∧
      (readByName 4 unitFrame ["woven"] "x__h" "NAME").run.outcome loaded = .ok (.whole 5) ∧
      (readByPath 4 unitFrame ["woven", "x__h"] "NAME").run.outcome loaded ≠ .ok (.whole 5) ∧
      imported.world.BindsMember "woven" "x__h" := by
  intro loaded imported
  let path := ["woven", "x__h"]
  obtain ⟨hstands, -, hbinds, hread⟩ := spellings_agree_iff isPath_helper (by decide)
  have hone {i : Nat} (hi : 1 ≤ i) (hlt : i < 2) : i = 1 := by omega
  have horderly {w : World} (hnone : w.imported? "woven" = none) : Orderly path w :=
    orderly_of_absent fun i hi hlt => hone hi hlt ▸ hnone
  have hopen : IsOpen 0 helperLoom := ⟨_, rfl, rfl⟩
  have hnames : ∀ name ∈ ["woven.x__h"],
      '.' ∈ name.toList ∧ helperLoom.world.imported? name = none := by
    decide +kernel
  obtain ⟨hok, hedits, htop, hentry, hsize, hname⟩ :
      (loadAll 0 ["woven.x__h"]).outcome helperLoom = .ok () ∧ loaded.edits = [] ∧
        loaded.world.imported? "woven" = none ∧ loaded.world.imported? "woven.x__h" = some 2 ∧
        1 < loaded.world.modules.size ∧
        loaded.world.moduleAttribute? 2 "NAME" = some (.whole 5) := by
    decide +kernel
  have hnone {i : Nat} (hi : 1 ≤ i) (hlt : i < 2) :
      loaded.world.imported? (opening path i) = none :=
    hone hi hlt ▸ htop
  obtain ⟨es, htracks, -⟩ := loadAll_tracks rfl hopen hnames (.refl helperLoom) hedits
  have hsees : Sees loaded unitFrame path 2 :=
    { place := rfl, secret := rfl, supplies := htracks.offers.supplies supplies_helper
      orderly := horderly htop, stands := hentry, known := hsize, apart := by decide
      other := fun hi hlt h => nomatch (hnone hi hlt).symm.trans h
      own := fun hi hlt h => nomatch (hnone hi hlt).symm.trans h }
  obtain ⟨hbyName, hbyPath, -⟩ := hread loaded unitFrame 2 "NAME" (.whole 5) 3 hsees hname (by decide)
  refine ⟨hstands 0 helperLoom _ rfl hopen hnames hok hedits (List.mem_singleton_self _), hbyName,
    fun hpath => ?_, ?_⟩
  · obtain ⟨p, -, hp, -⟩ := hbyPath.mp hpath 1 (Nat.le_refl 1) (by decide)
    cases htop.symm.trans hp
  · obtain ⟨himports, hunedited⟩ :
        (importModule "woven.x__h").run.outcome helperLoom = .ok 3 ∧ imported.edits = [] := by
      decide +kernel
    exact (hbinds helperLoom 3 supplies_helper (horderly (by decide +kernel)) helperLoom_traced
      (by decide +kernel) himports hunedited).2

end Spec

end Loading

end FragmentWeaver
