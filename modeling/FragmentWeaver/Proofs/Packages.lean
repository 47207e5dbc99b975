import FragmentWeaver.Proofs.Field
import FragmentWeaver.Proofs.FileNames
import FragmentWeaver.Proofs.Reading
import FragmentWeaver.Proofs.UnitNames
import FragmentWeaver.Loading.Import

/-!
# The packages of a namespace

A context describes the packages of its namespace. They have no bodies, so importing the module under
the opening of a dotted name comes to this: the packages that were missing are there, each of the new
ones is bound in the one it lies in, and nothing else has changed.
-/

namespace FragmentWeaver

namespace Text

theorem join_concat {sep : String} {pieces : List String} (hne : pieces ≠ []) (piece : String) :
    join sep (pieces ++ [piece]) = join sep pieces ++ sep ++ piece := by
  induction pieces with
  | nil => exact absurd rfl hne
  | cons first pieces ih =>
      cases pieces with
      | nil => rw [List.singleton_append, join_cons (List.cons_ne_nil _ _), join_singleton,
          join_singleton]
      | cons next others =>
          rw [List.cons_append, join_cons (by simp), ih (List.cons_ne_nil _ _),
            join_cons (List.cons_ne_nil _ _)]
          simp only [String.append_assoc]

end Text

namespace Act

variable {α β : Type}

theorem run_andFinally_ok {a : Act α} {last : Act β} {s t u : Loom} {x : α} {y : β}
    (h : a.run s = .ok x t) (hlast : last.run t = .ok y u) :
    (andFinally a last).run s = .ok x u := by
  have htry : (tryCatch (Except.ok <$> a) fun f => Pure.pure (Except.error f) :
      Act (Except Fault α)).run s = .ok (.ok x) t := by
    have hmap : (Except.ok <$> a : Act (Except Fault α)).run s = .ok (.ok x) t := by
      rw [map_eq_pure_bind, run_bind_ok h]
      rfl
    exact run_tryCatch_ok hmap
  rw [andFinally, run_bind_ok htry]
  dsimp only
  rw [run_bind_ok hlast]
  rfl

theorem exists_of_run_andFinally {a : Act α} {last : Act β} {s u : Loom} {x : α}
    (h : (andFinally a last).run s = .ok x u) :
    ∃ t y, a.run s = .ok x t ∧ last.run t = .ok y u := by
  rw [andFinally] at h
  obtain ⟨r, t, htry, hrest⟩ := exists_of_run_bind h
  cases ha : a.run s with
  | ok x' t' =>
      have hattempt : (Except.ok <$> a : Act (Except Fault α)).run s = .ok (.ok x') t' := by
        rw [map_eq_pure_bind, run_bind_ok ha]
        rfl
      cases (run_tryCatch_ok hattempt).symm.trans htry
      obtain ⟨y, u', hlast, hend⟩ := exists_of_run_bind hrest
      cases hend
      exact ⟨t, y, rfl, hlast⟩
  | error f t' =>
      have hattempt : (Except.ok <$> a : Act (Except Fault α)).run s = .error f t' := by
        rw [map_eq_pure_bind]
        exact run_bind_error ha
      cases (run_tryCatch_error hattempt).symm.trans htry
      obtain ⟨y, u', hlast, hend⟩ := exists_of_run_bind hrest
      cases hend

theorem run_found {name : String} {m : ModuleId} {s : Loom}
    (h : s.world.imported? name = some m) :
    (Act.found name).run s = .ok m (s.note (.imported name m)) := by
  change Run.of (fun s => s.found name) s = _
  simp only [Run.of, Loom.found, h]

end Act

theorem modify_push_size {α : Type} (xs : Array α) (x : α) (f : α → α) :
    (xs.push x).modify xs.size f = xs.push (f x) := by
  ext i hi hi'
  · simp
  · rw [Array.getElem_modify, Array.getElem_push, Array.getElem_push]
    grind

namespace Loading

/-- The name of the first parts of a dotted name. -/
def opening (path : List String) (i : Nat) : String := Text.join "." (path.take i)

/-- The parts of a dotted name that means a module in a namespace. Importing it does not involve
    standard modules, nor names that every module has or answers to. -/
structure IsPath (path : List String) : Prop where
  long : 2 ≤ path.length
  named : ∀ n ∈ path, n ≠ ""
  undotted : ∀ n ∈ path, '.' ∉ n.toList
  free : ∀ n ∈ path, Script.isTold n = false
  unfixed : ∀ n ∈ path, n ≠ Script.fixedName
  foreign : ∀ i, 1 ≤ i → i ≤ path.length → Standard.isModule (opening path i) = false

namespace IsPath

variable {path : List String} (h : IsPath path)

theorem opening_one (hne : path ≠ []) : opening path 1 = path.headD "" := by
  cases path with
  | nil => exact absurd rfl hne
  | cons n rest => exact Text.join_singleton "." n

theorem opening_succ {i : Nat} (hi : 1 ≤ i) (hlt : i < path.length) :
    opening path (i + 1) = opening path i ++ "." ++ path[i] := by
  have hne : path.take i ≠ [] := by
    rw [ne_eq, List.take_eq_nil_iff, not_or]
    exact ⟨by omega, by rintro rfl; simp at hlt⟩
  rw [opening, List.take_succ_eq_append_getElem hlt, Text.join_concat hne]
  rfl

include h

theorem split_opening {i : Nat} (hi : 1 ≤ i) : Text.split '.' (opening path i) = path.take i := by
  have hlong := h.long
  have hne : path.take i ≠ [] := by
    rw [ne_eq, List.take_eq_nil_iff, not_or]
    exact ⟨by omega, by rintro rfl; simp at hlong⟩
  exact Text.split_join hne fun piece hpiece => h.undotted piece (List.mem_of_mem_take hpiece)

theorem opening_injective {i j : Nat} (hi : 1 ≤ i) (hj : 1 ≤ j) (hi' : i ≤ path.length)
    (hj' : j ≤ path.length) (heq : opening path i = opening path j) : i = j := by
  have htake := congrArg (fun name => (Text.split '.' name).length) heq
  simp only [h.split_opening hi, h.split_opening hj, List.length_take] at htake
  omega

theorem opening_ne {i : Nat} (hi : 1 ≤ i) : opening path i ≠ "" := by
  intro heq
  have hsplit := h.split_opening hi
  rw [heq] at hsplit
  have hmem : "" ∈ path.take i := by
    rw [← hsplit]
    decide
  exact h.named "" (List.mem_of_mem_take hmem) rfl

theorem partsOf_opening {i : Nat} (hi : 1 ≤ i) (hlt : i < path.length) :
    UnitId.partsOf (opening path (i + 1)) = (opening path i, path[i]) := by
  rw [opening_succ hi hlt, UnitId.partsOf_member (h.undotted _ (List.getElem_mem hlt))]

theorem partsOf_top : UnitId.partsOf (opening path 1) = ("", opening path 1) := by
  have hlong := h.long
  refine UnitId.partsOf_undotted ?_
  cases path with
  | nil => simp at hlong
  | cons n rest =>
      rw [opening_one (List.cons_ne_nil _ _)]
      exact h.undotted n List.mem_cons_self

/-- A path is no matter of the standard modules. -/
theorem run_settleStandard {i : Nat} (hi : 1 ≤ i) (hle : i ≤ path.length) (s : Loom) :
    (settleStandard (opening path i)).run s = .ok () s := by
  have hnone : ∀ p ∈ Context.openings (path.take i),
      Standard.isModule (Text.join "." p) = false := by
    intro p hp
    obtain ⟨k, hk, rfl⟩ := List.mem_map.mp hp
    rw [List.mem_range, List.length_take] at hk
    rw [List.take_take, Nat.min_eq_left (by omega)]
    exact h.foreign (k + 1) (Nat.succ_pos k) (by omega)
  unfold settleStandard
  rw [h.split_opening hi]
  generalize Context.openings (path.take i) = paths at hnone ⊢
  induction paths with
  | nil => rfl
  | cons p rest ih =>
      rw [List.forIn_cons]
      dsimp only
      rw [hnone p List.mem_cons_self]
      exact ih fun q hq => hnone q (List.mem_cons_of_mem _ hq)

end IsPath

end Loading

/-- A package as it is made for a name. -/
structure ModuleRecord.IsPackageOf (r : ModuleRecord) (name : String) : Prop where
  own : r.ownName = name
  package : r.isPackage = true
  plain : r.standard = none
  unrun : r.wasRun = false
  unhooked : r.attribute? "__getattr__" = none

namespace Loom

variable {s t : Loom} {path : List String} {space : String}

/-- Imports ask an open context of a namespace before all others. -/
def Supplies (s : Loom) (space : String) : Prop :=
  ∃ c context, s.finders.head? = some c ∧ s.contexts[c]? = some context ∧
    context.closed = false ∧ context.space = space

theorem SameOffers.supplies (h : s.SameOffers t) (hs : s.Supplies space) : t.Supplies space := by
  obtain ⟨c, context, hfirst, hc, hclosed, hspace⟩ := hs
  have hfaces := congrArg (·[c]?) h.faces
  simp only [Array.getElem?_map, hc, Option.map_some] at hfaces
  obtain ⟨after, hafter, hface⟩ := Option.map_eq_some_iff.mp hfaces
  refine ⟨c, after, ?_, hafter, (congrArg (·.2.2) hface).trans hclosed,
    (congrArg (·.2.1) hface).trans hspace⟩
  rw [finders, h.asked]
  exact hfirst

/-- The packages of its namespace are described by the context. -/
theorem Supplies.describes (hpath : Loading.IsPath path)
    (h : s.Supplies (Loading.opening path (path.length - 1))) {i : Nat} (hi : 1 ≤ i)
    (hlt : i < path.length) :
    ∃ c, s.describeBy (Loading.opening path i) s.finders =
      (.ok (some ⟨s.nextSpec, Loading.opening path i, .package⟩),
        s.give c (Loading.opening path i)) := by
  obtain ⟨c, context, hfirst, hc, hclosed, hspace⟩ := h
  have hpackage : context.packages.contains (Loading.opening path i) = true := by
    rw [List.contains_iff_mem, Context.packages, hspace, hpath.split_opening (by omega)]
    refine List.mem_map.mpr ⟨path.take i, List.mem_map.mpr ⟨i - 1, ?_, ?_⟩, rfl⟩
    · rw [List.mem_range, List.length_take]
      omega
    · rw [List.take_take]
      congr 1
      omega
  have hsource : context.source? s.files s.around.cwd (Loading.opening path i) =
      .ok (some .package) := by
    rw [Context.source?, if_neg (by simp [hclosed]), if_pos hpackage]
  exact ⟨c, (describeBy_of_offers ⟨hfirst, context, _, hc, hsource⟩).trans
    (describe_of_source hc hsource)⟩

end Loom

namespace Loading

variable {s : Loom} {name : String}

theorem recordOf_isPackageOf (cwd : List String) (number : Nat) (name : String) (starting : Bool)
    (places : Value) :
    (recordOf cwd ⟨number, name, .package⟩ starting places).IsPackageOf name where
  own := by
    simp [ModuleRecord.ownName, ModuleRecord.attribute?, recordOf, Assoc.find?]
  package := by simp [ModuleRecord.isPackage, recordOf]
  plain := rfl
  unrun := rfl
  unhooked := by
    simp [ModuleRecord.attribute?, recordOf, ModuleSource.file?, Assoc.find?]

/-- A new package holds no names but those that every module has. -/
theorem attribute?_recordOf {n : String} (hn : Script.isTold n = false) (cwd : List String)
    (number : Nat) (name : String) (starting : Bool) (places : Value) :
    (recordOf cwd ⟨number, name, .package⟩ starting places).attribute? n = none := by
  have hfirst : n ∉ Script.firstNames := by
    intro hmem
    simp [Script.isTold, hmem] at hn
  have hkeys : n ∉ Assoc.keys
      (recordOf cwd ⟨number, name, .package⟩ starting places).attributes := by
    refine fun hmem => hfirst ?_
    simp [recordOf, ModuleSource.file?, Assoc.keys] at hmem
    simp [Script.firstNames]
    tauto
  rw [ModuleRecord.attribute?, (Assoc.find?_eq_none_iff _ _).mpr hkeys]
  rfl

theorem run_entering_ok {body : ModuleSpec → ModuleId → Act Unit} {spec : ModuleSpec} {t v : Loom}
    (hnone : s.world.imported? name = none)
    (hdescribes : s.describeBy name s.finders = (.ok (some spec), t))
    (hbody : (body spec (t.enterNew spec true).1).run (t.enterNew spec true).2 = .ok () v) :
    (entering name body).run s = .ok () (v.note (.completed name (t.enterNew spec true).1)) := by
  change s.entering name body = _
  simp only [Loom.entering, hnone, hdescribes, hbody]

/-- A package that is not in the table is made and entered, and nothing is run for it. -/
theorem run_importNew_package {c : Nat} (importer : Script.Importer)
    (hdescribes : s.describeBy name s.finders =
      (.ok (some ⟨s.nextSpec, name, .package⟩), s.give c name))
    (hnone : s.world.imported? name = none) :
    ∃ (t : Loom) (r : ModuleRecord),
      (importNew importer name).run s = .ok s.world.modules.size t ∧ s.SameStore t ∧
      t.world.modules = s.world.modules.push r ∧
      t.world.table = Assoc.put s.world.table name s.world.modules.size ∧
      r.IsPackageOf name ∧ ∀ n, Script.isTold n = false → r.attribute? n = none := by
  let m := s.world.modules.size
  let spec : ModuleSpec := ⟨s.nextSpec, name, .package⟩
  let u := ((s.give c name).enterNew spec true).2
  let settled := u.changeModule m fun r => { r with starting := false }
  let v := settled.note (.completed name m)
  let made := recordOf s.around.cwd spec true (s.world.newList []).1
  have hbody : (andFinally (runBody importer m .package)
      (Act.changeModule m fun r => { r with starting := false })).run u = .ok () settled :=
    Act.run_andFinally_ok rfl rfl
  have hstands : v.world.imported? name = some m := World.imported?_enter_self _ _ _
  refine ⟨v.note (.imported name m), { made with starting := false }, ?_, ⟨rfl, rfl⟩, ?_, rfl, ?_,
    ?_⟩
  · rw [importNew, Act.run_bind_ok (run_entering_ok hnone hdescribes hbody)]
    exact Act.run_found hstands
  · exact modify_push_size s.world.modules made fun r => { r with starting := false }
  · exact recordOf_isPackageOf s.around.cwd ..
  · exact fun n hn => attribute?_recordOf hn s.around.cwd ..

/-- A package that lies in another one is made and entered, and bound there. -/
theorem run_importMember_package {path : List String} {i : Nat} {p : ModuleId}
    {record : ModuleRecord} (importer : Script.Importer) (hpath : IsPath path)
    (hsupplies : s.Supplies (opening path (path.length - 1))) (hi : 1 ≤ i)
    (hlt : i + 1 < path.length) (hnone : s.world.imported? (opening path (i + 1)) = none)
    (hparent : s.world.imported? (opening path i) = some p)
    (hrecord : s.world.modules[p]? = some record) (hpackage : record.isPackage = true) :
    ∃ (t : Loom) (r : ModuleRecord),
      (importMember importer (opening path i) path[i] (opening path (i + 1))).run s =
        .ok s.world.modules.size t ∧ s.SameStore t ∧
      (∀ k, t.world.modules[k]? =
        if k = p then some (record.put path[i] (.module s.world.modules.size))
        else (s.world.modules.push r)[k]?) ∧
      t.world.table = Assoc.put s.world.table (opening path (i + 1)) s.world.modules.size ∧
      r.IsPackageOf (opening path (i + 1)) ∧
      ∀ n, Script.isTold n = false → r.attribute? n = none := by
  let simple := path[i]
  let m := s.world.modules.size
  let begun := s.changeModule p fun r => { r with underway := r.underway ++ [simple] }
  have hsize : begun.world.modules.size = m := World.size_changeModule ..
  have hbegun : begun.Supplies (opening path (path.length - 1)) :=
    (s.follows_changeModule p _).toStays.sameOffers.supplies hsupplies
  obtain ⟨c, hdescribes⟩ := hbegun.describes hpath (by omega) hlt
  obtain ⟨u, r, hnew, hstore, hmodules, htable, hmade, hempty⟩ :=
    run_importNew_package importer hdescribes hnone
  rw [hsize] at hnew htable
  let ended := u.changeModule p fun r => { r with underway := r.underway.dropLast }
  have hmember : (andFinally (importNew importer (opening path (i + 1)))
      (Act.changeModule p fun r => { r with underway := r.underway.dropLast })).run begun =
        .ok m ended :=
    Act.run_andFinally_ok hnew rfl
  have hstill : ended.world.imported? (opening path i) = some p := by
    have hne : opening path i ≠ opening path (i + 1) := fun heq =>
      absurd (hpath.opening_injective hi (by omega) (by omega) (by omega) heq) (by omega)
    change Assoc.find? u.world.table _ = _
    rw [htable, Assoc.find?_put_of_ne hne]
    exact hparent
  refine ⟨ended.changeModule p (·.put simple (.module m)), r, ?_, ⟨hstore.store, hstore.touched⟩, ?_,
    htable, hmade, hempty⟩
  · rw [importMember, Act.run_bind_ok (Act.run_world s)]
    dsimp only
    rw [hparent]
    dsimp only
    rw [World.getD_of_get hrecord, hpackage]
    simp only [Bool.not_true, Bool.false_eq_true, if_false]
    rw [Act.run_bind_ok (t := begun) rfl, Act.run_bind_ok hmember,
      Act.run_bind_ok (Act.run_world ended), hstill]
    rfl
  · have hp : p < s.world.modules.size := (Array.getElem?_eq_some_iff.mp hrecord).1
    intro k
    have hbegan : begun.world.modules[k]? = _ := World.getElem?_changeModule ..
    have hended : ended.world.modules[k]? = _ := World.getElem?_changeModule ..
    have hlast : (ended.changeModule p (·.put simple (.module m))).world.modules[k]? = _ :=
      World.getElem?_changeModule ..
    rw [hlast, hended, hmodules, Array.getElem?_push, Array.getElem?_push, hbegan, hsize]
    by_cases hk : k = p
    · subst hk
      rw [if_pos rfl, if_pos rfl, if_neg (Nat.ne_of_lt hp), if_pos rfl, if_pos rfl, hrecord]
      simp [ModuleRecord.put, simple, m]
    · simp only [if_neg (Ne.symm hk), if_neg hk, m]

end Loading

/-- The module that is called so in a package is bound in it. -/
def World.BindsMember (w : World) (parent simple : String) : Prop :=
  ∃ p m, w.imported? parent = some p ∧ w.imported? (parent ++ "." ++ simple) = some m ∧
    w.moduleAttribute? p simple = some (.module m)

namespace Loading

variable {path : List String} {i j : Nat} {w v u : World}

/-- The modules that stand in the table under the openings of a path are the packages that were made for
    them, and hold nothing else where the next one belongs. -/
structure Orderly (path : List String) (w : World) : Prop where
  package : ∀ {i p}, 1 ≤ i → i < path.length → w.imported? (opening path i) = some p →
    ∃ r, w.modules[p]? = some r ∧ r.IsPackageOf (opening path i)
  member : ∀ {i p} (_ : 1 ≤ i) (hlt : i < path.length), w.imported? (opening path i) = some p →
    w.moduleAttribute? p path[i] = none ∨ w.BindsMember (opening path i) path[i]

/-- Nothing is out of order where there are no packages yet. -/
theorem orderly_of_absent (h : ∀ i, 1 ≤ i → i < path.length → w.imported? (opening path i) = none) :
    Orderly path w :=
  ⟨fun hi hlt hp => (nomatch (h _ hi hlt).symm.trans hp),
    fun hi hlt hp => (nomatch (h _ hi hlt).symm.trans hp)⟩

/-- A package is added to the world under an opening of a path, and bound in the one it lies in. -/
structure Adds (path : List String) (i : Nat) (w v : World) : Prop where
  pos : 1 ≤ i
  lt : i < path.length
  absent : w.imported? (opening path i) = none
  table : v.table = Assoc.put w.table (opening path i) w.modules.size
  made : ∃ r, v.modules[w.modules.size]? = some r ∧ r.IsPackageOf (opening path i) ∧
    ∀ n, Script.isTold n = false → r.attribute? n = none
  others : ∀ {k}, k < w.modules.size →
    (∀ j, 1 ≤ j → j + 1 = i → w.imported? (opening path j) ≠ some k) →
    v.modules[k]? = w.modules[k]?
  bound : ∀ {j} (hlt : j < path.length), 1 ≤ j → j + 1 = i →
    ∃ p r, w.imported? (opening path j) = some p ∧ w.modules[p]? = some r ∧
      v.modules[p]? = some (r.put path[j] (.module w.modules.size))

/-- What importing some openings of a path, up to a certain one, leaves alone. -/
structure Opens (path : List String) (i : Nat) (w v : World) : Prop where
  entries : ∀ {name k}, w.imported? name = some k → v.imported? name = some k
  others : ∀ {name}, (∀ j, 1 ≤ j → j ≤ i → name ≠ opening path j) →
    v.imported? name = w.imported? name
  new : ∀ {name k}, w.imported? name = none → v.imported? name = some k → w.modules.size ≤ k
  size : w.modules.size ≤ v.modules.size
  modules : ∀ {k}, k < w.modules.size →
    (∀ j, 1 ≤ j → j ≤ i → w.imported? (opening path j) ≠ some k) →
    v.modules[k]? = w.modules[k]?

theorem Opens.refl (path : List String) (i : Nat) (w : World) : Opens path i w w :=
  ⟨id, fun _ => rfl, fun hnone hk => (nomatch hnone.symm.trans hk),
    Nat.le_refl _, fun _ _ => rfl⟩

theorem Opens.trans (h : Opens path i w v) (h' : Opens path i v u) : Opens path i w u where
  entries hk := h'.entries (h.entries hk)
  others hname := (h'.others hname).trans (h.others hname)
  new {name k} hnone hk := by
    cases hv : v.imported? name with
    | none => exact Nat.le_trans h.size (h'.new hv hk)
    | some k' =>
        cases (h'.entries hv).symm.trans hk
        exact h.new hnone hv
  size := Nat.le_trans h.size h'.size
  modules {k} hk hpackages := by
    refine (h'.modules (Nat.lt_of_lt_of_le hk h.size) fun j hj hle hv => ?_).trans
      (h.modules hk hpackages)
    -- A package that was opened meanwhile is a new module.
    cases hw : w.imported? (opening path j) with
    | none => exact absurd (h.new hw hv) (Nat.not_le_of_lt hk)
    | some k' => exact hpackages j hj hle (hw.trans ((h.entries hw).symm.trans hv))

theorem Opens.mono (h : Opens path i w v) (hle : i ≤ j) : Opens path j w v :=
  { h with
    others := fun hname => h.others fun k hk hki => hname k hk (Nat.le_trans hki hle)
    modules := fun hk hpackages =>
      h.modules hk fun k' hk' hki => hpackages k' hk' (Nat.le_trans hki hle) }

theorem Adds.imported?_self (h : Adds path i w v) :
    v.imported? (opening path i) = some w.modules.size := by
  rw [World.imported?, h.table, Assoc.find?_put_self]

theorem Adds.imported?_of_ne (h : Adds path i w v) {name : String} (hne : name ≠ opening path i) :
    v.imported? name = w.imported? name := by
  rw [World.imported?, h.table, Assoc.find?_put_of_ne hne]
  rfl

theorem Adds.opens (h : Adds path i w v) : Opens path i w v where
  entries {name k} hk := by
    refine (h.imported?_of_ne ?_).trans hk
    rintro rfl
    cases h.absent.symm.trans hk
  others hname := h.imported?_of_ne (hname i h.pos (Nat.le_refl i))
  new {name k} hnone hk := by
    by_cases hne : name = opening path i
    · subst hne
      cases h.imported?_self.symm.trans hk
      exact Nat.le_refl _
    · cases hnone.symm.trans ((h.imported?_of_ne hne).symm.trans hk)
  size := by
    obtain ⟨r, hr, -⟩ := h.made
    exact Nat.le_of_lt (Array.getElem?_eq_some_iff.mp hr).1
  modules hk hpackages :=
    h.others hk fun j hj heq => hpackages j hj (heq ▸ Nat.le_succ j)

theorem Adds.empty (h : Adds path i w v) (n : String) (hn : Script.isTold n = false) :
    v.moduleAttribute? w.modules.size n = none := by
  obtain ⟨r, hr, -, hempty⟩ := h.made
  rw [World.moduleAttribute?_of_get hr]
  exact hempty n hn

theorem isPackageOf_put {r : ModuleRecord} {name n : String} (h : r.IsPackageOf name)
    (hn : Script.isTold n = false) (v : Value) : (r.put n v).IsPackageOf name := by
  have hother {k : String} (hk : Script.isTold k = true) :
      (r.put n v).attribute? k = r.attribute? k := by
    have hne : k ≠ n := by
      rintro rfl
      rw [hk] at hn
      cases hn
    exact r.attribute?_put_of_ne hne v
  refine ⟨?_, ?_, h.plain, h.unrun, (hother (by decide)).trans h.unhooked⟩
  · have hown := h.own
    unfold ModuleRecord.ownName at hown ⊢
    rw [hother (by decide)]
    exact hown
  · have hpackage := h.package
    unfold ModuleRecord.isPackage at hpackage ⊢
    rw [hother (by decide)]
    exact hpackage

/-- The packages that were there stay what they were, but for the one that the new one is bound in. -/
theorem Adds.record (hpath : IsPath path) (h : Adds path i w v) (hw : Orderly path w) {p : ModuleId}
    {r : ModuleRecord} (hj : 1 ≤ j) (hlt : j < path.length)
    (hp : w.imported? (opening path j) = some p) (hr : w.modules[p]? = some r) :
    v.modules[p]? =
      some (if j + 1 = i then r.put path[j] (.module w.modules.size) else r) := by
  by_cases hji : j + 1 = i
  · obtain ⟨p', r', hp', hr', hput⟩ := h.bound hlt hj hji
    cases hp.symm.trans hp'
    cases hr.symm.trans hr'
    rw [hput, if_pos hji]
  · rw [if_neg hji, ← hr]
    refine h.others (Array.getElem?_eq_some_iff.mp hr).1 fun k hk hki hpk => hji ?_
    -- The packages of two openings have different names.
    have hklt : k < path.length := Nat.lt_trans (hki ▸ Nat.lt_succ_self k) h.lt
    obtain ⟨r₁, hr₁, hown₁⟩ := hw.package hj hlt hp
    obtain ⟨r₂, hr₂, hown₂⟩ := hw.package hk hklt hpk
    cases hr₁.symm.trans hr₂
    have heq := hpath.opening_injective hj hk (Nat.le_of_lt hlt) (Nat.le_of_lt hklt)
      (hown₁.own.symm.trans hown₂.own)
    rw [heq, hki]

/-- Packages stay orderly when one is added. -/
theorem Adds.orderly (hpath : IsPath path) (h : Adds path i w v) (hw : Orderly path w) :
    Orderly path v := by
  have hne {j : Nat} (hj : 1 ≤ j) (hlt : j < path.length) (hji : j ≠ i) :
      opening path j ≠ opening path i := fun heq =>
    hji (hpath.opening_injective hj h.pos (Nat.le_of_lt hlt) (Nat.le_of_lt h.lt) heq)
  refine ⟨fun {j p} hj hlt hp => ?_, fun {j p} hj hlt hp => ?_⟩
  · by_cases hji : j = i
    · subst hji
      cases h.imported?_self.symm.trans hp
      obtain ⟨r, hr, hmade, -⟩ := h.made
      exact ⟨r, hr, hmade⟩
    · rw [h.imported?_of_ne (hne hj hlt hji)] at hp
      obtain ⟨r, hr, hpackage⟩ := hw.package hj hlt hp
      refine ⟨_, h.record hpath hw hj hlt hp hr, ?_⟩
      split
      · exact isPackageOf_put hpackage (hpath.free _ (List.getElem_mem hlt)) _
      · exact hpackage
  · by_cases hji : j = i
    · subst hji
      cases h.imported?_self.symm.trans hp
      exact .inl (h.empty _ (hpath.free _ (List.getElem_mem hlt)))
    · rw [h.imported?_of_ne (hne hj hlt hji)] at hp
      obtain ⟨r, hr, hpackage⟩ := hw.package hj hlt hp
      have hrecord := h.record hpath hw hj hlt hp hr
      have hstill := h.opens.entries hp
      by_cases hnext : j + 1 = i
      · refine .inr ⟨p, w.modules.size, hstill, ?_, ?_⟩
        · rw [← IsPath.opening_succ hj hlt, hnext]
          exact h.imported?_self
        · rw [World.moduleAttribute?_of_get hrecord, if_pos hnext, ModuleRecord.attribute?_put_self]
      · rw [if_neg hnext, ← hr] at hrecord
        have hsame : v.moduleAttribute? p path[j] = w.moduleAttribute? p path[j] := by
          rw [World.moduleAttribute?, hrecord, ← World.moduleAttribute?]
        rw [hsame]
        refine (hw.member hj hlt hp).imp_right ?_
        rintro ⟨p', m, hp', hm, hbound⟩
        cases hp.symm.trans hp'
        exact ⟨p, m, hstill, h.opens.entries hm, hsame.trans hbound⟩

/-- What stands in the table is found there again. -/
theorem run_importWithin_found {s : Loom} {m : ModuleId} {d : Nat} (hpath : IsPath path)
    (hi : 1 ≤ i) (hle : i ≤ path.length)
    (hm : s.world.imported? (opening path i) = some m) :
    (importWithin (d + 1) (opening path i)).run s =
      .ok m (s.note (.imported (opening path i) m)) := by
  rw [importWithin, Act.run_bind_ok (Act.run_world s), hm]
  dsimp only
  rw [Act.run_bind_ok (Act.run_found hm), Act.run_bind_ok (hpath.run_settleStandard hi hle _)]
  rfl

/-- The package under an opening can be imported: it is there afterwards, and empty if it is new. -/
def Opened (path : List String) (i d : Nat) (s : Loom) : Prop :=
  ∃ p t, (importWithin d (opening path i)).run s = .ok p t ∧
    t.world.imported? (opening path i) = some p ∧ Opens path i s.world t.world ∧
    Orderly path t.world ∧ s.SameStore t ∧
    (s.world.imported? (opening path i) = none →
      ∀ n, Script.isTold n = false → t.world.moduleAttribute? p n = none)

/-- A module is looked for in the package that it lies in, which is imported before if need be. -/
theorem run_importWithin_member (hpath : IsPath path) (hj : 1 ≤ j) (hlt : j < path.length) {d : Nat}
    {s : Loom} (hsupplies : s.Supplies (opening path (path.length - 1)))
    (horderly : Orderly path s.world) (hnone : s.world.imported? (opening path (j + 1)) = none)
    (hopened : Opened path j d s) :
    ∃ p t, t.world.imported? (opening path j) = some p ∧ Opens path j s.world t.world ∧
      Orderly path t.world ∧ s.SameStore t ∧ t.world.imported? (opening path (j + 1)) = none ∧
      t.Supplies (opening path (path.length - 1)) ∧
      (importWithin (d + 1) (opening path (j + 1))).run s =
        (importMember (importWithin d) (opening path j) path[j] (opening path (j + 1))).run t := by
  rw [importWithin, Act.run_bind_ok (Act.run_world s), hnone]
  dsimp only
  rw [hpath.partsOf_opening hj hlt]
  dsimp only
  rw [if_neg (hpath.opening_ne hj), Act.run_bind_ok (Act.run_world s)]
  cases hp : s.world.imported? (opening path j) with
  | some p =>
      refine ⟨p, s, hp, .refl .., horderly, .refl s, hnone, hsupplies, ?_⟩
      rw [Option.isNone_some, if_neg Bool.false_ne_true, Act.run_bind_ok (Act.run_world s), hnone]
  | none =>
      obtain ⟨p, t, hrun, hp, hopens, ht, hstore, -⟩ := hopened
      have hmissing : t.world.imported? (opening path (j + 1)) = none := by
        refine (hopens.others fun k hk hkj heq => ?_).trans hnone
        have hsame := hpath.opening_injective (Nat.le_add_left 1 j) hk hlt
          (Nat.le_trans hkj (Nat.le_of_lt hlt)) heq
        omega
      have hoffers := ((importWithin d (opening path j)).follows s).toStays.sameOffers
      rw [Run.final, hrun] at hoffers
      refine ⟨p, t, hp, hopens, ht, hstore, hmissing, hoffers.supplies hsupplies, ?_⟩
      rw [Option.isNone_none, if_pos rfl, Act.run_bind_ok hrun, Act.run_bind_ok (Act.run_world t),
        hmissing]

/-- Importing the package of a namespace, or of something above it: the packages that are missing are
    added. -/
theorem opened (hpath : IsPath path) (hi : 1 ≤ i) (hlt : i < path.length) {d : Nat} (hd : i ≤ d)
    {s : Loom} (hsupplies : s.Supplies (opening path (path.length - 1)))
    (horderly : Orderly path s.world) : Opened path i d s := by
  induction i generalizing d s with
  | zero => omega
  | succ j ih =>
      obtain ⟨d, rfl⟩ : ∃ d', d = d' + 1 := ⟨d - 1, by omega⟩
      cases hm : s.world.imported? (opening path (j + 1)) with
      | some m =>
          exact ⟨m, _, run_importWithin_found hpath hi (Nat.le_of_lt hlt) hm, hm, .refl .., horderly,
            ⟨rfl, rfl⟩, fun hnone => nomatch hnone.symm.trans hm⟩
      | none =>
          by_cases hj : j = 0
          · subst hj
            obtain ⟨c, hdescribes⟩ := hsupplies.describes hpath (Nat.le_refl 1) hlt
            obtain ⟨t, r, hnew, hstore, hmodules, htable, hmade, hempty⟩ :=
              run_importNew_package (importWithin d) hdescribes hm
            have hadds : Adds path 1 s.world t.world :=
              { pos := Nat.le_refl 1, lt := hlt, absent := hm, table := htable
                made := ⟨r, by rw [hmodules, Array.getElem?_push_size], hmade, hempty⟩
                others := fun hk _ => by
                  rw [hmodules, Array.getElem?_push_lt hk, Array.getElem?_eq_getElem hk]
                bound := fun _ hpos heq => by omega }
            refine ⟨_, t, ?_, hadds.imported?_self, hadds.opens, hadds.orderly hpath horderly, hstore,
              fun _ => hadds.empty⟩
            rw [importWithin, Act.run_bind_ok (Act.run_world s), hm]
            dsimp only
            rw [hpath.partsOf_top]
            dsimp only
            rw [if_pos rfl]
            exact hnew
          · have hpos : 1 ≤ j := Nat.one_le_iff_ne_zero.mpr hj
            obtain ⟨p, t, hp, hopens, ht, hstore, hmissing, hs, hrun⟩ :=
              run_importWithin_member hpath hpos (Nat.lt_of_succ_lt hlt) hsupplies horderly hm
                (ih hpos (Nat.lt_of_succ_lt hlt) (Nat.le_of_succ_le_succ hd) hsupplies horderly)
            obtain ⟨record, hrecord, hpackage⟩ := ht.package hpos (Nat.lt_of_succ_lt hlt) hp
            obtain ⟨u, r, hmember, hstore', hmodules, htable, hmade, hempty⟩ :=
              run_importMember_package (importWithin d) hpath hs hpos hlt hmissing hp hrecord
                hpackage.package
            have hlt' : p < t.world.modules.size := (Array.getElem?_eq_some_iff.mp hrecord).1
            have hadds : Adds path (j + 1) t.world u.world :=
              { pos := hi, lt := hlt, absent := hmissing, table := htable
                made := ⟨r, by
                  rw [hmodules, if_neg (Nat.ne_of_gt hlt'), Array.getElem?_push_size], hmade, hempty⟩
                others := fun {k} hk hother => by
                  have hkp : k ≠ p := by
                    rintro rfl
                    exact hother j hpos rfl hp
                  rw [hmodules, if_neg hkp, Array.getElem?_push_lt hk, Array.getElem?_eq_getElem hk]
                bound := fun {k} _ hpos heq => by
                  obtain rfl : k = j := Nat.succ.inj heq
                  exact ⟨p, record, hp, hrecord, by rw [hmodules, if_pos rfl]⟩ }
            exact ⟨_, u, hrun.trans hmember, hadds.imported?_self,
              (hopens.mono (Nat.le_succ j)).trans hadds.opens, hadds.orderly hpath ht,
              hstore.trans hstore', fun _ => hadds.empty⟩

end Loading

end FragmentWeaver
