import FragmentWeaver.Proofs.RegularLists
import Mathlib.Data.List.Nodup
import Mathlib.Data.List.Perm.Subperm

/-!
# The class that some classes share

The ancestors of a class are merged from those of its bases, so that a class stands before its own
ancestors wherever both occur. The first ancestor of one class that a source can name and that the
others stand below is then the narrowest one: no class below it can be named and is shared. Where one
of the classes and its ancestors have one base each, the shared classes are a chain, and the order in
which the classes are given does not matter.
-/

namespace FragmentWeaver

namespace Linearization

variable {α : Type} [DecidableEq α] {lists : List (List α)} {r : List α} {c : α}

/-- A list holds each of some lists in its order, nothing else, and every element once. -/
structure IsMerge (lists : List (List α)) (r : List α) : Prop where
  sublist : ∀ l ∈ lists, l.Sublist r
  mem : ∀ x ∈ r, ∃ l ∈ lists, x ∈ l
  nodup : r.Nodup

/-- What is taken next stands at the head of a list and in no tail. -/
theorem head?_eq_some (h : head? lists = some c) :
    (∃ l, c :: l ∈ lists) ∧ ∀ l ∈ lists, c ∉ l.tail := by
  obtain ⟨l, hl, hc⟩ := List.exists_of_findSome?_eq_some h
  cases l with
  | nil => cases hc
  | cons d l =>
      dsimp only at hc
      split at hc
      · next htails =>
          obtain rfl := Option.some.inj hc
          exact ⟨⟨l, hl⟩, by simpa using htails⟩
      · cases hc

/-- One step of merging. -/
theorem IsMerge.cons (hhead : ∃ l, c :: l ∈ lists) (htails : ∀ l ∈ lists, c ∉ l.tail)
    (hrest : IsMerge (dropHead c lists) r) : IsMerge lists (c :: r) := by
  have hdropped : ∀ l ∈ dropHead c lists, c ∉ l ∧ ∃ whole ∈ lists, l ⊆ whole := by
    intro l hl
    obtain ⟨whole, hwhole, rfl⟩ := List.mem_map.mp hl
    have htail := htails whole hwhole
    cases whole with
    | nil => exact ⟨List.not_mem_nil, [], hwhole, List.Subset.refl _⟩
    | cons d whole =>
        dsimp only
        split
        · exact ⟨htail, _, hwhole, List.subset_cons_self d whole⟩
        · next hd =>
            refine ⟨?_, _, hwhole, List.Subset.refl _⟩
            rw [List.mem_cons, not_or]
            exact ⟨Ne.symm hd, htail⟩
  constructor
  · intro l hl
    have hkept := hrest.sublist _ (List.mem_map_of_mem hl)
    cases l with
    | nil => exact List.nil_sublist _
    | cons d l =>
        dsimp only at hkept
        split at hkept
        · next hd => exact hd ▸ hkept.cons_cons d
        · exact hkept.cons c
  · intro x hx
    rcases List.mem_cons.mp hx with rfl | hx
    · obtain ⟨l, hl⟩ := hhead
      exact ⟨_, hl, List.mem_cons_self⟩
    · obtain ⟨l, hl, hxl⟩ := hrest.mem x hx
      obtain ⟨-, whole, hwhole, hsub⟩ := hdropped l hl
      exact ⟨whole, hwhole, hsub hxl⟩
  · refine List.nodup_cons.mpr ⟨fun hc => ?_, hrest.nodup⟩
    obtain ⟨l, hl, hcl⟩ := hrest.mem c hc
    exact (hdropped l hl).1 hcl

omit [DecidableEq α] in
theorem isMerge_nil (h : lists.all List.isEmpty = true) : IsMerge lists [] := by
  refine ⟨fun l hl => ?_, fun x hx => absurd hx List.not_mem_nil, List.nodup_nil⟩
  rw [List.isEmpty_iff.mp (List.all_eq_true.mp h l hl)]

theorem isMerge_of_mergeWithin {steps : Nat} (h : mergeWithin steps lists = some r) :
    IsMerge lists r := by
  induction steps generalizing lists r with
  | zero =>
      rw [mergeWithin] at h
      split at h
      · next hempty => exact Option.some.inj h ▸ isMerge_nil hempty
      · cases h
  | succ steps ih =>
      rw [mergeWithin] at h
      split at h
      · next hempty => exact Option.some.inj h ▸ isMerge_nil hempty
      · split at h
        · cases h
        · next c hc =>
            obtain ⟨rest, hrest, rfl⟩ := Option.map_eq_some_iff.mp h
            obtain ⟨hhead, htails⟩ := head?_eq_some hc
            exact (ih hrest).cons hhead htails

theorem isMerge_of_merge (h : merge lists = some r) : IsMerge lists r :=
  isMerge_of_mergeWithin h

end Linearization

/-- Of two elements of a list that holds every element once, one comes first. -/
theorem not_sublist_swap {a b : α} {l : List α} (hl : l.Nodup) (hab : [a, b].Sublist l) :
    ¬ [b, a].Sublist l := by
  intro hba
  induction l with
  | nil => cases hab
  | cons x l ih =>
      obtain ⟨hx, hl⟩ := List.nodup_cons.mp hl
      cases hab with
      | cons _ hab =>
          cases hba with
          | cons _ hba => exact ih hl hab hba
          | cons_cons _ _ => exact hx (hab.subset (by simp))
      | cons_cons _ _ =>
          cases hba with
          | cons _ hba => exact hx (hba.subset (by simp))
          | cons_cons _ hb => exact hx (hb.subset (by simp))

theorem plainClass?_congr {classes classes' : List ClassId} (h : classes.Perm classes') :
    plainClass? classes = plainClass? classes' := by
  have hmany (c d : ClassId) (l : List ClassId) : plainClass? (c :: d :: l) = none := by
    cases c <;> rfl
  match classes, classes' with
  | [], classes' => rw [h.nil_eq]
  | [c], classes' => rw [List.singleton_perm.mp h]
  | c :: d :: l, [] => exact absurd h.symm.nil_eq.symm (List.cons_ne_nil _ _)
  | c :: d :: l, [e] => exact absurd (List.perm_singleton.mp h) (by simp)
  | c :: d :: l, e :: f :: l' => rw [hmany, hmany]

namespace World

/-- A class whose ancestors are merged from those of its bases, up to the class above all. -/
inductive Linearized (w : World) : ClassId → Prop
  | object : Linearized w .object
  | merged {c : ClassId} (bases : List ClassId) (hne : bases ≠ [])
      (hbases : ∀ b ∈ bases, Linearized w b)
      (hmerge : Linearization.merge (bases.map w.lineage ++ [bases]) =
        some (w.classInfo c).above) : Linearized w c

/-- A class with one base, as that base has, up to the class above all. -/
inductive SingleBased (w : World) : ClassId → Prop
  | object : SingleBased w .object
  | single {c b : ClassId} (hbase : SingleBased w b)
      (hmerge : Linearization.merge ([b].map w.lineage ++ [[b]]) =
        some (w.classInfo c).above) : SingleBased w c

/-- Among some classes and their ancestors, the classes below another one are those that descend from
    it. -/
def Nominal (w : World) (classes : List ClassId) : Prop :=
  ∀ c ∈ classes, ∀ d ∈ w.lineage c, ∀ o ∈ classes, w.isSubclass o d = true → d ∈ w.lineage o

/-- A class with a public name that some classes share, and no class below it is such a class. -/
structure Narrowest (w : World) (classes : List ClassId) (d : ClassId) (n : PublicName) : Prop where
  named : w.publicName d = some n
  shared : ∀ c ∈ classes, d ∈ w.lineage c
  least : ∀ e, (w.publicName e).isSome = true → (∀ c ∈ classes, e ∈ w.lineage c) →
    d ∈ w.lineage e → e = d

variable {w : World} {c d : ClassId} {classes : List ClassId} {n : PublicName}

section Ancestors

theorem lineage_object : w.lineage .object = [.object] := by
  have hnone : (({ } : World).classInfo .object).above = [] := by decide +kernel
  exact congrArg (ClassId.object :: ·) hnone

theorem isSubclass_of_mem (h : d ∈ w.lineage c) : w.isSubclass c d = true := by
  rw [isSubclass, List.contains_iff_mem.mpr h]
  rfl

section Merged

variable {bases : List ClassId}

theorem lineage_sublist_above {b : ClassId} (hb : b ∈ bases)
    (hmerge : Linearization.merge (bases.map w.lineage ++ [bases]) = some (w.classInfo c).above) :
    (w.lineage b).Sublist (w.classInfo c).above :=
  (Linearization.isMerge_of_merge hmerge).sublist _
    (List.mem_append_left _ (List.mem_map_of_mem hb))

/-- Every class above comes from one of the bases. -/
theorem exists_base_of_mem (hd : d ∈ (w.classInfo c).above)
    (hmerge : Linearization.merge (bases.map w.lineage ++ [bases]) = some (w.classInfo c).above) :
    ∃ b ∈ bases, d ∈ w.lineage b := by
  obtain ⟨l, hl, hdl⟩ := (Linearization.isMerge_of_merge hmerge).mem d hd
  rcases List.mem_append.mp hl with hl | hl
  · obtain ⟨b, hb, rfl⟩ := List.mem_map.mp hl
    exact ⟨b, hb, hdl⟩
  · rw [List.mem_singleton.mp hl] at hdl
    exact ⟨d, hdl, mem_lineage_self d⟩

end Merged

/-- The ancestors of an ancestor are ancestors, in the same order. -/
theorem Linearized.sublist (hc : w.Linearized c) : ∀ d ∈ w.lineage c,
    (w.lineage d).Sublist (w.lineage c) := by
  induction hc with
  | object =>
      intro d hd
      rw [lineage_object, List.mem_singleton] at hd
      rw [hd]
  | @merged c bases hne hbases hmerge ih =>
      intro d hd
      rcases List.mem_cons.mp hd with rfl | hd
      · exact List.Sublist.refl _
      · obtain ⟨b, hb, hdb⟩ := exists_base_of_mem hd hmerge
        exact ((ih b hb d hdb).trans (lineage_sublist_above hb hmerge)).cons c

theorem Linearized.object_mem (hc : w.Linearized c) : .object ∈ w.lineage c := by
  induction hc with
  | object => exact mem_lineage_self _
  | @merged c bases hne hbases hmerge ih =>
      obtain ⟨b, hb⟩ := List.exists_mem_of_ne_nil bases hne
      exact List.mem_cons_of_mem c ((lineage_sublist_above hb hmerge).subset (ih b hb))

/-- No class stands among its own ancestors: theirs would be as many as its own, and itself one
    more. -/
theorem Linearized.nodup (hc : w.Linearized c) : (w.lineage c).Nodup := by
  cases hc with
  | object =>
      rw [lineage_object]
      exact List.nodup_singleton _
  | @merged _ bases hne hbases hmerge =>
      have habove := (Linearization.isMerge_of_merge hmerge).nodup
      refine List.nodup_cons.mpr ⟨fun hmem => ?_, habove⟩
      obtain ⟨b, hb, hcb⟩ := exists_base_of_mem hmem hmerge
      have hlonger := ((hbases b hb).sublist c hcb).length_le
      have hshorter := (lineage_sublist_above hb hmerge).length_le
      rw [lineage, List.length_cons] at hlonger
      omega

/-- A class that stands behind another one among the ancestors of a third is not below it. -/
theorem Linearized.notMem_of_behind (hc : w.Linearized c) {e : ClassId} (hne : d ≠ e)
    (hbehind : [d, e].Sublist (w.lineage c)) : d ∉ w.lineage e := by
  intro hde
  have habove := (List.mem_cons.mp hde).resolve_left hne
  have hahead : [e, d].Sublist (w.lineage c) :=
    ((List.singleton_sublist.mpr habove).cons_cons e).trans
      (hc.sublist e (hbehind.subset (by simp)))
  exact not_sublist_swap hc.nodup hbehind hahead

/-- With one base, the ancestors are those of the base. -/
theorem above_of_single {b : ClassId}
    (hmerge : Linearization.merge ([b].map w.lineage ++ [[b]]) = some (w.classInfo c).above) :
    (w.classInfo c).above = w.lineage b := by
  have hbase := lineage_sublist_above List.mem_cons_self hmerge
  have hmem : (w.classInfo c).above ⊆ w.lineage b := by
    intro d hd
    obtain ⟨b', hb', hdb⟩ := exists_base_of_mem hd hmerge
    exact List.mem_singleton.mp hb' ▸ hdb
  have hlength := ((Linearization.isMerge_of_merge hmerge).nodup.subperm hmem).length_le
  exact (hbase.eq_of_length_le hlength).symm

/-- The ancestors of a class with one base are a chain. -/
theorem SingleBased.chain (hc : w.SingleBased c) :
    ∀ d ∈ w.lineage c, ∀ e ∈ w.lineage c, d ∈ w.lineage e ∨ e ∈ w.lineage d := by
  induction hc with
  | object =>
      intro d hd e he
      rw [lineage_object, List.mem_singleton] at hd he
      exact .inl (hd ▸ he ▸ mem_lineage_self _)
  | @single c b hbase hmerge ih =>
      intro d hd e he
      rcases List.mem_cons.mp hd with rfl | hd'
      · exact .inr he
      · rcases List.mem_cons.mp he with rfl | he'
        · exact .inl hd
        · rw [above_of_single hmerge] at hd' he'
          exact ih d hd' e he'

end Ancestors

section Definition

theorem Linearized.defined_lt {serial : Nat} (hc : w.Linearized (.defined serial)) :
    serial < w.classes.size := by
  cases hc with
  | @merged _ bases hne hbases hmerge =>
      by_contra hsize
      have hnone : (w.classInfo (.defined serial)).above = [] := by
        simp [classInfo, Array.getD, hsize]
      obtain ⟨b, hb⟩ := List.exists_mem_of_ne_nil bases hne
      have hbase := lineage_sublist_above hb hmerge
      rw [hnone, List.sublist_nil] at hbase
      exact List.cons_ne_nil _ _ hbase

/-- A class defined below such classes is one, and they stay what they are. -/
theorem linearized_defineAs? {w' : World} {space : Option String} {name shown : String}
    {bases : List ClassId} {attributes : List (String × Value)} {slots : Option (List String)}
    (hne : bases ≠ []) (hbases : ∀ b ∈ bases, w.Linearized b)
    (hdefine : w.defineAs? space name shown bases attributes slots = some (c, w')) :
    w'.Linearized c ∧ ∀ d, w.Linearized d → w'.Linearized d := by
  unfold defineAs? at hdefine
  split at hdefine
  · cases hdefine
  · next above hmerge =>
      obtain ⟨rfl, rfl⟩ := Prod.mk.inj (Option.some.inj hdefine)
      set w' : World := { w with classes := w.classes.push _ } with hw'
      have hkept {d : ClassId} (hd : w.Linearized d) : w'.classInfo d = w.classInfo d := by
        cases d with
        | standard key => rfl
        | defined serial =>
            have hlt := hd.defined_lt
            simp [classInfo, hw', Array.getD, hlt, Nat.lt_succ_of_lt hlt, Array.getElem_push]
      have hlineage {bases : List ClassId} (hbases : ∀ b ∈ bases, w.Linearized b) :
          bases.map w'.lineage = bases.map w.lineage :=
        List.map_congr_left fun b hb => by rw [lineage, lineage, hkept (hbases b hb)]
      have hall : ∀ d, w.Linearized d → w'.Linearized d := by
        intro d hd
        induction hd with
        | object => exact .object
        | @merged c bases hne hbases hmerge ih =>
            refine .merged bases hne ih ?_
            rw [hlineage hbases, hmerge, hkept (.merged bases hne hbases hmerge)]
      refine ⟨.merged bases hne (fun b hb => hall b (hbases b hb)) ?_, hall⟩
      rw [hlineage hbases, hmerge]
      simp [classInfo, hw', Array.getD]

end Definition

section Sharing

theorem nameType_eq_commonType (c : ClassId) : w.nameType c = w.commonType [c] := by
  simp [nameType, commonType]

/-- The classes that are looked through are those that all the classes share. -/
theorem mem_shared_iff {first : ClassId} {others : List ClassId}
    (hnominal : w.Nominal (first :: others)) :
    d ∈ (w.lineage first).filter (fun c => others.all fun o => w.isSubclass o c) ↔
      ∀ c ∈ first :: others, d ∈ w.lineage c := by
  rw [List.mem_filter, List.all_eq_true, List.forall_mem_cons]
  refine and_congr_right fun hd => forall₂_congr fun o ho => ⟨?_, isSubclass_of_mem⟩
  exact hnominal first List.mem_cons_self d hd o (List.mem_cons_of_mem _ ho)

/-- The first shared class that can be named is the narrowest: a shared class that can be named does not
    stand before it, and one that stands behind it is not below it. -/
theorem exists_narrowest (hne : classes ≠ []) (hlinear : ∀ c ∈ classes, w.Linearized c)
    (hnominal : w.Nominal classes) (hobject : (w.publicName .object).isSome = true) :
    ∃ d n, w.Narrowest classes d n ∧ w.commonType classes = .ofName n := by
  obtain ⟨first, others, rfl⟩ := List.exists_cons_of_ne_nil hne
  have hfirst := hlinear first List.mem_cons_self
  cases hfound : w.firstNamed
      ((w.lineage first).filter fun c => others.all fun o => w.isSubclass o c) with
  | none =>
      have hnone := List.findSome?_eq_none_iff.mp hfound .object
        ((mem_shared_iff hnominal).mpr fun c hc => (hlinear c hc).object_mem)
      rw [hnone] at hobject
      cases hobject
  | some n =>
      obtain ⟨before, d, after, hsplit, hd, hbefore⟩ := List.findSome?_eq_some_iff.mp hfound
      have hshared : (before ++ d :: after).Sublist (w.lineage first) :=
        hsplit ▸ List.filter_sublist
      refine ⟨d, n, ⟨hd, (mem_shared_iff hnominal).mp (by simp [hsplit]), ?_⟩, ?_⟩
      · intro e he hall hde
        have hmem := (mem_shared_iff hnominal).mpr hall
        rw [hsplit, List.mem_append, List.mem_cons] at hmem
        rcases hmem with hmem | heq | hmem
        · rw [hbefore e hmem] at he
          cases he
        · exact heq
        · by_contra hed
          have hbehind : [d, e].Sublist (w.lineage first) :=
            ((List.singleton_sublist.mpr hmem).cons_cons d).trans
              ((List.sublist_append_right before _).trans hshared)
          exact hfirst.notMem_of_behind (Ne.symm hed) hbehind hde
      · simp only [commonType, hfound]

theorem Narrowest.congr {classes' : List ClassId} (h : w.Narrowest classes d n)
    (hsame : ∀ c, c ∈ classes' ↔ c ∈ classes) : w.Narrowest classes' d n where
  named := h.named
  shared c hc := h.shared c ((hsame c).mp hc)
  least e he hshared := h.least e he fun c hc => hshared c ((hsame c).mpr hc)

/-- On a chain there is one narrowest class. -/
theorem Narrowest.unique {d' : ClassId} {n' : PublicName} (hsingle : ∃ c ∈ classes, w.SingleBased c)
    (h : w.Narrowest classes d n) (h' : w.Narrowest classes d' n') : n = n' := by
  obtain ⟨c, hc, hsingle⟩ := hsingle
  have heq : d = d' := by
    rcases hsingle.chain d (h.shared c hc) d' (h'.shared c hc) with hd | hd'
    · exact (h.least d' (by rw [h'.named]; rfl) h'.shared hd).symm
    · exact h'.least d (by rw [h.named]; rfl) h.shared hd'
  exact Option.some.inj (h.named.symm.trans (heq ▸ h'.named))

end Sharing

section Lists

/-- What the leaves of a list are declared as. -/
def elementType (w : World) (leaves : List Value) : Descriptor :=
  let classes := distinct (leaves.map w.typeOf)
  match plainClass? classes with
  | some name => { typeName := name, castName := name }
  | none => w.commonType classes

theorem infer_regular {v : Value} {depth : Nat} {leaves : List Value} (hlist : v.isList = true)
    (hregular : w.heap.IsRegular v depth leaves) :
    w.infer v =
      { typeName := nestedName (w.elementType leaves).typeName depth
        castName := "list"
        kind := .array
        modules := (w.elementType leaves).modules } := by
  rw [infer_list w hlist, listType, (Heap.nestedList_iff hlist).mpr hregular]
  rfl

theorem elementType_congr {xs ys : List Value} (hperm : xs.Perm ys)
    (hcommon : w.commonType (distinct (xs.map w.typeOf)) =
      w.commonType (distinct (ys.map w.typeOf))) :
    w.elementType xs = w.elementType ys := by
  have hclasses : (distinct (xs.map w.typeOf)).Perm (distinct (ys.map w.typeOf)) := by
    rw [List.perm_ext_iff_of_nodup (nodup_distinct _) (nodup_distinct _)]
    intro c
    rw [mem_distinct, mem_distinct]
    exact (hperm.map w.typeOf).mem_iff
  rw [elementType, elementType, plainClass?_congr hclasses, hcommon]

/-- Some classes are declared by the narrowest class that they share and that a source can name, and
    one class by its closest such ancestor. Where one of the classes has single inheritance, neither
    the order of the classes nor how often each is there matters; so a regular list is declared the
    same when its leaves change places. -/
theorem declared_class_narrowest {leaves : List ClassId} (hne : leaves ≠ [])
    (hlinear : ∀ c ∈ leaves, w.Linearized c) (hnominal : w.Nominal leaves)
    (hobject : (w.publicName .object).isSome = true) :
    (∃ d n, w.Narrowest leaves d n ∧ w.commonType leaves = .ofName n) ∧
    (∀ c, w.nameType c = w.commonType [c]) ∧
    ((∃ c ∈ leaves, w.SingleBased c) →
      (∀ classes, (∀ c, c ∈ classes ↔ c ∈ leaves) →
        w.commonType classes = w.commonType leaves) ∧
      ∀ v u depth xs ys, v.isList = true → u.isList = true →
        w.heap.IsRegular v depth xs → w.heap.IsRegular u depth ys →
        (∀ c, c ∈ xs.map w.typeOf ↔ c ∈ leaves) → xs.Perm ys → w.infer u = w.infer v) := by
  obtain ⟨d, n, hd, hcommon⟩ := exists_narrowest hne hlinear hnominal hobject
  refine ⟨⟨d, n, hd, hcommon⟩, nameType_eq_commonType, fun hsingle => ?_⟩
  have hsame : ∀ classes, (∀ c, c ∈ classes ↔ c ∈ leaves) →
      w.commonType classes = w.commonType leaves := by
    intro classes hclasses
    obtain ⟨first, hfirst⟩ := List.exists_mem_of_ne_nil leaves hne
    have hne' : classes ≠ [] := List.ne_nil_of_mem ((hclasses first).mpr hfirst)
    have hnominal' : w.Nominal classes := fun c hc e he o ho =>
      hnominal c ((hclasses c).mp hc) e he o ((hclasses o).mp ho)
    obtain ⟨d', n', hd', hcommon'⟩ :=
      exists_narrowest hne' (fun c hc => hlinear c ((hclasses c).mp hc)) hnominal' hobject
    rw [hcommon', hcommon, hd.unique hsingle (hd'.congr fun c => (hclasses c).symm)]
  refine ⟨hsame, fun v u depth xs ys hv hu hxs hys hleaves hperm => ?_⟩
  have htypes : ∀ c, c ∈ ys.map w.typeOf ↔ c ∈ leaves := fun c =>
    ((hperm.map w.typeOf).mem_iff (a := c)).symm.trans (hleaves c)
  have helement : w.elementType xs = w.elementType ys := by
    refine elementType_congr hperm ?_
    rw [hsame _ fun c => mem_distinct.trans (hleaves c), hsame _ fun c => mem_distinct.trans (htypes c)]
  rw [infer_regular hu hys, infer_regular hv hxs, helement]

/-- A world with an animal that can be named, below it a dog and a cat that cannot, and a class below
    these two; and with two lists of lists of a cat and one of the last class. -/
def zoo : World where
  heap := #[.instance [], .instance [], .items [.object 0 (.defined 2)],
    .items [.object 1 (.defined 3)], .items [.object 2 .list, .object 3 .list],
    .items [.object 3 .list, .object 2 .list]]
  classes := #[
    { space := some "app", name := "Animal", above := [.object], kind := .standard "type",
      shown := "Animal" },
    { space := some "app", name := "_Dog", above := [.defined 0, .object], kind := .standard "type",
      shown := "_Dog" },
    { space := some "app", name := "_Cat", above := [.defined 0, .object], kind := .standard "type",
      shown := "_Cat" },
    { space := some "app", name := "_CatDog",
      above := [.defined 2, .defined 1, .defined 0, .object], kind := .standard "type",
      shown := "_CatDog" }]
  modules := #[{ name := "builtins", attributes := [("object", .cls .object)] },
    { name := "app", attributes := [("Animal", .cls (.defined 0))] }]
  table := [("builtins", 0), ("app", 1)]

theorem zoo_singleBased : zoo.SingleBased (.defined 2) := by
  have hanimal : zoo.SingleBased (.defined 0) := .single (b := .object) .object (by decide +kernel)
  exact .single hanimal (by decide +kernel)

theorem zoo_linearized : ∀ c ∈ [.defined 2, .defined 3], zoo.Linearized c := by
  have hanimal : zoo.Linearized (.defined 0) :=
    .merged [.object] (by decide) (by simp [Linearized.object]) (by decide +kernel)
  have hdog : zoo.Linearized (.defined 1) :=
    .merged [.defined 0] (by decide) (by simpa using hanimal) (by decide +kernel)
  have hcat : zoo.Linearized (.defined 2) :=
    .merged [.defined 0] (by decide) (by simpa using hanimal) (by decide +kernel)
  have hboth : zoo.Linearized (.defined 3) :=
    .merged [.defined 2, .defined 1] (by decide) (by simpa using ⟨hcat, hdog⟩)
      (by decide +kernel)
  simpa using ⟨hcat, hboth⟩

theorem declared_class_narrowest_zoo :
    (∃ d n, zoo.Narrowest [.defined 2, .defined 3] d n ∧
      zoo.commonType [.defined 2, .defined 3] = .ofName n) ∧
    zoo.commonType [.defined 3, .defined 2, .defined 3] =
      zoo.commonType [.defined 2, .defined 3] ∧
    zoo.infer (.object 5 .list) = zoo.infer (.object 4 .list) ∧
    (zoo.infer (.object 4 .list)).typeName = "list[list[app.Animal]]" := by
  have hnominal : zoo.Nominal [.defined 2, .defined 3] := by
    unfold Nominal
    decide +kernel
  obtain ⟨hnarrowest, -, horder⟩ := declared_class_narrowest (by decide) zoo_linearized
    hnominal (by decide +kernel)
  obtain ⟨hsame, hlists⟩ := horder ⟨.defined 2, by decide, zoo_singleBased⟩
  refine ⟨hnarrowest, hsame _ (by simp [or_comm]), ?_, by decide +kernel⟩
  refine hlists (.object 4 .list) (.object 5 .list) 2
    [.object 0 (.defined 2), .object 1 (.defined 3)]
    [.object 1 (.defined 3), .object 0 (.defined 2)] (by decide) (by decide)
    ((Heap.nestedList_iff (by decide)).mp (by decide +kernel))
    ((Heap.nestedList_iff (by decide)).mp (by decide +kernel)) ?_ (List.Perm.swap _ _ _)
  simp [typeOf]

end Lists

end World

end FragmentWeaver
