import FragmentWeaver.Descriptor.Infer
import FragmentWeaver.Proofs.NestedList

/-!
# What nested lists unfold to

A list on the heap may be an item of several lists, and of itself. What it looks like from the outside
is its unfolding: a tree, if it is finite. Reading a nested list level by level finds exactly the
lists whose unfolding is a finite tree without an empty node whose leaves all lie equally deep. The
lists of such a tree that lie equally deep are equally high, so none of them is met again further
down, however often it is shared; what is met again further down contains itself or is ragged.
-/

namespace FragmentWeaver

/-- What a value looks like when no list in it is shared. -/
inductive Unfolding where
  | leaf (v : Value)
  | node (items : List Unfolding)

namespace Unfolding

/-- No list is empty. -/
inductive Full : Unfolding → Prop
  | leaf {v : Value} : Full (leaf v)
  | node {items : List Unfolding} (hne : items ≠ []) (hitems : ∀ t ∈ items, Full t) :
      Full (node items)

/-- The leaves from left to right, each with its depth below something that lies at a given depth. -/
def leavesBelow (depth : Nat) : Unfolding → List (Nat × Value)
  | leaf v => [(depth, v)]
  | node items => items.flatMap fun t => t.leavesBelow (depth + 1)

/-- The leaves from left to right, each with its depth. -/
def leaves (t : Unfolding) : List (Nat × Value) :=
  t.leavesBelow 0

theorem full_node {items : List Unfolding} :
    (node items).Full ↔ items ≠ [] ∧ ∀ t ∈ items, t.Full := by
  constructor
  · intro h
    cases h with
    | node hne hitems => exact ⟨hne, hitems⟩
  · rintro ⟨hne, hitems⟩
    exact .node hne hitems

theorem Full.exists_leaf {t : Unfolding} (ht : t.Full) (n : Nat) :
    ∃ l ∈ t.leavesBelow n, n ≤ l.1 := by
  induction ht generalizing n with
  | leaf => exact ⟨_, by rw [leavesBelow]; exact List.mem_cons_self, Nat.le_refl _⟩
  | node hne _ ih =>
      obtain ⟨t, ht⟩ := List.exists_mem_of_ne_nil _ hne
      obtain ⟨l, hl, hle⟩ := ih t ht (n + 1)
      refine ⟨l, ?_, by omega⟩
      rw [leavesBelow]
      exact List.mem_flatMap.mpr ⟨t, ht, hl⟩

end Unfolding

namespace Heap

variable (h : Heap)

/-- A value unfolds to a tree: a list to the node of what its items unfold to, and everything else to
    a leaf. -/
inductive Unfolds : Value → Unfolding → Prop
  | leaf {v : Value} (hv : v.isList = false) : Unfolds v (.leaf v)
  | node {v : Value} {items : List Unfolding} (hv : v.isList = true)
      (hlength : (h.itemsOf v).length = items.length)
      (hitems : ∀ p ∈ (h.itemsOf v).zip items, Unfolds p.1 p.2) : Unfolds v (.node items)

/-- The unfolding of a value is finite, no list in it is empty, and its leaves all lie at one depth,
    which is not nought. -/
structure IsRegular (v : Value) (depth : Nat) (leaves : List Value) : Prop where
  deep : 1 ≤ depth
  unfolds : ∃ t, h.Unfolds v t ∧ t.Full ∧ t.leaves = leaves.map (depth, ·)

/-- Reading levels of lists, by as many rounds as it takes. -/
inductive Reads : Nat → List Address → List Value → Option (Nat × List Value) → Prop
  | leaves {depth : Nat} {seen : List Address} {level : List Value}
      (hsome : ¬ ∀ v ∈ level, v.isList = true) (hleaves : ∀ v ∈ level, v.isList = false) :
      Reads depth seen level (some (depth, level))
  | mixed {depth : Nat} {seen : List Address} {level : List Value}
      (hsome : ¬ ∀ v ∈ level, v.isList = true) (hlist : ∃ v ∈ level, v.isList = true) :
      Reads depth seen level none
  | empty {depth : Nat} {seen : List Address} {level : List Value}
      (hlists : ∀ v ∈ level, v.isList = true) (hempty : ∃ v ∈ level, h.itemsOf v = []) :
      Reads depth seen level none
  | again {depth : Nat} {seen : List Address} {level : List Value}
      (hlists : ∀ v ∈ level, v.isList = true) (hfull : ∀ v ∈ level, h.itemsOf v ≠ [])
      (hseen : ∃ a ∈ Value.places level, a ∈ seen) : Reads depth seen level none
  | deeper {depth : Nat} {seen : List Address} {level : List Value} {r : Option (Nat × List Value)}
      (hlists : ∀ v ∈ level, v.isList = true) (hfull : ∀ v ∈ level, h.itemsOf v ≠ [])
      (hfresh : ∀ a ∈ Value.places level, a ∉ seen)
      (hrest : Reads (depth + 1) (seen ++ Value.places level) (level.flatMap h.itemsOf) r) :
      Reads depth seen level r

/-- From a value on there are so many levels of lists, none of them empty. -/
def RegularAt : Nat → Value → Prop
  | 0, v => v.isList = false
  | height + 1, v =>
      v.isList = true ∧ h.itemsOf v ≠ [] ∧ ∀ u ∈ h.itemsOf v, RegularAt height u

/-- What is under so many levels of lists. -/
def leavesUnder : Nat → Value → List Value
  | 0, v => [v]
  | height + 1, v => (h.itemsOf v).flatMap (leavesUnder height)

/-- What so many levels of lists unfold to. -/
def unfolding : Nat → Value → Unfolding
  | 0, v => .leaf v
  | height + 1, v => .node ((h.itemsOf v).map (unfolding height))

variable {h}

/-- A value has one height only. -/
theorem RegularAt.unique {k k' : Nat} {v : Value} (hk : h.RegularAt k v) (hk' : h.RegularAt k' v) :
    k = k' := by
  induction k generalizing k' v with
  | zero =>
      cases k' with
      | zero => rfl
      | succ k' => exact absurd hk'.1 (by rw [hk]; decide)
  | succ k ih =>
      cases k' with
      | zero => exact absurd hk.1 (by rw [hk']; decide)
      | succ k' =>
          obtain ⟨u, hu⟩ := List.exists_mem_of_ne_nil _ hk.2.1
          rw [ih (hk.2.2 u hu) (hk'.2.2 u hu)]

/-! ## Rounds -/

theorem Reads.unique {depth : Nat} {seen : List Address} {level : List Value}
    {r r' : Option (Nat × List Value)} (hr : h.Reads depth seen level r)
    (hr' : h.Reads depth seen level r') : r = r' := by
  induction hr with
  | leaves hsome hleaves =>
      cases hr' with
      | leaves => rfl
      | mixed _ hlist =>
          obtain ⟨v, hv, hlist⟩ := hlist
          exact absurd hlist (by rw [hleaves v hv]; decide)
      | empty hlists => exact absurd hlists hsome
      | again hlists => exact absurd hlists hsome
      | deeper hlists => exact absurd hlists hsome
  | mixed hsome hlist =>
      cases hr' with
      | leaves _ hleaves =>
          obtain ⟨v, hv, hlist⟩ := hlist
          exact absurd hlist (by rw [hleaves v hv]; decide)
      | mixed => rfl
      | empty => rfl
      | again => rfl
      | deeper hlists => exact absurd hlists hsome
  | empty hlists hempty =>
      cases hr' with
      | leaves hsome => exact absurd hlists hsome
      | mixed => rfl
      | empty => rfl
      | again => rfl
      | deeper _ hfull =>
          obtain ⟨v, hv, hempty⟩ := hempty
          exact absurd hempty (hfull v hv)
  | again hlists hfull hseen =>
      cases hr' with
      | leaves hsome => exact absurd hlists hsome
      | mixed => rfl
      | empty => rfl
      | again => rfl
      | deeper _ _ hfresh =>
          obtain ⟨a, ha, hseen⟩ := hseen
          exact absurd hseen (hfresh a ha)
  | deeper hlists hfull hfresh _ ih =>
      cases hr' with
      | leaves hsome => exact absurd hlists hsome
      | mixed hsome => exact absurd hlists hsome
      | empty _ hempty =>
          obtain ⟨v, hv, hempty⟩ := hempty
          exact absurd hempty (hfull v hv)
      | again _ _ hseen =>
          obtain ⟨a, ha, hseen⟩ := hseen
          exact absurd hseen (hfresh a ha)
      | deeper _ _ _ hrest => exact ih hrest

/-- With more rounds than there are places unseen the count of rounds does not matter. -/
theorem reads_levels {n depth : Nat} {seen : List Address} {level : List Value}
    (hlevel : level ≠ []) (hn : (h.unseen seen).card < n) :
    h.Reads depth seen level (h.levels n depth seen level) := by
  induction n generalizing depth seen level with
  | zero => exact absurd hn (Nat.not_lt_zero _)
  | succ n ih =>
      unfold levels
      by_cases hlists : level.all Value.isList = true
      · rw [if_pos hlists]
        have hall := List.all_eq_true.mp hlists
        dsimp only
        by_cases hempty : (level.any fun v => (h.itemsOf v).isEmpty) = true
        · rw [if_pos hempty]
          obtain ⟨v, hv, hnone⟩ := List.any_eq_true.mp hempty
          exact .empty hall ⟨v, hv, List.isEmpty_iff.mp hnone⟩
        · rw [if_neg hempty]
          have hfull : ∀ v ∈ level, h.itemsOf v ≠ [] := by
            intro v hv hnone
            exact hempty (List.any_eq_true.mpr ⟨v, hv, List.isEmpty_iff.mpr hnone⟩)
          by_cases hagain : (Value.places level).any seen.contains = true
          · rw [if_pos hagain]
            obtain ⟨a, ha, hseen⟩ := List.any_eq_true.mp hagain
            exact .again hall hfull ⟨a, ha, List.contains_iff_mem.mp hseen⟩
          · rw [if_neg hagain]
            have hless := unseen_lt hlevel hlists (Bool.eq_false_iff.mpr hempty)
              (Bool.eq_false_iff.mpr hagain)
            refine .deeper hall hfull ?_ (ih ?_ (by omega))
            · intro a ha hseen
              exact hagain (List.any_eq_true.mpr ⟨a, ha, List.contains_iff_mem.mpr hseen⟩)
            · obtain ⟨v, hv⟩ := List.exists_mem_of_ne_nil level hlevel
              intro hnone
              exact hfull v hv (List.flatMap_eq_nil_iff.mp hnone v hv)
      · rw [if_neg hlists]
        have hsome : ¬ ∀ v ∈ level, v.isList = true := fun hall =>
          hlists (List.all_eq_true.mpr hall)
        by_cases hmixed : level.any Value.isList = true
        · rw [if_pos hmixed]
          exact .mixed hsome (List.any_eq_true.mp hmixed)
        · rw [if_neg hmixed]
          refine .leaves hsome fun v hv => ?_
          exact Bool.eq_false_iff.mpr fun hv' => hmixed (List.any_eq_true.mpr ⟨v, hv, hv'⟩)

/-- Reading a value comes to an end, and there is one answer that it comes to. -/
theorem reads_iff (v : Value) (r : Option (Nat × List Value)) :
    h.Reads 0 [] [v] r ↔ r = h.nestedList v := by
  have hcard : (h.unseen []).card = h.size := by simp [unseen]
  have hends : h.Reads 0 [] [v] (h.nestedList v) :=
    reads_levels (List.cons_ne_nil v []) (by omega)
  exact ⟨fun hr => hr.unique hends, fun hr => hr ▸ hends⟩

/-- What is found at last is under everything that was read. -/
theorem Reads.regularAt {depth d : Nat} {seen : List Address} {level leaves : List Value}
    {r : Option (Nat × List Value)} (hr : h.Reads depth seen level r) (hfound : r = some (d, leaves)) :
    ∃ k, d = depth + k ∧ (∀ v ∈ level, h.RegularAt k v) ∧ leaves = level.flatMap (h.leavesUnder k) := by
  induction hr with
  | leaves _ hleaves =>
      cases hfound
      refine ⟨0, rfl, hleaves, ?_⟩
      simp [leavesUnder]
  | mixed => cases hfound
  | empty => cases hfound
  | again => cases hfound
  | deeper hlists hfull _ _ ih =>
      obtain ⟨k, hd, hitems, hleaves⟩ := ih hfound
      refine ⟨k + 1, by omega, ?_, ?_⟩
      · intro v hv
        exact ⟨hlists v hv, hfull v hv, fun u hu => hitems u (List.mem_flatMap.mpr ⟨v, hv, hu⟩)⟩
      · rw [hleaves, List.flatMap_assoc]
        rfl

/-- Lists that are equally high are read to the end, if all that was seen before is higher. -/
theorem reads_of_regularAt {k depth : Nat} {seen : List Address} {level : List Value}
    (hlevel : level ≠ []) (hregular : ∀ v ∈ level, h.RegularAt k v)
    (hseen : ∀ a ∈ seen, ∃ m, k < m ∧ h.RegularAt m (.object a .list)) :
    h.Reads depth seen level (some (depth + k, level.flatMap (h.leavesUnder k))) := by
  induction k generalizing depth seen level with
  | zero =>
      have hsome : ¬ ∀ v ∈ level, v.isList = true := by
        obtain ⟨v, hv⟩ := List.exists_mem_of_ne_nil level hlevel
        intro hall
        exact absurd (hall v hv) (by rw [hregular v hv]; decide)
      have hleaves : level.flatMap (h.leavesUnder 0) = level := by simp [leavesUnder]
      rw [hleaves]
      exact .leaves hsome hregular
  | succ k ih =>
      have hplace : ∀ a ∈ Value.places level, h.RegularAt (k + 1) (.object a .list) := by
        intro a ha
        obtain ⟨v, hv, hva⟩ := List.mem_filterMap.mp ha
        obtain ⟨b, rfl⟩ := isList_place (hregular v hv).1
        cases hva
        exact hregular _ hv
      refine .deeper (fun v hv => (hregular v hv).1) (fun v hv => (hregular v hv).2.1) ?_ ?_
      · intro a ha hmem
        obtain ⟨m, hm, hhigher⟩ := hseen a hmem
        exact absurd (hhigher.unique (hplace a ha)) (by omega)
      · have hbelow : level.flatMap (h.leavesUnder (k + 1)) =
            (level.flatMap h.itemsOf).flatMap (h.leavesUnder k) := by
          rw [List.flatMap_assoc]
          rfl
        have hdepth : depth + (k + 1) = depth + 1 + k := by omega
        rw [hbelow, hdepth]
        refine ih ?_ ?_ ?_
        · obtain ⟨v, hv⟩ := List.exists_mem_of_ne_nil level hlevel
          intro hnone
          exact (hregular v hv).2.1 (List.flatMap_eq_nil_iff.mp hnone v hv)
        · intro u hu
          obtain ⟨v, hv, hu⟩ := List.mem_flatMap.mp hu
          exact (hregular v hv).2.2 u hu
        · intro a ha
          rcases List.mem_append.mp ha with hold | hnew
          · obtain ⟨m, hm, hhigher⟩ := hseen a hold
            exact ⟨m, by omega, hhigher⟩
          · exact ⟨k + 1, by omega, hplace a hnew⟩

theorem nestedList_eq_some_iff {v : Value} {d : Nat} {leaves : List Value} :
    h.nestedList v = some (d, leaves) ↔ h.RegularAt d v ∧ leaves = h.leavesUnder d v := by
  constructor
  · intro hfound
    obtain ⟨k, hd, hregular, hleaves⟩ := ((reads_iff v _).mpr rfl).regularAt hfound
    rw [Nat.zero_add] at hd
    subst hd
    exact ⟨hregular v List.mem_cons_self, by simpa using hleaves⟩
  · rintro ⟨hregular, rfl⟩
    have hreads : h.Reads 0 [] [v] (some (0 + d, [v].flatMap (h.leavesUnder d))) :=
      reads_of_regularAt (List.cons_ne_nil v []) (by simpa using hregular) (by simp)
    have := (reads_iff v _).mp hreads
    simpa using this.symm

/-! ## Trees -/

theorem RegularAt.unfolds {k : Nat} {v : Value} (hk : h.RegularAt k v) :
    h.Unfolds v (h.unfolding k v) := by
  induction k generalizing v with
  | zero => exact .leaf hk
  | succ k ih =>
      refine .node hk.1 (List.length_map _).symm ?_
      intro p hp
      rw [← List.map_prod_left_eq_zip] at hp
      obtain ⟨u, hu, rfl⟩ := List.mem_map.mp hp
      exact ih (hk.2.2 u hu)

theorem RegularAt.full {k : Nat} {v : Value} (hk : h.RegularAt k v) :
    (h.unfolding k v).Full := by
  induction k generalizing v with
  | zero => exact .leaf
  | succ k ih =>
      refine .node (by simpa using hk.2.1) ?_
      intro t ht
      obtain ⟨u, hu, rfl⟩ := List.mem_map.mp ht
      exact ih (hk.2.2 u hu)

theorem leavesBelow_unfolding (n k : Nat) (v : Value) :
    (h.unfolding k v).leavesBelow n = (h.leavesUnder k v).map (n + k, ·) := by
  induction k generalizing n v with
  | zero => simp [unfolding, leavesUnder, Unfolding.leavesBelow]
  | succ k ih =>
      have hdepth : n + (k + 1) = n + 1 + k := by omega
      rw [unfolding, leavesUnder, Unfolding.leavesBelow, List.flatMap_map, List.map_flatMap, hdepth]
      simp only [ih]

/-- A tree without empty nodes whose leaves lie equally deep is what so many levels unfold to. -/
theorem Unfolds.regularAt {v : Value} {t : Unfolding} (hv : h.Unfolds v t) {n d : Nat}
    (hfull : t.Full) (hdeep : ∀ l ∈ t.leavesBelow n, l.1 = n + d) :
    h.RegularAt d v ∧ t = h.unfolding d v := by
  induction hv generalizing n d with
  | leaf hv =>
      have hd : n = n + d := hdeep _ (by rw [Unfolding.leavesBelow]; exact List.mem_cons_self)
      obtain rfl : d = 0 := by omega
      exact ⟨hv, rfl⟩
  | @node v items hv hlength _ ih =>
      obtain ⟨hne, hitems⟩ := Unfolding.full_node.mp hfull
      rw [Unfolding.leavesBelow] at hdeep
      have hbelow : ∀ t ∈ items, ∀ l ∈ t.leavesBelow (n + 1), l.1 = n + d := fun t ht l hl =>
        hdeep l (List.mem_flatMap.mpr ⟨t, ht, hl⟩)
      -- There is a leaf, so the depth is not nought.
      obtain ⟨d, rfl⟩ : ∃ d', d = d' + 1 := by
        obtain ⟨t, ht⟩ := List.exists_mem_of_ne_nil items hne
        obtain ⟨l, hl, hle⟩ := (hitems t ht).exists_leaf (n + 1)
        have := hbelow t ht l hl
        exact ⟨d - 1, by omega⟩
      have hpair : ∀ p ∈ (h.itemsOf v).zip items,
          h.RegularAt d p.1 ∧ p.2 = h.unfolding d p.1 := by
        intro p hp
        have hp2 := (List.of_mem_zip hp).2
        refine ih p hp (hitems p.2 hp2) (n := n + 1) fun l hl => ?_
        have := hbelow p.2 hp2 l hl
        omega
      have hget (i : Nat) (hi : i < (h.itemsOf v).length) :
          ((h.itemsOf v)[i], items[i]) ∈ (h.itemsOf v).zip items := by
        rw [List.mem_iff_getElem]
        exact ⟨i, by simp; omega, by simp⟩
      refine ⟨⟨hv, ?_, ?_⟩, ?_⟩
      · intro hnone
        rw [hnone] at hlength
        exact hne (List.length_eq_zero_iff.mp hlength.symm)
      · intro u hu
        obtain ⟨i, hi, rfl⟩ := List.mem_iff_getElem.mp hu
        exact (hpair _ (hget i hi)).1
      · rw [unfolding, Unfolding.node.injEq]
        refine List.ext_getElem (by simpa using hlength.symm) fun i hi hi' => ?_
        rw [List.getElem_map]
        exact (hpair _ (hget i (by omega))).2

/-- A list is regular if it unfolds to a tree of the kind that is read. -/
theorem isRegular_iff {v : Value} (hlist : v.isList = true) {d : Nat} {leaves : List Value} :
    h.IsRegular v d leaves ↔ h.RegularAt d v ∧ leaves = h.leavesUnder d v := by
  constructor
  · rintro ⟨-, t, hunfolds, hfull, hleaves⟩
    have hdeep : ∀ l ∈ t.leavesBelow 0, l.1 = 0 + d := by
      intro l hl
      rw [← Unfolding.leaves, hleaves] at hl
      obtain ⟨u, -, rfl⟩ := List.mem_map.mp hl
      exact (Nat.zero_add d).symm
    obtain ⟨hregular, rfl⟩ := hunfolds.regularAt hfull hdeep
    refine ⟨hregular, ?_⟩
    rw [Unfolding.leaves, leavesBelow_unfolding, Nat.zero_add] at hleaves
    have := congrArg (List.map Prod.snd) hleaves
    simpa using this.symm
  · rintro ⟨hregular, rfl⟩
    refine ⟨?_, _, hregular.unfolds, hregular.full, ?_⟩
    · cases d with
      | zero => exact absurd hlist (by rw [hregular]; decide)
      | succ d => exact Nat.le_add_left 1 d
    · rw [Unfolding.leaves, leavesBelow_unfolding, Nat.zero_add]

/-- A value unfolds to one tree at most. -/
theorem Unfolds.unique {v : Value} {t t' : Unfolding} (ht : h.Unfolds v t) (ht' : h.Unfolds v t') :
    t = t' := by
  induction ht generalizing t' with
  | leaf hv =>
      cases ht' with
      | leaf => rfl
      | node hv' => exact absurd hv' (by rw [hv]; decide)
  | @node v items hv hlength _ ih =>
      cases ht' with
      | leaf hv' => exact absurd hv (by rw [hv']; decide)
      | @node _ items' _ hlength' hitems' =>
          rw [Unfolding.node.injEq]
          refine List.ext_getElem (hlength.symm.trans hlength') fun i hi hi' => ?_
          have hv : i < (h.itemsOf v).length := by omega
          refine ih ((h.itemsOf v)[i], items[i]) ?_ (hitems' ((h.itemsOf v)[i], items'[i]) ?_)
          · exact List.mem_iff_getElem.mpr ⟨i, by simp; omega, by simp⟩
          · exact List.mem_iff_getElem.mpr ⟨i, by simp; omega, by simp⟩

theorem IsRegular.congr {h' : Heap} {v v' : Value} {t : Unfolding} (ht : h.Unfolds v t)
    (ht' : h'.Unfolds v' t) {d : Nat} {leaves : List Value} (hv : h.IsRegular v d leaves) :
    h'.IsRegular v' d leaves := by
  obtain ⟨hdeep, u, hu, hfull, hleaves⟩ := hv
  exact ⟨hdeep, t, ht', hu.unique ht ▸ hfull, hu.unique ht ▸ hleaves⟩

theorem Unfolds.isList_iff {v : Value} {t : Unfolding} (ht : h.Unfolds v t) :
    v.isList = true ↔ ∃ items, t = .node items := by
  cases ht with
  | leaf hv => simp [hv]
  | node hv => simp [hv]

theorem nestedList_iff {v : Value} (hlist : v.isList = true) {d : Nat} {leaves : List Value} :
    h.nestedList v = some (d, leaves) ↔ h.IsRegular v d leaves :=
  nestedList_eq_some_iff.trans (isRegular_iff hlist).symm

/-- What is known of a nested list does not depend on which of its lists are shared. -/
theorem nestedList_congr {h' : Heap} {v v' : Value} {t : Unfolding} (hlist : v.isList = true)
    (ht : h.Unfolds v t) (ht' : h'.Unfolds v' t) : h'.nestedList v' = h.nestedList v := by
  have hlist' : v'.isList = true := ht'.isList_iff.mpr (ht.isList_iff.mp hlist)
  apply Option.ext
  rintro ⟨d, leaves⟩
  rw [nestedList_iff hlist, nestedList_iff hlist']
  exact ⟨fun hv => hv.congr ht' ht, fun hv => hv.congr ht ht'⟩

end Heap

theorem nestedName_eq (element : String) (depth : Nat) :
    nestedName element depth = (fun inner => "list[" ++ inner ++ "]")^[depth] element := by
  induction depth with
  | zero => rfl
  | succ depth ih => rw [nestedName, ih, Function.iterate_succ_apply']

namespace World

variable (w : World)

/-- The name of what some leaves have in common. -/
def elementName (leaves : List Value) : String :=
  let classes := distinct (leaves.map w.typeOf)
  (plainClass? classes).getD (w.commonType classes).typeName

theorem typeName_listType {v : Value} {depth : Nat} {leaves : List Value}
    (hfound : w.heap.nestedList v = some (depth, leaves)) :
    (w.listType v).typeName = nestedName (w.elementName leaves) depth := by
  rw [listType, hfound, elementName]
  dsimp only
  cases plainClass? (distinct (leaves.map w.typeOf)) with
  | none => rfl
  | some name => rfl

theorem infer_list {v : Value} (hlist : v.isList = true) : w.infer v = w.listType v := by
  obtain ⟨a, rfl⟩ := Heap.isList_place hlist
  rfl

/-- Reading a list level by level comes to an end, whatever the heap is. Depth and leaves are found
    exactly if the list unfolds to a finite tree in which no list is empty and all leaves lie at that
    depth, and they are the depth and the leaves from left to right; else nothing is found. What is
    found depends on the tree alone and not on which lists in it are shared. The declared type puts so
    many list brackets around the name of what the leaves have in common. -/
theorem regular_lists_recognised {v : Value} (hlist : v.isList = true) :
    (∀ r, w.heap.Reads 0 [] [v] r ↔ r = w.heap.nestedList v) ∧
    (∀ depth leaves,
      w.heap.nestedList v = some (depth, leaves) ↔ w.heap.IsRegular v depth leaves) ∧
    (w.heap.nestedList v = none ↔ ∀ depth leaves, ¬ w.heap.IsRegular v depth leaves) ∧
    (∀ (h : Heap) (u : Value) (t : Unfolding),
      w.heap.Unfolds v t → h.Unfolds u t → h.nestedList u = w.heap.nestedList v) ∧
    ∀ depth leaves, w.heap.IsRegular v depth leaves →
      (w.infer v).typeName =
        (fun inner => "list[" ++ inner ++ "]")^[depth] (w.elementName leaves) := by
  have hfound (depth : Nat) (leaves : List Value) :
      w.heap.nestedList v = some (depth, leaves) ↔ w.heap.IsRegular v depth leaves :=
    Heap.nestedList_iff hlist
  refine ⟨Heap.reads_iff v, hfound, ?_, fun h u t => Heap.nestedList_congr hlist, ?_⟩
  · rw [Option.eq_none_iff_forall_ne_some]
    constructor
    · intro hnone depth leaves hregular
      exact hnone (depth, leaves) ((hfound depth leaves).mpr hregular)
    · rintro hnone ⟨depth, leaves⟩ hsome
      exact hnone depth leaves ((hfound depth leaves).mp hsome)
  · intro depth leaves hregular
    rw [infer_list w hlist, typeName_listType w ((hfound depth leaves).mpr hregular), nestedName_eq]

/-- A list that holds one list twice, and a list that holds itself beside it. -/
def sharedWorld : World :=
  { heap := #[.items [.object 1 .list, .object 1 .list], .items [.whole 1, .whole 2],
      .items [.object 1 .list, .object 2 .list]] }

theorem regular_lists_recognised_shared :
    (Value.object 0 .list).isList = true ∧
    sharedWorld.heap.IsRegular (.object 0 .list) 2 [.whole 1, .whole 2, .whole 1, .whole 2] ∧
    (∀ depth leaves, ¬ sharedWorld.heap.IsRegular (.object 2 .list) depth leaves) ∧
    (sharedWorld.infer (.object 0 .list)).typeName = "list[list[int]]" := by
  obtain ⟨-, hfound, -, -, hname⟩ :=
    regular_lists_recognised sharedWorld (v := .object 0 .list) (by decide)
  obtain ⟨-, -, hnone, -⟩ :=
    regular_lists_recognised sharedWorld (v := .object 2 .list) (by decide)
  have hregular := (hfound 2 [.whole 1, .whole 2, .whole 1, .whole 2]).mp (by decide +kernel)
  refine ⟨by decide, hregular, hnone.mp (by decide +kernel), ?_⟩
  rw [hname _ _ hregular]
  decide +kernel

end World

end FragmentWeaver
