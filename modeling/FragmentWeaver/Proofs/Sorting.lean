import FragmentWeaver.Binding.Store
import Mathlib.Data.List.Lex
import Mathlib.Data.String.Basic

/-!
# Sorting by single comparisons

Sorting compares in a fixed order: the run at the start is followed, then every further value is
placed by halving. Where no comparison fails and all of them read off one linear order, the outcome is
the list in that order. The comparisons of strings read off the order of their code points, so the
names of bindings come out in ascending order.
-/

namespace FragmentWeaver

namespace Sorting

variable {ε α β : Type} [LinearOrder β] {f : α → β}

/-- In ascending order of what is read off. -/
def Ascending (f : α → β) (xs : List α) : Prop :=
  xs.Pairwise fun a b => f a ≤ f b

/-- A list in order has one value at most before which a further one belongs. -/
structure IsPlace (f : α → β) (x : α) (xs : List α) (place : Nat) : Prop where
  before : ∀ y ∈ xs.take place, f y ≤ f x
  behind : ∀ y ∈ xs.drop place, f x < f y

theorem Ascending.le_of_mem_take {xs : List α} (h : Ascending f xs) {m : Nat}
    (hm : m < xs.length) {y : α} (hy : y ∈ xs.take (m + 1)) : f y ≤ f xs[m] := by
  rw [List.take_succ_eq_append_getElem hm, List.mem_append, List.mem_singleton] at hy
  rcases hy with hy | rfl
  · have hsplit : Ascending f (xs.take m ++ xs.drop m) := by rwa [List.take_append_drop]
    refine (List.pairwise_append.mp hsplit).2.2 y hy _ ?_
    rw [List.drop_eq_getElem_cons hm]
    exact List.mem_cons_self
  · exact le_refl _

theorem Ascending.le_of_mem_drop {xs : List α} (h : Ascending f xs) {m : Nat}
    (hm : m < xs.length) {y : α} (hy : y ∈ xs.drop m) : f xs[m] ≤ f y := by
  have hdrop : Ascending f (xs.drop m) := h.sublist (List.drop_sublist m xs)
  rw [List.drop_eq_getElem_cons hm] at hy hdrop
  rcases List.mem_cons.mp hy with rfl | hy
  · exact le_refl _
  · exact List.rel_of_pairwise_cons hdrop hy

/-- A value that is put at its place leaves the list in order. -/
theorem Ascending.insert {xs : List α} (h : Ascending f xs) {x : α} {place : Nat}
    (hplace : IsPlace f x xs place) : Ascending f (xs.take place ++ x :: xs.drop place) := by
  have hsplit : Ascending f (xs.take place ++ xs.drop place) := by rwa [List.take_append_drop]
  obtain ⟨htake, hdrop, hacross⟩ := List.pairwise_append.mp hsplit
  refine List.pairwise_append.mpr ⟨htake, List.pairwise_cons.mpr ⟨?_, hdrop⟩, ?_⟩
  · exact fun y hy => (hplace.behind y hy).le
  · intro a ha b hb
    rcases List.mem_cons.mp hb with rfl | hb
    · exact hplace.before a ha
    · exact hacross a ha b hb

section

variable {below : α → α → Except ε Bool} {P : α → Prop}
  (hbelow : ∀ x y, P x → P y → below x y = .ok (decide (f x < f y)))

include hbelow

/-- The run at the start goes one way throughout. -/
theorem runLength_ok (descending : Bool) {prev : α} {xs : List α} (hprev : P prev)
    (hxs : ∀ x ∈ xs, P x) :
    ∃ n, runLength below descending prev xs = .ok n ∧
      (prev :: xs.take n).IsChain fun a b => decide (f b < f a) = descending := by
  induction xs generalizing prev with
  | nil => exact ⟨0, rfl, List.IsChain.singleton prev⟩
  | cons x rest ih =>
      have hx : P x := hxs x List.mem_cons_self
      obtain ⟨n, hn, hchain⟩ := ih hx fun y hy => hxs y (List.mem_cons_of_mem x hy)
      by_cases hway : decide (f x < f prev) = descending
      · refine ⟨n + 1, ?_, List.isChain_cons_cons.mpr ⟨hway, hchain⟩⟩
        simp only [runLength, hbelow x prev hx hprev, bind, Except.bind, hway, if_true, hn]
        rfl
      · refine ⟨0, ?_, List.IsChain.singleton prev⟩
        simp only [runLength, hbelow x prev hx hprev, bind, Except.bind, hway, if_false]
        rfl

/-- Halving finds the place of a value. -/
theorem placeOf_ok {x : α} {xs : List α} (hx : P x) (hxs : ∀ y ∈ xs, P y)
    (hsorted : Ascending f xs) (fuel : Nat) {low high : Nat} (hlow : low ≤ high) (hhigh : high ≤ xs.length)
    (hfuel : high ≤ low + fuel) (hbefore : ∀ y ∈ xs.take low, f y ≤ f x)
    (hbehind : ∀ y ∈ xs.drop high, f x < f y) :
    ∃ place, placeOf below x xs.toArray fuel low high = .ok place ∧ IsPlace f x xs place := by
  induction fuel generalizing low high with
  | zero =>
      obtain rfl : low = high := by omega
      exact ⟨low, rfl, hbefore, hbehind⟩
  | succ fuel ih =>
      rw [placeOf]
      by_cases hopen : low < high
      · have hm : (low + high) / 2 < xs.length := by omega
        have hpivot : xs.toArray[(low + high) / 2]? = some xs[(low + high) / 2] := by
          simp [hm]
        rw [if_pos hopen]
        simp only [hpivot, hbelow x _ hx (hxs _ (List.getElem_mem hm)), bind, Except.bind]
        -- The half that is given up lies wholly on one side of the value, because of the order.
        by_cases hleft : f x < f xs[(low + high) / 2]
        · simp only [hleft, decide_true, if_true]
          exact ih (by omega) (by omega) (by omega) hbefore fun y hy =>
            hleft.trans_le (hsorted.le_of_mem_drop hm hy)
        · simp only [hleft, decide_false, Bool.false_eq_true, if_false]
          exact ih (by omega) (by omega) (by omega) (fun y hy =>
            (hsorted.le_of_mem_take hm hy).trans (not_lt.mp hleft)) hbehind
      · obtain rfl : low = high := by omega
        rw [if_neg hopen]
        exact ⟨low, rfl, hbefore, hbehind⟩

omit hbelow in
/-- A run is in order once a descending one has been turned round. -/
theorem ascending_run {descending : Bool} {xs : List α}
    (h : xs.IsChain fun a b => decide (f b < f a) = descending) :
    Ascending f (if descending then xs.reverse else xs) := by
  cases descending with
  | true =>
      have hchain : xs.IsChain fun a b => f b < f a := by simpa using h
      have : Trans (fun a b => f b < f a) (fun a b => f b < f a) fun a b => f b < f a :=
        ⟨fun hab hbc => hbc.trans hab⟩
      rw [if_pos rfl]
      exact List.pairwise_reverse.mpr (hchain.pairwise.imp le_of_lt)
  | false =>
      have hchain : xs.IsChain fun a b => f a ≤ f b := by simpa using h
      have : Trans (fun a b => f a ≤ f b) (fun a b => f a ≤ f b) fun a b => f a ≤ f b :=
        ⟨fun hab hbc => hab.trans hbc⟩
      exact hchain.pairwise

/-- Placing values one after the other keeps the list in order and loses none. -/
theorem placeAll_ok {xs start : List α} (hxs : ∀ x ∈ xs, P x) (hstart : ∀ x ∈ start, P x)
    (hsorted : Ascending f start) :
    ∃ ys, xs.foldlM (fun acc z => do
        let sorted := acc.toArray
        let place ← placeOf below z sorted sorted.size 0 sorted.size
        return acc.take place ++ z :: acc.drop place) start = .ok ys ∧
      ys.Perm (start ++ xs) ∧ Ascending f ys := by
  induction xs generalizing start with
  | nil => exact ⟨start, rfl, by simp, hsorted⟩
  | cons x xs ih =>
      have hx : P x := hxs x List.mem_cons_self
      obtain ⟨place, hplace, hisPlace⟩ := placeOf_ok hbelow hx hstart hsorted start.length
        (Nat.zero_le start.length) (le_refl _) (by omega) (by simp) (by simp)
      have hperm : (start.take place ++ x :: start.drop place).Perm (x :: start) := by
        refine List.perm_middle.trans ?_
        rw [List.take_append_drop]
      have hinserted : ∀ y ∈ start.take place ++ x :: start.drop place, P y := by
        intro y hy
        rcases List.mem_cons.mp (hperm.mem_iff.mp hy) with rfl | hy
        · exact hx
        · exact hstart y hy
      obtain ⟨ys, hys, hyperm, hyasc⟩ := ih (fun y hy => hxs y (List.mem_cons_of_mem x hy))
        hinserted (hsorted.insert hisPlace)
      refine ⟨ys, ?_, ?_, hyasc⟩
      · simp only [List.foldlM_cons, List.size_toArray, hplace, bind, Except.bind]
        exact hys
      · calc ys.Perm ((start.take place ++ x :: start.drop place) ++ xs) := hyperm
          _ |>.Perm ((x :: start) ++ xs) := hperm.append_right xs
          _ |>.Perm (start ++ x :: xs) := List.perm_middle.symm

/-- Sorting gives the same values in ascending order. -/
theorem sortBy_ok {xs : List α} (hxs : ∀ x ∈ xs, P x) :
    ∃ ys, sortBy below xs = .ok ys ∧ ys.Perm xs ∧ Ascending f ys := by
  match xs, hxs with
  | [], _ => exact ⟨[], rfl, .refl _, List.Pairwise.nil⟩
  | [x], _ => exact ⟨[x], rfl, .refl _, List.pairwise_singleton _ x⟩
  | x :: y :: rest, hxs =>
      have hx : P x := hxs x (by simp)
      have hy : P y := hxs y (by simp)
      have hrest : ∀ z ∈ rest, P z := fun z hz => hxs z (by simp [hz])
      obtain ⟨n, hn, hchain⟩ := runLength_ok hbelow (decide (f y < f x)) hy hrest
      have hrun := ascending_run (List.isChain_cons_cons.mpr ⟨rfl, hchain⟩)
      set start := if decide (f y < f x) then (x :: y :: rest.take n).reverse
        else x :: y :: rest.take n with hstart
      have hperm : start.Perm (x :: y :: rest.take n) := by
        rw [hstart]
        split
        · exact List.reverse_perm _
        · exact .refl _
      obtain ⟨ys, hys, hyperm, hyasc⟩ := placeAll_ok hbelow
        (fun z hz => hrest z (List.mem_of_mem_drop hz))
        (fun z hz => hxs z (List.Sublist.subset (by simp [List.take_sublist])
          (hperm.mem_iff.mp hz))) hrun
      refine ⟨ys, ?_, ?_, hyasc⟩
      · simp only [sortBy, hbelow y x hy hx, bind, Except.bind, hn]
        exact hys
      · calc ys.Perm (start ++ rest.drop n) := hyperm
          _ |>.Perm (x :: y :: rest.take n ++ rest.drop n) := hperm.append_right _
          _ = x :: y :: rest := by simp

end

end Sorting

namespace Value

/-- The code points of a string. -/
def points : Value → List Nat
  | .text s => Text.pointsOf s
  | .loose ps => ps
  | _ => []

/-- Is the value a string: a text, or code points of which one at least is no character? -/
def IsString : Value → Prop
  | .text _ => True
  | .loose ps => Text.ofPoints? ps = none
  | _ => False

instance : DecidablePred IsString
  | .text _ => .isTrue trivial
  | .loose ps => inferInstanceAs (Decidable (Text.ofPoints? ps = none))
  | .null | .truth _ | .whole _ | .float _ | .complex _ _ | .bytes _ | .missing | .unit _ | .cls _
  | .module _ | .native _ | .moduleTable | .spec _ | .object _ _ => .isFalse id

theorem IsString.text_or_loose {v : Value} (h : v.IsString) :
    (∃ s, v = .text s) ∨ ∃ ps, v = .loose ps := by
  cases v with
  | text s => exact .inl ⟨s, rfl⟩
  | loose ps => exact .inr ⟨ps, rfl⟩
  | _ => exact h.elim

/-- Does a string not come after another one? -/
def upTo (v v' : Value) : Bool :=
  decide (v.points ≤ v'.points)

/-- Strings in ascending order. -/
def inOrder (vs : List Value) : List Value :=
  vs.mergeSort upTo

theorem inOrder_perm (vs : List Value) : (inOrder vs).Perm vs :=
  List.mergeSort_perm vs upTo

theorem ascending_inOrder (vs : List Value) : Sorting.Ascending points (inOrder vs) := by
  refine (List.pairwise_mergeSort ?_ ?_ vs).imp of_decide_eq_true
  · exact fun a b c hab hbc =>
      decide_eq_true ((of_decide_eq_true hab).trans (of_decide_eq_true hbc))
  · intro a b
    rcases le_total a.points b.points with h | h <;> simp [h]

theorem isHalf_toNat (c : Char) : Text.isHalf c.toNat = false := by
  have hvalid : c.toNat < 0xd800 ∨ 0xdfff < c.toNat ∧ c.toNat < 0x110000 := c.valid
  simp only [Text.isHalf, Bool.and_eq_false_iff, decide_eq_false_iff_not]
  omega

/-- Strings with the same code points are the same. -/
theorem eq_of_points_eq {v v' : Value} (hv : v.IsString) (hv' : v'.IsString)
    (h : v.points = v'.points) : v = v' := by
  have apart (s : String) (ps : List Nat) (hps : Text.ofPoints? ps = none) :
      Text.pointsOf s ≠ ps := by
    rintro rfl
    simp [Text.ofPoints?, Text.pointsOf, isHalf_toNat] at hps
  obtain ⟨s, rfl⟩ | ⟨ps, rfl⟩ := hv.text_or_loose
  · obtain ⟨t, rfl⟩ | ⟨qs, rfl⟩ := hv'.text_or_loose
    · have hlist : s.toList = t.toList :=
        List.map_injective_iff.mpr (fun a b hab => Char.toNat_inj.mp hab) h
      rw [String.toList_inj.mp hlist]
    · exact (apart s qs hv' h).elim
  · obtain ⟨t, rfl⟩ | ⟨qs, rfl⟩ := hv'.text_or_loose
    · exact (apart t ps hv h.symm).elim
    · rw [show ps = qs from h]

theorem eq_of_texts? {vs : List Value} {texts : List String} (h : texts? vs = some texts) :
    vs = texts.map .text := by
  induction vs generalizing texts with
  | nil =>
      cases h
      rfl
  | cons v vs ih =>
      cases v with
      | text s =>
          simp only [texts?, List.mapM_cons, Option.bind_eq_bind, Option.bind_some,
            Option.bind_eq_some_iff, Option.pure_def, Option.some.injEq] at h
          obtain ⟨rest, hrest, rfl⟩ := h
          rw [List.map_cons, ih hrest]
      | _ => simp [texts?] at h

/-- Sorted strings are determined by what they are sorted from. -/
theorem eq_inOrder {vs ys : List Value} (hvs : ∀ v ∈ vs, v.IsString) (hperm : ys.Perm vs)
    (hasc : Sorting.Ascending points ys) : ys = inOrder vs := by
  refine (hperm.trans (inOrder_perm vs).symm).eq_of_pairwise ?_ hasc (ascending_inOrder vs)
  intro a b ha hb hab hba
  exact eq_of_points_eq (hvs a (hperm.mem_iff.mp ha)) (hvs b ((inOrder_perm vs).mem_iff.mp hb))
    (le_antisymm hab hba)

end Value

theorem pointsBelow_eq (ps qs : List Nat) : pointsBelow ps qs = decide (ps < qs) := by
  induction ps generalizing qs with
  | nil => cases qs <;> simp [pointsBelow]
  | cons p ps ih =>
      cases qs with
      | nil => simp [pointsBelow]
      | cons q qs =>
          by_cases h : p = q
          · simp [pointsBelow, h, ih]
          · simp [pointsBelow, h, List.cons_lt_cons_iff]

theorem map_toNat_lt_iff (cs ds : List Char) :
    cs.map Char.toNat < ds.map Char.toNat ↔ cs < ds := by
  induction cs generalizing ds with
  | nil => cases ds <;> simp
  | cons c cs ih =>
      cases ds with
      | nil => simp
      | cons d ds =>
          simp only [List.map_cons, List.cons_lt_cons_iff, ih, Char.toNat_inj]
          rfl

theorem Text.pointsOf_le_iff (s t : String) : pointsOf s ≤ pointsOf t ↔ s ≤ t := by
  rw [← not_lt, ← not_lt, String.lt_iff_toList_lt]
  exact not_congr (map_toNat_lt_iff _ _)

namespace World

variable (w : World)

/-- Strings are compared by their code points. -/
theorem below_string {v v' : Value} (hv : v.IsString) (hv' : v'.IsString) :
    w.below v v' = .ok (decide (v.points < v'.points)) := by
  obtain ⟨s, rfl⟩ | ⟨ps, rfl⟩ := hv.text_or_loose
  all_goals
    obtain ⟨t, rfl⟩ | ⟨qs, rfl⟩ := hv'.text_or_loose
    all_goals exact congrArg Except.ok (pointsBelow_eq _ _)

/-- Strings are put in ascending order, whether or not all of them are texts. -/
theorem sortValues_string {vs : List Value} (hvs : ∀ v ∈ vs, v.IsString) :
    w.sortValues vs = .ok (Value.inOrder vs) := by
  unfold sortValues
  cases htexts : Value.texts? vs with
  | some texts =>
      obtain rfl := Value.eq_of_texts? htexts
      refine congrArg Except.ok (Value.eq_inOrder hvs ((Text.sorted_perm texts).map Value.text) ?_)
      exact (Text.pairwise_sorted texts).map Value.text fun s t h =>
        (Text.pointsOf_le_iff s t).mpr (of_decide_eq_true h)
  | none =>
      obtain ⟨ys, hys, hperm, hasc⟩ := Sorting.sortBy_ok (f := Value.points)
        (fun v v' hv hv' => (w.below_string hv hv').trans (by congr)) hvs
      dsimp only
      rw [hys, Value.eq_inOrder hvs hperm hasc]
      rfl

end World

end FragmentWeaver
