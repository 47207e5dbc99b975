import FragmentWeaver.Descriptor.NestedList
import Mathlib.Data.Finset.Card
import Mathlib.Data.Finset.Range

/-!
# Reading nested lists ends by itself

The rounds of reading a nested list are counted, but the count never decides anything. Every round
that goes on has seen a list whose place was not seen before, and there are no more places than the
heap has; more rounds than that give the same answer.
-/

namespace FragmentWeaver.Heap

variable {h : Heap}

/-- The places of the heap that have not been seen yet. -/
def unseen (h : Heap) (seen : List Address) : Finset Address :=
  Finset.range h.size \ seen.toFinset

theorem mem_unseen {seen : List Address} {a : Address} :
    a ∈ h.unseen seen ↔ a < h.size ∧ a ∉ seen := by
  simp [unseen]

/-- A place from which items are read lies on the heap. -/
theorem place_lt {a : Address} (hitems : h.items a ≠ []) : a < h.size := by
  by_contra hge
  rw [Nat.not_lt] at hge
  apply hitems
  unfold items
  rw [Array.getElem?_eq_none hge]

theorem isList_place {v : Value} (hlist : v.isList = true) :
    ∃ a, v = .object a .list := by
  cases v with
  | object a c =>
      have hc : c = .list := by simpa [Value.isList] using hlist
      exact ⟨a, by rw [hc]⟩
  | _ => simp [Value.isList] at hlist

theorem mem_places {a : Address} {c : ClassId} {level : List Value}
    (hmem : Value.object a c ∈ level) : a ∈ Value.places level :=
  List.mem_filterMap.mpr ⟨_, hmem, rfl⟩

/-- A level of lists, none empty and none seen before, leaves fewer places unseen. -/
theorem unseen_lt {seen : List Address} {level : List Value} (hlevel : level ≠ [])
    (hlists : level.all Value.isList = true)
    (hitems : (level.any fun v => (h.itemsOf v).isEmpty) = false)
    (hfresh : (Value.places level).any seen.contains = false) :
    (h.unseen (seen ++ Value.places level)).card < (h.unseen seen).card := by
  obtain ⟨v, hv⟩ := List.exists_mem_of_ne_nil level hlevel
  obtain ⟨a, rfl⟩ := isList_place (List.all_eq_true.mp hlists v hv)
  have hplace := mem_places hv
  have hnew : a ∉ seen := by
    have hany := List.any_eq_false.mp hfresh a hplace
    simpa using hany
  have hheap : a < h.size := by
    apply place_lt
    have hany := List.any_eq_false.mp hitems _ hv
    simpa [itemsOf] using hany
  apply Finset.card_lt_card
  rw [Finset.ssubset_iff_of_subset]
  · exact ⟨a, mem_unseen.mpr ⟨hheap, hnew⟩, fun hmem =>
      (mem_unseen.mp hmem).2 (List.mem_append_right seen hplace)⟩
  · intro b hb
    rw [mem_unseen] at hb ⊢
    exact ⟨hb.1, fun hseen => hb.2 (List.mem_append_left _ hseen)⟩

/-- Two counts of rounds that exceed the places still unseen give the same answer. -/
theorem levels_congr {n m depth : Nat} {seen : List Address} {level : List Value}
    (hlevel : level ≠ []) (hn : (h.unseen seen).card < n) (hm : (h.unseen seen).card < m) :
    h.levels n depth seen level = h.levels m depth seen level := by
  induction n generalizing m depth seen level with
  | zero => exact absurd hn (Nat.not_lt_zero _)
  | succ n ih =>
      cases m with
      | zero => exact absurd hm (Nat.not_lt_zero _)
      | succ m =>
          unfold levels
          by_cases hlists : level.all Value.isList = true
          · rw [if_pos hlists, if_pos hlists]
            dsimp only
            by_cases hitems : (level.any fun v => (h.itemsOf v).isEmpty) = true
            · rw [if_pos hitems, if_pos hitems]
            · rw [if_neg hitems, if_neg hitems]
              by_cases hfresh : (Value.places level).any seen.contains = true
              · rw [if_pos hfresh, if_pos hfresh]
              · rw [if_neg hfresh, if_neg hfresh]
                have hless := unseen_lt hlevel hlists (Bool.eq_false_iff.mpr hitems)
                  (Bool.eq_false_iff.mpr hfresh)
                refine ih ?_ (by omega) (by omega)
                -- No list of the level is empty, so the next level has something in it.
                obtain ⟨v, hv⟩ := List.exists_mem_of_ne_nil level hlevel
                intro hnone
                rw [List.flatMap_eq_nil_iff] at hnone
                apply hitems
                exact List.any_eq_true.mpr ⟨v, hv, by rw [hnone v hv]; rfl⟩
          · rw [if_neg hlists, if_neg hlists]

/-- However many rounds there are beyond the places of the heap, what is known of a nested list is the
    same. -/
theorem nestedList_eq_levels {rounds : Nat} (hrounds : h.size < rounds) (v : Value) :
    h.levels rounds 0 [] [v] = h.nestedList v := by
  have hcard : (h.unseen []).card = h.size := by simp [unseen]
  exact levels_congr (List.cons_ne_nil v []) (by omega) (by omega)

end FragmentWeaver.Heap
