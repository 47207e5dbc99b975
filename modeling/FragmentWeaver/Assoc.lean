/-!
# Association lists

Lists of keys and values in the order in which the keys first came. Putting a value under a key that
is already there keeps the key's place.
-/

namespace FragmentWeaver.Assoc

variable {κ α : Type} [DecidableEq κ]

/-- The value under a key. -/
def find? (xs : List (κ × α)) (k : κ) : Option α :=
  match xs with
  | [] => none
  | (k', a) :: rest => if k' = k then some a else find? rest k

/-- Put a value under a key: in the key's place, or at the end. -/
def put (xs : List (κ × α)) (k : κ) (a : α) : List (κ × α) :=
  match xs with
  | [] => [(k, a)]
  | (k', a') :: rest => if k' = k then (k', a) :: rest else (k', a') :: put rest k a

/-- Drop a key with its value. -/
def erase (xs : List (κ × α)) (k : κ) : List (κ × α) :=
  xs.filter fun (k', _) => k' ≠ k

/-- The keys, in order. -/
def keys (xs : List (κ × α)) : List κ :=
  xs.map Prod.fst

/-- Put several entries, one after the other. -/
def putAll (xs : List (κ × α)) (more : List (κ × α)) : List (κ × α) :=
  more.foldl (fun acc (k, a) => put acc k a) xs

@[simp]
theorem find?_nil (k : κ) : find? ([] : List (κ × α)) k = none := rfl

@[simp]
theorem find?_put_self (xs : List (κ × α)) (k : κ) (a : α) : find? (put xs k a) k = some a := by
  induction xs with
  | nil => simp [put, find?]
  | cons x xs ih =>
      obtain ⟨k', a'⟩ := x
      by_cases h : k' = k <;> simp [put, find?, h, ih]

theorem find?_put_of_ne {k k' : κ} (h : k' ≠ k) (xs : List (κ × α)) (a : α) :
    find? (put xs k a) k' = find? xs k' := by
  induction xs with
  | nil => simp [put, find?, Ne.symm h]
  | cons x xs ih =>
      obtain ⟨k₀, a₀⟩ := x
      by_cases h₀ : k₀ = k
      · subst h₀
        simp [put, find?, Ne.symm h]
      · by_cases h₁ : k₀ = k'
        · subst h₁
          simp [put, find?, h₀]
        · simp [put, find?, h₀, h₁, ih]

@[simp]
theorem find?_erase_self (xs : List (κ × α)) (k : κ) : find? (erase xs k) k = none := by
  induction xs with
  | nil => rfl
  | cons x xs ih =>
      obtain ⟨k', a'⟩ := x
      by_cases h : k' = k <;> simp_all [erase, find?]

theorem find?_erase_of_ne {k k' : κ} (h : k' ≠ k) (xs : List (κ × α)) :
    find? (erase xs k) k' = find? xs k' := by
  induction xs with
  | nil => rfl
  | cons x xs ih =>
      obtain ⟨k₀, a₀⟩ := x
      by_cases h₀ : k₀ = k
      · subst h₀
        have hne : k₀ ≠ k' := Ne.symm h
        simp_all [erase, find?]
      · by_cases h₁ : k₀ = k' <;> simp_all [erase, find?]

theorem find?_append (xs ys : List (κ × α)) (k : κ) :
    find? (xs ++ ys) k = (find? xs k).or (find? ys k) := by
  induction xs with
  | nil => rfl
  | cons x xs ih =>
      obtain ⟨k', a⟩ := x
      by_cases h : k' = k <;> simp [find?, h, ih]

/-- What is put under a key passes by entries without the key. -/
theorem put_append {xs : List (κ × α)} {k : κ} (h : find? xs k = none) (ys : List (κ × α))
    (a : α) : put (xs ++ ys) k a = xs ++ put ys k a := by
  induction xs with
  | nil => rfl
  | cons x xs ih =>
      obtain ⟨k', a'⟩ := x
      by_cases hk : k' = k
      · simp [find?, hk] at h
      · simp [find?, hk] at h
        simp [put, hk, ih h]

/-- A key that is not there yet comes last. -/
theorem put_of_find?_none {xs : List (κ × α)} {k : κ} (h : find? xs k = none) (a : α) :
    put xs k a = xs ++ [(k, a)] := by
  simpa [put] using put_append h [] a

theorem erase_of_find?_none {xs : List (κ × α)} {k : κ} (h : find? xs k = none) :
    erase xs k = xs := by
  induction xs with
  | nil => rfl
  | cons x xs ih =>
      obtain ⟨k', a⟩ := x
      by_cases hk : k' = k
      · simp [find?, hk] at h
      · simp [find?, hk] at h
        rw [erase, List.filter_cons_of_pos (by simpa using hk)]
        exact congrArg _ (ih h)

theorem erase_cons_self (xs : List (κ × α)) (k : κ) (a : α) :
    erase ((k, a) :: xs) k = erase xs k :=
  List.filter_cons_of_neg (by simp)

/-- After several puts a key has the value that was put last, if one was. -/
theorem find?_putAll (xs more : List (κ × α)) (k : κ) :
    find? (putAll xs more) k = (find? more.reverse k).or (find? xs k) := by
  induction more generalizing xs with
  | nil => rfl
  | cons x more ih =>
      obtain ⟨k', a⟩ := x
      rw [putAll, List.foldl_cons, ← putAll, ih, List.reverse_cons, find?_append, Option.or_assoc]
      congr 1
      by_cases h : k' = k
      · subst h
        simp [find?]
      · simp [find?, h, find?_put_of_ne (Ne.symm h)]

theorem putAll_append (xs more others : List (κ × α)) :
    putAll xs (more ++ others) = putAll (putAll xs more) others :=
  List.foldl_append

theorem mem_of_find? {xs : List (κ × α)} {k : κ} {a : α} (h : find? xs k = some a) :
    (k, a) ∈ xs := by
  induction xs with
  | nil => cases h
  | cons x xs ih =>
      obtain ⟨k', a'⟩ := x
      rw [find?] at h
      split at h
      · next hk =>
          cases h
          rw [hk]
          exact List.mem_cons_self
      · exact List.mem_cons_of_mem _ (ih h)

omit [DecidableEq κ] in
theorem mem_keys {xs : List (κ × α)} {k : κ} {a : α} (h : (k, a) ∈ xs) : k ∈ keys xs :=
  List.mem_map.mpr ⟨(k, a), h, rfl⟩

theorem find?_eq_none_iff (xs : List (κ × α)) (k : κ) : find? xs k = none ↔ k ∉ keys xs := by
  induction xs with
  | nil => simp [keys]
  | cons x xs ih =>
      obtain ⟨k', a⟩ := x
      by_cases h : k' = k
      · simp [find?, keys, h]
      · simpa [find?, keys, h, Ne.symm h] using ih

/-- A selection that leaves a key out does not see what is put under it. -/
theorem filter_put {p : κ × α → Bool} {k : κ} (h : ∀ a, p (k, a) = false) (xs : List (κ × α))
    (a : α) : (put xs k a).filter p = xs.filter p := by
  induction xs with
  | nil => simp [put, h]
  | cons x xs ih =>
      obtain ⟨k', a'⟩ := x
      by_cases hk : k' = k
      · subst hk
        simp [put, h]
      · simp [put, hk, List.filter_cons, ih]

/-- A selection that leaves a key out does not see that the key is dropped. -/
theorem filter_erase {p : κ × α → Bool} {k : κ} (h : ∀ a, p (k, a) = false)
    (xs : List (κ × α)) : (erase xs k).filter p = xs.filter p := by
  rw [erase, List.filter_filter]
  apply List.filter_congr
  rintro ⟨k', a⟩ -
  by_cases hk : k' = k
  · subst hk
    simp [h]
  · simp [hk]

/-! ### Lists in which every key comes once -/

theorem keys_erase (xs : List (κ × α)) (k : κ) : keys (erase xs k) = (keys xs).filter (· ≠ k) := by
  simp [keys, erase, List.filter_map, Function.comp_def]

theorem keys_put (xs : List (κ × α)) (k : κ) (a : α) :
    keys (put xs k a) = if k ∈ keys xs then keys xs else keys xs ++ [k] := by
  induction xs with
  | nil => rfl
  | cons x xs ih =>
      obtain ⟨k', a'⟩ := x
      by_cases h : k' = k
      · simp [put, keys, h]
      · simp only [keys, put, h, if_false, List.map_cons, List.mem_cons, Ne.symm h, false_or]
          at ih ⊢
        by_cases hmem : k ∈ List.map Prod.fst xs <;> simp [ih, hmem]

theorem nodup_keys_erase {xs : List (κ × α)} (h : (keys xs).Nodup) (k : κ) :
    (keys (erase xs k)).Nodup := by
  rw [keys_erase]
  exact h.filter _

theorem nodup_keys_put {xs : List (κ × α)} (h : (keys xs).Nodup) (k : κ) (a : α) :
    (keys (put xs k a)).Nodup := by
  rw [keys_put]
  split
  · exact h
  · next hk =>
      rw [List.nodup_append]
      refine ⟨h, by simp, ?_⟩
      rintro k' hk' _ hmem rfl
      exact hk (List.mem_singleton.mp hmem ▸ hk')

theorem find?_of_mem {xs : List (κ × α)} (h : (keys xs).Nodup) {k : κ} {a : α}
    (hmem : (k, a) ∈ xs) : find? xs k = some a := by
  induction xs with
  | nil => cases hmem
  | cons x xs ih =>
      obtain ⟨k', a'⟩ := x
      rw [keys, List.map_cons, List.nodup_cons] at h
      rcases List.mem_cons.mp hmem with heq | hmem
      · cases heq
        simp [find?]
      · have hne : k' ≠ k := fun heq => h.1 (heq ▸ mem_keys hmem)
        simpa [find?, hne] using ih h.2 hmem

/-- The order of the entries does not matter for what is found. -/
theorem find?_perm {xs ys : List (κ × α)} (h : (keys xs).Nodup) (hperm : xs.Perm ys) (k : κ) :
    find? xs k = find? ys k := by
  have hys : (keys ys).Nodup := (hperm.map Prod.fst).nodup_iff.mp h
  cases hfind : find? ys k with
  | some a => exact find?_of_mem h (hperm.mem_iff.mpr (mem_of_find? hfind))
  | none =>
      rw [find?_eq_none_iff] at hfind ⊢
      exact fun hk => hfind ((hperm.map Prod.fst).mem_iff.mp hk)

/-- An entry that is there can be brought to the front. -/
theorem perm_of_find? {xs : List (κ × α)} (h : (keys xs).Nodup) {k : κ} {a : α}
    (hfind : find? xs k = some a) : xs.Perm ((k, a) :: erase xs k) := by
  induction xs with
  | nil => cases hfind
  | cons x xs ih =>
      obtain ⟨k', a'⟩ := x
      rw [keys, List.map_cons, List.nodup_cons] at h
      by_cases hk : k' = k
      · subst hk
        have hrest : find? xs k' = none := (find?_eq_none_iff xs k').mpr h.1
        rw [find?, if_pos rfl] at hfind
        cases hfind
        rw [erase_cons_self, erase_of_find?_none hrest]
      · rw [find?, if_neg hk] at hfind
        rw [erase, List.filter_cons_of_pos (by simpa using hk)]
        exact ((ih h.2 hfind).cons _).trans (.swap _ _ _)

/-- What is put under a key comes beside what stands under the other keys. -/
theorem put_perm {xs : List (κ × α)} (h : (keys xs).Nodup) (k : κ) (a : α) :
    (put xs k a).Perm ((k, a) :: erase xs k) := by
  have herase : erase (put xs k a) k = erase xs k := filter_put (by simp) xs a
  rw [← herase]
  exact perm_of_find? (nodup_keys_put h k a) (find?_put_self xs k a)

end FragmentWeaver.Assoc
