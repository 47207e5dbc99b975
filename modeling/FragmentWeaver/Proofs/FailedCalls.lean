import FragmentWeaver.Proofs.Ledger

/-!
# Calls that fail

A call on a store fails when a unit or a name cannot be written, when a name cannot be a key, or
when the names of a unit cannot be sorted. What it leaves is the store as it was, with one
exception: a value that is put under a name that cannot be a key, for a unit without an entry. The
entry is made before the name is refused, and it stays there without values. Entries without values
come from nowhere else.
-/

namespace FragmentWeaver

/-- Nothing changes when a key is given the value that it has. -/
theorem Assoc.put_of_find? {κ α : Type} [DecidableEq κ] {xs : List (κ × α)} {k : κ} {a : α}
    (h : Assoc.find? xs k = some a) : Assoc.put xs k a = xs := by
  induction xs with
  | nil => cases h
  | cons x xs ih =>
      obtain ⟨k', a'⟩ := x
      by_cases hk : k' = k
      · rw [Assoc.find?, if_pos hk] at h
        cases h
        rw [Assoc.put, if_pos hk]
      · rw [Assoc.find?, if_neg hk] at h
        rw [Assoc.put, if_neg hk, ih h]

theorem Assoc.mem_of_mem_put {κ α : Type} [DecidableEq κ] {xs : List (κ × α)} {k : κ} {a : α}
    {e : κ × α} (h : e ∈ Assoc.put xs k a) : e = (k, a) ∨ e ∈ xs := by
  induction xs with
  | nil => exact .inl (List.mem_singleton.mp h)
  | cons x xs ih =>
      rw [Assoc.put] at h
      split at h
      · next hk =>
          rcases List.mem_cons.mp h with rfl | h
          · exact .inl (by rw [hk])
          · exact .inr (List.mem_cons_of_mem _ h)
      · rcases List.mem_cons.mp h with rfl | h
        · exact .inr List.mem_cons_self
        · exact (ih h).imp_right (List.mem_cons_of_mem _)

theorem Assoc.put_ne_nil {κ α : Type} [DecidableEq κ] (xs : List (κ × α)) (k : κ) (a : α) :
    Assoc.put xs k a ≠ [] := by
  intro h
  have := Assoc.find?_put_self xs k a
  rw [h] at this
  cases this

theorem Partition.put_ne_nil (p : Partition) (k : Key) (name value : Value) :
    p.put k name value ≠ [] := by
  unfold Partition.put
  split
  · simp
  · split <;> exact Assoc.put_ne_nil _ _ _

theorem World.key_null (w : World) : w.key .null = .ok [.null] := by
  unfold key keyWithin
  rfl

namespace Store

variable {s : Store} {w : World} {call : StoreCall}

/-- The unit for which a call makes an entry and then puts nothing there. -/
def opened? (s : Store) (w : World) : StoreCall → Option String
  | .put unit name _ =>
      match w.unitName unit, w.key name with
      | .ok u, .error _ => if u ∈ Assoc.keys s.units then none else some u
      | _, _ => none
  | _ => none

/-- The store with an entry without values, for a unit that has none. -/
def withOpened (s : Store) : Option String → Store
  | none => s
  | some u => ⟨s.units ++ [(u, [])]⟩

/-- Every unit that has an entry has values. -/
def Filled (s : Store) : Prop :=
  ∀ e ∈ s.units, e.2 ≠ []

/-- Does none of some calls, made one after the other, make an entry without values? -/
def NeverOpens (s : Store) : List (World × StoreCall) → Prop
  | [] => True
  | (w, call) :: rest => s.opened? w call = none ∧ (s.run w call).2.1.NeverOpens rest

/-- Those of some calls that succeed when all of them are made one after the other. -/
def succeeding (s : Store) : List (World × StoreCall) → List (World × StoreCall)
  | [] => []
  | (w, call) :: rest =>
      let more := (s.run w call).2.1.succeeding rest
      if (s.run w call).1.isOk then (w, call) :: more else more

/-! ### One call -/

theorem opened?_eq_some_iff {u : String} :
    s.opened? w call = some u ↔
      ∃ unit name value e, call = .put unit name value ∧ w.unitName unit = .ok u ∧
        w.key name = .error e ∧ u ∉ Assoc.keys s.units := by
  constructor
  · intro h
    unfold opened? at h
    split at h
    · next unit name value =>
        split at h
        · next u' e hunit hkey =>
            split at h
            · cases h
            · next hnew =>
                cases h
                exact ⟨unit, name, value, e, rfl, hunit, hkey, hnew⟩
        · cases h
    · cases h
  · rintro ⟨unit, name, value, e, rfl, hunit, hkey, hnew⟩
    simp only [opened?, hunit, hkey, if_neg hnew]

/-- A name that cannot be a key leaves an entry for its unit. -/
theorem put_refused {unit : String} {name : Value} {e : Unhashable} (hkey : w.key name = .error e)
    (value : Value) :
    s.put w unit name value =
      (.error (.unhashable e),
        s.withOpened (if unit ∈ Assoc.keys s.units then none else some unit)) := by
  have hnull : name ≠ .null := by
    rintro rfl
    rw [World.key_null] at hkey
    cases hkey
  simp only [put, if_neg hnull, hkey, partition]
  split
  · next hmem =>
      cases hfind : Assoc.find? s.units unit with
      | none => exact absurd hmem ((Assoc.find?_eq_none_iff s.units unit).mp hfind)
      | some p => rw [Option.getD_some, Assoc.put_of_find? hfind]; rfl
  · next hmem =>
      have hfind := (Assoc.find?_eq_none_iff s.units unit).mpr hmem
      rw [hfind, Option.getD_none, Assoc.put_of_find?_none hfind]
      rfl

theorem put_accepted (s : Store) (unit : String) {name : Value} {k : Key}
    (hkey : w.key name = .ok k) (value : Value) : ∃ t, s.put w unit name value = (.ok (), t) := by
  unfold put
  split
  · exact ⟨s, rfl⟩
  · rw [hkey]
    exact ⟨_, rfl⟩

/-- Taking a value changes nothing unless there is one. -/
theorem steal_failed {unit : String} {name : Value} {f : Fault}
    (h : (s.steal w unit name).1 = .error f) : (s.steal w unit name).2 = (s, []) := by
  have hmissing (hm : (missing w unit name).1 = .error f) : (missing w unit name).2 = [] := by
    unfold missing at hm ⊢
    split at hm
    · rfl
    · cases hm
  unfold steal at h ⊢
  split at h
  · exact congrArg (Prod.mk s) (hmissing h)
  · split at h
    · rfl
    · split at h
      · exact congrArg (Prod.mk s) (hmissing h)
      · cases h

/-- A call that fails reports nothing, and leaves at most an entry without values. -/
theorem run_failed {f : Fault} (h : (s.run w call).1 = .error f) :
    (s.run w call).2 = (s.withOpened (s.opened? w call), []) := by
  cases call with
  | put unit name value =>
      simp only [run, opened?] at h ⊢
      split at h
      · cases h
      · next hnull =>
          rw [if_neg hnull]
          cases hunit : w.unitName unit with
          | error g => rfl
          | ok u =>
              simp only [hunit] at h
              cases hkey : w.key name with
              | error e => simp only [put_refused hkey]
              | ok k =>
                  obtain ⟨t, ht⟩ := put_accepted s u hkey value
                  rw [ht] at h
                  cases h
  | steal unit name =>
      simp only [run, opened?] at h ⊢
      cases hunit : w.unitName unit with
      | error g => rfl
      | ok u =>
          simp only [hunit] at h
          cases hsteal : (s.steal w u name).1 with
          | error g => exact steal_failed hsteal
          | ok v =>
              rw [hsteal] at h
              cases h
  | discard unit =>
      simp only [run, opened?] at h ⊢
      cases hunit : w.unitName unit with
      | error g => rfl
      | ok u =>
          rw [hunit] at h
          cases h
  | pending unit =>
      simp only [run, opened?]
      split
      · rfl
      · split <;> rfl
  | clear => cases h
  | size => cases h

theorem run_refused {u : String} {unit name : Value} {e : Unhashable}
    (hunit : w.unitName unit = .ok u) (hkey : w.key name = .error e) (value : Value) :
    (s.run w (.put unit name value)).1 = .error (.unhashable e) := by
  have hnull : name ≠ .null := by
    rintro rfl
    rw [World.key_null] at hkey
    cases hkey
  simp only [run, if_neg hnull, hunit, put_refused hkey]
  rfl

/-- What makes an entry without values fails. -/
theorem run_opened {u : String} (h : s.opened? w call = some u) :
    ∃ e, (s.run w call).1 = .error (.unhashable e) := by
  obtain ⟨unit, name, value, e, rfl, hunit, hkey, -⟩ := opened?_eq_some_iff.mp h
  exact ⟨e, run_refused hunit hkey value⟩

theorem withOpened_eq_iff {o : Option String} : s.withOpened o = s ↔ o = none := by
  cases o with
  | none => exact ⟨fun _ => rfl, fun _ => rfl⟩
  | some u =>
      refine ⟨fun h => ?_, nofun⟩
      have := congrArg (fun t : Store => t.units.length) h
      simp [withOpened] at this

theorem withOpened_filled_iff (hs : s.Filled) {o : Option String} :
    (s.withOpened o).Filled ↔ o = none := by
  cases o with
  | none => exact ⟨fun _ => rfl, fun _ => hs⟩
  | some u =>
      exact ⟨fun h => absurd rfl (h (u, []) (List.mem_append_right _ List.mem_cons_self)), nofun⟩

/-! ### What is seen of an entry without values -/

section

variable {u : String}

theorem size_withOpened : (s.withOpened (some u)).size = s.size := by
  simp [withOpened, size, List.foldr_append]

theorem partition_withOpened (unit : String) :
    (s.withOpened (some u)).partition unit = s.partition unit := by
  simp only [withOpened, partition, Assoc.find?_append]
  cases Assoc.find? s.units unit with
  | some p => rfl
  | none => simp only [Option.none_or, Assoc.find?]; split <;> rfl

theorem pendingOf_withOpened (w : World) (unit : String) :
    (s.withOpened (some u)).pendingOf w unit = s.pendingOf w unit := by
  rw [pendingOf, pendingOf, partition_withOpened]

/-- The entry is listed, after all others and without names. -/
theorem pending_withOpened (w : World) :
    (s.withOpened (some u)).pending w = (s.pending w).map (· ++ [(u, [])]) := by
  have hlast : w.sortValues (Partition.names []) = .ok [] := rfl
  simp only [pending, withOpened, List.mapM_append, List.mapM_cons, List.mapM_nil, hlast]
  cases List.mapM (m := Except Fault) (fun e : String × Partition => do
    return (e.1, ← w.sortValues e.2.names)) s.units <;> rfl

end

/-! ### Entries without values -/

theorem Filled.put (hs : s.Filled) {unit : String} {p : Partition} (hp : p ≠ []) :
    Filled ⟨Assoc.put s.units unit p⟩ := by
  intro e he
  rcases Assoc.mem_of_mem_put he with rfl | he
  · exact hp
  · exact hs e he

theorem Filled.erase (hs : s.Filled) (unit : String) : Filled ⟨Assoc.erase s.units unit⟩ :=
  fun e he => hs e (List.mem_of_mem_filter he)

theorem Filled.steal (hs : s.Filled) (w : World) (unit : String) (name : Value) :
    (s.steal w unit name).2.1.Filled := by
  unfold Store.steal
  split
  · exact hs
  · split
    · exact hs
    · split
      · exact hs
      · dsimp only
        split
        · exact hs.erase unit
        · next hrest => exact hs.put (by simpa using hrest)

/-- A call that succeeds leaves an entry for no unit without values. -/
theorem Filled.run_ok (hs : s.Filled) {a : StoreAnswer} (h : (s.run w call).1 = .ok a) :
    (s.run w call).2.1.Filled := by
  cases call with
  | put unit name value =>
      simp only [run] at h ⊢
      split
      · exact hs
      · next hnull =>
          rw [if_neg hnull] at h
          cases hunit : w.unitName unit with
          | error g => exact hs
          | ok u =>
              simp only [hunit] at h
              cases hkey : w.key name with
              | error e =>
                  rw [put_refused hkey] at h
                  cases h
              | ok k =>
                  simp only [Store.put, if_neg hnull, hkey]
                  exact hs.put (Partition.put_ne_nil _ k name value)
  | steal unit name =>
      simp only [run]
      split
      · exact hs
      · exact hs.steal w _ name
  | discard unit =>
      simp only [run]
      split
      · exact hs
      · exact hs.erase _
  | pending unit =>
      simp only [run]
      split
      · exact hs
      · split <;> exact hs
  | clear =>
      intro e he
      cases he
  | size => exact hs

/-- One call: every unit with an entry still has values, unless the call makes an entry without. -/
theorem Filled.run_iff (hs : s.Filled) :
    (s.run w call).2.1.Filled ↔ s.opened? w call = none := by
  cases hrun : (s.run w call).1 with
  | error f => rw [run_failed hrun, withOpened_filled_iff hs]
  | ok a =>
      refine iff_of_true (hs.run_ok hrun) ?_
      cases hopened : s.opened? w call with
      | none => rfl
      | some u =>
          obtain ⟨e, he⟩ := run_opened hopened
          rw [hrun] at he
          cases he

variable {calls : List (World × StoreCall)}

/-- Every unit with an entry has values through a run in which no call makes one without. -/
theorem Filled.runAll (hs : s.Filled) (h : s.NeverOpens calls) :
    (StoreCall.runAll run s calls).2.Filled := by
  induction calls generalizing s with
  | nil => exact hs
  | cons c calls ih => exact ih (hs.run_iff.mpr h.1) h.2

/-- In such a run it is as if the calls that fail had not been made. -/
theorem runAll_succeeding (h : s.NeverOpens calls) :
    StoreCall.runAll run s (s.succeeding calls) =
      ((StoreCall.runAll run s calls).1.filter (·.1.isOk), (StoreCall.runAll run s calls).2) := by
  induction calls generalizing s with
  | nil => rfl
  | cons c calls ih =>
      obtain ⟨w, call⟩ := c
      have hrest := ih h.2
      simp only [succeeding, StoreCall.runAll]
      cases hrun : (s.run w call).1 with
      | ok a =>
          rw [if_pos (by rfl), List.filter_cons_of_pos (by rfl)]
          simp only [StoreCall.runAll, hrun, hrest]
      | error f =>
          have hsame : (s.run w call).2.1 = s := by rw [run_failed hrun, h.1]; rfl
          rw [if_neg (by simp [Except.isOk, Except.toBool]),
            List.filter_cons_of_neg (by simp [Except.isOk, Except.toBool])]
          rw [hsame] at hrest ⊢
          exact hrest

/-- A call that fails, after any calls on a store that starts empty. It reports nothing, and the
    store is what it was, unless the call makes an entry without values: that of a unit without an
    entry, for a name that cannot be a key. Then this entry comes behind the others; it is listed,
    but nothing is counted or found for it. As long as no call does so, no unit stands there without
    values, and a run is answered and leaves what its successful calls alone do. -/
theorem failed_calls_leave {f : Fault}
    (hfail : ((StoreCall.runAll run {} calls).2.run w call).1 = .error f) :
    let s := (StoreCall.runAll run {} calls).2
    let t := (s.run w call).2.1
    (s.run w call).2.2 = [] ∧ (t = s ↔ s.opened? w call = none) ∧
      (∀ u, s.opened? w call = some u →
        (∃ unit name value e, call = .put unit name value ∧ w.unitName unit = .ok u ∧
          w.key name = .error e ∧ u ∉ Assoc.keys s.units ∧ f = .unhashable e) ∧
        t.units = s.units ++ [(u, [])] ∧ t.size = s.size ∧
        (∀ w' unit, t.pendingOf w' unit = s.pendingOf w' unit) ∧
        ∀ w', t.pending w' = (s.pending w').map (· ++ [(u, [])])) ∧
      (({} : Store).NeverOpens calls →
        s.Filled ∧ (t.Filled ↔ t = s) ∧
        StoreCall.runAll run {} (({} : Store).succeeding calls) =
          ((StoreCall.runAll run {} calls).1.filter (·.1.isOk), s)) := by
  intro s t
  have hleft : (s.run w call).2 = (s.withOpened (s.opened? w call), []) := run_failed hfail
  have ht : t = s.withOpened (s.opened? w call) := congrArg Prod.fst hleft
  refine ⟨congrArg Prod.snd hleft, ht ▸ withOpened_eq_iff, fun u hu => ?_, fun hnever => ?_⟩
  · rw [hu] at ht
    obtain ⟨unit, name, value, e, rfl, hunit, hkey, hnew⟩ := opened?_eq_some_iff.mp hu
    have hf : f = .unhashable e :=
      Except.error.inj (hfail.symm.trans (run_refused hunit hkey value))
    refine ⟨⟨unit, name, value, e, rfl, hunit, hkey, hnew, hf⟩, ?_, ?_, ?_, ?_⟩
    · rw [ht]; rfl
    · rw [ht, size_withOpened]
    · intro w' unit'
      rw [ht, pendingOf_withOpened]
    · intro w'
      rw [ht, pending_withOpened]
  · have hs : s.Filled := Filled.runAll (fun e he => nomatch he) hnever
    refine ⟨hs, ?_, runAll_succeeding hnever⟩
    rw [hs.run_iff, ht, withOpened_eq_iff]

/-- A world with one object, an empty list. -/
def listWorld : World :=
  { heap := #[.items []] }

def oneStaged : List (World × StoreCall) :=
  [({}, .put (.text "woven.gen1") (.text "a") (.whole 1))]

/-- A list is given as the name of a value, for a unit without an entry. -/
def listNamed : StoreCall :=
  .put (.text "woven.gen2") (.object 0 .list) (.whole 2)

theorem failed_calls_leave_listNamed :
    let s := (StoreCall.runAll run {} oneStaged).2
    let t := (s.run listWorld listNamed).2.1
    t ≠ s ∧ t.size = s.size ∧
      t.units = [("woven.gen1", [([.text "a"], ⟨.text "a", .whole 1⟩)]), ("woven.gen2", [])] := by
  have hfail : ((StoreCall.runAll run {} oneStaged).2.run listWorld listNamed).1 =
      .error (.unhashable (.ofClass "list")) := rfl
  have hopened : (StoreCall.runAll run {} oneStaged).2.opened? listWorld listNamed =
      some "woven.gen2" := by
    decide +kernel
  obtain ⟨-, hsame, hleft, -⟩ := failed_calls_leave hfail
  obtain ⟨-, hunits, hsize, -⟩ := hleft _ hopened
  refine ⟨fun h => ?_, hsize, hunits⟩
  rw [hsame.mp h] at hopened
  cases hopened

end Store

end FragmentWeaver
