import FragmentWeaver.Binding.Call
import FragmentWeaver.Proofs.Staged
import FragmentWeaver.Proofs.Sorting
import Mathlib.Data.List.Dedup

/-!
# The store as one map

A ledger keeps the bindings of all units in one finite map with a unit and a name for a key. Beside
the map it notes by which call a unit last went from no bindings to some. A store that starts empty
answers and reports like a ledger through every run of calls, and holds the same bindings all the
time; the partitions that it makes and drops on the way are never empty.
-/

namespace FragmentWeaver

/-- The bindings of all units. The keys are units with names; of every unit it is known by which call
    it last went from no bindings to some. -/
structure Ledger where
  entries : List ((String × Value) × Value) := []
  since : String → Nat := fun _ => 0
  clock : Nat := 0

/-- A string as messages show it. -/
def Value.told : Value → String
  | .text s => s
  | .loose ps => Text.tellPoints ps
  | _ => ""

namespace Ledger

/-- The bindings of a unit. -/
def ofUnit (l : Ledger) (unit : String) : List ((String × Value) × Value) :=
  l.entries.filter fun (k, _) => k.1 = unit

/-- The names that are bound for a unit, sorted. -/
def names (l : Ledger) (unit : String) : List Value :=
  Value.inOrder ((l.ofUnit unit).map fun (k, _) => k.2)

/-- The units that have bindings, in the order in which they last came to have some. -/
def units (l : Ledger) : List String :=
  ((l.entries.map fun (k, _) => k.1).dedup).mergeSort fun u v => decide (l.since u ≤ l.since v)

/-- Bind a name for a unit. -/
def put (l : Ledger) (unit : String) (name value : Value) : Ledger :=
  { l with
    entries := Assoc.put l.entries (unit, name) value
    since := if l.ofUnit unit = [] then fun u => if u = unit then l.clock else l.since u else l.since }

/-- What is reported when a name that is not bound is asked for. -/
def warning (unit : String) (name : Value) : LogRecord :=
  ⟨.warning, "codeweave.bindings",
    "No binding '" ++ name.told ++ "' for unit '" ++ unit ++ "'"⟩

/-- Answer a call. -/
def answer (l : Ledger) (w : World) : StoreCall → Except Fault StoreAnswer × Ledger × List LogRecord
  | .put unit name value =>
      if name = .null then (.ok .done, l, [])
      else
        match w.unitName unit with
        | .error f => (.error f, l, [])
        | .ok u => (.ok .done, l.put u name value, [])
  | .steal unit name =>
      match w.unitName unit with
      | .error f => (.error f, l, [])
      | .ok u =>
          match Assoc.find? l.entries (u, name) with
          | some v => (.ok (.value v), { l with entries := Assoc.erase l.entries (u, name) }, [])
          | none => (.ok (.value .missing), l, [warning u name])
  | .discard unit =>
      match w.unitName unit with
      | .error f => (.error f, l, [])
      | .ok u =>
          (.ok (.count (l.ofUnit u).length),
            { l with entries := l.entries.filter fun (k, _) => k.1 ≠ u }, [])
  | .pending unit =>
      if unit = .null then (.ok (.names (l.units.map fun u => (u, l.names u))), l, [])
      else
        match w.unitName unit with
        | .error f => (.error f, l, [])
        | .ok u => (.ok (.names [(u, l.names u)]), l, [])
  | .clear => (.ok .done, { l with entries := [] }, [])
  | .size => (.ok (.count l.entries.length), l, [])

/-- Carry out an operation, as the next of all calls. -/
def run (l : Ledger) (w : World) (call : StoreCall) :
    Except Fault StoreAnswer × Ledger × List LogRecord :=
  let (r, l, log) := l.answer w call
  (r, { l with clock := l.clock + 1 }, log)

end Ledger

namespace StoreCall

/-- Are the names of the call strings, where no name at all is good for a put? -/
def NamesStrings : StoreCall → Prop
  | .put _ name _ => name = .null ∨ name.IsString
  | .steal _ name => name.IsString
  | _ => True

instance : DecidablePred NamesStrings
  | .put _ name _ => inferInstanceAs (Decidable (name = .null ∨ name.IsString))
  | .steal _ name => inferInstanceAs (Decidable name.IsString)
  | .discard _ | .pending _ | .clear | .size => .isTrue trivial

/-- Make calls one after the other: what each of them answers and reports, and what they leave. -/
def runAll {σ : Type}
    (run : σ → World → StoreCall → Except Fault StoreAnswer × σ × List LogRecord) (s : σ) :
    List (World × StoreCall) → List (Except Fault StoreAnswer × List LogRecord) × σ
  | [] => ([], s)
  | (w, call) :: rest =>
      let (r, s, log) := run s w call
      let (answers, s) := runAll run s rest
      ((r, log) :: answers, s)

end StoreCall

namespace World

variable {w : World}

/-- A string is looked up by itself. -/
theorem key_string {name : Value} (h : name.IsString) :
    ∃ k, w.key name = .ok k ∧ name.plainKey? = some k ∧ k.isLoose = false := by
  obtain ⟨s, rfl⟩ | ⟨ps, rfl⟩ := h.text_or_loose
  · exact ⟨[.text s], key_text s, rfl, rfl⟩
  · refine ⟨[.loose ps], ?_, rfl, rfl⟩
    unfold key keyWithin
    rfl

theorem shown_string {name : Value} (h : name.IsString) : w.shown name = .ok name.told := by
  obtain ⟨s, rfl⟩ | ⟨ps, rfl⟩ := h.text_or_loose
  all_goals
    unfold shown shownWithin
    rfl

end World

/-- Strings with the same key are the same. -/
theorem Value.eq_of_plainKey? {v v' : Value} (hv : v.IsString) (hv' : v'.IsString)
    (h : v.plainKey? = v'.plainKey?) : v = v' := by
  obtain ⟨s, rfl⟩ | ⟨ps, rfl⟩ := hv.text_or_loose
  all_goals
    obtain ⟨t, rfl⟩ | ⟨qs, rfl⟩ := hv'.text_or_loose
    all_goals
      simp only [plainKey?, Option.some.injEq, List.cons.injEq, and_true] at h
      cases h
  all_goals rfl

namespace Partition

/-- The entries of a partition as those of a unit in a ledger. -/
def entries (unit : String) (p : Partition) : List ((String × Value) × Value) :=
  p.map fun (_, staged) => ((unit, staged.name), staged.value)

/-- Every name of a partition is a string that stands there once, under its key. -/
structure Keyed (p : Partition) : Prop where
  string : ∀ e ∈ p, e.2.name.IsString
  keyed : ∀ e ∈ p, e.2.name.plainKey? = some e.1
  nodup : (Assoc.keys p).Nodup

/-- What the partition of a unit is like: its names are keyed, and there is one at least. -/
structure Tidy (p : Partition) : Prop extends Keyed p where
  nonempty : p ≠ []

theorem find?_nil (k : Key) : find? [] k = none := by
  unfold find?
  split <;> rfl

theorem Keyed.nil : Keyed [] :=
  ⟨by simp, by simp, List.nodup_nil⟩

section

variable {p : Partition} {name : Value} {k : Key} (hp : p.Keyed) (hname : name.IsString)
  (hk : name.plainKey? = some k)

include hp

theorem Keyed.erase (k : Key) : Keyed (Assoc.erase p k) :=
  ⟨fun e he => hp.string e (List.mem_of_mem_filter he),
    fun e he => hp.keyed e (List.mem_of_mem_filter he), Assoc.nodup_keys_erase hp.nodup k⟩

include hname hk

/-- A name stands under its own key and under no other one. -/
theorem Keyed.key_eq_iff {e : Key × Staged} (he : e ∈ p) : e.1 = k ↔ e.2.name = name := by
  constructor
  · intro heq
    exact Value.eq_of_plainKey? (hp.string e he) hname ((hp.keyed e he).trans (heq ▸ hk.symm))
  · intro heq
    exact Option.some.inj ((hp.keyed e he).symm.trans (heq ▸ hk))

theorem Keyed.entries_erase (unit : String) :
    entries unit (Assoc.erase p k) = Assoc.erase (entries unit p) (unit, name) := by
  rw [entries, entries, Assoc.erase, Assoc.erase, List.filter_map]
  congr 1
  apply List.filter_congr
  intro e he
  simp [hp.key_eq_iff hname hk he]

theorem Keyed.find?_entries (hloose : k.isLoose = false) (unit : String) :
    p.find? k = Assoc.find? (entries unit p) (unit, name) := by
  rw [Partition.find?, hloose, if_neg Bool.false_ne_true]
  have hiff : ∀ e ∈ p, e.1 = k ↔ e.2.name = name := fun e he => hp.key_eq_iff hname hk he
  clear hp
  induction p with
  | nil => rfl
  | cons e p ih =>
      have hhead := hiff e List.mem_cons_self
      have ih := ih fun e he => hiff e (List.mem_cons_of_mem _ he)
      by_cases h : e.1 = k
      · simp [Assoc.find?, entries, h, hhead.mp h]
      · simpa [Assoc.find?, entries, h, mt hhead.mpr h] using ih

/-- A string keeps its spelling when it is put again. -/
theorem Keyed.put_eq (hloose : k.isLoose = false) (value : Value) :
    p.put k name value = Assoc.put p k ⟨name, value⟩ := by
  rw [Partition.put, hloose, if_neg Bool.false_ne_true]
  split
  · next old hfind =>
      rw [(hp.key_eq_iff hname hk (Assoc.mem_of_find? hfind)).mp rfl]
  · rfl

theorem Keyed.put (hloose : k.isLoose = false) (value : Value) : Tidy (p.put k name value) := by
  rw [hp.put_eq hname hk hloose]
  have hperm := Assoc.put_perm hp.nodup k (⟨name, value⟩ : Staged)
  have hrest := hp.erase k
  refine ⟨⟨?_, ?_, Assoc.nodup_keys_put hp.nodup k _⟩, ?_⟩
  · intro e he
    rcases List.mem_cons.mp (hperm.mem_iff.mp he) with rfl | he
    · exact hname
    · exact hrest.string e he
  · intro e he
    rcases List.mem_cons.mp (hperm.mem_iff.mp he) with rfl | he
    · exact hk
    · exact hrest.keyed e he
  · intro hnil
    rw [hnil] at hperm
    exact List.cons_ne_nil _ _ (List.nil_perm.mp hperm)

theorem Keyed.entries_put (hloose : k.isLoose = false) (unit : String) (value : Value) :
    (entries unit (p.put k name value)).Perm
      (((unit, name), value) :: Assoc.erase (entries unit p) (unit, name)) := by
  rw [hp.put_eq hname hk hloose, ← hp.entries_erase hname hk]
  exact (Assoc.put_perm hp.nodup k _).map _

end

end Partition

namespace Store

/-- The bindings of a store as those of a ledger. -/
def entries (s : Store) : List ((String × Value) × Value) :=
  s.units.flatMap fun (unit, p) => p.entries unit

/-- A store without one of its units. -/
def dropUnit (s : Store) (unit : String) : Store :=
  ⟨Assoc.erase s.units unit⟩

/-- The bindings of a unit are those with the unit in their keys. -/
theorem unit_of_mem_entries {s : Store} {e : (String × Value) × Value} (he : e ∈ s.entries) :
    e.1.1 ∈ Assoc.keys s.units := by
  obtain ⟨⟨unit, p⟩, hp, he⟩ := List.mem_flatMap.mp he
  obtain ⟨staged, -, rfl⟩ := List.mem_map.mp he
  exact Assoc.mem_keys hp

theorem ne_of_mem_dropUnit {s : Store} {unit : String} {e : (String × Value) × Value}
    (he : e ∈ (s.dropUnit unit).entries) : e.1.1 ≠ unit := by
  have hmem := unit_of_mem_entries he
  rw [dropUnit, Assoc.keys_erase] at hmem
  simpa using (List.mem_filter.mp hmem).2

section

variable {s : Store} (hunits : (Assoc.keys s.units).Nodup)

include hunits

/-- The bindings of a store are those of one unit beside those of the others. -/
theorem entries_perm (unit : String) :
    s.entries.Perm ((s.partition unit).entries unit ++ (s.dropUnit unit).entries) := by
  unfold partition dropUnit
  cases hfind : Assoc.find? s.units unit with
  | none =>
      rw [Assoc.erase_of_find?_none hfind]
      exact .refl _
  | some p => exact (Assoc.perm_of_find? hunits hfind).flatMap_right _

/-- The same after the partition of the unit has been replaced. -/
theorem entries_put_perm (unit : String) (p : Partition) :
    (Store.mk (Assoc.put s.units unit p)).entries.Perm
      (p.entries unit ++ (s.dropUnit unit).entries) :=
  (Assoc.put_perm hunits unit p).flatMap_right _

theorem filter_unit_perm (unit : String) :
    (s.entries.filter fun (k, _) => k.1 = unit).Perm ((s.partition unit).entries unit) := by
  refine ((entries_perm hunits unit).filter _).trans ?_
  rw [List.filter_append, List.filter_eq_self.mpr, List.filter_eq_nil_iff.mpr, List.append_nil]
  · exact fun e he => by simpa using ne_of_mem_dropUnit he
  · rintro e he
    obtain ⟨staged, -, rfl⟩ := List.mem_map.mp he
    simp

theorem filter_others_perm (unit : String) :
    (s.entries.filter fun (k, _) => k.1 ≠ unit).Perm (s.dropUnit unit).entries := by
  refine ((entries_perm hunits unit).filter _).trans ?_
  rw [List.filter_append, List.filter_eq_nil_iff.mpr, List.filter_eq_self.mpr, List.nil_append]
  · exact fun e he => by simpa using ne_of_mem_dropUnit he
  · rintro e he
    obtain ⟨staged, -, rfl⟩ := List.mem_map.mp he
    simp

theorem erase_entries_perm (unit : String) (name : Value) :
    (Assoc.erase s.entries (unit, name)).Perm
      (Assoc.erase ((s.partition unit).entries unit) (unit, name) ++
        (s.dropUnit unit).entries) := by
  refine ((entries_perm hunits unit).filter _).trans ?_
  rw [List.filter_append]
  refine List.Perm.append_left _ (.of_eq (List.filter_eq_self.mpr fun e he => ?_))
  have hne := ne_of_mem_dropUnit he
  simpa using fun heq => hne (congrArg Prod.fst heq)

end

/-- A store holds what a ledger holds. Its partitions are tidy, so none is empty; they stand in the
    order in which their units came to have bindings. -/
structure Refines (s : Store) (l : Ledger) : Prop where
  nodup : (Assoc.keys l.entries).Nodup
  same : l.entries.Perm s.entries
  tidy : ∀ e ∈ s.units, e.2.Tidy
  ordered : (Assoc.keys s.units).Pairwise fun u v => l.since u < l.since v
  past : ∀ u ∈ Assoc.keys s.units, l.since u < l.clock

namespace Refines

theorem empty {since : String → Nat} {clock : Nat} :
    Refines {} { since := since, clock := clock } :=
  ⟨List.nodup_nil, .refl _, by simp, List.Pairwise.nil, by simp [Assoc.keys]⟩

variable {s : Store} {l : Ledger} (h : s.Refines l)

include h

theorem tick : s.Refines { l with clock := l.clock + 1 } :=
  ⟨h.nodup, h.same, h.tidy, h.ordered, fun u hu => Nat.lt_succ_of_lt (h.past u hu)⟩

theorem units_nodup : (Assoc.keys s.units).Nodup :=
  h.ordered.imp fun hlt heq => hlt.ne (congrArg l.since heq)

theorem keyed (unit : String) : (s.partition unit).Keyed := by
  unfold partition
  cases hfind : Assoc.find? s.units unit with
  | none => exact .nil
  | some p => exact (h.tidy _ (Assoc.mem_of_find? hfind)).toKeyed

theorem ofUnit_perm (unit : String) :
    (l.ofUnit unit).Perm ((s.partition unit).entries unit) :=
  (h.same.filter _).trans (filter_unit_perm h.units_nodup unit)

/-- A unit has no bindings exactly when it has no partition. -/
theorem ofUnit_eq_nil_iff (unit : String) :
    l.ofUnit unit = [] ↔ unit ∉ Assoc.keys s.units := by
  rw [← List.isEmpty_iff, (h.ofUnit_perm unit).isEmpty_eq, List.isEmpty_iff,
    ← Assoc.find?_eq_none_iff]
  unfold partition Partition.entries
  cases hfind : Assoc.find? s.units unit with
  | none => simp
  | some p => simpa using (h.tidy _ (Assoc.mem_of_find? hfind)).nonempty

theorem find? {name : Value} {k : Key} (hname : name.IsString) (hk : name.plainKey? = some k)
    (hloose : k.isLoose = false) (unit : String) :
    (s.partition unit).find? k = Assoc.find? l.entries (unit, name) := by
  have hsplit := h.same.trans (entries_perm h.units_nodup unit)
  have hrest : Assoc.find? (s.dropUnit unit).entries (unit, name) = none := by
    rw [Assoc.find?_eq_none_iff]
    intro hmem
    obtain ⟨e, he, hkey⟩ := List.mem_map.mp hmem
    exact ne_of_mem_dropUnit he (congrArg Prod.fst hkey)
  rw [(h.keyed unit).find?_entries hname hk hloose unit, Assoc.find?_perm h.nodup hsplit,
    Assoc.find?_append, hrest, Option.or_none]

/-! ### Answers -/

theorem names_eq (w : World) (unit : String) :
    s.pendingOf w unit = .ok (l.names unit) := by
  have hp := h.keyed unit
  have hstring : ∀ v ∈ (s.partition unit).names, v.IsString := by
    intro v hv
    obtain ⟨e, he, rfl⟩ := List.mem_map.mp hv
    exact hp.string e he
  rw [pendingOf, w.sortValues_string hstring]
  have hperm : ((l.ofUnit unit).map fun (k, _) => k.2).Perm (s.partition unit).names := by
    refine ((h.ofUnit_perm unit).map _).trans (.of_eq ?_)
    simp [Partition.entries, Partition.names, Function.comp_def]
  refine congrArg Except.ok (Value.eq_inOrder ?_ ?_ (Value.ascending_inOrder _))
  · exact fun v hv => hstring v (hperm.mem_iff.mp hv)
  · exact (Value.inOrder_perm _).trans hperm.symm

/-- The units of the ledger are those of the store, in the order in which they stand there. -/
theorem units_eq : l.units = Assoc.keys s.units := by
  have hmem : ∀ u, u ∈ (l.entries.map fun (k, _) => k.1).dedup ↔ u ∈ Assoc.keys s.units := by
    intro u
    rw [← not_iff_not, ← h.ofUnit_eq_nil_iff]
    simp only [Ledger.ofUnit, List.filter_eq_nil_iff, List.mem_dedup, List.mem_map,
      decide_eq_true_eq]
    push Not
    rfl
  have hperm : l.units.Perm (Assoc.keys s.units) :=
    (List.mergeSort_perm _ _).trans
      ((List.perm_ext_iff_of_nodup (List.nodup_dedup _) h.units_nodup).mpr hmem)
  have hsorted : l.units.Pairwise fun u v => l.since u ≤ l.since v := by
    refine (List.pairwise_mergeSort ?_ ?_ _).imp of_decide_eq_true
    · exact fun u v x huv hvx =>
        decide_eq_true ((of_decide_eq_true huv).trans (of_decide_eq_true hvx))
    · intro u v
      simpa using le_total (l.since u) (l.since v)
  refine hperm.eq_of_pairwise ?_ hsorted (h.ordered.imp le_of_lt)
  -- Two units of the store that came at the same time are one.
  intro u v hu hv huv hvu
  have hsince : ((Assoc.keys s.units).map l.since).Nodup :=
    List.pairwise_map.mpr (h.ordered.imp LT.lt.ne)
  exact List.inj_on_of_nodup_map hsince (hperm.mem_iff.mp hu) hv (le_antisymm huv hvu)

theorem pending_eq (w : World) :
    s.pending w = .ok (l.units.map fun u => (u, l.names u)) := by
  have hone : ∀ e ∈ s.units, w.sortValues e.2.names = .ok (l.names e.1) := by
    intro e he
    rw [← h.names_eq w e.1, pendingOf, partition, Assoc.find?_of_mem h.units_nodup he]
    rfl
  rw [h.units_eq, pending, Assoc.keys, List.map_map]
  clear h
  generalize s.units = units at hone
  induction units with
  | nil => rfl
  | cons e units ih =>
      rw [List.mapM_cons, ih fun e he => hone e (List.mem_cons_of_mem _ he)]
      simp only [hone e List.mem_cons_self]
      rfl

theorem size_eq : s.size = l.entries.length := by
  rw [h.same.length_eq, size, entries, List.length_flatMap, List.sum_eq_foldr, List.foldr_map]
  simp [Partition.entries]

/-! ### Changes -/

theorem since_put_of_mem {u : String} (hu : u ∈ Assoc.keys s.units) (unit : String)
    (name value : Value) : (l.put unit name value).since u = l.since u := by
  simp only [Ledger.put, h.ofUnit_eq_nil_iff]
  split
  · next habsent =>
      refine if_neg ?_
      rintro rfl
      exact habsent hu
  · rfl

theorem since_put_self {unit : String} (hunit : unit ∉ Assoc.keys s.units) (name value : Value) :
    (l.put unit name value).since unit = l.clock := by
  simp only [Ledger.put, h.ofUnit_eq_nil_iff, if_pos hunit, if_true]

/-- The units keep their order: one that had no bindings comes last. -/
theorem ordered_put (unit : String) (p : Partition) (name value : Value) :
    (Assoc.keys (Assoc.put s.units unit p)).Pairwise fun u v =>
      (l.put unit name value).since u < (l.put unit name value).since v := by
  have hkept : (Assoc.keys s.units).Pairwise fun u v =>
      (l.put unit name value).since u < (l.put unit name value).since v := by
    refine h.ordered.imp_of_mem fun {u v} hu hv hlt => ?_
    rwa [h.since_put_of_mem hu, h.since_put_of_mem hv]
  rw [Assoc.keys_put]
  split
  · exact hkept
  · next hunit =>
      refine List.pairwise_append.mpr ⟨hkept, List.pairwise_singleton _ unit, ?_⟩
      intro u hu v hv
      obtain rfl := List.mem_singleton.mp hv
      rw [h.since_put_of_mem hu, h.since_put_self hunit]
      exact h.past u hu

theorem past_put (unit : String) (p : Partition) (name value : Value) :
    ∀ u ∈ Assoc.keys (Assoc.put s.units unit p),
      (l.put unit name value).since u < l.clock + 1 := by
  intro u hu
  by_cases hold : u ∈ Assoc.keys s.units
  · rw [h.since_put_of_mem hold]
    exact Nat.lt_succ_of_lt (h.past u hold)
  · rw [Assoc.keys_put] at hu
    split at hu
    · exact (hold hu).elim
    · rcases List.mem_append.mp hu with hu | hu
      · exact (hold hu).elim
      · obtain rfl := List.mem_singleton.mp hu
        rw [h.since_put_self hold]
        exact Nat.lt_succ_self _

theorem put {name : Value} {k : Key} (hname : name.IsString) (hk : name.plainKey? = some k)
    (hloose : k.isLoose = false) (unit : String) (value : Value) :
    (Store.mk (Assoc.put s.units unit ((s.partition unit).put k name value))).Refines
      { l.put unit name value with clock := l.clock + 1 } := by
  have hp := h.keyed unit
  refine ⟨Assoc.nodup_keys_put h.nodup _ _, ?_, ?_, h.ordered_put unit _ name value,
    h.past_put unit _ name value⟩
  · calc (Assoc.put l.entries (unit, name) value).Perm
          (((unit, name), value) :: Assoc.erase l.entries (unit, name)) :=
          Assoc.put_perm h.nodup _ _
      _ |>.Perm (((unit, name), value) :: Assoc.erase s.entries (unit, name)) :=
          (h.same.filter _).cons _
      _ |>.Perm (((unit, name), value) ::
            Assoc.erase ((s.partition unit).entries unit) (unit, name) ++
            (s.dropUnit unit).entries) :=
          (erase_entries_perm h.units_nodup unit name).cons _
      _ |>.Perm (((s.partition unit).put k name value).entries unit ++
            (s.dropUnit unit).entries) :=
          (hp.entries_put hname hk hloose unit value).symm.append_right _
      _ |>.Perm _ := (entries_put_perm h.units_nodup unit _).symm
  · intro e he
    rcases List.mem_cons.mp ((Assoc.put_perm h.units_nodup unit _).mem_iff.mp he) with rfl | he
    · exact hp.put hname hk hloose value
    · exact h.tidy e (List.mem_of_mem_filter he)

/-- A ledger without the bindings of a unit goes with a store without its partition. -/
theorem dropUnit {unit : String} {entries : List ((String × Value) × Value)}
    (hnodup : (Assoc.keys entries).Nodup) (hsame : entries.Perm (s.dropUnit unit).entries) :
    (s.dropUnit unit).Refines { l with entries := entries } := by
  have hkeys : (Assoc.keys (s.dropUnit unit).units).Sublist (Assoc.keys s.units) :=
    List.filter_sublist.map _
  exact ⟨hnodup, hsame, fun e he => h.tidy e (List.mem_of_mem_filter he),
    h.ordered.sublist hkeys, fun u hu => h.past u (hkeys.subset hu)⟩

theorem discard (unit : String) :
    (s.dropUnit unit).Refines { l with entries := l.entries.filter fun (k, _) => k.1 ≠ unit } :=
  h.dropUnit (h.nodup.sublist (List.filter_sublist.map _))
    ((h.same.filter _).trans (filter_others_perm h.units_nodup unit))

theorem steal {name : Value} {k : Key} {unit : String} {p : Partition} (hname : name.IsString)
    (hk : name.plainKey? = some k) (hp : Assoc.find? s.units unit = some p) :
    (Store.mk (if (Assoc.erase p k).isEmpty then Assoc.erase s.units unit
      else Assoc.put s.units unit (Assoc.erase p k))).Refines
      { l with entries := Assoc.erase l.entries (unit, name) } := by
  have hkeyed := h.keyed unit
  have hpartition : s.partition unit = p := by rw [partition, hp]; rfl
  rw [hpartition] at hkeyed
  have hsame : (Assoc.erase l.entries (unit, name)).Perm
      (Partition.entries unit (Assoc.erase p k) ++ (s.dropUnit unit).entries) := by
    rw [hkeyed.entries_erase hname hk, ← hpartition]
    exact (h.same.filter _).trans (erase_entries_perm h.units_nodup unit name)
  have hnodup := Assoc.nodup_keys_erase h.nodup (unit, name)
  split
  · next hempty =>
      rw [List.isEmpty_iff.mp hempty] at hsame
      exact h.dropUnit hnodup hsame
  · next hleft =>
      have hkeys : Assoc.keys (Assoc.put s.units unit (Assoc.erase p k)) = Assoc.keys s.units := by
        rw [Assoc.keys_put, if_pos (Assoc.mem_keys (Assoc.mem_of_find? hp))]
      refine ⟨hnodup, hsame.trans (entries_put_perm h.units_nodup unit _).symm, ?_,
        hkeys ▸ h.ordered, hkeys ▸ h.past⟩
      intro e he
      rcases List.mem_cons.mp ((Assoc.put_perm h.units_nodup unit _).mem_iff.mp he) with rfl | he
      · exact ⟨hkeyed.erase k, by simpa using hleft⟩
      · exact h.tidy e (List.mem_of_mem_filter he)

/-! ### Calls -/

/-- A call is answered like that of the ledger, with the same reports, and leaves the same. -/
theorem run {call : StoreCall} (hcall : call.NamesStrings) (w : World) :
    (s.run w call).1 = (l.run w call).1 ∧ (s.run w call).2.2 = (l.run w call).2.2 ∧
      (s.run w call).2.1.Refines (l.run w call).2.1 := by
  cases call with
  | put unit name value =>
      simp only [Store.run, Ledger.run, Ledger.answer]
      split
      · exact ⟨rfl, rfl, h.tick⟩
      · next hnull =>
          have hname : name.IsString := hcall.resolve_left hnull
          obtain ⟨k, hkey, hk, hloose⟩ := World.key_string (w := w) hname
          cases w.unitName unit with
          | error f => exact ⟨rfl, rfl, h.tick⟩
          | ok u =>
              simp only [Store.put, if_neg hnull, hkey]
              exact ⟨rfl, trivial, h.put hname hk hloose u value⟩
  | steal unit name =>
      have hname : name.IsString := hcall
      obtain ⟨k, hkey, hk, hloose⟩ := World.key_string (w := w) hname
      simp only [Store.run, Ledger.run, Ledger.answer]
      cases w.unitName unit with
      | error f => exact ⟨rfl, rfl, h.tick⟩
      | ok u =>
          have hlook := h.find? hname hk hloose u
          have hmissing : Store.missing w u name = (.ok .missing, [Ledger.warning u name]) := by
            simp only [missing, World.shown_string hname, Ledger.warning]
          unfold partition at hlook
          cases hp : Assoc.find? s.units u with
          | none =>
              rw [hp, Option.getD_none, Partition.find?_nil] at hlook
              simp only [Store.steal, hp, hmissing, ← hlook]
              exact ⟨rfl, trivial, h.tick⟩
          | some p =>
              rw [hp, Option.getD_some] at hlook
              simp only [Store.steal, hp, hkey, ← hlook]
              cases p.find? k with
              | none =>
                  simp only [hmissing]
                  exact ⟨rfl, trivial, h.tick⟩
              | some v => exact ⟨rfl, rfl, (h.steal hname hk hp).tick⟩
  | discard unit =>
      simp only [Store.run, Ledger.run, Ledger.answer]
      cases w.unitName unit with
      | error f => exact ⟨rfl, rfl, h.tick⟩
      | ok u =>
          refine ⟨?_, rfl, (h.discard u).tick⟩
          simp [Store.discard, (h.ofUnit_perm u).length_eq, Partition.entries]
  | pending unit =>
      simp only [Store.run, Ledger.run, Ledger.answer, h.pending_eq]
      split
      · exact ⟨rfl, rfl, h.tick⟩
      · cases w.unitName unit with
        | error f => exact ⟨rfl, rfl, h.tick⟩
        | ok u =>
            dsimp only
            rw [h.names_eq]
            exact ⟨rfl, rfl, h.tick⟩
  | clear => exact ⟨rfl, rfl, empty⟩
  | size =>
      refine ⟨?_, rfl, h.tick⟩
      simp only [Store.run, Ledger.run, Ledger.answer, h.size_eq]

/-- Calls in a row are answered like those of the ledger. -/
theorem runAll {calls : List (World × StoreCall)} (hcalls : ∀ c ∈ calls, c.2.NamesStrings) :
    (StoreCall.runAll Store.run s calls).1 = (StoreCall.runAll Ledger.run l calls).1 ∧
      (StoreCall.runAll Store.run s calls).2.Refines (StoreCall.runAll Ledger.run l calls).2 := by
  induction calls generalizing s l with
  | nil => exact ⟨rfl, h⟩
  | cons c calls ih =>
      obtain ⟨hanswer, hlog, hstep⟩ := h.run (hcalls c List.mem_cons_self) c.1
      obtain ⟨hrest, hlast⟩ := ih hstep fun c hc => hcalls c (List.mem_cons_of_mem _ hc)
      simp only [StoreCall.runAll]
      exact ⟨by rw [hanswer, hlog, hrest], hlast⟩

end Refines

/-- A store that starts empty is one finite map. Through every run of calls whose names are strings it
    gives the answers and the reports of the ledger; afterwards it holds the bindings of the ledger, each
    of them once, and no unit stands there without bindings. -/
theorem refines_ledger {calls : List (World × StoreCall)}
    (hcalls : ∀ c ∈ calls, c.2.NamesStrings) :
    let stored := StoreCall.runAll Store.run {} calls
    let kept := StoreCall.runAll Ledger.run {} calls
    stored.1 = kept.1 ∧ (Assoc.keys kept.2.entries).Nodup ∧
      kept.2.entries.Perm stored.2.entries ∧ ∀ e ∈ stored.2.units, e.2 ≠ [] := by
  obtain ⟨hanswers, hlast⟩ := Refines.empty.runAll hcalls
  exact ⟨hanswers, hlast.nodup, hlast.same, fun e he => (hlast.tidy e he).nonempty⟩

/-- A unit loses its only binding and gets another one after a second unit has got its first. -/
def returningUnit : List (World × StoreCall) :=
  [.put (.text "woven.gen1") (.text "a") (.whole 1), .put (.text "woven.gen2") (.text "b") .null,
    .put (.text "woven.gen2") .null (.whole 2), .steal (.text "woven.gen1") (.text "a"),
    .put (.text "woven.gen1") (.text "c") (.whole 3), .steal (.text "woven.gen1") (.text "a"),
    .pending .null].map fun call => ({}, call)

theorem refines_ledger_returningUnit :
    Assoc.keys (StoreCall.runAll Store.run {} returningUnit).2.units =
        ["woven.gen2", "woven.gen1"] ∧
      (StoreCall.runAll Store.run {} returningUnit).1 =
        (StoreCall.runAll Ledger.run {} returningUnit).1 :=
  ⟨by decide +kernel, (refines_ledger (by decide)).1⟩

end Store

end FragmentWeaver
