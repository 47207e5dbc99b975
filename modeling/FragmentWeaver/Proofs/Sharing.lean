import FragmentWeaver.Proofs.FileNames
import FragmentWeaver.Proofs.Ledger

/-!
# Requests that share a store

Several requests stage, take and drop their values in one store, in any order of their calls. A call
of a request looks at the partition of its unit only, and changes that partition only; so what a
request is answered, and what it leaves, is what it would get from a store of its own. Whatever calls
are made, every value that was staged is accounted for: it was taken, replaced, dropped with its unit,
cleared away, or is there still.
-/

namespace FragmentWeaver

namespace Assoc

variable {κ α : Type} [DecidableEq κ] {p : κ → Bool} {k : κ}

/-- A selection of keys does not hide what stands under a key that it keeps. -/
theorem find?_filter (h : p k = true) (xs : List (κ × α)) :
    find? (xs.filter fun e => p e.1) k = find? xs k := by
  induction xs with
  | nil => rfl
  | cons x xs ih =>
      obtain ⟨k', a⟩ := x
      by_cases hk : k' = k
      · subst hk
        simp [find?, h]
      · by_cases hp : p k' = true
        · simp [find?, hk, hp, ih]
        · simp [find?, hk, hp, ih]

theorem put_filter (h : p k = true) (xs : List (κ × α)) (a : α) :
    put (xs.filter fun e => p e.1) k a = (put xs k a).filter fun e => p e.1 := by
  induction xs with
  | nil => simp [put, h]
  | cons x xs ih =>
      obtain ⟨k', a'⟩ := x
      by_cases hk : k' = k
      · subst hk
        simp [put, h]
      · by_cases hp : p k' = true
        · simp [put, hk, hp, ih]
        · simp [put, hk, hp, ih]

theorem erase_filter (xs : List (κ × α)) (k : κ) :
    erase (xs.filter fun e => p e.1) k = (erase xs k).filter fun e => p e.1 := by
  rw [erase, erase, List.filter_filter, List.filter_filter]
  apply List.filter_congr
  intro e _
  exact Bool.and_comm _ _

end Assoc

namespace UnitId

/-- The parts of a unit can be read off its qualified name: the simple name has no dot. -/
theorem qualifiedName_injective {u v : UnitId} (h : u.qualifiedName = v.qualifiedName) : u = v := by
  have hcut (x : UnitId) :
      Text.cutLast '.' x.qualifiedName.toList = some (x.space.toList, x.name.toList) := by
    have hsplit : x.qualifiedName.toList = x.space.toList ++ '.' :: x.name.toList := by
      simp [qualifiedName]
    rw [hsplit]
    exact Text.cutLast_append x.name_undotted _
  have hparts : (u.space.toList, u.name.toList) = (v.space.toList, v.name.toList) := by
    have := hcut u
    rw [h, hcut v] at this
    exact (Option.some.inj this).symm
  obtain ⟨hspace, hname⟩ := Prod.mk.inj hparts
  cases u
  cases v
  cases String.toList_injective hspace
  cases String.toList_injective hname
  rfl

theorem dot_mem_qualifiedName (u : UnitId) : '.' ∈ u.qualifiedName.toList := by
  simp [qualifiedName]

end UnitId

namespace StoreCall

/-- The unit that is named in a call; clearing and counting name none. -/
def unit? : StoreCall → Option Value
  | .put unit _ _ | .steal unit _ | .discard unit | .pending unit => some unit
  | .clear | .size => none

/-- Is the call one on the values of the unit? -/
def IsOf (w : World) (call : StoreCall) (u : UnitId) : Prop :=
  ∃ v, call.unit? = some v ∧ w.unitName v = .ok u.qualifiedName

/-- The calls of one request among those of all, in their order. -/
def ownCalls (u : UnitId) (calls : List (UnitId × World × StoreCall)) : List (World × StoreCall) :=
  (calls.filter fun c => c.1 = u).map Prod.snd

/-- The answers to the calls of one request among those to all. -/
def ownAnswers {β : Type} (u : UnitId) (calls : List (UnitId × World × StoreCall))
    (answers : List β) : List β :=
  ((calls.zip answers).filter fun c => c.1.1 = u).map Prod.snd

end StoreCall

namespace Store

/-! ### Isolation -/

/-- What a store has staged for one unit. -/
def only (s : Store) (unit : String) : Store :=
  ⟨s.units.filter fun e => decide (e.1 = unit)⟩

section

variable (s : Store) (w : World) (unit : String)

@[simp]
theorem find?_only : Assoc.find? (s.only unit).units unit = Assoc.find? s.units unit :=
  Assoc.find?_filter (p := fun u => decide (u = unit)) (decide_eq_true rfl) s.units

@[simp]
theorem partition_only : (s.only unit).partition unit = s.partition unit := by
  rw [partition, partition, find?_only]

theorem units_put_only (p : Partition) :
    Assoc.put (s.only unit).units unit p = (Store.only ⟨Assoc.put s.units unit p⟩ unit).units :=
  Assoc.put_filter (p := fun u => decide (u = unit)) (decide_eq_true rfl) s.units p

theorem units_erase_only :
    Assoc.erase (s.only unit).units unit = (Store.only ⟨Assoc.erase s.units unit⟩ unit).units :=
  Assoc.erase_filter (p := fun u => decide (u = unit)) s.units unit

/-- A unit does not see what changes for another one. -/
theorem only_of_without {s t : Store} {unit other : String} (hne : unit ≠ other)
    (h : t.without [other] = s.without [other]) : t.only unit = s.only unit := by
  have hsplit (r : Store) :
      (r.only unit).units = (r.without [other]).filter fun e => decide (e.1 = unit) := by
    rw [only, without, List.filter_filter]
    apply List.filter_congr
    rintro ⟨u, p⟩ _
    by_cases hu : u = unit
    · simp [hu, hne]
    · simp [hu]
  have hunits : (t.only unit).units = (s.only unit).units := by
    rw [hsplit t, hsplit s, h]
  exact congrArg Store.mk hunits

theorem steal_only (name : Value) :
    (s.only unit).steal w unit name =
      ((s.steal w unit name).1, (s.steal w unit name).2.1.only unit,
        (s.steal w unit name).2.2) := by
  unfold steal
  rw [find?_only]
  cases Assoc.find? s.units unit with
  | none => rfl
  | some p =>
      dsimp only
      cases w.key name with
      | error v => rfl
      | ok k =>
          dsimp only
          cases p.find? k with
          | none => rfl
          | some v =>
              dsimp only
              split
              · rw [units_erase_only]
              · rw [units_put_only]

theorem put_only (name value : Value) :
    (s.only unit).put w unit name value =
      ((s.put w unit name value).1, (s.put w unit name value).2.only unit) := by
  unfold put
  by_cases hname : name = .null
  · rw [if_pos hname, if_pos hname]
  · rw [if_neg hname, if_neg hname, partition_only]
    cases w.key name with
    | error v =>
        dsimp only
        rw [units_put_only]
    | ok k =>
        dsimp only
        rw [units_put_only]

theorem discard_only :
    (s.only unit).discard unit = ((s.discard unit).1, (s.discard unit).2.only unit) := by
  unfold discard
  rw [partition_only, units_erase_only]

theorem pendingOf_only : (s.only unit).pendingOf w unit = s.pendingOf w unit := by
  rw [pendingOf, pendingOf, partition_only]

end

variable {w : World} {call : StoreCall} {u v : UnitId}

theorem ne_null_of_unitName {unit : Value} (h : w.unitName unit = .ok u.qualifiedName) :
    unit ≠ .null := by
  rintro rfl
  have hname : w.unitName .null = .ok "None" := by
    unfold World.unitName World.shown World.shownWithin
    rfl
  rw [hname] at h
  have hdot := u.dot_mem_qualifiedName
  rw [← Except.ok.inj h] at hdot
  exact absurd hdot (by decide)

/-- A call of a unit goes on what is staged for the unit as it goes on the whole store. -/
theorem run_only (h : call.IsOf w u) (s : Store) :
    (s.only u.qualifiedName).run w call =
      ((s.run w call).1, (s.run w call).2.1.only u.qualifiedName, (s.run w call).2.2) := by
  obtain ⟨unit, hunit, hname⟩ := h
  cases call with
  | put unit' name value =>
      obtain rfl := Option.some.inj hunit
      simp only [run, hname]
      by_cases hnull : name = .null
      · rw [if_pos hnull, if_pos hnull]
      · rw [if_neg hnull, if_neg hnull, put_only]
  | steal unit' name =>
      obtain rfl := Option.some.inj hunit
      simp only [run, hname]
      rw [steal_only]
  | discard unit' =>
      obtain rfl := Option.some.inj hunit
      simp only [run, hname]
      rw [discard_only]
  | pending unit' =>
      obtain rfl := Option.some.inj hunit
      have hnull := ne_null_of_unitName hname
      simp only [run, hname, if_neg hnull]
      rw [pendingOf_only]
  | clear => cases hunit
  | size => cases hunit

/-- A call of a unit leaves alone what is staged for the others. -/
theorem only_run_of_ne (h : call.IsOf w v) (hne : u ≠ v) (s : Store) :
    (s.run w call).2.1.only u.qualifiedName = s.only u.qualifiedName := by
  obtain ⟨unit, hunit, hname⟩ := h
  have hother : u.qualifiedName ≠ v.qualifiedName :=
    fun heq => hne (UnitId.qualifiedName_injective heq)
  have hmem : v.qualifiedName ∈ [v.qualifiedName] := List.mem_singleton_self _
  cases call with
  | put unit' name value =>
      obtain rfl := Option.some.inj hunit
      simp only [run, hname]
      by_cases hnull : name = .null
      · rw [if_pos hnull]
      · rw [if_neg hnull]
        exact only_of_without hother (put_without hmem s w name value)
  | steal unit' name =>
      obtain rfl := Option.some.inj hunit
      simp only [run, hname]
      exact only_of_without hother (steal_without hmem s w name)
  | discard unit' =>
      obtain rfl := Option.some.inj hunit
      simp only [run, hname]
      exact only_of_without hother (discard_without hmem s)
  | pending unit' =>
      simp only [run]
      split
      · rfl
      · split <;> rfl
  | clear => cases hunit
  | size => cases hunit

/-- The calls of a unit among those of several go as they go alone on what is staged for the unit. -/
theorem runAll_only (u : UnitId) {calls : List (UnitId × World × StoreCall)}
    (hcalls : ∀ c ∈ calls, c.2.2.IsOf c.2.1 c.1) (s : Store) :
    let shared := StoreCall.runAll run s (calls.map Prod.snd)
    let alone := StoreCall.runAll run (s.only u.qualifiedName) (StoreCall.ownCalls u calls)
    StoreCall.ownAnswers u calls shared.1 = alone.1 ∧
      shared.2.only u.qualifiedName = alone.2 := by
  induction calls generalizing s with
  | nil => exact ⟨rfl, rfl⟩
  | cons c calls ih =>
      obtain ⟨v, w, call⟩ := c
      have hcall : call.IsOf w v := hcalls (v, w, call) List.mem_cons_self
      have hrest := ih (fun c hc => hcalls c (List.mem_cons_of_mem _ hc)) (s.run w call).2.1
      obtain ⟨hanswers, hlast⟩ := hrest
      by_cases hv : v = u
      · subst hv
        have hstep := run_only hcall s
        have hown : StoreCall.ownCalls v ((v, w, call) :: calls) =
            (w, call) :: StoreCall.ownCalls v calls := by
          simp [StoreCall.ownCalls]
        rw [hown]
        simp only [List.map_cons, StoreCall.runAll, hstep]
        refine ⟨?_, hlast⟩
        rw [← hanswers]
        simp [StoreCall.ownAnswers]
      · have hstep := only_run_of_ne hcall (Ne.symm hv) s
        have hown : StoreCall.ownCalls u ((v, w, call) :: calls) = StoreCall.ownCalls u calls := by
          simp [StoreCall.ownCalls, hv]
        rw [hstep] at hanswers hlast
        rw [hown]
        simp only [List.map_cons, StoreCall.runAll]
        refine ⟨?_, hlast⟩
        rw [← hanswers]
        simp [StoreCall.ownAnswers, hv]

/-! ### Conservation -/

/-- The value that is staged under a name of a unit. -/
def staged? (s : Store) (w : World) (unit name : Value) : Option Value :=
  match w.unitName unit, w.key name with
  | .ok u, .ok k => (s.partition u).find? k
  | _, _ => none

end Store

/-- What became of the values that went into a store: how many were put under a name, taken, replaced
    by another one under the same name, dropped with their unit, and cleared away. -/
structure Turnover where
  put : Nat := 0
  taken : Nat := 0
  replaced : Nat := 0
  discarded : Nat := 0
  cleared : Nat := 0
  deriving DecidableEq, Repr

namespace Turnover

/-- Are all values accounted for, if there were `before` of them at first and there are `after` of
    them at last? -/
def Balances (t : Turnover) (before after : Nat) : Prop :=
  before + t.put = t.taken + t.replaced + t.discarded + t.cleared + after

/-- The turnover of two runs in a row. -/
def plus (a b : Turnover) : Turnover where
  put := a.put + b.put
  taken := a.taken + b.taken
  replaced := a.replaced + b.replaced
  discarded := a.discarded + b.discarded
  cleared := a.cleared + b.cleared

end Turnover

namespace Store

/-- The turnover of a call. A call that is refused turns nothing over, and neither does a put under no
    name. Taking a value has succeeded when it is answered and nothing is reported. -/
def turnover (s : Store) (w : World) (call : StoreCall) : Turnover :=
  match call, s.run w call with
  | .put unit name _, (.ok _, _, _) =>
      if name = .null then {}
      else { put := 1, replaced := (s.staged? w unit name).toList.length }
  | .steal _ _, (.ok _, _, []) => { taken := 1 }
  | .discard _, (.ok (.count n), _, _) => { discarded := n }
  | .clear, (.ok _, _, _) => { cleared := s.size }
  | _, _ => {}

/-- The turnover of calls in a row. -/
def turnoverAll (s : Store) : List (World × StoreCall) → Turnover
  | [] => {}
  | (w, call) :: rest => (s.turnover w call).plus (turnoverAll (s.run w call).2.1 rest)

end Store

namespace Partition

/-- Every name that can be found stands in the partition once. -/
def Single (p : Partition) : Prop :=
  ((Assoc.keys p).filter fun k => !k.isLoose).Nodup

theorem Single.nil : Single [] :=
  List.nodup_nil

theorem Single.erase {p : Partition} (hp : p.Single) (k : Key) : Single (Assoc.erase p k) := by
  have hsub : (Assoc.keys (Assoc.erase p k)).Sublist (Assoc.keys p) := List.filter_sublist.map _
  exact List.Nodup.sublist (hsub.filter _) hp

theorem Single.put {p : Partition} (hp : p.Single) (k : Key) (name value : Value) :
    Single (p.put k name value) := by
  unfold Single Partition.put
  by_cases hloose : k.isLoose = true
  · rw [if_pos hloose]
    simpa [Single, Assoc.keys, hloose] using hp
  · rw [if_neg hloose]
    have hkeys (staged : Staged) :
        ((Assoc.keys (Assoc.put p k staged)).filter fun k => !k.isLoose).Nodup := by
      rw [Assoc.keys_put]
      by_cases hmem : k ∈ Assoc.keys p
      · rw [if_pos hmem]
        exact hp
      · rw [if_neg hmem, List.filter_append]
        refine List.Nodup.append hp ?_ ?_
        · exact (List.nodup_singleton k).filter _
        · intro k' hold hnew
          have hk' : k' = k := List.mem_singleton.mp (List.mem_filter.mp hnew).1
          exact hmem (hk' ▸ (List.mem_filter.mp hold).1)
    split
    · exact hkeys _
    · exact hkeys _

/-- Putting a value adds a name, unless the name is there. -/
theorem length_put (p : Partition) (k : Key) (name value : Value) :
    (p.put k name value).length + (p.find? k).toList.length = p.length + 1 := by
  have hlength (staged : Staged) :
      (Assoc.put p k staged).length + (Assoc.find? p k).toList.length = p.length + 1 := by
    induction p with
    | nil => rfl
    | cons e p ih =>
        obtain ⟨k', staged'⟩ := e
        by_cases hk : k' = k
        · simp [Assoc.put, Assoc.find?, hk]
        · simp only [Assoc.put, Assoc.find?, if_neg hk, List.length_cons]
          omega
  unfold Partition.put Partition.find?
  by_cases hloose : k.isLoose = true
  · simp [hloose]
  · rw [if_neg hloose, if_neg hloose]
    have hfound (o : Option Staged) : (o.map Staged.value).toList.length = o.toList.length := by
      cases o <;> rfl
    rw [hfound]
    split
    · exact hlength _
    · exact hlength _

/-- A value that is found goes alone. -/
theorem Single.length_erase {p : Partition} (hp : p.Single) {k : Key} {value : Value}
    (hfind : p.find? k = some value) : (Assoc.erase p k).length + 1 = p.length := by
  unfold Partition.find? at hfind
  by_cases hloose : k.isLoose = true
  · rw [if_pos hloose] at hfind
    cases hfind
  · rw [if_neg hloose] at hfind
    obtain ⟨staged, hstaged, -⟩ := Option.map_eq_some_iff.mp hfind
    clear hfind
    induction p with
    | nil => cases hstaged
    | cons e p ih =>
        obtain ⟨k', staged'⟩ := e
        by_cases hk : k' = k
        · subst hk
          have hrest : Assoc.find? p k' = none := by
            rw [Assoc.find?_eq_none_iff]
            intro hmem
            have hnodup : (k' :: (Assoc.keys p).filter fun k => !k.isLoose).Nodup := by
              simpa [Single, Assoc.keys, hloose] using hp
            refine (List.nodup_cons.mp hnodup).1 (List.mem_filter.mpr ⟨hmem, ?_⟩)
            simpa using hloose
          rw [Assoc.erase_cons_self, Assoc.erase_of_find?_none hrest, List.length_cons]
        · have hsingle : Single p :=
            List.Nodup.sublist ((List.sublist_cons_self _ _).filter _) hp
          have hfind : Assoc.find? p k = some staged := by
            rwa [Assoc.find?, if_neg hk] at hstaged
          have hlength := ih hsingle hfind
          have herase : Assoc.erase ((k', staged') :: p) k =
              (k', staged') :: Assoc.erase p k := by
            simp [Assoc.erase, hk]
          rw [herase, List.length_cons, List.length_cons, hlength]

end Partition

namespace Store

/-- Every unit stands in the store once, and so does every name of a unit that can be found. -/
structure Sound (s : Store) : Prop where
  units : (Assoc.keys s.units).Nodup
  names : ∀ e ∈ s.units, e.2.Single

theorem size_eq_length (s : Store) : s.size = s.entries.length := by
  rw [size, entries, List.length_flatMap, List.sum_eq_foldr, List.foldr_map]
  simp [Partition.entries]

namespace Sound

theorem empty : Sound {} :=
  ⟨List.nodup_nil, by simp⟩

variable {s : Store} (h : s.Sound)

include h

theorem partition (unit : String) : (s.partition unit).Single := by
  unfold Store.partition
  cases hfind : Assoc.find? s.units unit with
  | none => exact .nil
  | some p => exact h.names _ (Assoc.mem_of_find? hfind)

theorem putUnit (unit : String) {p : Partition} (hp : p.Single) :
    Sound ⟨Assoc.put s.units unit p⟩ := by
  refine ⟨Assoc.nodup_keys_put h.units unit p, ?_⟩
  intro e he
  rcases List.mem_cons.mp ((Assoc.put_perm h.units unit p).mem_iff.mp he) with rfl | he
  · exact hp
  · exact h.names e (List.mem_of_mem_filter he)

theorem dropUnit (unit : String) : (s.dropUnit unit).Sound :=
  ⟨Assoc.nodup_keys_erase h.units unit, fun e he => h.names e (List.mem_of_mem_filter he)⟩

theorem size_split (unit : String) :
    s.size = (s.partition unit).length + (s.dropUnit unit).size := by
  rw [size_eq_length, size_eq_length, (entries_perm h.units unit).length_eq, List.length_append]
  simp [Partition.entries]

theorem size_putUnit (unit : String) (p : Partition) :
    Store.size ⟨Assoc.put s.units unit p⟩ = p.length + (s.dropUnit unit).size := by
  rw [size_eq_length, size_eq_length, (entries_put_perm h.units unit p).length_eq,
    List.length_append]
  simp [Partition.entries]

end Sound

/-- What a call does to the number of values, and that it keeps the store sound. -/
structure Accounts (s : Store) (w : World) (call : StoreCall) : Prop where
  sound : (s.run w call).2.1.Sound
  balances : (s.turnover w call).Balances s.size (s.run w call).2.1.size

namespace Sound

variable {s : Store} (h : s.Sound) (w : World)

include h

/-- A call that leaves the store alone and turns nothing over. -/
theorem accounts_of_same {call : StoreCall} (hstore : (s.run w call).2.1 = s)
    (hturnover : s.turnover w call = {}) : s.Accounts w call := by
  refine ⟨by rwa [hstore], ?_⟩
  rw [hstore, hturnover]
  simp [Turnover.Balances]

theorem accounts_put (unit name value : Value) : s.Accounts w (.put unit name value) := by
  by_cases hnull : name = .null
  · refine h.accounts_of_same w ?_ ?_
    · simp [run, hnull]
    · simp [turnover, run, hnull]
  · cases hunit : w.unitName unit with
    | error f =>
        refine h.accounts_of_same w ?_ ?_
        · simp [run, hnull, hunit]
        · simp [turnover, run, hnull, hunit]
    | ok u =>
        have hsplit := h.size_split u
        cases hkey : w.key name with
        | error v =>
            -- The entry of the unit has been made, but it holds no more than before.
            have hrun : (s.run w (.put unit name value)).2.1 =
                ⟨Assoc.put s.units u (s.partition u)⟩ := by
              simp [run, put, hnull, hunit, hkey]
            have hturnover : s.turnover w (.put unit name value) = {} := by
              simp [turnover, run, put, hnull, hunit, hkey, Except.map]
            refine ⟨hrun ▸ h.putUnit u (h.partition u), ?_⟩
            rw [hrun, hturnover, Turnover.Balances, h.size_putUnit]
            simp only
            omega
        | ok k =>
            have hrun : (s.run w (.put unit name value)).2.1 =
                ⟨Assoc.put s.units u ((s.partition u).put k name value)⟩ := by
              simp [run, put, hnull, hunit, hkey]
            have hturnover : s.turnover w (.put unit name value) =
                { put := 1, replaced := ((s.partition u).find? k).toList.length } := by
              simp [turnover, run, put, staged?, hnull, hunit, hkey, Except.map]
            have hlength := Partition.length_put (s.partition u) k name value
            refine ⟨hrun ▸ h.putUnit u ((h.partition u).put k name value), ?_⟩
            rw [hrun, hturnover, Turnover.Balances, h.size_putUnit]
            simp only
            omega

/-- A value that is not there is not taken: the store stays, and unless the call is refused there is
    a report. -/
theorem accounts_steal_of_missing {unit name : Value} {u : String}
    (hsteal : s.run w (.steal unit name) =
      ((missing w u name).1.map .value, s, (missing w u name).2)) :
    s.Accounts w (.steal unit name) := by
  refine h.accounts_of_same w (by rw [hsteal]) ?_
  unfold turnover
  rw [hsteal]
  unfold missing
  cases w.shown name with
  | error v => rfl
  | ok shown => rfl

theorem accounts_steal (unit name : Value) : s.Accounts w (.steal unit name) := by
  cases hunit : w.unitName unit with
  | error f =>
      refine h.accounts_of_same w ?_ ?_
      · simp [run, hunit]
      · simp [turnover, run, hunit]
  | ok u =>
      cases hp : Assoc.find? s.units u with
      | none =>
          refine h.accounts_steal_of_missing w (u := u) ?_
          simp [run, steal, hunit, hp]
      | some p =>
          have hpartition : s.partition u = p := by
            rw [Store.partition, hp]
            rfl
          cases hkey : w.key name with
          | error v =>
              refine h.accounts_of_same w ?_ ?_
              · simp [run, steal, hunit, hp, hkey]
              · simp [turnover, run, steal, hunit, hp, hkey, Except.map]
          | ok k =>
              cases hfind : p.find? k with
              | none =>
                  refine h.accounts_steal_of_missing w (u := u) ?_
                  simp [run, steal, hunit, hp, hkey, hfind]
              | some v =>
                  have hrun : (s.run w (.steal unit name)).2.1 =
                      ⟨if (Assoc.erase p k).isEmpty then Assoc.erase s.units u
                        else Assoc.put s.units u (Assoc.erase p k)⟩ := by
                    simp [run, steal, hunit, hp, hkey, hfind]
                  have hturnover : s.turnover w (.steal unit name) = { taken := 1 } := by
                    simp [turnover, run, steal, hunit, hp, hkey, hfind, Except.map]
                  have hsingle : p.Single := hpartition ▸ h.partition u
                  have hlength := hsingle.length_erase hfind
                  have hsplit := h.size_split u
                  rw [hpartition] at hsplit
                  refine ⟨?_, ?_⟩
                  · rw [hrun]
                    split
                    · exact h.dropUnit u
                    · exact h.putUnit u (hsingle.erase k)
                  · rw [hrun, hturnover, Turnover.Balances]
                    simp only
                    split
                    · next hempty =>
                        -- It was the last value: the partition goes, and nothing else with it.
                        rw [List.isEmpty_iff.mp hempty, List.length_nil] at hlength
                        have hdrop : Store.size ⟨Assoc.erase s.units u⟩ = (s.dropUnit u).size := rfl
                        omega
                    · rw [h.size_putUnit]
                      omega

theorem accounts_discard (unit : Value) : s.Accounts w (.discard unit) := by
  cases hunit : w.unitName unit with
  | error f =>
      refine h.accounts_of_same w ?_ ?_
      · simp [run, hunit]
      · simp [turnover, run, hunit]
  | ok u =>
      have hrun : (s.run w (.discard unit)).2.1 = s.dropUnit u := by
        simp [run, discard, hunit, Store.dropUnit]
      have hturnover : s.turnover w (.discard unit) =
          { discarded := (s.partition u).length } := by
        simp [turnover, run, discard, hunit]
      have hsplit := h.size_split u
      refine ⟨hrun ▸ h.dropUnit u, ?_⟩
      rw [hrun, hturnover, Turnover.Balances]
      simp only
      omega

theorem accounts_pending (unit : Value) : s.Accounts w (.pending unit) := by
  refine h.accounts_of_same w ?_ ?_
  · simp only [run]
    split
    · rfl
    · split <;> rfl
  · rfl

/-- Whatever the call is, it accounts for the values. -/
theorem accounts (call : StoreCall) : s.Accounts w call := by
  cases call with
  | put unit name value => exact h.accounts_put w unit name value
  | steal unit name => exact h.accounts_steal w unit name
  | discard unit => exact h.accounts_discard w unit
  | pending unit => exact h.accounts_pending w unit
  | clear =>
      refine ⟨.empty, ?_⟩
      simp [turnover, run, Turnover.Balances, size]
  | size => exact h.accounts_of_same w rfl rfl

omit w in
theorem turnoverAll_balances (calls : List (World × StoreCall)) :
    (s.turnoverAll calls).Balances s.size (StoreCall.runAll run s calls).2.size := by
  induction calls generalizing s with
  | nil => simp [turnoverAll, StoreCall.runAll, Turnover.Balances]
  | cons c calls ih =>
      obtain ⟨w, call⟩ := c
      have hstep := h.accounts w call
      have hrest := ih hstep.sound
      have hbalances := hstep.balances
      have hlast : (StoreCall.runAll run s ((w, call) :: calls)).2 =
          (StoreCall.runAll run (s.run w call).2.1 calls).2 := rfl
      rw [hlast, turnoverAll]
      unfold Turnover.Balances Turnover.plus at *
      dsimp only
      omega

end Sound

/-- Requests that share a store are kept apart, and no value is lost or doubled. Each of them is
    answered as it would be if it had a store of its own, which starts empty, and what is staged for
    its unit at last is what that store would hold. In a run of any calls the values that were put are
    those that were taken, those that were replaced, those that were discarded, those that were cleared
    away and those that are left. -/
theorem shared_store_isolates_and_conserves {calls : List (UnitId × World × StoreCall)}
    (hcalls : ∀ c ∈ calls, c.2.2.IsOf c.2.1 c.1) (any : List (World × StoreCall)) :
    (∀ u : UnitId,
      let shared := StoreCall.runAll run {} (calls.map Prod.snd)
      let alone := StoreCall.runAll run {} (StoreCall.ownCalls u calls)
      StoreCall.ownAnswers u calls shared.1 = alone.1 ∧
        shared.2.only u.qualifiedName = alone.2) ∧
    let t := turnoverAll {} any
    t.put = t.taken + t.replaced + t.discarded + t.cleared + (StoreCall.runAll run {} any).2.size := by
  refine ⟨fun u => runAll_only u hcalls {}, ?_⟩
  have hbalances := Sound.empty.turnoverAll_balances any
  simpa [Turnover.Balances, size] using hbalances

/-- Two requests take turns. The first one takes its only value before the second one does, comes back
    with another one, and drops it. -/
def takingTurns : List (UnitId × World × StoreCall) :=
  [(.numbered 1, {}, .put (.text "woven.gen1") (.text "a") (.whole 1)),
    (.numbered 2, {}, .put (.text "woven.gen2") (.text "a") (.whole 2)),
    (.numbered 1, {}, .steal (.text "woven.gen1") (.text "a")),
    (.numbered 2, {}, .put (.text "woven.gen2") (.text "a") (.whole 3)),
    (.numbered 1, {}, .put (.text "woven.gen1") (.text "b") .null),
    (.numbered 2, {}, .pending (.text "woven.gen2")),
    (.numbered 1, {}, .discard (.text "woven.gen1"))]

/-- The same calls, then the store is cleared and used again. -/
def clearedTurns : List (World × StoreCall) :=
  (takingTurns.map Prod.snd).append
    [({}, .clear), ({}, .put (.text "woven.gen3") (.text "a") (.whole 4))]

theorem isOf_takingTurns : ∀ c ∈ takingTurns, c.2.2.IsOf c.2.1 c.1 := by
  have hfirst : World.unitName {} (.text "woven.gen1") = .ok (UnitId.numbered 1).qualifiedName :=
    World.unitName_text _
  have hsecond : World.unitName {} (.text "woven.gen2") = .ok (UnitId.numbered 2).qualifiedName :=
    World.unitName_text _
  intro c hc
  simp only [takingTurns, List.mem_cons, List.not_mem_nil, or_false] at hc
  rcases hc with rfl | rfl | rfl | rfl | rfl | rfl | rfl
  all_goals first
    | exact ⟨_, rfl, hfirst⟩
    | exact ⟨_, rfl, hsecond⟩

theorem shared_store_takingTurns :
    StoreCall.ownAnswers (.numbered 2) takingTurns
          (StoreCall.runAll run {} (takingTurns.map Prod.snd)).1 =
        (StoreCall.runAll run {} (StoreCall.ownCalls (.numbered 2) takingTurns)).1 ∧
      (StoreCall.runAll run {} (takingTurns.map Prod.snd)).2.size = 1 ∧
      turnoverAll {} clearedTurns = ⟨5, 1, 1, 1, 1⟩ ∧
      5 = 1 + 1 + 1 + 1 + (StoreCall.runAll run {} clearedTurns).2.size := by
  obtain ⟨hapart, hkept⟩ := shared_store_isolates_and_conserves isOf_takingTurns clearedTurns
  have hturnover : turnoverAll {} clearedTurns = ⟨5, 1, 1, 1, 1⟩ := by decide +kernel
  rw [hturnover] at hkept
  exact ⟨(hapart (.numbered 2)).1, by decide +kernel, hturnover, hkept⟩

end Store

end FragmentWeaver
