import FragmentWeaver.Proofs.Field
import FragmentWeaver.Proofs.Staged
import FragmentWeaver.Proofs.UnitNames

/-!
# Making the source of a unit is all or nothing

A request is looked through to its end before anything is staged: its imports, the result type and
every binding. So a request that is refused leaves the store alone, wherever the fault lies. What is
staged afterwards has names that are plain texts, so no step of it can fail; each step writes one
value into the partition of the unit and touches nothing else.
-/

namespace FragmentWeaver

namespace Assoc

variable {κ α : Type} [DecidableEq κ]

/-- The later of two values under a key replaces the earlier one. -/
theorem put_put (xs : List (κ × α)) (k : κ) (a b : α) : put (put xs k a) k b = put xs k b := by
  induction xs with
  | nil => simp [put]
  | cons x xs ih =>
      obtain ⟨k', a'⟩ := x
      by_cases hk : k' = k
      · simp [put, hk]
      · simp [put, hk, ih]

end Assoc

namespace Partition

/-- Put values under texts, one after the other. -/
def putAll (p : Partition) (bs : List (String × Value)) : Partition :=
  bs.foldl (fun p b => p.put [.text b.1] (.text b.1) b.2) p

theorem find?_put_text (p : Partition) (name key : String) (value : Value) :
    (p.put [.text name] (.text name) value).find? [.text key] =
      if name = key then some value else p.find? [.text key] := by
  have hloose (n : String) : ¬ Key.isLoose [.text n] = true := by simp [Key.isLoose]
  have hput (old : Value) :
      (Assoc.find? (Assoc.put p [.text name] ⟨old, value⟩) [.text key]).map Staged.value =
        if name = key then some value else (Assoc.find? p [.text key]).map Staged.value := by
    by_cases hname : name = key
    · rw [if_pos hname, hname, Assoc.find?_put_self]
      rfl
    · have hkey : ([.text key] : Key) ≠ [.text name] := by simpa using Ne.symm hname
      rw [if_neg hname, Assoc.find?_put_of_ne hkey]
  rw [find?, find?, if_neg (hloose key), if_neg (hloose key), put, if_neg (hloose name)]
  cases Assoc.find? p [.text name] with
  | none => exact hput _
  | some old => exact hput _

/-- Under a text stands the last of the values that were put there, or else what stood there before. -/
theorem find?_putAll (p : Partition) (bs : List (String × Value)) (key : String) :
    (p.putAll bs).find? [.text key] = (Assoc.find? bs.reverse key).or (p.find? [.text key]) := by
  induction bs using List.reverseRecOn with
  | nil => rfl
  | append_singleton bs b ih =>
      rw [putAll, List.foldl_append, List.foldl_cons, List.foldl_nil, find?_put_text, ← putAll, ih,
        List.reverse_append, List.reverse_singleton, List.singleton_append, Assoc.find?]
      split <;> rfl

end Partition

namespace Store

/-- The store after values have been put under names of a unit; a unit that gets none has no entry on
    that account. -/
def putAll (s : Store) (unit : String) (bs : List (String × Value)) : Store :=
  if bs = [] then s else ⟨Assoc.put s.units unit ((s.partition unit).putAll bs)⟩

/-- A text can always be put under. -/
theorem put_text (s : Store) (w : World) (unit name : String) (value : Value) :
    s.put w unit (.text name) value =
      (.ok (), ⟨Assoc.put s.units unit ((s.partition unit).put [.text name] (.text name) value)⟩) := by
  rw [put, if_neg (by simp), World.key_text]

theorem partition_put (s : Store) (unit : String) (p : Partition) :
    (Store.mk (Assoc.put s.units unit p)).partition unit = p := by
  rw [partition, Assoc.find?_put_self]
  rfl

theorem put_putAll (s : Store) (w : World) (unit : String) (b : String × Value)
    (bs : List (String × Value)) :
    ((s.put w unit (.text b.1) b.2).2).putAll unit bs = s.putAll unit (b :: bs) := by
  rw [put_text]
  dsimp only
  rw [putAll, putAll, if_neg (List.cons_ne_nil b bs)]
  by_cases hbs : bs = []
  · rw [if_pos hbs, hbs]
    rfl
  · rw [if_neg hbs, partition_put, Assoc.put_put]
    rfl

section

variable (s : Store) (unit : String) (bs : List (String × Value))

theorem putAll_without : (s.putAll unit bs).without [unit] = s.without [unit] := by
  rw [putAll]
  split
  · rfl
  · exact Assoc.filter_put (by simp) _ _

theorem partition_putAll :
    (s.putAll unit bs).partition unit = (s.partition unit).putAll bs := by
  rw [putAll]
  split
  · next hbs =>
      rw [hbs]
      rfl
  · exact partition_put s unit _

end

end Store

namespace Source

variable {w : World} {s : Store}

/-- Bindings without their types. -/
def named (rs : List BindingRecord) : List (String × Value) :=
  rs.map fun r => (r.name, r.value)

/-- Staging goes through to its end and reaches the partition of the unit only. -/
theorem stageAll_putAll (w : World) (s : Store) (unit : UnitId) (rs : List BindingRecord) :
    stageAll s w unit rs = s.putAll unit.qualifiedName (named rs) := by
  induction rs generalizing s with
  | nil => rfl
  | cons r rs ih =>
      rw [stageAll, List.foldl_cons, ← stageAll, ih]
      exact Store.put_putAll s w unit.qualifiedName (r.name, r.value) (named rs)

/-- What is asked for can be made: every import and the result type can be written, and every name
    may be the name of a binding. The bindings of a method unit do not matter, nor does a result type
    for it. -/
structure Request.Valid (w : World) (unit : UnitId) (r : Request) : Prop where
  imports : ∀ e ∈ r.imports, (renderImport w e).isOk = true
  result : r.kind = .inline → (renderResultType w r.resultType).isOk = true
  names : r.kind = .inline →
    ∀ b ∈ r.bindings, b.1 ≠ .null → (checkBindingName w unit b.1).isOk = true

/-- The store after a request has been carried out. -/
def Request.staged (r : Request) (s : Store) (g : GeneratedUnit) : Store :=
  match r.kind with
  | .method => s
  | .inline => s.putAll g.unit.qualifiedName (named g.bindings)

/-- What is listed for a request: a record for every binding with a name, in order. Nothing is listed
    for a method unit. -/
def Request.Lists (w : World) (r : Request) (g : GeneratedUnit) : Prop :=
  match r.kind with
  | .method => g.bindings = []
  | .inline => List.Forall₂ (RecordOf w g.unit) (r.bindings.filter fun b => b.1 ≠ .null) g.bindings

theorem mapM_isOk_iff {ε α β : Type} {f : α → Except ε β} {as : List α} :
    (as.mapM f).isOk = true ↔ ∀ a ∈ as, (f a).isOk = true := by
  induction as with
  | nil => simp [pure, Except.pure, Except.isOk, Except.toBool]
  | cons a as ih =>
      rw [List.mapM_cons, List.forall_mem_cons, ← ih]
      cases f a with
      | error e => simp [bind, Except.bind, Except.isOk, Except.toBool]
      | ok b =>
          cases as.mapM f with
          | error e => simp [bind, Except.bind, Except.isOk, Except.toBool]
          | ok bs => simp [bind, Except.bind, pure, Except.pure, Except.isOk, Except.toBool]

theorem records_isOk_iff {unit : UnitId} {bindings : List (Value × Value)} :
    (records w unit bindings).isOk = true ↔
      ∀ b ∈ bindings, b.1 ≠ .null → (checkBindingName w unit b.1).isOk = true := by
  induction bindings with
  | nil => simp [records, Except.isOk, Except.toBool]
  | cons b bindings ih =>
      obtain ⟨name, value⟩ := b
      rw [records, List.forall_mem_cons, ← ih]
      by_cases hname : name = .null
      · simp [hname]
      · rw [if_neg hname]
        cases checkBindingName w unit name with
        | error f => simp [hname, bind, Except.bind, Except.isOk, Except.toBool]
        | ok s =>
            cases records w unit bindings with
            | error f => simp [bind, Except.bind, Except.isOk, Except.toBool]
            | ok rs => simp [bind, Except.bind, pure, Except.pure, Except.isOk, Except.toBool]

/-- What becomes of a request: it is refused and leaves the store alone, or it can be made and is made
    in one go. -/
inductive Outcome (w : World) (s : Store) (unit : UnitId) (r : Request) :
    Except Fault GeneratedUnit → Store → Prop
  | refused {f : Fault} (hr : ¬ r.Valid w unit) : Outcome w s unit r (.error f) s
  | made {g : GeneratedUnit} {t : Store} (hr : r.Valid w unit) (hunit : g.unit = unit)
      (hkind : g.kind = r.kind) (hlists : r.Lists w g) (hstaged : t = r.staged s g) :
      Outcome w s unit r (.ok g) t

theorem outcome_synthesize (w : World) (s : Store) (unit : UnitId) (r : Request) :
    Outcome w s unit r (synthesize w s unit r).1 (synthesize w s unit r).2.1 := by
  have hrefused {ε α : Type} {x : Except ε α} {e : ε} (hx : x = .error e) : ¬ x.isOk = true := by
    rw [hx]
    exact Bool.false_ne_true
  have hok {ε α : Type} {x : Except ε α} {a : α} (hx : x = .ok a) : x.isOk = true := by
    rw [hx]
    rfl
  unfold synthesize
  cases himports : r.imports.mapM (renderImport w) with
  | error f => exact .refused fun hr => hrefused himports (mapM_isOk_iff.mpr hr.imports)
  | ok imports =>
      have hall := mapM_isOk_iff.mp (hok himports)
      dsimp only
      cases hkind : r.kind with
      | method =>
          have hinline : r.kind ≠ .inline := by
            rw [hkind]
            decide
          refine .made ⟨hall, fun h => absurd h hinline, fun h => absurd h hinline⟩ rfl hkind.symm
            ?_ ?_
          · rw [Request.Lists, hkind]
          · rw [Request.staged, hkind]
      | inline =>
          dsimp only
          cases hresult : renderResultType w r.resultType with
          | error f => exact .refused fun hr => hrefused hresult (hr.result hkind)
          | ok rendered =>
              dsimp only
              cases hrecords : records w unit r.bindings with
              | error f =>
                  exact .refused fun hr => hrefused hrecords (records_isOk_iff.mpr (hr.names hkind))
              | ok rs =>
                  have hvalid : r.Valid w unit :=
                    ⟨hall, fun _ => hok hresult, fun _ => records_isOk_iff.mp (hok hrecords)⟩
                  refine .made hvalid rfl hkind.symm ?_ ?_
                  · rw [Request.Lists, hkind]
                    exact records_forall₂ hrecords
                  · rw [Request.staged, hkind]
                    exact stageAll_putAll w s unit rs

variable (w s) (a : Allocator)

theorem synthesizeNext_some (u : UnitId) (r : Request) :
    synthesizeNext w s a (some u) r =
      ((synthesize w s u r).1, (synthesize w s u r).2.1, a, (synthesize w s u r).2.2) := rfl

theorem synthesizeNext_none (r : Request) :
    synthesizeNext w s a none r =
      if Writable (a.last + 1) then
        ((synthesize w s (.numbered (a.last + 1)) r).1,
          (synthesize w s (.numbered (a.last + 1)) r).2.1, ⟨a.last + 1⟩,
          (synthesize w s (.numbered (a.last + 1)) r).2.2)
      else (.error (.unwritten .tooManyDigits), s, ⟨a.last + 1⟩, []) := by
  rw [synthesizeNext]
  dsimp only [Allocator.next]
  rw [World.numberedUnit_whole]
  by_cases h : Writable (a.last + 1)
  · rw [if_pos h, if_pos h]
  · rw [if_neg h, if_neg h]

/-- The next number of an allocator is used up exactly if no unit is given. -/
theorem synthesizeNext_last (unit : Option UnitId) (r : Request) :
    (synthesizeNext w s a unit r).2.2.1.last = a.last + if unit.isNone then 1 else 0 := by
  cases unit with
  | some u => exact (Int.add_zero _).symm
  | none =>
      rw [synthesizeNext_none]
      split <;> rfl

/-- A unit that cannot be named is refused too. -/
def Nameable (a : Allocator) : Option UnitId → Prop
  | some _ => True
  | none => Writable (a.last + 1)

theorem outcome_synthesizeNext (unit : Option UnitId) (r : Request) :
    let run := synthesizeNext w s a unit r
    (Nameable a unit ∧ Outcome w s (unit.getD (.numbered (a.last + 1))) r run.1 run.2.1) ∨
      (¬ Nameable a unit ∧ run.1 = .error (.unwritten .tooManyDigits) ∧ run.2.1 = s) := by
  cases unit with
  | some u => exact .inl ⟨trivial, outcome_synthesize w s u r⟩
  | none =>
      dsimp only
      rw [synthesizeNext_none]
      by_cases h : Writable (a.last + 1)
      · rw [if_pos h]
        exact .inl ⟨h, outcome_synthesize w s _ r⟩
      · rw [if_neg h]
        exact .inr ⟨h, rfl, rfl⟩

/-- Making the source of a unit is all or nothing. Without a given unit it uses up one number, however
    it ends. It is refused exactly if there is no unit or the request is not valid, and then nothing
    is staged; nor is anything staged for a method unit. For an inline unit there is a record for every
    binding with a name, in order, with the very value and the type that is inferred for it, and these
    values are put into the partition of the unit, in that order; what else is staged stays. -/
theorem synthesizeNext_all_or_nothing (unit : Option UnitId) (r : Request) :
    let run := synthesizeNext w s a unit r
    run.2.2.1.last = a.last + (if unit.isNone then 1 else 0) ∧
    (run.1.isOk = true ↔
      Nameable a unit ∧ r.Valid w (unit.getD (.numbered (a.last + 1)))) ∧
    (∀ f, run.1 = .error f → run.2.1 = s) ∧
    (∀ g, run.1 = .ok g → r.kind = .method → run.2.1 = s) ∧
    ∀ g, run.1 = .ok g → r.kind = .inline →
      List.Forall₂ (RecordOf w g.unit) (r.bindings.filter fun b => b.1 ≠ .null) g.bindings ∧
      run.2.1 = s.putAll g.unit.qualifiedName (named g.bindings) ∧
      run.2.1.without [g.unit.qualifiedName] = s.without [g.unit.qualifiedName] ∧
      ∀ name, (run.2.1.partition g.unit.qualifiedName).find? [.text name] =
        (Assoc.find? (named g.bindings).reverse name).or
          ((s.partition g.unit.qualifiedName).find? [.text name]) := by
  have hlast := synthesizeNext_last w s a unit r
  have houtcome := outcome_synthesizeNext w s a unit r
  dsimp only at houtcome ⊢
  generalize synthesizeNext w s a unit r = run at hlast houtcome
  obtain ⟨result, t, a', log⟩ := run
  dsimp only at hlast houtcome ⊢
  refine ⟨hlast, ?_⟩
  rcases houtcome with ⟨hname, houtcome⟩ | ⟨hname, rfl, rfl⟩
  · cases houtcome with
    | refused hr => simp [hr, Except.isOk, Except.toBool]
    | @made g t hr _ _ hlists hstaged =>
        refine ⟨by simp [hname, hr, Except.isOk, Except.toBool], by simp, ?_, ?_⟩
        · intro _ _ hkind
          rw [hstaged, Request.staged, hkind]
        · intro g' hg hkind
          cases hg
          rw [Request.Lists, hkind] at hlists
          rw [Request.staged, hkind] at hstaged
          dsimp only at hlists hstaged
          refine ⟨hlists, hstaged, ?_, fun name => ?_⟩
          · rw [hstaged, Store.putAll_without]
          · rw [hstaged, Store.partition_putAll, Partition.find?_putAll]
  · simp [hname, Except.isOk, Except.toBool]

/-- Something is staged for a unit and for another one. -/
def stagedBefore : Store :=
  ⟨[("woven.gen1", [([.text "a"], ⟨.text "a", .whole 1⟩)]),
    ("woven.y", [([.text "a"], ⟨.text "a", .whole 1⟩)])]⟩

/-- A request for a new name, for no name and for the name that is staged. -/
def mixedRequest : Request :=
  { fragment := some "return a", bindings :=
    [(.text "b", .whole 2), (.null, .whole 3), (.text "a", .whole 4)] }

/-- The same request with a keyword behind its names. -/
def spoiltRequest : Request :=
  { mixedRequest with bindings := mixedRequest.bindings ++ [(.text "for", .whole 5)] }

theorem synthesizeNext_all_or_nothing_mixed :
    (synthesizeNext {} stagedBefore {} none mixedRequest).2.1 =
        ⟨[("woven.gen1", [([.text "a"], ⟨.text "a", .whole 4⟩), ([.text "b"], ⟨.text "b", .whole 2⟩)]),
          ("woven.y", [([.text "a"], ⟨.text "a", .whole 1⟩)])]⟩ ∧
      (synthesizeNext {} stagedBefore {} none spoiltRequest).2.1 = stagedBefore ∧
      (synthesizeNext {} stagedBefore {} none spoiltRequest).2.2.1.last = 1 := by
  obtain ⟨-, -, -, -, hmade⟩ := synthesizeNext_all_or_nothing {} stagedBefore {} none mixedRequest
  obtain ⟨hlast, -, hrefused, -, -⟩ :=
    synthesizeNext_all_or_nothing {} stagedBefore {} none spoiltRequest
  have hbindings : ((synthesizeNext {} stagedBefore {} none mixedRequest).1.map fun g =>
      (g.unit, named g.bindings)).toOption =
        some (.numbered 1, [("b", .whole 2), ("a", .whole 4)]) := by
    decide +kernel
  have hspoilt : (synthesizeNext {} stagedBefore {} none spoiltRequest).1.isOk = false := by
    decide +kernel
  refine ⟨?_, ?_, hlast⟩
  · cases hresult : (synthesizeNext {} stagedBefore {} none mixedRequest).1 with
    | error f =>
        rw [hresult] at hbindings
        cases hbindings
    | ok g =>
        rw [hresult] at hbindings
        obtain ⟨hunit, hnamed⟩ := Prod.mk.inj (Option.some.inj hbindings)
        rw [(hmade g hresult rfl).2.1, hunit, hnamed, Store.putAll, if_neg (List.cons_ne_nil _ _)]
        exact congrArg Store.mk (by decide +kernel)
  · cases hresult : (synthesizeNext {} stagedBefore {} none spoiltRequest).1 with
    | error f => exact hrefused f hresult
    | ok g =>
        rw [hresult] at hspoilt
        cases hspoilt

end Source

end FragmentWeaver
