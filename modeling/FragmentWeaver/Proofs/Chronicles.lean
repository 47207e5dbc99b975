import FragmentWeaver.Chronicle
import Mathlib.Data.List.Nodup
import Mathlib.Data.List.TakeWhile

/-!
# What the chronicle of imports implies

A name whose body is started stays in the table until a body fails, and is not started again while it
stands there. So as long as no fault of a body is caught, every name is started once, an import of it
finds the module that was made for it, and a module that stands in the table at the end was carried out
to its end.
-/

namespace FragmentWeaver

namespace ModuleEvent

/-- The name whose body is started. -/
def started? : ModuleEvent → Option String
  | .started name _ _ => some name
  | _ => none

/-- The name whose body is started, unless that is done on behalf of an import. -/
def loaded? : ModuleEvent → Option String
  | .started name _ false => some name
  | _ => none

/-- The name whose body is carried out to its end. -/
def completed? : ModuleEvent → Option String
  | .completed name _ => some name
  | _ => none

/-- The name that is taken out of what is staged for a unit. -/
def taken? (unit : String) : ModuleEvent → Option Value
  | .took other name => if other = unit then some name else none
  | _ => none

/-- Did a body fail? -/
def isFailure : ModuleEvent → Bool
  | .failed _ _ => true
  | _ => false

/-- The names whose bodies are started, in order. -/
def starts (es : List ModuleEvent) : List String := es.filterMap started?

/-- The names whose bodies are started other than on behalf of an import, in order. -/
def loads (es : List ModuleEvent) : List String := es.filterMap loaded?

/-- The names whose bodies are carried out to their end, in order. -/
def completions (es : List ModuleEvent) : List String := es.filterMap completed?

/-- What is taken out of what is staged for a unit, in order. -/
def takes (unit : String) (es : List ModuleEvent) : List Value := es.filterMap (taken? unit)

/-- No body fails. -/
def Calm (es : List ModuleEvent) : Prop := ∀ e ∈ es, e.isFailure = false

/-- What happens before the first body fails. -/
def untilFailure (es : List ModuleEvent) : List ModuleEvent := es.takeWhile (!·.isFailure)

/-- The fault of a body is not caught: once a body has failed, nothing happens but that the bodies
    around it fail. -/
def Uncaught (es : List ModuleEvent) : Prop :=
  ∀ e ∈ es.dropWhile (!·.isFailure), e.isFailure = true

instance (es : List ModuleEvent) : Decidable (Uncaught es) :=
  inferInstanceAs (Decidable (∀ e ∈ _, _))

/-- The last thing that happens is not that a body fails. -/
def EndsCalmly (es : List ModuleEvent) : Prop := ∀ e ∈ es.getLast?, e.isFailure = false

variable {es es' : List ModuleEvent} {e : ModuleEvent} {name : String} {m k : ModuleId}

@[simp]
theorem untilFailure_cons_started (i : Bool) :
    untilFailure (.started name m i :: es) = .started name m i :: untilFailure es := rfl

theorem untilFailure_of_calm (h : Calm es) : untilFailure es = es := by
  rw [untilFailure, List.takeWhile_eq_self_iff]
  intro e he
  rw [h e he]
  rfl

theorem mem_of_mem_untilFailure (h : e ∈ untilFailure es) : e ∈ es :=
  (List.takeWhile_prefix _).subset h

/-- Events that go on after others are seen until the first failure, if there was none before. -/
theorem untilFailure_append (es es' : List ModuleEvent) :
    Calm es ∧ untilFailure (es ++ es') = es ++ untilFailure es' ∨
      untilFailure (es ++ es') = untilFailure es := by
  induction es with
  | nil => exact .inl ⟨nofun, rfl⟩
  | cons e rest ih =>
      rw [List.cons_append]
      unfold untilFailure at *
      cases he : e.isFailure with
      | true => exact .inr (by simp [he])
      | false =>
          simp only [List.takeWhile_cons, he, Bool.not_false, if_true]
          rcases ih with ⟨hcalm, hrest⟩ | hrest
          · exact .inl ⟨List.forall_mem_cons.mpr ⟨he, hcalm⟩, by rw [hrest, List.cons_append]⟩
          · exact .inr (by rw [hrest])

/-- Without a failure that is caught, everything but failures happens before the first one. -/
theorem Uncaught.mem (h : Uncaught es) (he : e ∈ es) (hcalm : e.isFailure = false) :
    e ∈ untilFailure es := by
  rw [← List.takeWhile_append_dropWhile (p := (!·.isFailure)) (l := es)] at he
  rcases List.mem_append.mp he with he | he
  · exact he
  · rw [h e he] at hcalm
    cases hcalm

theorem Uncaught.starts_eq (h : Uncaught es) : starts es = starts (untilFailure es) := by
  have hfailures : (es.dropWhile (!·.isFailure)).filterMap started? = [] := by
    rw [List.filterMap_eq_nil_iff]
    intro e he
    have hfailure := h e he
    cases e with
    | failed => rfl
    | started | completed | imported | took => cases hfailure
  calc
    starts es = (untilFailure es ++ es.dropWhile (!·.isFailure)).filterMap started? := by
      rw [untilFailure, List.takeWhile_append_dropWhile, starts]
    _ = starts (untilFailure es) := by
      rw [List.filterMap_append, hfailures, List.append_nil, starts]

/-- Nothing failed before an end without a failure. -/
theorem Uncaught.calm (h : Uncaught (es ++ es')) (hend : EndsCalmly es) : Calm es := by
  induction es with
  | nil => nofun
  | cons e rest ih =>
      cases he : e.isFailure with
      | false =>
          have hrest : Uncaught (rest ++ es') := by
            simpa only [Uncaught, List.cons_append, List.dropWhile_cons, he, Bool.not_false,
              if_true] using h
          refine List.forall_mem_cons.mpr ⟨he, ih hrest fun last hlast => hend last ?_⟩
          cases rest with
          | nil => cases hlast
          | cons next others => rwa [List.getLast?_cons_cons]
      | true =>
          -- Everything from here on is a failure, and so is the end.
          have hall : ∀ x ∈ e :: rest ++ es', x.isFailure = true := by
            simpa only [Uncaught, List.cons_append, List.dropWhile_cons, he, Bool.not_true,
              Bool.false_eq_true, if_false] using h
          have hlast := hend _ (List.getLast?_eq_some_getLast (List.cons_ne_nil e rest))
          rw [hall _ (List.mem_append_left _ (List.getLast_mem _))] at hlast
          cases hlast

theorem EndsCalmly.append (h : EndsCalmly es) (h' : EndsCalmly es') : EndsCalmly (es ++ es') := by
  intro e he
  rw [Option.mem_def, List.getLast?_append] at he
  cases hlast : es'.getLast? with
  | none =>
      rw [hlast, Option.none_or] at he
      exact h e he
  | some last =>
      rw [hlast, Option.some_or] at he
      cases he
      exact h' e hlast

theorem mem_starts_iff : name ∈ starts es ↔ ∃ m i, .started name m i ∈ es := by
  rw [starts, List.mem_filterMap]
  constructor
  · rintro ⟨e, he, hname⟩
    cases e with
    | started other m i =>
        cases hname
        exact ⟨m, i, he⟩
    | completed | failed | imported | took => cases hname
  · rintro ⟨m, i, he⟩
    exact ⟨_, he, rfl⟩

theorem mem_completions_iff : name ∈ completions es ↔ ∃ m, .completed name m ∈ es := by
  rw [completions, List.mem_filterMap]
  constructor
  · rintro ⟨e, he, hname⟩
    cases e with
    | completed other m =>
        cases hname
        exact ⟨m, he⟩
    | started | failed | imported | took => cases hname
  · rintro ⟨m, he⟩
    exact ⟨_, he, rfl⟩

/-- A name that is started once is started for one module. -/
theorem eq_of_started {i j : Bool} (hnodup : (starts es).Nodup) (h : .started name m i ∈ es)
    (h' : .started name k j ∈ es) : m = k := by
  induction es with
  | nil => cases h
  | cons e rest ih =>
      have hrest : (starts rest).Nodup :=
        hnodup.sublist ((List.sublist_cons_self e rest).filterMap started?)
      have hnew {m : ModuleId} {i : Bool} (he : e = .started name m i) : name ∉ starts rest := by
        subst he
        exact (List.nodup_cons.mp hnodup).1
      rcases List.mem_cons.mp h with h | h
      · rcases List.mem_cons.mp h' with h' | h'
        · cases h.trans h'.symm
          rfl
        · exact absurd (mem_starts_iff.mpr ⟨k, j, h'⟩) (hnew h.symm)
      · rcases List.mem_cons.mp h' with h' | h'
        · exact absurd (mem_starts_iff.mpr ⟨m, i, h⟩) (hnew h'.symm)
        · exact ih hrest h h'

end ModuleEvent

namespace Chronicle

open ModuleEvent

variable {a b : Table} {es : List ModuleEvent} {name : String} {m : ModuleId}

theorem ne_of_none {a : Table} {other : String} (hnone : a other = none) (hm : a name = some m) :
    name ≠ other := by
  rintro rfl
  rw [hnone] at hm
  cases hm

/-- Every entry stays. When a body fails, what is taken out was not there before. -/
theorem keeps (h : Chronicle a es b) (hm : a name = some m) : b name = some m := by
  induction h with
  | idle | took | imported => exact hm
  | next _ _ ih ih' => exact ih' (ih hm)
  | brought k _ hnone => exact (Table.put_of_ne _ (ne_of_none hnone hm) k).trans hm
  | completed hnone _ _ ih => exact ih ((Table.put_of_ne _ (ne_of_none hnone hm) _).trans hm)
  | failed hnone _ ih =>
      have hne := ne_of_none hnone hm
      exact (Table.drop_of_ne _ hne).trans (ih ((Table.put_of_ne _ hne _).trans hm))

/-- As long as no body fails, every module whose body was started stands in the table. -/
theorem stands (h : Chronicle a es b) (hcalm : Calm es) {i : Bool} (hm : .started name m i ∈ es) :
    b name = some m := by
  induction h with
  | idle | brought => cases hm
  | took | imported => cases List.mem_singleton.mp hm
  | next _ h' ih ih' =>
      obtain ⟨hfirst, hlast⟩ := List.forall_mem_append.mp hcalm
      rcases List.mem_append.mp hm with hm | hm
      · exact h'.keeps (ih hfirst hm)
      · exact ih' hlast hm
  | @completed a b other k j es _ _ hend ih =>
      have hcases : (name = other ∧ m = k ∧ i = j) ∨ .started name m i ∈ es := by
        simpa using hm
      rcases hcases with ⟨rfl, rfl, -⟩ | hmem
      · exact hend
      · exact ih (fun e he => hcalm e (by simp [he])) hmem
  | failed => cases hcalm _ (List.mem_append_right _ (List.mem_singleton.mpr rfl))

/-- As long as no body fails, an entry was there before, or the body of its module was started. -/
theorem origin (h : Chronicle a es b) (hcalm : Calm es) (hdot : '.' ∈ name.toList)
    (hm : b name = some m) : a name = some m ∨ ∃ i, .started name m i ∈ es := by
  induction h with
  | idle | took | imported => exact .inl hm
  | next _ _ ih ih' =>
      obtain ⟨hfirst, hlast⟩ := List.forall_mem_append.mp hcalm
      rcases ih' hlast hm with hmid | ⟨i, hi⟩
      · rcases ih hfirst hmid with hstart | ⟨i, hi⟩
        · exact .inl hstart
        · exact .inr ⟨i, List.mem_append_left _ hi⟩
      · exact .inr ⟨i, List.mem_append_right _ hi⟩
  | @brought a other k hname _ =>
      have hne : name ≠ other := fun heq => hname (heq ▸ hdot)
      rw [Table.put_of_ne _ hne] at hm
      exact .inl hm
  | @completed a b other k i es _ _ _ ih =>
      rcases ih (fun e he => hcalm e (by simp [he])) hm with hput | ⟨j, hj⟩
      · by_cases heq : name = other
        · subst heq
          rw [Table.put_self] at hput
          cases hput
          exact .inr ⟨i, by simp⟩
        · rw [Table.put_of_ne _ heq] at hput
          exact .inl hput
      · exact .inr ⟨j, by simp [hj]⟩
  | failed => cases hcalm _ (List.mem_append_right _ (List.mem_singleton.mpr rfl))

/-- A module that is new in the table was carried out to its end. -/
theorem carriedOut (h : Chronicle a es b) (hdot : '.' ∈ name.toList) (hnone : a name = none)
    (hm : b name = some m) : .completed name m ∈ es := by
  induction h with
  | idle | took | imported =>
      rw [hnone] at hm
      cases hm
  | @next a b c es es' _ h' ih ih' =>
      cases hmid : b name with
      | none => exact List.mem_append_right _ (ih' hmid hm)
      | some k =>
          rw [h'.keeps hmid] at hm
          cases hm
          exact List.mem_append_left _ (ih hnone hmid)
  | @brought a other k hname _ =>
      have hne : name ≠ other := fun heq => hname (heq ▸ hdot)
      rw [Table.put_of_ne _ hne, hnone] at hm
      cases hm
  | @completed a b other k i es _ _ hend ih =>
      by_cases heq : name = other
      · subst heq
        rw [hend] at hm
        cases hm
        simp
      · have hbody := ih ((Table.put_of_ne _ heq k).trans hnone) hm
        simp [hbody]
  | @failed a b other k i es _ _ ih =>
      by_cases heq : name = other
      · subst heq
        rw [Table.drop_self] at hm
        cases hm
      · rw [Table.drop_of_ne _ heq] at hm
        have hbody := ih ((Table.put_of_ne _ heq k).trans hnone) hm
        simp [hbody]

/-- The start of a body is seen before the first failure, and so is what it does. -/
theorem starts_body {other : String} {k : ModuleId} {i : Bool} {last : ModuleEvent}
    (hlast : last.started? = none) (es : List ModuleEvent) :
    starts (untilFailure (.started other k i :: es ++ [last])) =
      other :: starts (untilFailure es) := by
  rw [List.cons_append, untilFailure_cons_started]
  change other :: starts (untilFailure (es ++ [last])) = _
  rcases untilFailure_append es [last] with ⟨hcalm, hall⟩ | hall
  · have hstarts : starts (untilFailure [last]) = [] := by
      unfold untilFailure
      rw [List.takeWhile_cons]
      split
      · rw [starts, List.filterMap_cons, hlast]
        rfl
      · rfl
    rw [hall, untilFailure_of_calm hcalm, starts, List.filterMap_append]
    exact congrArg (other :: ·) ((congrArg _ hstarts).trans (List.append_nil _))
  · rw [hall]

/-- Until a body fails, no name is started twice, and none that was in the table. -/
theorem startsOnce (h : Chronicle a es b) :
    (starts (untilFailure es)).Nodup ∧ ∀ name ∈ starts (untilFailure es), a name = none := by
  have hbody {a : Table} {other : String} {k : ModuleId} {i : Bool} {last : ModuleEvent}
      {es : List ModuleEvent} (hlast : last.started? = none) (hnone : a other = none)
      (ih : (starts (untilFailure es)).Nodup ∧
        ∀ name ∈ starts (untilFailure es), a.put other k name = none) :
      (starts (untilFailure (.started other k i :: es ++ [last]))).Nodup ∧
        ∀ name ∈ starts (untilFailure (.started other k i :: es ++ [last])), a name = none := by
    rw [starts_body hlast]
    refine ⟨List.nodup_cons.mpr ⟨fun hmem => ?_, ih.1⟩, fun name hname => ?_⟩
    · have hself := ih.2 other hmem
      rw [Table.put_self] at hself
      cases hself
    · rcases List.mem_cons.mp hname with rfl | hname
      · exact hnone
      · have hput := ih.2 name hname
        by_cases heq : name = other
        · rw [heq, hnone]
        · rwa [Table.put_of_ne _ heq] at hput
  induction h with
  | idle | brought | took | imported => exact ⟨.nil, nofun⟩
  | @next a b c es es' h _ ih ih' =>
      rcases untilFailure_append es es' with ⟨hcalm, hall⟩ | hall
      · rw [untilFailure_of_calm hcalm] at ih
        rw [hall, starts, List.filterMap_append]
        -- What was started first stands in the table and is not started again.
        have hlater : ∀ name ∈ starts (untilFailure es'), a name = none := by
          intro name hname
          cases hentry : a name with
          | none => rfl
          | some k =>
              have hkept := ih'.2 name hname
              rw [h.keeps hentry] at hkept
              cases hkept
        refine ⟨List.nodup_append.mpr ⟨ih.1, ih'.1, fun name hname other hother heq => ?_⟩,
          fun name hname => ?_⟩
        · subst heq
          obtain ⟨k, i, hk⟩ := mem_starts_iff.mp hname
          have hnone := ih'.2 name hother
          rw [h.stands hcalm hk] at hnone
          cases hnone
        · rcases List.mem_append.mp hname with hname | hname
          · exact ih.2 name hname
          · exact hlater name hname
      · rwa [hall]
  | completed hnone _ _ ih => exact hbody rfl hnone ih
  | failed hnone _ ih => exact hbody rfl hnone ih

/-- Until a body fails, an import finds a module that was there before, or whose body was started. -/
theorem finds (h : Chronicle a es b) (hdot : '.' ∈ name.toList)
    (hm : .imported name m ∈ untilFailure es) :
    a name = some m ∨ ∃ i, .started name m i ∈ untilFailure es := by
  have hbody {a : Table} {other : String} {k : ModuleId} {i : Bool} {last : ModuleEvent}
      {es : List ModuleEvent} (hlast : last ≠ .imported name m)
      (hm : .imported name m ∈ untilFailure (.started other k i :: es ++ [last]))
      (ih : .imported name m ∈ untilFailure es →
        a.put other k name = some m ∨ ∃ i, .started name m i ∈ untilFailure es) :
      a name = some m ∨
        ∃ j, .started name m j ∈ untilFailure (.started other k i :: es ++ [last]) := by
    rw [List.cons_append, untilFailure_cons_started] at hm ⊢
    have hmem : .imported name m ∈ untilFailure (es ++ [last]) := by simpa using hm
    have hsub : untilFailure es ⊆ untilFailure (es ++ [last]) := by
      rcases untilFailure_append es [last] with ⟨hcalm, hall⟩ | hall
      · rw [hall, untilFailure_of_calm hcalm]
        exact List.subset_append_left ..
      · rw [hall]
        exact List.Subset.refl _
    have hin : .imported name m ∈ untilFailure es := by
      rcases untilFailure_append es [last] with ⟨hcalm, hall⟩ | hall
      · rw [hall] at hmem
        rw [untilFailure_of_calm hcalm]
        rcases List.mem_append.mp hmem with hmem | hmem
        · exact hmem
        · exact absurd (List.mem_singleton.mp (mem_of_mem_untilFailure hmem)).symm hlast
      · rwa [hall] at hmem
    rcases ih hin with hput | ⟨j, hj⟩
    · by_cases heq : name = other
      · subst heq
        rw [Table.put_self] at hput
        cases hput
        exact .inr ⟨i, List.mem_cons_self⟩
      · rw [Table.put_of_ne _ heq] at hput
        exact .inl hput
    · exact .inr ⟨j, List.mem_cons_of_mem _ (hsub hj)⟩
  induction h with
  | idle | brought => cases hm
  | took => cases List.mem_singleton.mp (mem_of_mem_untilFailure hm)
  | imported hb =>
      cases List.mem_singleton.mp (mem_of_mem_untilFailure hm)
      exact .inl hb
  | @next a b c es es' h _ ih ih' =>
      rcases untilFailure_append es es' with ⟨hcalm, hall⟩ | hall
      · rw [untilFailure_of_calm hcalm] at ih
        rw [hall] at hm ⊢
        rcases List.mem_append.mp hm with hm | hm
        · rcases ih hm with hstart | ⟨i, hi⟩
          · exact .inl hstart
          · exact .inr ⟨i, List.mem_append_left _ hi⟩
        · rcases ih' hm with hmid | ⟨i, hi⟩
          · rcases h.origin hcalm hdot hmid with hstart | ⟨i, hi⟩
            · exact .inl hstart
            · exact .inr ⟨i, List.mem_append_left _ hi⟩
          · exact .inr ⟨i, List.mem_append_right _ hi⟩
      · rw [hall] at hm ⊢
        exact ih hm
  | completed _ _ _ ih => exact hbody nofun hm ih
  | failed _ _ ih => exact hbody nofun hm ih

/-- Only a body that was started is carried out to its end, and not more often. -/
theorem completions_le (h : Chronicle a es b) (name : String) :
    (completions es).count name ≤ (starts es).count name := by
  unfold completions starts
  induction h with
  | idle | brought | took | imported => exact Nat.le_refl _
  | next _ _ ih ih' =>
      rw [List.filterMap_append, List.filterMap_append, List.count_append, List.count_append]
      exact Nat.add_le_add ih ih'
  | completed _ _ _ ih =>
      simp only [List.cons_append, List.filterMap_cons, List.filterMap_append, started?, completed?,
        List.count_append, List.count_cons, List.filterMap_nil, List.count_nil]
      omega
  | failed _ _ ih =>
      simp only [List.cons_append, List.filterMap_cons, List.filterMap_append, started?, completed?,
        List.count_append, List.count_cons, List.filterMap_nil, List.count_nil]
      omega

/-- A module whose body is carried out to its end is the one for which it was started. -/
theorem started_of_completed (h : Chronicle a es b) (hm : .completed name m ∈ es) :
    ∃ i, .started name m i ∈ es := by
  induction h with
  | idle | brought => cases hm
  | took | imported => cases List.mem_singleton.mp hm
  | next _ _ ih ih' =>
      rcases List.mem_append.mp hm with hm | hm
      · obtain ⟨i, hi⟩ := ih hm
        exact ⟨i, List.mem_append_left _ hi⟩
      · obtain ⟨i, hi⟩ := ih' hm
        exact ⟨i, List.mem_append_right _ hi⟩
  | @completed a b other k i es _ _ _ ih =>
      have hcases : .completed name m ∈ es ∨ name = other ∧ m = k := by simpa using hm
      rcases hcases with hmem | ⟨rfl, rfl⟩
      · obtain ⟨j, hj⟩ := ih hmem
        exact ⟨j, by simp [hj]⟩
      · exact ⟨i, by simp⟩
  | failed _ _ ih =>
      obtain ⟨j, hj⟩ := ih (by simpa using hm)
      exact ⟨j, by simp [hj]⟩

/-- No body is started for a name that is in the table. -/
theorem not_started (h : Chronicle a es b) (hm : a name = some m) : name ∉ starts es := by
  unfold starts
  induction h generalizing m with
  | idle | brought | took | imported => exact List.not_mem_nil
  | next h _ ih ih' =>
      rw [List.filterMap_append, List.mem_append, not_or]
      exact ⟨ih hm, ih' (h.keeps hm)⟩
  | completed hnone _ _ ih | failed hnone _ ih =>
      have hne := ne_of_none hnone hm
      simpa [started?, hne] using ih ((Table.put_of_ne _ hne _).trans hm)

/-- A module whose body was carried out to its end stands in the table. -/
theorem stands_of_completed (h : Chronicle a es b) (hm : .completed name m ∈ es) :
    b name = some m := by
  induction h with
  | idle | brought => cases hm
  | took | imported => cases List.mem_singleton.mp hm
  | next _ h' ih ih' =>
      rcases List.mem_append.mp hm with hm | hm
      · exact h'.keeps (ih hm)
      · exact ih' hm
  | @completed a b other k i es _ _ hend ih =>
      have hcases : .completed name m ∈ es ∨ name = other ∧ m = k := by simpa using hm
      rcases hcases with hmem | ⟨rfl, rfl⟩
      · exact ih hmem
      · exact hend
  | @failed a b other k i es _ h ih =>
      have hmem : .completed name m ∈ es := by simpa using hm
      -- The failing body is started for a name that stands in the table meanwhile.
      have hne : name ≠ other := by
        rintro rfl
        obtain ⟨j, hj⟩ := h.started_of_completed hmem
        exact h.not_started (Table.put_self ..) (mem_starts_iff.mpr ⟨m, j, hj⟩)
      exact (Table.drop_of_ne _ hne).trans (ih hmem)

/-- However often bodies fail, every name is carried out to its end at most once. -/
theorem nodup_completions (h : Chronicle a es b) : (completions es).Nodup := by
  have hstarted {a b : Table} {es : List ModuleEvent} (h : Chronicle a es b) {name : String}
      (hname : name ∈ completions es) : name ∈ starts es := by
    obtain ⟨m, hm⟩ := mem_completions_iff.mp hname
    exact mem_starts_iff.mpr ⟨m, h.started_of_completed hm⟩
  induction h with
  | idle | brought | took | imported => exact .nil
  | next h h' ih ih' =>
      rw [completions, List.filterMap_append]
      refine List.nodup_append.mpr ⟨ih, ih', fun name hname other hother heq => ?_⟩
      obtain ⟨m, hm⟩ := mem_completions_iff.mp hname
      exact h'.not_started (h.stands_of_completed hm) (hstarted h' (heq ▸ hother))
  | @completed a b other k i es _ h _ ih =>
      have heq : completions (.started other k i :: es ++ [ModuleEvent.completed other k]) =
          completions es ++ [other] := by
        simp [completions, List.filterMap_cons, completed?]
      rw [heq, ← List.concat_eq_append]
      exact List.Nodup.concat
        (fun hmem => h.not_started (Table.put_self ..) (hstarted h hmem)) ih
  | @failed a b other k i es _ _ ih =>
      have heq : completions (.started other k i :: es ++ [ModuleEvent.failed other k]) =
          completions es := by
        simp [completions, List.filterMap_cons, completed?]
      rwa [heq]

end Chronicle

end FragmentWeaver
