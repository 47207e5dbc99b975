import FragmentWeaver.Proofs.Scope

/-!
# Loading contexts clean up after themselves

Any number of contexts are made, installed, asked, loaded from and closed, in any order. What imports
ask is told by what was done so far; every module in the table that was made from a description can be
found again through an open context; and so nothing that a context made outlives it.
-/

namespace FragmentWeaver

namespace Loading

/-- What is done with contexts: one is made, is installed among those that imports ask, is asked for a
    description, loads a module, or is closed; or a module is imported. -/
inductive ScopeCall where
  | create (root : Files.Path) (space : String)
  | install (c : Nat)
  | describe (c : Nat) (name : String)
  | load (c : Nat) (name : String)
  | bring (name : String)
  | close (c : Nat)
  deriving DecidableEq

namespace ScopeCall

/-- The context that something is done with. -/
def context? : ScopeCall → Option Nat
  | .create _ _ | .bring _ => none
  | .install c | .describe c _ | .load c _ | .close c => some c

/-- Do it, from its beginning to its end. -/
def run : ScopeCall → Run Unit
  | .create root space => do
      let _ ← newContext root space
  | .install c => openContext c
  | .describe c name => do
      let _ ← Loading.describe c name
  | .load c name => do
      let _ ← Loading.load c name
  | .bring name => do
      let _ ← importModule name
  | .close c => closeContext c

end ScopeCall

/-- The states that calls lead to, one call after the other has ended. Each is about a context that was
    made before, and no code that it runs edits the module table. -/
inductive Reaches (s₀ : Loom) : List ScopeCall → Loom → Prop
  | start : Reaches s₀ [] s₀
  | step {calls : List ScopeCall} {s : Loom} (h : Reaches s₀ calls s) (call : ScopeCall)
      (hmade : ∀ c, call.context? = some c → c < s.contexts.size)
      (hcode : (call.run.final s).edits = s.edits) :
      Reaches s₀ (calls ++ [call]) (call.run.final s)

/-- A state before any context was made, in which no module comes from a description. -/
structure Fresh (s : Loom) : Prop where
  contexts : s.contexts = #[]
  asked : ∀ f ∈ s.asked, f.context? = none
  known : ∀ {name m}, s.world.imported? name = some m → m < s.world.modules.size
  made : ∀ m, s.world.madeFrom? m = none
  specs : ∀ {name m}, s.world.imported? name = some m → s.world.specOf? m = none

/-- Imports ask the same, and the same contexts are closed. -/
structure SameScope (s t : Loom) : Prop where
  asked : t.asked = s.asked
  closed : t.contexts.map (·.closed) = s.contexts.map (·.closed)

theorem sameScope_isCodeFrame : Loom.IsCodeFrame SameScope where
  trans h h' := ⟨h'.asked.trans h.asked, h'.closed.trans h.closed⟩
  follows {s t} h := by
    refine ⟨h.asked, ?_⟩
    have hbare (u : Loom) : u.contexts.map (·.closed) =
        (u.contexts.map Context.bare).map (·.closed) := by
      rw [Array.map_map]
      rfl
    rw [hbare, h.contexts, ← hbare]
  reports _ _ := ⟨rfl, rfl⟩

theorem sameScope_give (s : Loom) (c : Nat) (name : String) : SameScope s (s.give c name) := by
  refine ⟨rfl, ?_⟩
  dsimp only [Loom.give]
  exact map_modify (fun _ => by rfl) ..

theorem sameScope_describe (c : Nat) (name : String) :
    (describe c name).Keeps SameScope := by
  intro s
  rw [describe, Run.final_of]
  rcases s.describe_cases c name with ⟨hsame, -⟩ | ⟨_, _, -, -, -, hgives⟩
  · rw [hsame]
    exact ⟨rfl, rfl⟩
  · rw [hgives]
    exact sameScope_give s c name

theorem sameScope_note (s : Loom) (e : ModuleEvent) : SameScope s (s.note e) := ⟨rfl, rfl⟩

theorem sameScope_enterLoaded (spec : ModuleSpec) : (enterLoaded spec).Keeps SameScope := by
  intro s
  have hbody := sameScope_isCodeFrame.follows <|
    (runBody importModule (s.enterNew spec false).1 spec.source).follows (s.enterNew spec false).2
  rcases enterLoaded_cases spec s with ⟨-, hend⟩ | ⟨f, -, ⟨-, hend⟩ | hend⟩
  · rw [hend]
    exact ⟨hbody.asked, hbody.closed⟩
  · rw [hend]
    exact ⟨hbody.asked, hbody.closed⟩
  · rw [hend]
    exact ⟨hbody.asked, hbody.closed⟩

theorem sameScope_noteLoaded (c : Nat) (name : String) :
    (noteLoaded c name).Keeps SameScope := by
  intro s
  refine ⟨rfl, ?_⟩
  dsimp only [noteLoaded, changeContext, Run.final_modify]
  exact map_modify (fun _ => by rfl) ..

theorem sameScope_load (c : Nat) (name : String) : (load c name).Keeps SameScope := by
  intro s
  have hload := load_loads c name s
  generalize (load c name).outcome s = r, (load c name).final s = t at hload ⊢
  cases hload with
  | known _ | unknown _ | unreadable _ => exact ⟨rfl, rfl⟩
  | package _ => exact sameScope_give s c name
  | failed _ _ =>
      exact sameScope_isCodeFrame.trans (sameScope_give s c name) (sameScope_enterLoaded _ _)
  | made _ _ =>
      exact sameScope_isCodeFrame.trans
        (sameScope_isCodeFrame.trans (sameScope_give s c name) (sameScope_enterLoaded _ _))
        (sameScope_noteLoaded c name _)

/-- Asking, loading and importing change neither what imports ask nor which contexts are closed. -/
theorem sameScope_run {call : ScopeCall} (hcreate : ∀ root space, call ≠ .create root space)
    (hinstall : ∀ c, call ≠ .install c) (hclose : ∀ c, call ≠ .close c) :
    call.run.Keeps SameScope := by
  have hP := sameScope_isCodeFrame
  cases call with
  | create root space => exact absurd rfl (hcreate root space)
  | install c => exact absurd rfl (hinstall c)
  | describe c name => exact .bind hP (sameScope_describe c name) fun _ => .pure hP _
  | load c name => exact .bind hP (sameScope_load c name) fun _ => .pure hP _
  | bring name => exact .bind hP (.act hP _) fun _ => .pure hP _
  | close c => exact absurd rfl (hclose c)

/-- An open context is installed unless it is already; a closed one is refused. -/
theorem openContext_of_open {c : Nat} {context : Context} {s : Loom}
    (hc : s.contexts[c]? = some context) (hclosed : context.closed = false) :
    (openContext c).outcome s = .ok () ∧ (openContext c).final s =
      if .context c ∈ s.asked then s else { s with asked := .context c :: s.asked } := by
  have hget : s.contexts.getD c default = context := by
    rw [Array.getD_eq_getD_getElem?, hc]
    rfl
  unfold openContext
  rw [Run.outcome_bind, Run.final_bind, outcome_contextOf, final_contextOf, hget]
  dsimp only
  rw [if_neg (by simp [hclosed])]
  refine ⟨rfl, ?_⟩
  by_cases hmem : Finder.context c ∈ s.asked
  · rw [if_pos hmem]
    simp [hmem]
  · rw [if_neg hmem]
    simp [hmem]

theorem openContext_of_closed {c : Nat} {context : Context} {s : Loom}
    (hc : s.contexts[c]? = some context) (hclosed : context.closed = true) :
    (openContext c).outcome s = .error (.closedContext context.space) ∧
      (openContext c).final s = s := by
  have hget : s.contexts.getD c default = context := by
    rw [Array.getD_eq_getD_getElem?, hc]
    rfl
  unfold openContext
  rw [Run.outcome_bind, Run.final_bind, outcome_contextOf, final_contextOf, hget]
  dsimp only
  rw [if_pos hclosed]
  exact ⟨rfl, rfl⟩

/-- A closed context describes nothing. -/
theorem describe_of_closed {c : Nat} {context : Context} {s : Loom}
    (hc : s.contexts[c]? = some context) (hclosed : context.closed = true) (name : String) :
    s.describe c name = (.ok none, s) := by
  unfold Loom.describe
  rw [hc]
  dsimp only
  rw [Context.source?, if_pos hclosed]

/-- A closed context, which remembers no descriptions, loads nothing. -/
theorem load_of_closed {c : Nat} {context : Context} {s : Loom}
    (hc : s.contexts[c]? = some context) (hclosed : context.closed = true)
    (hspent : context.given = []) (name : String) :
    (load c name).outcome s = .error (.import (.noArtifact name context.directory.text)) ∧
      (load c name).final s = s := by
  have hget : s.contexts.getD c default = context := by
    rw [Array.getD_eq_getD_getElem?, hc]
    rfl
  have hown : owned? s.world context name = none := by
    cases h : owned? s.world context name with
    | none => rfl
    | some m =>
        obtain ⟨-, n, -, hn⟩ := (owned?_eq_some_iff s.world context).mp h
        rw [Context.givenFor, hspent] at hn
        cases hn
  have hload := load_loads c name s
  generalize (load c name).outcome s = r, (load c name).final s = t at hload ⊢
  cases hload with
  | known h =>
      rw [hget, hown] at h
      cases h
  | unknown _ => exact ⟨by rw [hget], rfl⟩
  | unreadable h =>
      rw [describe_of_closed hc hclosed] at h
      cases h
  | package hnew | failed hnew | made hnew =>
      obtain rfl : context = _ := Option.some_inj.mp (hc.symm.trans hnew.get)
      exact absurd (hclosed.symm.trans hnew.isOpen) Bool.noConfusion

/-- What can be said of contexts in a state that calls lead to. -/
structure Tidy (s₀ : Loom) (calls : List ScopeCall) (s : Loom) : Prop where
  /-- Imports ask exactly the contexts that were installed and not closed, and each once. -/
  asked : ∀ c, s.asked.count (.context c) =
    if .install c ∈ calls ∧ .close c ∉ calls then 1 else 0
  /-- What else imports ask stays in its order. -/
  foreign : s.asked.filter (fun f => f.context?.isNone) = s₀.asked
  closed : ∀ {c : Nat} {context : Context}, s.contexts[c]? = some context →
    (context.closed = true ↔ .close c ∈ calls)
  /-- A module in the table that was made from a description, or says so, stands under a name for which
      a context that is not closed gave it out. -/
  entries : ∀ {name : String} {m : ModuleId} {n : Nat}, s.world.imported? name = some m →
    s.world.madeFrom? m = some n ∨ s.world.specOf? m = some n → s.IsGiven name n
  /-- To close a context takes only entries out whose modules carry one of its descriptions. -/
  closing : ∀ {c : Nat} {context : Context}, s.contexts[c]? = some context → ∀ name,
    let t := (closeContext c).final s
    t.world.imported? name = s.world.imported? name ∨ t.world.imported? name = none ∧
      ∃ m n, s.world.imported? name = some m ∧ s.world.specOf? m = some n ∧
        n ∈ context.givenFor name
  /-- A closed context is not installed again, describes and loads nothing, and closing it again does
      nothing. -/
  refused : ∀ {c : Nat} {context : Context}, s.contexts[c]? = some context →
    context.closed = true →
      (openContext c).outcome s = .error (.closedContext context.space) ∧
      (openContext c).final s = s ∧ (closeContext c).final s = s ∧
      ∀ name, (describe c name).outcome s = .ok none ∧ (describe c name).final s = s ∧
        (load c name).outcome s = .error (.import (.noArtifact name context.directory.text)) ∧
        (load c name).final s = s
  /-- Nothing that a context made is left once all of them are closed. -/
  clean : (∀ (c : Nat) (context : Context), s.contexts[c]? = some context →
      context.closed = true) →
    ∀ {name : String} {m : ModuleId}, s.world.imported? name = some m →
      s.world.madeFrom? m = none ∧ s.world.specOf? m = none

/-- What the calls so far tell about a state that they lead to. -/
structure Course (s₀ : Loom) (calls : List ScopeCall) (s : Loom) : Prop where
  accounted : s.Accounted
  /-- An import asks exactly the contexts that were installed and not closed, and each once. -/
  asked : ∀ c, s.asked.count (.context c) =
    if .install c ∈ calls ∧ .close c ∉ calls then 1 else 0
  /-- What else imports ask stays in its order. -/
  foreign : s.asked.filter (fun f => f.context?.isNone) = s₀.asked
  closed : ∀ {c : Nat} {context : Context}, s.contexts[c]? = some context →
    (context.closed = true ↔ .close c ∈ calls)
  made : ∀ call ∈ calls, ∀ c, call.context? = some c → c < s.contexts.size

theorem course_start {s₀ : Loom} (h : Fresh s₀) : Course s₀ [] s₀ where
  accounted :=
    { known := h.known
      carried := fun {m n} hn => by
        rw [h.made m] at hn
        cases hn
      given := fun hm hn => by
        rw [h.specs hm] at hn
        cases hn
      spent := fun hc => by
        rw [h.contexts] at hc
        cases hc }
  asked c := by
    have hnot : Finder.context c ∉ s₀.asked := fun hmem => nomatch h.asked _ hmem
    simp [List.count_eq_zero.mpr hnot]
  foreign := List.filter_eq_self.mpr fun f hf => by simp [h.asked f hf]
  closed hc := by
    rw [h.contexts] at hc
    cases hc
  made := fun _ hmem => nomatch hmem

section

variable {s₀ s : Loom} {calls : List ScopeCall}

/-- Contexts of the same number are there after a step that closes none. -/
theorem SameScope.size {t : Loom} (h : SameScope s t) : t.contexts.size = s.contexts.size := by
  simpa using congrArg Array.size h.closed

theorem SameScope.closed_eq {t : Loom} (h : SameScope s t) {c : Nat} {context : Context}
    (hc : t.contexts[c]? = some context) :
    ∃ before, s.contexts[c]? = some before ∧ before.closed = context.closed := by
  have hsame : (s.contexts[c]?).map (·.closed) = some context.closed := by
    rw [← Array.getElem?_map, ← h.closed, Array.getElem?_map, hc]
    rfl
  obtain ⟨before, hbefore, hclosed⟩ := Option.map_eq_some_iff.mp hsame
  exact ⟨before, hbefore, hclosed⟩

/-- A call that changes neither what imports ask nor which contexts are closed. -/
theorem Course.sameScope {t : Loom} (h : Course s₀ calls s) {call : ScopeCall}
    (hcall : (∀ root space, call ≠ .create root space) ∧ (∀ c, call ≠ .install c) ∧
      ∀ c, call ≠ .close c)
    (hmade : ∀ c, call.context? = some c → c < s.contexts.size) (hsame : SameScope s t)
    (hacc : t.Accounted) : Course s₀ (calls ++ [call]) t where
  accounted := hacc
  asked c := by
    rw [hsame.asked, h.asked c]
    simp [Ne.symm (hcall.2.1 c), Ne.symm (hcall.2.2 c)]
  foreign := by rw [hsame.asked, h.foreign]
  closed {c context} hc := by
    obtain ⟨before, hbefore, hclosed⟩ := hsame.closed_eq hc
    rw [← hclosed, h.closed hbefore]
    simp [Ne.symm (hcall.2.2 c)]
  made other hother c hc := by
    rw [hsame.size]
    rcases List.mem_append.mp hother with hmem | hmem
    · exact h.made other hmem c hc
    · cases List.mem_singleton.mp hmem
      exact hmade c hc

theorem Course.create (h : Course s₀ calls s) (root : Files.Path) (space : String) :
    Course s₀ (calls ++ [ScopeCall.create root space])
      ((ScopeCall.create root space).run.final s) := by
  have hfinal : (ScopeCall.create root space).run.final s =
      { s with contexts := s.contexts.push { root := root, space := space } } := rfl
  have hback {c : Nat} {context : Context}
      (hc : (s.contexts.push { root := root, space := space })[c]? = some context) :
      (c = s.contexts.size ∧ context = { root := root, space := space }) ∨
        s.contexts[c]? = some context := by
    rw [Array.getElem?_push] at hc
    split at hc
    · next heq =>
        cases hc
        exact .inl ⟨heq, rfl⟩
    · exact .inr hc
  rw [hfinal]
  refine ⟨⟨h.accounted.known, h.accounted.carried, fun hm hn => ?_, fun hc hclosed => ?_⟩,
    fun c => ?_, h.foreign, fun {c context} hc => ?_, fun other hother c hc => ?_⟩
  · obtain ⟨c, context, hc, hclosed, hmem⟩ := h.accounted.given hm hn
    refine ⟨c, context, ?_, hclosed, hmem⟩
    obtain ⟨hlt, hget⟩ := Array.getElem?_eq_some_iff.mp hc
    rw [Array.getElem?_push_lt hlt, hget]
  · rcases hback hc with ⟨-, rfl⟩ | hc
    · rfl
    · exact h.accounted.spent hc hclosed
  · rw [h.asked c]
    simp
  · rcases hback hc with ⟨rfl, rfl⟩ | hc
    · -- The new context was not closed, as it was not there.
      have hnot : .close s.contexts.size ∉ calls := fun hmem =>
        Nat.lt_irrefl _ (h.made _ hmem _ rfl)
      simp [hnot]
    · rw [h.closed hc]
      simp
  · have hlt : c < s.contexts.size := by
      rcases List.mem_append.mp hother with hmem | hmem
      · exact h.made other hmem c hc
      · cases List.mem_singleton.mp hmem
        cases hc
    rw [Array.size_push]
    exact Nat.lt_succ_of_lt hlt

theorem Course.install (h : Course s₀ calls s) {c : Nat} (hc : c < s.contexts.size) :
    Course s₀ (calls ++ [ScopeCall.install c]) ((ScopeCall.install c).run.final s) := by
  obtain ⟨context, hcontext⟩ : ∃ context, s.contexts[c]? = some context :=
    ⟨_, Array.getElem?_eq_getElem hc⟩
  have hmade (other) (hother : other ∈ calls ++ [ScopeCall.install c]) (d)
      (hd : other.context? = some d) : d < s.contexts.size := by
    rcases List.mem_append.mp hother with hmem | hmem
    · exact h.made other hmem d hd
    · cases List.mem_singleton.mp hmem
      cases hd
      exact hc
  change Course s₀ _ ((openContext c).final s)
  cases hclosed : context.closed with
  | true =>
      have hmem : .close c ∈ calls := (h.closed hcontext).mp hclosed
      rw [(openContext_of_closed hcontext hclosed).2]
      refine ⟨h.accounted, fun d => ?_, h.foreign, fun hd => ?_, hmade⟩
      · rw [h.asked d]
        by_cases hdc : d = c
        · subst hdc
          simp [hmem]
        · simp [hdc]
      · rw [h.closed hd]
        simp
  | false =>
      have hnot : .close c ∉ calls := fun hmem => by
        rw [(h.closed hcontext).mpr hmem] at hclosed
        cases hclosed
      rw [(openContext_of_open hcontext hclosed).2]
      by_cases hmem : Finder.context c ∈ s.asked
      · rw [if_pos hmem]
        have hinstalled : .install c ∈ calls := by
          have hcount := h.asked c
          have hpos := List.count_pos_iff.mpr hmem
          split at hcount
          · next hboth => exact hboth.1
          · omega
        refine ⟨h.accounted, fun d => ?_, h.foreign, fun hd => ?_, hmade⟩
        · rw [h.asked d]
          by_cases hdc : d = c
          · subst hdc
            simp [hinstalled]
          · simp [hdc]
        · rw [h.closed hd]
          simp
      · rw [if_neg hmem]
        refine ⟨⟨h.accounted.known, h.accounted.carried, h.accounted.given, h.accounted.spent⟩,
          fun d => ?_, ?_, fun hd => ?_, hmade⟩
        · dsimp only
          rw [List.count_cons]
          by_cases hdc : d = c
          · subst hdc
            simp [List.count_eq_zero.mpr hmem, hnot]
          · rw [h.asked d]
            simp [hdc, Ne.symm hdc]
        · dsimp only
          rw [List.filter_cons_of_neg (by simp [Finder.context?]), h.foreign]
        · rw [h.closed hd]
          simp

theorem Course.close (h : Course s₀ calls s) {c : Nat} (hc : c < s.contexts.size) :
    Course s₀ (calls ++ [ScopeCall.close c]) ((ScopeCall.close c).run.final s) := by
  obtain ⟨context, hcontext⟩ : ∃ context, s.contexts[c]? = some context :=
    ⟨_, Array.getElem?_eq_getElem hc⟩
  have hmade (other) (hother : other ∈ calls ++ [ScopeCall.close c]) (d)
      (hd : other.context? = some d) : d < s.contexts.size := by
    rcases List.mem_append.mp hother with hmem | hmem
    · exact h.made other hmem d hd
    · cases List.mem_singleton.mp hmem
      cases hd
      exact hc
  have hacc := accounted_closeContext h.accounted c
  change Course s₀ _ ((closeContext c).final s)
  cases hclosed : context.closed with
  | true =>
      have hmem : .close c ∈ calls := (h.closed hcontext).mp hclosed
      rw [final_closeContext_of_closed hcontext hclosed]
      refine ⟨h.accounted, fun d => ?_, h.foreign, fun {d other} hd => ?_, hmade⟩
      · rw [h.asked d]
        by_cases hdc : d = c
        · subst hdc
          simp [hmem]
        · simp [hdc]
      · rw [h.closed hd]
        by_cases hdc : d = c
        · subst hdc
          simp [hmem]
        · simp [hdc]
  | false =>
      rw [final_closeContext hcontext hclosed] at hacc ⊢
      refine ⟨hacc, fun d => ?_, ?_, fun {d other} hd => ?_, ?_⟩
      · dsimp only
        by_cases hdc : d = c
        · subst hdc
          rw [List.count_eq_zero.mpr (by simp)]
          simp
        · rw [List.count_filter (by simpa using hdc), h.asked d]
          simp [hdc]
      · dsimp only
        rw [List.filter_filter, ← h.foreign]
        apply List.filter_congr
        intro f _
        cases f <;> simp [Finder.context?]
      · dsimp only at hd
        by_cases hcd : c = d
        · subst hcd
          simp only [Array.getElem?_modify, if_true, hcontext, Option.map_some,
            Option.some.injEq] at hd
          simp [← hd]
        · simp only [Array.getElem?_modify, if_neg hcd] at hd
          rw [h.closed hd]
          simp [Ne.symm hcd]
      · dsimp only
        rw [Array.size_modify]
        exact hmade

/-- A call without edits leaves every module in the table accounted for. -/
theorem accounted_of_edited {names : List String} {t : Loom} (h : s.Accounted)
    (hedited : Loom.Edited names s t) (hedits : t.edits = s.edits) : t.Accounted := by
  obtain ⟨es, hes, -, hnone⟩ := hedited
  rw [hedits] at hes
  exact (hnone (List.self_eq_append_right.mp hes)).2 h

/-- What one call preserves. -/
theorem Course.step (h : Course s₀ calls s) (call : ScopeCall)
    (hmade : ∀ c, call.context? = some c → c < s.contexts.size)
    (hcode : (call.run.final s).edits = s.edits) :
    Course s₀ (calls ++ [call]) (call.run.final s) := by
  have hP := Loom.edited_isCodeFrame
  have hother (hcall : (∀ root space, call ≠ .create root space) ∧ (∀ c, call ≠ .install c) ∧
      ∀ c, call ≠ .close c) (names : List String) (hedited : call.run.Keeps (Loom.Edited names)) :
      Course s₀ (calls ++ [call]) (call.run.final s) :=
    h.sameScope hcall hmade (sameScope_run hcall.1 hcall.2.1 hcall.2.2 s)
      (accounted_of_edited h.accounted (hedited s) hcode)
  cases call with
  | create root space => exact h.create root space
  | install c => exact h.install (hmade c rfl)
  | close c => exact h.close (hmade c rfl)
  | describe c name =>
      exact hother (by simp) [name] <| .bind (hP _) (edited_describe (List.mem_singleton.mpr rfl))
        fun _ => .pure (hP _) _
  | load c name =>
      exact hother (by simp) [name] <| .bind (hP _) (edited_load_self c name)
        fun _ => .pure (hP _) _
  | bring name =>
      exact hother (by simp) [] <| .bind (hP _) (.act (hP _) _) fun _ => .pure (hP _) _

/-- What a whole course of calls preserves. -/
theorem Reaches.course (hfresh : Fresh s₀) (h : Reaches s₀ calls s) : Course s₀ calls s := by
  induction h with
  | start => exact course_start hfresh
  | step _ call hmade hcode ih => exact ih.step call hmade hcode

/-- A module in the table that was made from a description can be found again. -/
theorem Course.isGiven (h : Course s₀ calls s) {name : String} {m : ModuleId} {n : Nat}
    (hm : s.world.imported? name = some m)
    (hn : s.world.madeFrom? m = some n ∨ s.world.specOf? m = some n) : s.IsGiven name n := by
  rcases hn with hn | hn
  · exact h.accounted.given hm (h.accounted.carried hn)
  · exact h.accounted.given hm hn

theorem imported?_closeContext_cases {c : Nat} {context : Context}
    (hc : s.contexts[c]? = some context) (name : String) :
    let t := (closeContext c).final s
    t.world.imported? name = s.world.imported? name ∨ t.world.imported? name = none ∧
      ∃ m n, s.world.imported? name = some m ∧ s.world.specOf? m = some n ∧
        n ∈ context.givenFor name := by
  cases hclosed : context.closed with
  | true => exact .inl (by rw [final_closeContext_of_closed hc hclosed])
  | false =>
      dsimp only
      rw [imported?_closeContext hc hclosed]
      cases hown : owned? s.world context name with
      | none => exact .inl rfl
      | some m =>
          obtain ⟨hm, n, hn, hmem⟩ := (owned?_eq_some_iff s.world context).mp hown
          exact .inr ⟨rfl, m, n, hm, hn, hmem⟩

/-- Whatever is done with any number of contexts, in any order and however each call ends: imports ask
    exactly those that are installed and not closed; the modules that contexts made are accounted for,
    and are taken out when their context is closed, and no others; a closed context does nothing any
    more. -/
theorem contexts_tidy (hfresh : Fresh s₀) (h : Reaches s₀ calls s) : Tidy s₀ calls s := by
  have hcourse := h.course hfresh
  refine ⟨hcourse.asked, hcourse.foreign, hcourse.closed, hcourse.isGiven,
    imported?_closeContext_cases, fun {c context} hc hclosed => ?_, fun hall {name m} hm => ?_⟩
  · have hspent := hcourse.accounted.spent hc hclosed
    obtain ⟨hrefused, hsame⟩ := openContext_of_closed hc hclosed
    refine ⟨hrefused, hsame, final_closeContext_of_closed hc hclosed, fun name => ?_⟩
    have hdescribe : (describe c name).outcome s = .ok none ∧ (describe c name).final s = s := by
      rw [describe, Run.outcome_of, Run.final_of, describe_of_closed hc hclosed]
      exact ⟨rfl, rfl⟩
    exact ⟨hdescribe.1, hdescribe.2, load_of_closed hc hclosed hspent name⟩
  · have hnone (n : Nat) (hn : s.world.madeFrom? m = some n ∨ s.world.specOf? m = some n) :
        False := by
      obtain ⟨c, context, hc, hopen, -⟩ := hcourse.isGiven hm hn
      rw [hall c context hc] at hopen
      cases hopen
    refine ⟨?_, ?_⟩
    · cases hmade : s.world.madeFrom? m with
      | none => rfl
      | some n => exact (hnone n (.inl hmade)).elim
    · cases hspec : s.world.specOf? m with
      | none => rfl
      | some n => exact (hnone n (.inr hspec)).elim

end

/-- A state with one module that is not made from a description, and something else that imports
    ask. -/
def quietLoom : Loom :=
  { world := { modules := #[.ofName "builtins"], table := [("builtins", 0)] }, asked := [.foreign 0] }

theorem quietLoom_fresh : Fresh quietLoom where
  contexts := rfl
  asked := by simp [quietLoom, Finder.context?]
  known {name m} hm := by
    obtain ⟨-, rfl⟩ : name = "builtins" ∧ m = 0 := by
      simpa [quietLoom, World.imported?, Assoc.find?, eq_comm] using hm
    exact Nat.zero_lt_one
  made
    | 0 => rfl
    | _ + 1 => rfl
  specs {name m} hm := by
    obtain ⟨-, rfl⟩ : name = "builtins" ∧ m = 0 := by
      simpa [quietLoom, World.imported?, Assoc.find?, eq_comm] using hm
    rfl

/-- A package is imported through a context, which is closed then. -/
def packageCalls : List ScopeCall :=
  [.create (.parse "/stage") "woven", .install 0, .bring "woven", .close 0]

/-- The state after some calls. -/
def afterCalls (s : Loom) (calls : List ScopeCall) : Loom :=
  calls.foldl (fun s call => call.run.final s) s

theorem packageCalls_tidy :
    (afterCalls quietLoom (packageCalls.take 3)).world.imported? "woven" = some 1 ∧
      Tidy quietLoom packageCalls (afterCalls quietLoom packageCalls) := by
  refine ⟨by decide +kernel, contexts_tidy quietLoom_fresh ?_⟩
  have hstart : Reaches quietLoom [] quietLoom := .start
  have hcreate := hstart.step (.create (.parse "/stage") "woven") (fun _ h => nomatch h) rfl
  have hinstall := hcreate.step (.install 0) (fun _ h => by cases h; decide) rfl
  have hbring := hinstall.step (.bring "woven") (fun _ h => nomatch h) (by decide +kernel)
  exact hbring.step (.close 0) (fun _ h => by cases h; decide +kernel) (by decide +kernel)

end Loading

end FragmentWeaver
