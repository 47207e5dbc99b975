import FragmentWeaver.Proofs.Keeping

/-!
# What contexts do to the module table

To load a module enters it under the one name that is asked for, whatever stands there; nothing else
becomes of the table but what code does to it. To close a context takes exactly those entries out whose
modules say that they were made from one of its descriptions for their name.
-/

namespace FragmentWeaver

namespace Loom

variable {names : List String} {s t : Loom}

theorem edited_isCodeFrame (names : List String) : IsCodeFrame (Edited names) where
  trans := Edited.trans
  follows h := h.edited.mono (List.nil_subset names)
  reports _ _ := edited_of_same rfl rfl rfl rfl

/-- Nothing becomes of the table when every context remembers what it did. -/
theorem edited_of_contexts (hmodules : t.world.modules = s.world.modules)
    (htable : t.world.table = s.world.table) (hedits : t.edits = s.edits)
    (hcontexts : t.contexts.map (fun c => (c.given, c.closed)) =
      s.contexts.map fun c => (c.given, c.closed)) : Edited names s t := by
  have himported (name : String) : t.world.imported? name = s.world.imported? name := by
    rw [World.imported?, htable, ← World.imported?]
  have hspec (m : ModuleId) : t.world.specOf? m = s.world.specOf? m := by
    rw [World.specOf?, hmodules, ← World.specOf?]
  have hsame (c : Nat) : (t.contexts[c]?).map (fun c => (c.given, c.closed)) =
      (s.contexts[c]?).map fun c => (c.given, c.closed) := by
    rw [← Array.getElem?_map, ← Array.getElem?_map, hcontexts]
  -- A context after the step is one before it that remembers the same.
  have hback {c : Nat} {context : Context} (hc : t.contexts[c]? = some context) :
      ∃ before, s.contexts[c]? = some before ∧ before.given = context.given ∧
        before.closed = context.closed := by
    have h := hsame c
    rw [hc] at h
    obtain ⟨before, hbefore, hmem⟩ := Option.map_eq_some_iff.mp h.symm
    exact ⟨before, hbefore, congrArg Prod.fst hmem, congrArg Prod.snd hmem⟩
  have hforth {c : Nat} {context : Context} (hc : s.contexts[c]? = some context) :
      ∃ after, t.contexts[c]? = some after ∧ after.given = context.given ∧
        after.closed = context.closed := by
    have h := hsame c
    rw [hc] at h
    obtain ⟨after, hafter, hmem⟩ := Option.map_eq_some_iff.mp h
    exact ⟨after, hafter, congrArg Prod.fst hmem, congrArg Prod.snd hmem⟩
  have hgivenFor (c : Nat) (name : String) : t.givenFor c name = s.givenFor c name := by
    unfold givenFor
    cases hc : s.contexts[c]? with
    | some context =>
        obtain ⟨after, hafter, hgiven, -⟩ := hforth hc
        simp only [hafter, Context.givenFor, hgiven]
    | none =>
        cases hc' : t.contexts[c]? with
        | none => rfl
        | some context =>
            obtain ⟨before, hbefore, -, -⟩ := hback hc'
            rw [hc] at hbefore
            cases hbefore
  refine ⟨[], by rw [hedits, List.append_nil], fun _ name m _ hm =>
    ⟨(himported name).trans hm, fun c => hgivenFor c name⟩, fun _ =>
    ⟨⟨Nat.le_of_eq (by rw [hmodules]), fun m _ => hspec m⟩, fun h => ⟨?_, ?_, ?_, ?_⟩⟩⟩
  · intro name m hm
    rw [hmodules]
    exact h.known (himported name ▸ hm)
  · intro m n hn
    rw [World.madeFrom?, hmodules] at hn
    exact (hspec m).trans (h.carried hn)
  · intro name m n hm hn
    obtain ⟨c, context, hc, hclosed, hmem⟩ := h.given (himported name ▸ hm) (hspec m ▸ hn)
    obtain ⟨after, hafter, hgiven, hsameClosed⟩ := hforth hc
    refine ⟨c, after, hafter, hsameClosed.trans hclosed, ?_⟩
    rw [Context.givenFor, hgiven]
    exact hmem
  · intro c context hc hclosed
    obtain ⟨before, hbefore, hgiven, hsameClosed⟩ := hback hc
    exact hgiven.symm.trans (h.spent hbefore (hsameClosed.trans hclosed))

/-- To give out a description changes nothing but what is known about its name. -/
theorem edited_give {c : Nat} {context : Context} {name : String}
    (hc : s.contexts[c]? = some context) (hclosed : context.closed = false)
    (hname : name ∈ names ∨ s.world.imported? name = none) : Edited names s (s.give c name) :=
  ⟨[], (List.append_nil _).symm, fun _ => .give hname c, fun _ =>
    ⟨⟨Nat.le_refl _, fun _ _ => rfl⟩, fun h => h.give hc hclosed name⟩⟩

end Loom

namespace Run

variable {α : Type}

theorem final_modifyGet (f : Loom → α × Loom) (s : Loom) :
    final (modifyGet f : Run α) s = (f s).2 := rfl

theorem outcome_modifyGet (f : Loom → α × Loom) (s : Loom) :
    outcome (modifyGet f : Run α) s = .ok (f s).1 := rfl

theorem final_world (s : Loom) : Run.world.final s = s := rfl

theorem outcome_world (s : Loom) : Run.world.outcome s = .ok s.world := rfl

end Run

namespace Loading

theorem final_contextOf (c : Nat) (s : Loom) : (contextOf c).final s = s := rfl

theorem outcome_contextOf (c : Nat) (s : Loom) :
    (contextOf c).outcome s = .ok (s.contexts.getD c default) := rfl

variable {names : List String} {c : Nat} {name : String}

/-- To make a module and run its body gives the module, in the state that its body ends in; when the
    body fails, the name is taken out of the table if it stands for the module. -/
theorem enterLoaded_cases (spec : ModuleSpec) (s : Loom) :
    let m := (s.enterNew spec false).1
    let u := (runBody importModule m spec.source).run.final (s.enterNew spec false).2
    ((enterLoaded spec).outcome s = .ok m ∧
        (enterLoaded spec).final s = u.note (.completed spec.name m)) ∨
      ∃ f, (enterLoaded spec).outcome s = .error f ∧
        (u.world.imported? spec.name ≠ some m ∧
            (enterLoaded spec).final s = u.note (.failed spec.name m) ∨
          (enterLoaded spec).final s =
            { u with world := u.world.leave spec.name }.note (.failed spec.name m)) := by
  intro m u
  have hbody : (liftM (runBody importModule m spec.source) : Run Unit) =
    (runBody importModule m spec.source).run := rfl
  unfold enterLoaded
  rw [Run.outcome_bind, Run.final_bind, Run.outcome_modifyGet, Run.final_modifyGet]
  dsimp only
  rw [Run.outcome_bind, Run.final_bind, Run.outcome_tryCatch, Run.final_tryCatch, hbody]
  cases (runBody importModule m spec.source).run.outcome (s.enterNew spec false).2 with
  | ok x => exact .inl ⟨rfl, rfl⟩
  | error f =>
      refine .inr ⟨f, rfl, ?_⟩
      have hleft : (leaveIf spec.name m).final u = { u with
          world := (if u.world.imported? spec.name = some m then u.world.leave spec.name
            else u.world) } := rfl
      change _ ∧ ((leaveIf spec.name m).final u).note (.failed spec.name m) = _ ∨
        ((leaveIf spec.name m).final u).note (.failed spec.name m) = _
      rw [hleft]
      by_cases him : u.world.imported? spec.name = some m
      · rw [if_pos him]
        exact .inr rfl
      · rw [if_neg him]
        exact .inl ⟨him, rfl⟩

/-- To note that a name was loaded leaves alone what a context remembers of its descriptions. -/
theorem edited_noteLoaded (c : Nat) (name : String) (s : Loom) :
    Loom.Edited names s ((noteLoaded c name).final s) := by
  refine Loom.edited_of_contexts rfl rfl rfl ?_
  dsimp only [noteLoaded, changeContext, Run.final_modify]
  exact map_modify (fun _ => by rfl) ..

/-- A module that a context describes is made and run beside the entries of all other names. -/
theorem edited_enterLoaded {context : Context} {spec : ModuleSpec} {s : Loom}
    (hc : s.contexts[c]? = some context) (hclosed : context.closed = false)
    (hname : spec.name ∈ names ∨ s.world.imported? spec.name = none)
    (hnumber : spec.number = s.nextSpec) :
    Loom.Edited names s ((enterLoaded spec).final (s.give c spec.name)) := by
  have hgiven : (s.give c spec.name).IsGiven spec.name spec.number :=
    hnumber ▸ Loom.isGiven_give hc hclosed spec.name
  have hbody := (runBody importModule ((s.give c spec.name).enterNew spec false).1
    spec.source).follows ((s.give c spec.name).enterNew spec false).2
  obtain ⟨hrun, hleft⟩ := Loom.edited_of_entered hc hclosed hgiven hname
    (hbody.edited.mono (List.nil_subset names))
  rcases enterLoaded_cases spec (s.give c spec.name) with ⟨-, hend⟩ | ⟨f, -, ⟨-, hend⟩ | hend⟩
  · rw [hend]
    exact hrun.trans (Loom.edited_note ..)
  · rw [hend]
    exact hrun.trans (Loom.edited_note ..)
  · rw [hend]
    exact hleft.trans (Loom.edited_note ..)

/-- A context that is not closed describes the module of a name, which it does not have yet. -/
structure Describes (c : Nat) (name : String) (s : Loom) (context : Context) : Prop where
  get : s.contexts[c]? = some context
  isOpen : context.closed = false
  known : ∃ source, context.source? s.files s.around.cwd name = .ok (some source)
  new : owned? s.world context name = none

/-- How loading a module can end, and in which state. -/
inductive Loads (c : Nat) (name : String) (s : Loom) : Except Fault ModuleId → Loom → Prop
  /-- The context has the module already. -/
  | known {m : ModuleId} (h : owned? s.world (s.contexts.getD c default) name = some m) :
      Loads c name s (.ok m) s
  /-- The context does not describe it. -/
  | unknown (h : s.describe c name = (.ok none, s)) :
      Loads c name s
        (.error (.import (.noArtifact name (s.contexts.getD c default).directory.text))) s
  | unreadable {f : Fault} (h : s.describe c name = (.error f, s)) : Loads c name s (.error f) s
  /-- It is a package, and there is nothing to run. -/
  | package {f : Fault} {context : Context} (hnew : Describes c name s context) :
      Loads c name s (.error f) (s.give c name)
  | failed {f : Fault} {context : Context} {file : Files.Path} (hnew : Describes c name s context)
      (h : (enterLoaded ⟨s.nextSpec, name, .artifact file⟩).outcome (s.give c name) = .error f) :
      Loads c name s (.error f)
        ((enterLoaded ⟨s.nextSpec, name, .artifact file⟩).final (s.give c name))
  | made {m : ModuleId} {context : Context} {file : Files.Path} (hnew : Describes c name s context)
      (h : (enterLoaded ⟨s.nextSpec, name, .artifact file⟩).outcome (s.give c name) = .ok m) :
      Loads c name s (.ok m) ((noteLoaded c name).final
        ((enterLoaded ⟨s.nextSpec, name, .artifact file⟩).final (s.give c name)))

theorem load_loads (c : Nat) (name : String) (s : Loom) :
    Loads c name s ((load c name).outcome s) ((load c name).final s) := by
  unfold load
  rw [Run.outcome_bind, Run.final_bind, Run.outcome_world, Run.final_world]
  dsimp only
  rw [Run.outcome_bind, Run.final_bind, outcome_contextOf, final_contextOf]
  dsimp only
  cases hown : owned? s.world (s.contexts.getD c default) name with
  | some m => exact .known hown
  | none =>
      have hdescribe : (describe c name).outcome s = (s.describe c name).1 := Run.outcome_of _ s
      have hafter : (describe c name).final s = (s.describe c name).2 := Run.final_of _ s
      dsimp only
      rw [Run.outcome_bind, Run.final_bind, hdescribe, hafter]
      rcases s.describe_cases c name with
        ⟨hsame, hnot⟩ | ⟨context, source, hc, hclosed, hsource, hgives⟩
      · rcases hfound : s.describe c name with ⟨f | found, t⟩
        · rw [hfound] at hsame
          cases hsame
          exact .unreadable hfound
        · rw [hfound] at hsame hnot
          cases hsame
          cases found with
          | none => exact .unknown hfound
          | some spec => exact absurd rfl (hnot spec)
      · have hnew : Describes c name s context := by
          refine ⟨hc, hclosed, ⟨source, hsource⟩, ?_⟩
          rw [Array.getD_eq_getD_getElem?, hc] at hown
          exact hown
        rw [hgives]
        cases source with
        | package => exact .package hnew
        | artifact file =>
            dsimp only
            rw [Run.outcome_bind, Run.final_bind]
            cases hmade : (enterLoaded ⟨s.nextSpec, name, .artifact file⟩).outcome
                (s.give c name) with
            | error f => exact .failed hnew hmade
            | ok m => exact .made hnew hmade

/-- To load a module changes the entry of its name, and of the others what its body does to them. -/
theorem edited_load (c : Nat) (hname : name ∈ names) :
    (load c name).Keeps (Loom.Edited names) := by
  intro s
  have hload := load_loads c name s
  generalize (load c name).outcome s = r, (load c name).final s = t at hload ⊢
  cases hload with
  | known _ | unknown _ | unreadable _ => exact .refl s
  | package hnew => exact Loom.edited_give hnew.get hnew.isOpen (.inl hname)
  | failed hnew _ => exact edited_enterLoaded hnew.get hnew.isOpen (.inl hname) rfl
  | made hnew _ =>
      exact (edited_enterLoaded hnew.get hnew.isOpen (.inl hname) rfl).trans
        (edited_noteLoaded c name _)

theorem edited_load_self (c : Nat) (name : String) : (load c name).Keeps (Loom.Edited [name]) :=
  edited_load c (List.mem_singleton.mpr rfl)

/-- To ask a context for a description changes nothing but what is known about the name. -/
theorem edited_describe (hname : name ∈ names) : (describe c name).Keeps (Loom.Edited names) := by
  intro s
  rw [describe, Run.final_of]
  rcases s.describe_cases c name with ⟨hsame, -⟩ | ⟨context, source, hc, hclosed, -, hgives⟩
  · rw [hsame]
    exact .refl s
  · rw [hgives]
    exact Loom.edited_give hc hclosed (.inl hname)

section

variable (w : World) (context : Context)

theorem owned?_eq_some_iff {m : ModuleId} : owned? w context name = some m ↔
    w.imported? name = some m ∧ ∃ n, w.specOf? m = some n ∧ n ∈ context.givenFor name := by
  unfold owned?
  constructor
  · intro h
    obtain ⟨k, hk, h⟩ := Option.bind_eq_some_iff.mp h
    obtain ⟨n, hn, h⟩ := Option.bind_eq_some_iff.mp h
    split at h
    · next hmem =>
        cases h
        exact ⟨hk, n, hn, by simpa using hmem⟩
    · cases h
  · rintro ⟨hm, n, hn, hmem⟩
    simp [hm, hn, hmem]

/-- What belongs to a context does not depend on the entries of other names. -/
theorem owned?_leave_of_ne {other : String} (h : other ≠ name) :
    owned? (w.leave name) context other = owned? w context other := by
  unfold owned?
  rw [World.imported?_leave_of_ne w h]
  rfl

theorem owned?_leave_self : owned? (w.leave name) context name = none := by
  unfold owned?
  rw [World.imported?_leave_self]
  rfl

/-- Taking the entries of some names out, as far as they belong to a context. -/
def dropNames (names : List String) : World :=
  names.foldl (fun w name => if (owned? w context name).isSome then w.leave name else w) w

theorem dropOwned_eq : dropOwned w context = dropNames w context (Assoc.keys context.given) := by
  unfold dropOwned dropNames Assoc.keys
  rw [List.foldl_map]

theorem imported?_dropNames (names : List String) (other : String) :
    (dropNames w context names).imported? other =
      if other ∈ names ∧ (owned? w context other).isSome then none else w.imported? other := by
  induction names generalizing w with
  | nil => simp [dropNames]
  | cons name rest ih =>
      rw [dropNames, List.foldl_cons, ← dropNames, ih]
      by_cases hown : (owned? w context name).isSome
      · rw [if_pos hown]
        by_cases hname : other = name
        · subst hname
          simp [owned?_leave_self, World.imported?_leave_self, hown]
        · rw [owned?_leave_of_ne w context hname, World.imported?_leave_of_ne w hname]
          simp [hname]
      · rw [if_neg hown]
        by_cases hname : other = name
        · subst hname
          simp [hown]
        · simp [hname]

theorem dropNames_modules (names : List String) :
    (dropNames w context names).modules = w.modules := by
  induction names generalizing w with
  | nil => rfl
  | cons name rest ih =>
      rw [dropNames, List.foldl_cons, ← dropNames, ih]
      split <;> rfl

theorem dropOwned_modules : (dropOwned w context).modules = w.modules := by
  rw [dropOwned_eq, dropNames_modules]

/-- Exactly the entries that belong to the context are taken out. -/
theorem imported?_dropOwned (name : String) :
    (dropOwned w context).imported? name =
      if (owned? w context name).isSome then none else w.imported? name := by
  rw [dropOwned_eq, imported?_dropNames]
  by_cases hmem : name ∈ Assoc.keys context.given
  · simp [hmem]
  · -- A name for which nothing was given out belongs to no context.
    have hown : owned? w context name = none := by
      cases hown : owned? w context name with
      | none => rfl
      | some m =>
          obtain ⟨-, n, -, hn⟩ := (owned?_eq_some_iff w context).mp hown
          rw [Context.givenFor, (Assoc.find?_eq_none_iff _ _).mpr hmem] at hn
          cases hn
    simp [hown]

end

theorem final_closeContext {context : Context} {s : Loom} (hc : s.contexts[c]? = some context)
    (hclosed : context.closed = false) :
    (closeContext c).final s = { s with
      asked := s.asked.filter (· ≠ .context c)
      world := dropOwned s.world context
      contexts := s.contexts.modify c fun context =>
        { context with closed := true, given := [] } } := by
  unfold closeContext
  rw [Run.final_modify, hc]
  dsimp only
  rw [if_neg (by simp [hclosed])]

theorem final_closeContext_of_closed {context : Context} {s : Loom}
    (hc : s.contexts[c]? = some context) (hclosed : context.closed = true) :
    (closeContext c).final s = s := by
  unfold closeContext
  rw [Run.final_modify, hc]
  dsimp only
  rw [if_pos hclosed]

/-- To close a context records no edit. -/
theorem edits_closeContext (c : Nat) (s : Loom) : ((closeContext c).final s).edits = s.edits := by
  unfold closeContext
  rw [Run.final_modify]
  split
  · rfl
  · split <;> rfl

/-- What stands in the table after a context was closed: all but its own modules. -/
theorem imported?_closeContext {context : Context} {s : Loom}
    (hc : s.contexts[c]? = some context) (hclosed : context.closed = false) (name : String) :
    ((closeContext c).final s).world.imported? name =
      if (owned? s.world context name).isSome then none else s.world.imported? name := by
  rw [final_closeContext hc hclosed]
  exact imported?_dropOwned s.world context name

/-- With its modules a context takes everything out of the table that had to be accounted for by
    it. -/
theorem accounted_closeContext {s : Loom} (h : s.Accounted) (c : Nat) :
    ((closeContext c).final s).Accounted := by
  cases hc : s.contexts[c]? with
  | none =>
      have hsame : (closeContext c).final s = s := by
        unfold closeContext
        rw [Run.final_modify, hc]
      rwa [hsame]
  | some context =>
      cases hclosed : context.closed with
      | true => rwa [final_closeContext_of_closed hc hclosed]
      | false =>
          have hstill {name : String} {m : ModuleId}
              (hm : ((closeContext c).final s).world.imported? name = some m) :
              s.world.imported? name = some m ∧ owned? s.world context name = none := by
            rw [imported?_closeContext hc hclosed] at hm
            split at hm
            · cases hm
            · next hown => exact ⟨hm, Option.not_isSome_iff_eq_none.mp hown⟩
          have hmodules : ((closeContext c).final s).world.modules = s.world.modules := by
            rw [final_closeContext hc hclosed]
            exact dropOwned_modules ..
          have hspec (m : ModuleId) :
              ((closeContext c).final s).world.specOf? m = s.world.specOf? m := by
            rw [World.specOf?, hmodules, ← World.specOf?]
          refine ⟨fun hm => ?_, fun {m n} hn => ?_, fun {name m n} hm hn => ?_,
            fun {d other} hd hother => ?_⟩
          · rw [hmodules]
            exact h.known (hstill hm).1
          · rw [World.madeFrom?, hmodules] at hn
            exact (hspec m).trans (h.carried hn)
          · obtain ⟨himported, hown⟩ := hstill hm
            rw [hspec] at hn
            obtain ⟨d, other, hd, hopen, hmem⟩ := h.given himported hn
            have hne : c ≠ d := by
              rintro rfl
              rw [hc] at hd
              cases hd
              have := (owned?_eq_some_iff s.world context).mpr ⟨himported, n, hn, hmem⟩
              rw [hown] at this
              cases this
            refine ⟨d, other, ?_, hopen, hmem⟩
            rw [final_closeContext hc hclosed]
            simp [Array.getElem?_modify, hne, hd]
          · rw [final_closeContext hc hclosed] at hd
            by_cases hcd : c = d
            · subst hcd
              simp only [Array.getElem?_modify, if_true, hc, Option.map_some,
                Option.some.injEq] at hd
              rw [← hd]
            · simp only [Array.getElem?_modify, if_neg hcd] at hd
              exact h.spent hd hother

end Loading

end FragmentWeaver
