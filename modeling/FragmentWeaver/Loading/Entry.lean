import FragmentWeaver.Act

/-!
# Modules made from descriptions

A context describes a module of its namespace; the module object is made from the description and
entered into the table under the name that was asked for. On behalf of an import this is done only for a
name that is not in the table: the module stands there while its body is run, and is taken out again
when that fails.
-/

namespace FragmentWeaver

namespace Loading

/-- The file of a source, seen from the root. -/
def ModuleSource.file? (cwd : List String) : ModuleSource → Option String
  | .package => none
  | .artifact file =>
      some (if file.isAbsolute then file.text
        else (Files.Path.ofRoot cwd).text ++ "/" ++ file.text)

/-- What stands for the loader of a module. -/
def loaderOf (spec : ModuleSpec) : Value :=
  match spec.source with
  | .package =>
      .native (.other spec.name (.standard "_frozen_importlib_external.NamespaceLoader"))
  | .artifact file =>
      .native (.other spec.name (.standard "_frozen_importlib_external.SourcelessFileLoader")
        (.file file.text))

/-- The module object of a description, before its body is run. A package says where its modules are
    looked for: `places` is an empty list. -/
def recordOf (cwd : List String) (spec : ModuleSpec) (starting : Bool) (places : Value) :
    ModuleRecord :=
  let file := ModuleSource.file? cwd spec.source
  let package := decide (spec.source = .package)
  let shared := [("__name__", .text spec.name), ("__doc__", .null),
    ("__package__", .text (ModuleRecord.packageOf spec.name package)),
    ("__loader__", loaderOf spec), ("__spec__", .spec spec.number)]
  { name := spec.name
    file := file
    package := package
    spec := some spec.number
    loader := loaderOf spec
    starting := starting
    attributes := shared ++
      match file with
      | some f => [("__file__", .text f), ("__cached__", .text f)]
      | none => [("__file__", .null), ("__path__", places)] }

/-- A module says that it was made from its description. -/
theorem recordOf_claimedSpec? (cwd : List String) (spec : ModuleSpec) (starting : Bool)
    (places : Value) : (recordOf cwd spec starting places).claimedSpec? = some spec.number := by
  simp [recordOf, ModuleRecord.claimedSpec?, ModuleRecord.attribute?, Assoc.find?]

end Loading

namespace Loom

/-- Let a context give out a new description for a name. -/
def give (s : Loom) (c : Nat) (name : String) : Loom :=
  { s with
    nextSpec := s.nextSpec + 1
    contexts := s.contexts.modify c fun context => context.give name s.nextSpec }

/-- Ask a context for the description of a module. -/
def describe (s : Loom) (c : Nat) (name : String) : Except Fault (Option ModuleSpec) × Loom :=
  match s.contexts[c]? with
  | none => (.ok none, s)
  | some context =>
      match context.source? s.files s.around.cwd name with
      | .error f => (.error f, s)
      | .ok none => (.ok none, s)
      | .ok (some source) => (.ok (some ⟨s.nextSpec, name, source⟩), s.give c name)

/-- Ask contexts one after the other. -/
def describeBy (s : Loom) (name : String) : List Nat → Except Fault (Option ModuleSpec) × Loom
  | [] => (.ok none, s)
  | c :: rest =>
      match s.describe c name with
      | (.ok none, _) => s.describeBy name rest
      | found => found

/-- Make the module of a description and enter it into the table, before its body is started. -/
def enterNew (s : Loom) (spec : ModuleSpec) (starting : Bool) : ModuleId × Loom :=
  let (places, w) := s.world.newList []
  let (m, w) := w.newModule (Loading.recordOf s.around.cwd spec starting places)
  (m, { s with world := w.enter spec.name m }.note (.started spec.name m starting))

variable (s : Loom)

theorem stays_give (c : Nat) (name : String) : s.Stays (s.give c name) :=
  { Stays.refl s with
    contexts := by
      dsimp only [give]
      exact map_modify (fun _ => by rfl) ..
    nextSpec := Nat.le_succ _ }

theorem stays_enterNew (spec : ModuleSpec) (starting : Bool) :
    s.Stays (s.enterNew spec starting).2 :=
  { Stays.refl s with }

/-- A context that describes a module is not closed, and gives out the description for its name. -/
theorem describe_cases (c : Nat) (name : String) :
    (s.describe c name).2 = s ∧ (∀ spec, (s.describe c name).1 ≠ .ok (some spec)) ∨
      ∃ context source, s.contexts[c]? = some context ∧ context.closed = false ∧
        context.source? s.files s.around.cwd name = .ok (some source) ∧
        s.describe c name = (.ok (some ⟨s.nextSpec, name, source⟩), s.give c name) := by
  unfold describe
  cases hc : s.contexts[c]? with
  | none => exact .inl ⟨rfl, fun _ h => nomatch h⟩
  | some context =>
      dsimp only
      cases hsource : context.source? s.files s.around.cwd name with
      | error f => exact .inl ⟨rfl, fun _ h => nomatch h⟩
      | ok found =>
          cases found with
          | none => exact .inl ⟨rfl, fun _ h => nomatch h⟩
          | some source =>
              refine .inr ⟨context, source, rfl, ?_, hsource, rfl⟩
              cases hclosed : context.closed with
              | false => rfl
              | true =>
                  rw [Context.source?, if_pos hclosed] at hsource
                  cases hsource

theorem describeBy_cases (name : String) (cs : List Nat) :
    (s.describeBy name cs).2 = s ∧ (∀ spec, (s.describeBy name cs).1 ≠ .ok (some spec)) ∨
      ∃ c, s.describeBy name cs = s.describe c name := by
  induction cs with
  | nil => exact .inl ⟨rfl, fun _ h => nomatch h⟩
  | cons c rest ih =>
      rw [describeBy]
      split
      · exact ih
      · exact .inr ⟨c, rfl⟩

theorem givenFor_give_of_ne {name other : String} (h : other ≠ name) (c d : Nat) :
    (s.give c name).givenFor d other = s.givenFor d other := by
  unfold givenFor give
  dsimp only
  rw [Array.getElem?_modify]
  by_cases hcd : c = d
  · rw [if_pos hcd]
    cases s.contexts[d]? with
    | none => rfl
    | some context =>
        simp only [Option.map_some, Context.give, Context.givenFor, Assoc.find?_put_of_ne h]
  · rw [if_neg hcd]

variable {names : List String} {s}

/-- What was given out for a name stays given out. -/
theorem IsGiven.give {name : String} {n : Nat} (h : s.IsGiven name n) (c : Nat) (other : String) :
    (s.give c other).IsGiven name n := by
  obtain ⟨d, context, hd, hclosed, hn⟩ := h
  by_cases hcd : c = d
  · refine ⟨d, context.give other s.nextSpec, ?_, hclosed, ?_⟩
    · simp [Loom.give, Array.getElem?_modify, hcd, hd]
    · by_cases hname : name = other
      · subst hname
        simpa [Context.give, Context.givenFor] using .inl hn
      · simpa [Context.give, Context.givenFor, Assoc.find?_put_of_ne hname] using hn
  · exact ⟨d, context, by simp [Loom.give, Array.getElem?_modify, hcd, hd], hclosed, hn⟩

theorem isGiven_give {c : Nat} {context : Context} (hc : s.contexts[c]? = some context)
    (hclosed : context.closed = false) (name : String) : (s.give c name).IsGiven name s.nextSpec := by
  refine ⟨c, context.give name s.nextSpec, ?_, hclosed, ?_⟩
  · simp [Loom.give, Array.getElem?_modify, hc]
  · simp [Context.give, Context.givenFor]

theorem Accounted.give (h : s.Accounted) {c : Nat} {context : Context}
    (hc : s.contexts[c]? = some context) (hclosed : context.closed = false) (name : String) :
    (s.give c name).Accounted where
  known := h.known
  carried := h.carried
  given hm hn := (h.given hm hn).give c name
  spent {d other} hd hother := by
    by_cases hcd : c = d
    · -- The context that gave out the description is not closed.
      subst hcd
      simp only [Loom.give, Array.getElem?_modify, if_true, hc, Option.map_some,
        Option.some.injEq] at hd
      rw [← hd, Context.give, hclosed] at hother
      cases hother
    · simp only [Loom.give, Array.getElem?_modify, if_neg hcd] at hd
      exact h.spent hd hother

/-- A module that was made from a description which a context gave out for its name can be found
    again. -/
theorem Accounted.enterNew (h : s.Accounted) {spec : ModuleSpec}
    (hgiven : s.IsGiven spec.name spec.number) (starting : Bool) :
    (s.enterNew spec starting).2.Accounted := by
  have hvalues : Accounted { s with world := (s.world.newList []).2 } :=
    ⟨h.known, h.carried, h.given, h.spent⟩
  have hnew := hvalues.newModule
    (r := Loading.recordOf s.around.cwd spec starting (s.world.newList []).1)
    fun n hn => (Loading.recordOf_claimedSpec? ..).trans hn
  refine Accounted.note (hnew.enter ?_ fun n hn => ?_) (.started spec.name _ starting)
  · dsimp only
    rw [World.size_newModule]
    exact Nat.lt_succ_self _
  · have hself := (World.specOf?_newModule_self (s.world.newList []).2 _).symm.trans hn
    rw [Loading.recordOf_claimedSpec?] at hself
    cases hself
    exact hgiven

theorem Traced.give (h : s.Traced) (c : Nat) (name : String) : (s.give c name).Traced where
  known := h.known
  claims := h.claims
  given hm hn hclear := (h.given hm hn hclear).give c name

/-- A module that was made from a description which a context gave out for its name is traced. -/
theorem Traced.enterNew (h : s.Traced) {spec : ModuleSpec}
    (hgiven : s.IsGiven spec.name spec.number) (starting : Bool) :
    (s.enterNew spec starting).2.Traced := by
  have hvalues : Traced { s with world := (s.world.newList []).2 } := ⟨h.known, h.claims, h.given⟩
  have hnew := hvalues.newModule
    (r := Loading.recordOf s.around.cwd spec starting (s.world.newList []).1)
    fun n hn => (Loading.recordOf_claimedSpec? ..).trans hn
  refine Traced.note (hnew.enter ?_ fun n hn _ => ?_) (.started spec.name _ starting)
  · dsimp only
    rw [World.size_newModule]
    exact Nat.lt_succ_self _
  · rcases World.madeFrom?_newModule _ _ hn with ⟨-, hspec⟩ | ⟨hlt, -⟩
    · cases hspec
      exact hgiven
    · exact absurd hlt (Nat.lt_irrefl _)

theorem KeepsEntries.give {name : String} (h : name ∈ names ∨ s.world.imported? name = none)
    (c : Nat) : KeepsEntries names s (s.give c name) := fun _ _ hother hm =>
  ⟨hm, s.givenFor_give_of_ne (ne_of_left_out h hother hm) c⟩

theorem KeepsEntries.enterNew {spec : ModuleSpec}
    (h : spec.name ∈ names ∨ s.world.imported? spec.name = none) (starting : Bool) :
    KeepsEntries names s (s.enterNew spec starting).2 :=
  KeepsEntries.enter (s := { s with world := _, history := _ }) h _

theorem KeepsSpecs.enterNew (s : Loom) (spec : ModuleSpec) (starting : Bool) :
    s.KeepsSpecs (s.enterNew spec starting).2 := by
  have hnew := KeepsSpecs.newModule { s with world := (s.world.newList []).2 }
    (Loading.recordOf s.around.cwd spec starting (s.world.newList []).1)
  exact ⟨hnew.modules, hnew.specs⟩

theorem describe_of_source {c : Nat} {name : String} {context : Context} {source : ModuleSource}
    (hc : s.contexts[c]? = some context)
    (hsource : context.source? s.files s.around.cwd name = .ok (some source)) :
    s.describe c name = (.ok (some ⟨s.nextSpec, name, source⟩), s.give c name) := by
  unfold describe
  rw [hc]
  dsimp only
  rw [hsource]

/-- The first context that imports ask is the one that answers, if it can. -/
theorem describeBy_of_offers {c : Nat} {name : String} (h : s.Offers c name) :
    s.describeBy name s.finders = s.describe c name := by
  obtain ⟨hfirst, context, source, hc, hsource⟩ := h
  obtain ⟨rest, hrest⟩ := List.head?_eq_some_iff.mp hfirst
  rw [hrest, describeBy, describe_of_source hc hsource]

/-- What asking for a description leads to: a description that one of the contexts gave out, the first
    one if that can, or nothing. -/
theorem describeBy_some {name : String} {spec : ModuleSpec} {t : Loom}
    (h : s.describeBy name s.finders = (.ok (some spec), t)) :
    ∃ c context, s.contexts[c]? = some context ∧ context.closed = false ∧ t = s.give c name ∧
      spec.name = name ∧ spec.number = s.nextSpec ∧ ∀ d, s.Offers d name → d = c := by
  have hanswer : ∃ c, s.describeBy name s.finders = s.describe c name ∧
      ∀ d, s.Offers d name → d = c := by
    by_cases hoffer : ∃ d, s.Offers d name
    · obtain ⟨d, hd⟩ := hoffer
      exact ⟨d, describeBy_of_offers hd, fun d' hd' => Option.some_inj.mp (hd'.1.symm.trans hd.1)⟩
    · rcases s.describeBy_cases name s.finders with ⟨-, hnot⟩ | ⟨c, hc⟩
      · rw [h] at hnot
        exact absurd rfl (hnot spec)
      · exact ⟨c, hc, fun d hd => absurd ⟨d, hd⟩ hoffer⟩
  obtain ⟨c, hc, hfirst⟩ := hanswer
  rw [h] at hc
  rcases s.describe_cases c name with ⟨-, hnot⟩ | ⟨context, source, hcontext, hclosed, -, hgives⟩
  · rw [← hc] at hnot
    exact absurd rfl (hnot spec)
  · rw [← hc] at hgives
    cases hgives
    exact ⟨c, context, hcontext, hclosed, rfl, rfl, rfl, hfirst⟩

theorem describeBy_other {name : String} {cs : List Nat} {r : Except Fault (Option ModuleSpec)}
    {t : Loom} (h : s.describeBy name cs = (r, t)) (hr : ∀ spec, r ≠ .ok (some spec)) : t = s := by
  rcases s.describeBy_cases name cs with ⟨hsame, -⟩ | ⟨c, hc⟩
  · rw [h] at hsame
    exact hsame
  · rw [h] at hc
    rcases s.describe_cases c name with ⟨hsame, -⟩ | ⟨_, source, -, -, -, hgives⟩
    · rw [← hc] at hsame
      exact hsame
    · rw [← hc] at hgives
      cases hgives
      exact absurd rfl (hr _)

/-- A module that is made from a description, under a name that is left out or not in the table, is
    entered beside all others, and so is nothing lost when its name is taken out again. -/
theorem edited_of_entered {c : Nat} {context : Context} {spec : ModuleSpec} {starting : Bool}
    {v : Loom} (hc : s.contexts[c]? = some context) (hclosed : context.closed = false)
    (hgiven : (s.give c spec.name).IsGiven spec.name spec.number)
    (hname : spec.name ∈ names ∨ s.world.imported? spec.name = none)
    (hv : Edited names ((s.give c spec.name).enterNew spec starting).2 v) :
    Edited names s v ∧ Edited names s { v with world := v.world.leave spec.name } := by
  obtain ⟨es, hes, hentries, hnone⟩ := hv
  have hbefore : KeepsEntries names s ((s.give c spec.name).enterNew spec starting).2 :=
    (KeepsEntries.give hname c).trans (.enterNew (s := s.give c spec.name) hname starting)
  have hspecs : s.KeepsSpecs ((s.give c spec.name).enterNew spec starting).2 :=
    let hnew := KeepsSpecs.enterNew (s.give c spec.name) spec starting
    ⟨hnew.modules, hnew.specs⟩
  have hacc (h : s.Accounted) : ((s.give c spec.name).enterNew spec starting).2.Accounted :=
    (h.give hc hclosed spec.name).enterNew hgiven starting
  refine ⟨⟨es, hes, fun hall => hbefore.trans (hentries hall), fun hnil => ?_⟩,
    ⟨es, hes, fun hall => ?_, fun hnil => ?_⟩⟩
  · exact ⟨hspecs.trans (hnone hnil).1, fun h => (hnone hnil).2 (hacc h)⟩
  · intro other m hother hm
    obtain ⟨hkept, hsame⟩ := (hbefore.trans (hentries hall)) other m hother hm
    have hne := ne_of_left_out hname hother hm
    exact ⟨(World.imported?_leave_of_ne _ hne).trans hkept, hsame⟩
  · have hend := hspecs.trans (hnone hnil).1
    exact ⟨⟨hend.modules, hend.specs⟩, fun h => ((hnone hnil).2 (hacc h)).leave spec.name⟩

/-- Modules stay traced while one is made from a description, whether it stays in the table or is taken
    out again. -/
theorem traces_of_entered {c : Nat} {spec : ModuleSpec} {starting : Bool} {v : Loom}
    (hgiven : (s.give c spec.name).IsGiven spec.name spec.number)
    (hv : ((s.give c spec.name).enterNew spec starting).2.Traces v) :
    s.Traces v ∧ s.Traces { v with world := v.world.leave spec.name } := by
  have hbefore : s.Traces ((s.give c spec.name).enterNew spec starting).2 :=
    traces_of rfl fun h => (h.give c spec.name).enterNew hgiven starting
  have hrun := hbefore.trans hv
  exact ⟨hrun, hrun.trans (traces_of rfl fun h => h.leave spec.name)⟩

theorem sameOffers_enterNew (c : Nat) (name : String) (spec : ModuleSpec) (starting : Bool) :
    s.SameOffers ((s.give c name).enterNew spec starting).2 where
  asked := rfl
  files := rfl
  around := rfl
  faces := by
    dsimp only [enterNew, note, give]
    exact map_modify (fun _ => by rfl) ..

theorem tableOf_enterNew (s : Loom) (spec : ModuleSpec) (starting : Bool) :
    (s.enterNew spec starting).2.world.tableOf =
      s.world.tableOf.put spec.name (s.enterNew spec starting).1 :=
  World.tableOf_enter _ _ _

/-- Right after its module was made, a name is claimed by the context that described it. -/
theorem holds_enterNew {c : Nat} {context : Context} {spec : ModuleSpec}
    (hc : s.contexts[c]? = some context) (hnumber : spec.number = s.nextSpec) (starting : Bool) :
    ((s.give c spec.name).enterNew spec starting).2.Holds c spec.name := by
  refine ⟨s.world.modules.size, spec.number, World.imported?_enter_self _ _ _,
    (World.specOf?_newModule_self (s.world.newList []).2 _).trans
      (Loading.recordOf_claimedSpec? ..), ?_⟩
  rw [hnumber]
  simp [givenFor, enterNew, note, Loom.give, Array.getElem?_modify, hc, Context.give,
    Context.givenFor]

/-- What is told of a module that is made from a description, under a name that is not in the table:
    its start, what its body does, and its end. -/
theorem tells_of_entered {c : Nat} {context : Context} (spec : ModuleSpec) (starting : Bool)
    {v : Loom} {es : List ModuleEvent} (hc : s.contexts[c]? = some context)
    (hnumber : spec.number = s.nextSpec) (hfirst : ∀ d, s.Offers d spec.name → d = c)
    (hname : s.world.imported? spec.name = none)
    (hbody : ((s.give c spec.name).enterNew spec starting).2.Tells v es)
    (hentries : KeepsEntries [] ((s.give c spec.name).enterNew spec starting).2 v)
    (hspecs : ((s.give c spec.name).enterNew spec starting).2.KeepsSpecs v) :
    let m := ((s.give c spec.name).enterNew spec starting).1
    s.Tells (v.note (.completed spec.name m))
        (.started spec.name m starting :: es ++ [ModuleEvent.completed spec.name m]) ∧
      s.Tells ({ v with world := v.world.leave spec.name }.note (.failed spec.name m))
        (.started spec.name m starting :: es ++ [ModuleEvent.failed spec.name m]) := by
  intro m
  let entered := ((s.give c spec.name).enterNew spec starting).2
  have htable : entered.world.tableOf = s.world.tableOf.put spec.name m :=
    tableOf_enterNew (s.give c spec.name) spec starting
  have hheld : v.Holds c spec.name :=
    (holds_enterNew hc hnumber starting).keep List.not_mem_nil hentries hspecs
  -- What stands there at the end under another name was claimed while the body was carried out.
  have hothers {d : Nat} {other : String} (hne : other ≠ spec.name) (hdot : '.' ∈ other.toList)
      (hoffer : s.Offers d other) (hs : s.world.imported? other = none)
      (hv : v.world.imported? other ≠ none) : v.Holds d other := by
    refine hbody.claimed hdot ((sameOffers_enterNew c spec.name spec starting).offers hoffer) ?_ hv
    exact (congrFun htable other).trans ((Table.put_of_ne _ hne m).trans hs)
  have hchronicle := htable ▸ hbody.chronicle
  have hstands : v.world.tableOf spec.name = some m :=
    (hentries spec.name m List.not_mem_nil (World.imported?_enter_self _ _ _)).1
  refine ⟨⟨.completed hname hchronicle hstands, fun {d other} hdot hoffer hs hv => ?_⟩,
    ⟨?_, fun {d other} hdot hoffer hs hv => ?_⟩⟩
  · by_cases hne : other = spec.name
    · subst hne
      obtain rfl := hfirst d hoffer
      exact hheld
    · exact hothers hne hdot hoffer hs hv
  · have hleave : (v.world.leave spec.name).tableOf = v.world.tableOf.drop spec.name :=
      World.tableOf_leave ..
    change Chronicle _ _ (v.world.leave spec.name).tableOf
    rw [hleave]
    exact .failed hname hchronicle
  · have hleft : (v.world.leave spec.name).imported? other ≠ none := hv
    have hne : other ≠ spec.name := by
      rintro rfl
      exact hleft (World.imported?_leave_self ..)
    rw [World.imported?_leave_of_ne _ hne] at hleft
    obtain ⟨k, n, hk, hn, hmem⟩ := hothers hne hdot hoffer hs hleft
    exact ⟨k, n, (World.imported?_leave_of_ne _ hne).trans hk, hn, hmem⟩

/-- Make the module of a name on behalf of an import, and carry out what belongs to its body. -/
def entering (s : Loom) (name : String) (body : ModuleSpec → ModuleId → Act Unit) :
    EStateM.Result Fault Loom Unit :=
  match s.world.imported? name with
  | some _ => .ok () s
  | none =>
      match s.describeBy name s.finders with
      | (.error f, t) => .error f t
      | (.ok none, t) => .error (.import (.noModule name)) t
      | (.ok (some spec), t) =>
          let (m, u) := t.enterNew spec true
          match (body spec m).run u with
          | .ok _ v => .ok () (v.note (.completed name m))
          | .error f v =>
              .error f ({ v with world := v.world.leave name }.note (.failed name m))

theorem Stays.note {s t : Loom} (h : s.Stays t) (e : ModuleEvent) : s.Stays (t.note e) :=
  { h with }

/-- A module that is made on behalf of an import follows what its body follows. -/
theorem follows_of_entered {c : Nat} {context : Context} {spec : ModuleSpec} {v : Loom}
    (hc : s.contexts[c]? = some context) (hclosed : context.closed = false)
    (hnumber : spec.number = s.nextSpec) (hfirst : ∀ d, s.Offers d spec.name → d = c)
    (hname : s.world.imported? spec.name = none)
    (hbody : ((s.give c spec.name).enterNew spec true).2.Follows v) :
    let m := ((s.give c spec.name).enterNew spec true).1
    s.Follows (v.note (.completed spec.name m)) ∧
      s.Follows ({ v with world := v.world.leave spec.name }.note (.failed spec.name m)) := by
  intro m
  have hgiven : (s.give c spec.name).IsGiven spec.name spec.number :=
    hnumber ▸ isGiven_give hc hclosed spec.name
  have hstays : s.Stays v :=
    ((s.stays_give c spec.name).trans (stays_enterNew ..)).trans hbody.toStays
  have hedited := edited_of_entered hc hclosed hgiven (.inr hname) hbody.edited
  have htraces := traces_of_entered hgiven hbody.traces
  obtain ⟨ds, es, hds, hes, himports, htells⟩ := hbody.recounted
  obtain ⟨ds', hds', hkeeps, hnone⟩ := hbody.edited
  obtain rfl : ds = ds' := List.append_cancel_left (hds.symm.trans hds')
  have hended (last : ModuleEvent) (hlast : ∀ name m, last ≠ .started name m false) :
      v.history ++ [last] = s.history ++ (.started spec.name m true :: es ++ [last]) ∧
        ∀ name k, .started name k false ∉ .started spec.name m true :: es ++ [last] := by
    refine ⟨by rw [hes]; simp [enterNew, note, Loom.give, m], fun name k hmem => ?_⟩
    have hcases : ModuleEvent.started name k false ∈ es ∨ .started name k false = last := by
      simpa using hmem
    rcases hcases with hcases | hcases
    · exact himports name k hcases
    · exact hlast name k hcases.symm
  have hboth (hnil : ds = []) := tells_of_entered spec true hc hnumber hfirst hname (htells hnil)
    (hkeeps fun e he => by rw [hnil] at he; cases he) (hnone hnil).1
  obtain ⟨hcompleted, hcompleted'⟩ := hended (.completed spec.name m) nofun
  obtain ⟨hfailed, hfailed'⟩ := hended (.failed spec.name m) nofun
  exact ⟨⟨hstays.note _, hedited.1.trans (edited_note ..),
      ⟨ds, _, hds, hcompleted, hcompleted', fun hnil => (hboth hnil).1⟩,
      htraces.1.trans (traces_note ..)⟩,
    ⟨{ hstays with }, hedited.2.trans (edited_note ..),
      ⟨ds, _, hds, hfailed, hfailed', fun hnil => (hboth hnil).2⟩,
      htraces.2.trans (traces_note ..)⟩⟩

theorem follows_entering (s : Loom) (name : String) (body : ModuleSpec → ModuleId → Act Unit) :
    s.Follows (Run.final (fun s => s.entering name body) s) := by
  unfold Run.final
  dsimp only
  unfold entering
  cases hname : s.world.imported? name with
  | some _ => exact .refl s
  | none =>
      dsimp only
      rcases hdescribe : s.describeBy name s.finders with ⟨f | found, t⟩
      · cases describeBy_other hdescribe (fun _ h => nomatch h)
        exact .refl s
      · cases found with
        | none =>
            cases describeBy_other hdescribe (fun _ h => nomatch h)
            exact .refl s
        | some spec =>
            obtain ⟨c, context, hc, hclosed, rfl, rfl, hnumber, hfirst⟩ := describeBy_some hdescribe
            let u := (s.give c spec.name).enterNew spec true
            have hbody := (body spec u.1).follows u.2
            dsimp only
            unfold Run.final at hbody
            cases hrun : (body spec u.1).run u.2 with
            | ok _ v =>
                rw [hrun] at hbody
                exact (follows_of_entered hc hclosed hnumber hfirst hname hbody).1
            | error f v =>
                rw [hrun] at hbody
                exact (follows_of_entered hc hclosed hnumber hfirst hname hbody).2

/-- A module that comes with a standard one does not lie in another one. -/
theorem follows_bring (s : Loom) {name : String} (hname : '.' ∉ name.toList) :
    s.Follows (s.bring name) := by
  have hedited := s.edited_bring name
  have htraces := s.traces_bring name
  unfold bring at hedited htraces ⊢
  cases hnone : s.world.imported? name with
  | some _ => exact .refl s
  | none =>
      rw [hnone] at hedited htraces
      refine ⟨{ Stays.refl s with }, hedited, ⟨[], [], (List.append_nil _).symm,
        (List.append_nil _).symm, fun _ _ => List.not_mem_nil, fun _ => ⟨?_, ?_⟩⟩, htraces⟩
      · exact (World.tableOf_enter _ _ _) ▸ .brought _ hname hnone
      · -- Only the name that was brought is new, and that has no dot.
        intro c other hdot _ hs hother
        have hne : other ≠ name := by
          rintro rfl
          exact hname hdot
        exact absurd ((World.imported?_enter_of_ne _ hne _).trans hs) hother

/-- The modules that come with a standard one. -/
def bringAll (s : Loom) (names : List String) : Loom := names.foldl bring s

theorem follows_bringAll (s : Loom) {names : List String}
    (h : ∀ name ∈ names, '.' ∉ name.toList) : s.Follows (s.bringAll names) := by
  unfold bringAll
  induction names generalizing s with
  | nil => exact .refl s
  | cons name rest ih =>
      exact (s.follows_bring (h name List.mem_cons_self)).trans
        (ih _ fun other hother => h other (List.mem_cons_of_mem _ hother))

end Loom

namespace Loading

/-- Make the module of a name that is not in the table and enter it there, and carry out what belongs
    to its body; the name is taken out again when that fails. -/
def entering (name : String) (body : ModuleSpec → ModuleId → Act Unit) : Act Unit where
  run s := s.entering name body
  follows s := s.follows_entering name body

theorem undotted_of_brought {part name : String} (h : name ∈ Standard.brought part) :
    '.' ∉ name.toList := by
  simpa using (List.mem_filter.mp h).2

/-- Make module objects of the names that come with a standard module, as far as they are not in the
    table, and put them there. -/
def bringAlong (part : String) : Act Unit :=
  Act.of (fun s => (.ok (), s.bringAll (Standard.brought part)))
    fun s => s.follows_bringAll fun _ => undotted_of_brought

end Loading

end FragmentWeaver
