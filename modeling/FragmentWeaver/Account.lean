import FragmentWeaver.Loom

/-!
# Entries of the module table

Who may change the module table, and what becomes of its entries. Code enters modules and takes them
out, and says of a module which description it was made from: every such edit is recorded. Whatever
else is done on behalf of code leaves the entries alone that are there, and enters modules only under
names that are not; those that are made from a description can be found again through the context that
gave it out.
-/

namespace FragmentWeaver

/-- A change of one element is not seen through a function that does not see it. -/
theorem map_modify {α β : Type} {f : α → β} {g : α → α} (h : ∀ a, f (g a) = f a) (xs : Array α)
    (i : Nat) : (xs.modify i g).map f = xs.map f := by
  apply Array.ext (by simp)
  intro j hj hj'
  simp only [Array.getElem_map, Array.getElem_modify]
  split
  · exact h _
  · rfl

namespace Loom

/-- The descriptions that a context gave out for a name. -/
def givenFor (s : Loom) (c : Nat) (name : String) : List Nat :=
  match s.contexts[c]? with
  | some context => context.givenFor name
  | none => []

/-- A context that is not closed gave out a description for a name. -/
def IsGiven (s : Loom) (name : String) (n : Nat) : Prop :=
  ∃ (c : Nat) (context : Context), s.contexts[c]? = some context ∧ context.closed = false ∧
    n ∈ context.givenFor name

/-- Every entry of the table stays, and no context gives out a description for the name of one; some
    names are left out of this. -/
def KeepsEntries (names : List String) (s t : Loom) : Prop :=
  ∀ name m, name ∉ names → s.world.imported? name = some m →
    t.world.imported? name = some m ∧ ∀ c, t.givenFor c name = s.givenFor c name

/-- Every module that was there still says that it was made from the same description. -/
structure KeepsSpecs (s t : Loom) : Prop where
  modules : s.world.modules.size ≤ t.world.modules.size
  specs : ∀ m, m < s.world.modules.size → t.world.specOf? m = s.world.specOf? m

/-- Every entry of the table is one of a module object; a module that was made from a description says
    so; a module in the table that says so stands under a name for which a context that is not closed
    gave out this description; and a closed context remembers none. -/
structure Accounted (s : Loom) : Prop where
  known : ∀ {name m}, s.world.imported? name = some m → m < s.world.modules.size
  carried : ∀ {m n}, s.world.madeFrom? m = some n → s.world.specOf? m = some n
  given : ∀ {name m n}, s.world.imported? name = some m → s.world.specOf? m = some n →
    s.IsGiven name n
  spent : ∀ {c : Nat} {context : Context}, s.contexts[c]? = some context →
    context.closed = true → context.given = []

/-- What becomes of the module table between two states, as far as it is not told by the edits of
    code in between. Nothing is said of the entries of some names. -/
def Edited (names : List String) (s t : Loom) : Prop :=
  ∃ edits, t.edits = s.edits ++ edits ∧
    ((∀ e ∈ edits, e.keepsEntries = true) → KeepsEntries names s t) ∧
    (edits = [] → s.KeepsSpecs t ∧ (s.Accounted → t.Accounted))

/-- Change what is known of a module object, and record it when the module says something else about
    its description. -/
def changeModule (s : Loom) (m : ModuleId) (f : ModuleRecord → ModuleRecord) : Loom :=
  let w := s.world.changeModule m f
  { s with
    world := w
    edits := s.edits ++ if w.specOf? m = s.world.specOf? m then [] else [.described m] }

/-- Put a module object into the table on behalf of code. -/
def enter (s : Loom) (name : String) (m : ModuleId) : Loom :=
  { s with
    world := s.world.enter name m
    edits := s.edits ++
      match s.world.imported? name with
      | none => [.added name]
      | some k => if k = m then [] else [.replaced name] }

/-- Take a name out of the table on behalf of code. -/
def leave (s : Loom) (name : String) : Loom :=
  { s with world := s.world.leave name, edits := s.edits ++ [.dropped name] }

/-- Make a module object of a name. -/
def newModule (s : Loom) (name : String) : ModuleId × Loom :=
  let (m, w) := s.world.newModule (.ofName name)
  (m, { s with world := w })

/-- Make a module object of a name that is not in the table, and put it there. -/
def bring (s : Loom) (name : String) : Loom :=
  match s.world.imported? name with
  | some _ => s
  | none =>
      let (m, w) := s.world.newModule (.ofName name)
      { s with world := w.enter name m }

variable {names others : List String} {s t u : Loom}

theorem KeepsEntries.trans (h : KeepsEntries names s t) (h' : KeepsEntries names t u) :
    KeepsEntries names s u := by
  intro name m hname hm
  obtain ⟨hmid, hgiven⟩ := h name m hname hm
  obtain ⟨hend, hgiven'⟩ := h' name m hname hmid
  exact ⟨hend, fun c => (hgiven' c).trans (hgiven c)⟩

theorem KeepsSpecs.refl (s : Loom) : s.KeepsSpecs s := ⟨Nat.le_refl _, fun _ _ => rfl⟩

theorem KeepsSpecs.trans (h : s.KeepsSpecs t) (h' : t.KeepsSpecs u) : s.KeepsSpecs u :=
  ⟨Nat.le_trans h.modules h'.modules, fun m hm =>
    (h'.specs m (Nat.lt_of_lt_of_le hm h.modules)).trans (h.specs m hm)⟩

theorem Edited.trans (h : Edited names s t) (h' : Edited names t u) : Edited names s u := by
  obtain ⟨es, hes, hkeeps, hnone⟩ := h
  obtain ⟨es', hes', hkeeps', hnone'⟩ := h'
  refine ⟨es ++ es', by rw [hes', hes, List.append_assoc], fun hall => ?_, fun hnil => ?_⟩
  · exact (hkeeps fun e he => hall e (List.mem_append_left _ he)).trans
      (hkeeps' fun e he => hall e (List.mem_append_right _ he))
  · obtain ⟨hnil, hnil'⟩ := List.append_eq_nil_iff.mp hnil
    obtain ⟨hspecs, hacc⟩ := hnone hnil
    obtain ⟨hspecs', hacc'⟩ := hnone' hnil'
    exact ⟨hspecs.trans hspecs', fun h => hacc' (hacc h)⟩

/-- What is said of fewer names holds when it is said of more. -/
theorem Edited.mono (h : Edited names s t) (hnames : names ⊆ others) : Edited others s t := by
  obtain ⟨es, hes, hkeeps, hnone⟩ := h
  exact ⟨es, hes, fun hall name m hname => hkeeps hall name m fun hmem => hname (hnames hmem), hnone⟩

/-- Nothing becomes of the table when neither the modules nor the contexts change. -/
theorem edited_of_same (hmodules : t.world.modules = s.world.modules)
    (htable : t.world.table = s.world.table) (hcontexts : t.contexts = s.contexts)
    (hedits : t.edits = s.edits) : Edited names s t := by
  have himported (name : String) : t.world.imported? name = s.world.imported? name := by
    rw [World.imported?, htable, ← World.imported?]
  have hspec (m : ModuleId) : t.world.specOf? m = s.world.specOf? m := by
    rw [World.specOf?, hmodules, ← World.specOf?]
  refine ⟨[], by rw [hedits, List.append_nil], fun _ name m _ h => ⟨?_, fun c => ?_⟩, fun _ =>
    ⟨⟨Nat.le_of_eq (congrArg Array.size hmodules.symm), fun m _ => hspec m⟩, fun h => ⟨?_, ?_, ?_, ?_⟩⟩⟩
  · rw [himported, h]
  · rw [givenFor, hcontexts, ← givenFor]
  · intro name m hm
    rw [hmodules]
    exact h.known (himported name ▸ hm)
  · intro m n hn
    rw [hspec]
    rw [World.madeFrom?, hmodules] at hn
    exact h.carried hn
  · intro name m n hm hn
    rw [IsGiven, hcontexts]
    exact h.given (himported name ▸ hm) (hspec m ▸ hn)
  · intro c context hc
    rw [hcontexts] at hc
    exact h.spent hc

theorem Edited.refl (s : Loom) : Edited names s s := edited_of_same rfl rfl rfl rfl

/-- To remember what became of a module changes nothing. -/
theorem edited_note (s : Loom) (e : ModuleEvent) : Edited names s (s.note e) :=
  edited_of_same rfl rfl rfl rfl

theorem Accounted.note (h : s.Accounted) (e : ModuleEvent) : (s.note e).Accounted :=
  ⟨h.known, h.carried, h.given, h.spent⟩

end Loom

namespace World

variable (w : World)

theorem imported?_enter_self (name : String) (m : ModuleId) :
    (w.enter name m).imported? name = some m :=
  Assoc.find?_put_self w.table name m

theorem imported?_enter_of_ne {name other : String} (h : other ≠ name) (m : ModuleId) :
    (w.enter name m).imported? other = w.imported? other :=
  Assoc.find?_put_of_ne h w.table m

theorem imported?_leave_self (name : String) : (w.leave name).imported? name = none :=
  Assoc.find?_erase_self w.table name

theorem imported?_leave_of_ne {name other : String} (h : other ≠ name) :
    (w.leave name).imported? other = w.imported? other :=
  Assoc.find?_erase_of_ne h w.table

/-- What is left after a name was taken out was there before. -/
theorem imported?_of_leave {name other : String} {m : ModuleId}
    (h : (w.leave name).imported? other = some m) : w.imported? other = some m := by
  by_cases hne : other = name
  · rw [hne, imported?_leave_self] at h
    cases h
  · rwa [imported?_leave_of_ne w hne] at h

theorem specOf?_changeModule_of_ne {m k : ModuleId} (h : k ≠ m)
    (f : ModuleRecord → ModuleRecord) : (w.changeModule m f).specOf? k = w.specOf? k := by
  unfold specOf? changeModule
  rw [Array.getElem?_modify, if_neg (Ne.symm h)]

theorem madeFrom?_changeModule (m k : ModuleId) (f : ModuleRecord → ModuleRecord) :
    (w.changeModule m f).madeFrom? k = w.madeFrom? k := by
  unfold madeFrom? changeModule
  rw [Array.getElem?_modify]
  split
  · cases w.modules[k]? <;> rfl
  · rfl

theorem size_changeModule (m : ModuleId) (f : ModuleRecord → ModuleRecord) :
    (w.changeModule m f).modules.size = w.modules.size :=
  Array.size_modify

variable (r : ModuleRecord)

theorem size_newModule : (w.newModule r).2.modules.size = w.modules.size + 1 :=
  Array.size_push ..

theorem specOf?_newModule_self : (w.newModule r).2.specOf? w.modules.size = r.claimedSpec? := by
  unfold specOf? newModule
  rw [Array.getElem?_push_size]
  rfl

theorem specOf?_newModule_of_lt {m : ModuleId} (h : m < w.modules.size) :
    (w.newModule r).2.specOf? m = w.specOf? m := by
  unfold specOf? newModule
  rw [Array.getElem?_push_lt h, Array.getElem?_eq_getElem h]

/-- A module that was made from a description is the new one or was there before. -/
theorem madeFrom?_newModule {m : ModuleId} {n : Nat} (h : (w.newModule r).2.madeFrom? m = some n) :
    (m = w.modules.size ∧ r.spec = some n) ∨ (m < w.modules.size ∧ w.madeFrom? m = some n) := by
  unfold madeFrom? newModule at h
  rw [Array.getElem?_push] at h
  split at h
  · next hm => exact .inl ⟨hm, h⟩
  · obtain ⟨r', hr', -⟩ := Option.bind_eq_some_iff.mp h
    exact .inr ⟨(Array.getElem?_eq_some_iff.mp hr').1, h⟩

end World

namespace Loom

variable {names : List String} {s : Loom}

/-- A new module object does not disturb the account of the others. -/
theorem Accounted.newModule (h : s.Accounted) {r : ModuleRecord}
    (hr : ∀ n, r.spec = some n → r.claimedSpec? = some n) :
    Accounted { s with world := (s.world.newModule r).2 } where
  known hm := by
    rw [World.size_newModule]
    exact Nat.lt_succ_of_lt (h.known hm)
  carried {m n} hn := by
    rcases World.madeFrom?_newModule s.world r hn with ⟨rfl, hspec⟩ | ⟨hlt, hspec⟩
    · rw [World.specOf?_newModule_self]
      exact hr n hspec
    · rw [World.specOf?_newModule_of_lt s.world r hlt]
      exact h.carried hspec
  given hm hn := by
    rw [World.specOf?_newModule_of_lt s.world r (h.known hm)] at hn
    exact h.given hm hn
  spent := h.spent

/-- A module can be entered under a name for which its description was given out. -/
theorem Accounted.enter (h : s.Accounted) {name : String} {m : ModuleId}
    (hm : m < s.world.modules.size)
    (hgiven : ∀ n, s.world.specOf? m = some n → s.IsGiven name n) :
    Accounted { s with world := s.world.enter name m } where
  known {other k} hk := by
    by_cases hne : other = name
    · subst hne
      rw [World.imported?_enter_self] at hk
      cases hk
      exact hm
    · rw [World.imported?_enter_of_ne _ hne] at hk
      exact h.known hk
  carried := h.carried
  given {other k n} hk hn := by
    by_cases hne : other = name
    · subst hne
      rw [World.imported?_enter_self] at hk
      cases hk
      exact hgiven n hn
    · rw [World.imported?_enter_of_ne _ hne] at hk
      exact h.given hk hn
  spent := h.spent

/-- A name can be taken out of the table. -/
theorem Accounted.leave (h : s.Accounted) (name : String) :
    Accounted { s with world := s.world.leave name } where
  known hm := h.known (s.world.imported?_of_leave hm)
  carried := h.carried
  given hm hn := h.given (s.world.imported?_of_leave hm) hn
  spent := h.spent

theorem KeepsSpecs.newModule (s : Loom) (r : ModuleRecord) :
    s.KeepsSpecs { s with world := (s.world.newModule r).2 } where
  modules := by
    rw [World.size_newModule]
    exact Nat.le_succ _
  specs _ hm := World.specOf?_newModule_of_lt s.world r hm

/-- A name of which something is said, and which is not in the table, is not that of an entry. -/
theorem ne_of_left_out {name other : String} {m : ModuleId}
    (h : name ∈ names ∨ s.world.imported? name = none) (hother : other ∉ names)
    (hm : s.world.imported? other = some m) : other ≠ name := by
  rintro rfl
  rcases h with h | h
  · exact hother h
  · rw [h] at hm
    cases hm

/-- An entry under a name that was not in the table lies beside all others. -/
theorem KeepsEntries.enter {name : String}
    (h : name ∈ names ∨ s.world.imported? name = none) (m : ModuleId) :
    KeepsEntries names s { s with world := s.world.enter name m } := by
  intro other k hother hk
  have hne := ne_of_left_out h hother hk
  exact ⟨(World.imported?_enter_of_ne _ hne m).trans hk, fun _ => rfl⟩

theorem edited_changeModule (s : Loom) (m : ModuleId) (f : ModuleRecord → ModuleRecord) :
    Edited [] s (s.changeModule m f) := by
  refine ⟨_, rfl, fun _ name k _ hk => ⟨hk, fun _ => rfl⟩, fun hnone => ?_⟩
  have hself : (s.world.changeModule m f).specOf? m = s.world.specOf? m := by
    by_cases hself : (s.world.changeModule m f).specOf? m = s.world.specOf? m
    · exact hself
    · rw [if_neg hself] at hnone
      cases hnone
  have hspec (k : ModuleId) : (s.world.changeModule m f).specOf? k = s.world.specOf? k := by
    by_cases hk : k = m
    · rw [hk, hself]
    · exact World.specOf?_changeModule_of_ne _ hk f
  have hsize : (s.world.changeModule m f).modules.size = s.world.modules.size :=
    World.size_changeModule ..
  refine ⟨⟨Nat.le_of_eq hsize.symm, fun k _ => hspec k⟩, fun h => ⟨?_, ?_, ?_, h.spent⟩⟩
  · intro name k hk
    exact hsize ▸ h.known hk
  · intro k n hn
    have hmade : s.world.madeFrom? k = some n := World.madeFrom?_changeModule s.world m k f ▸ hn
    exact (hspec k).trans (h.carried hmade)
  · intro name k n hk hn
    exact h.given hk ((hspec k).symm.trans hn)

theorem edited_enter (s : Loom) (name : String) (m : ModuleId) :
    Edited [] s (s.enter name m) := by
  unfold Loom.enter
  cases hk : s.world.imported? name with
  | none => exact ⟨_, rfl, fun _ => .enter (.inr hk) m, fun h => nomatch h⟩
  | some k =>
      dsimp only
      split
      · next hsame =>
          subst hsame
          have htable (other : String) :
              (s.world.enter name k).imported? other = s.world.imported? other := by
            by_cases hne : other = name
            · rw [hne, World.imported?_enter_self, hk]
            · exact World.imported?_enter_of_ne _ hne k
          refine ⟨[], rfl, fun _ other j _ hj => ⟨(htable other).trans hj, fun _ => rfl⟩, fun _ =>
            ⟨⟨Nat.le_refl _, fun _ _ => rfl⟩, fun h => ⟨?_, h.carried, ?_, h.spent⟩⟩⟩
          · intro other j hj
            exact h.known ((htable other).symm.trans hj)
          · intro other j n hj hn
            exact h.given ((htable other).symm.trans hj) hn
      · refine ⟨_, rfl, fun h => ?_, fun h => nomatch h⟩
        cases h _ (List.mem_singleton.mpr rfl)

theorem edited_leave (s : Loom) (name : String) : Edited [] s (s.leave name) := by
  refine ⟨_, rfl, fun h => ?_, fun h => nomatch h⟩
  cases h _ (List.mem_singleton.mpr rfl)

theorem edited_newModule (s : Loom) (name : String) : Edited [] s (s.newModule name).2 :=
  ⟨[], (List.append_nil _).symm, fun _ _ _ _ hk => ⟨hk, fun _ => rfl⟩, fun _ =>
    ⟨.newModule s _, fun h => h.newModule fun _ hn => nomatch hn⟩⟩

theorem edited_bring (s : Loom) (name : String) : Edited [] s (s.bring name) := by
  unfold bring
  split
  · exact .refl s
  · next hnone =>
      refine ⟨[], (List.append_nil _).symm, fun _ => ?_, fun _ => ⟨?_, fun h => ?_⟩⟩
      · exact KeepsEntries.enter (s := { s with world := _ }) (.inr hnone) _
      · have hnew := KeepsSpecs.newModule s (.ofName name)
        exact ⟨hnew.modules, hnew.specs⟩
      · refine (h.newModule (r := .ofName name) fun _ hn => nomatch hn).enter ?_ fun n hn => ?_
        · dsimp only
          rw [World.size_newModule]
          exact Nat.lt_succ_self _
        · dsimp only at hn
          exact absurd (hn.symm.trans (World.specOf?_newModule_self s.world (.ofName name)))
            (by simp [ModuleRecord.ofName, ModuleRecord.claimedSpec?, ModuleRecord.attribute?,
              Assoc.find?])

end Loom

end FragmentWeaver
