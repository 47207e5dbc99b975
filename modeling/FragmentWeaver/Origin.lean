import FragmentWeaver.Account

/-!
# Where the entries of the module table come from

A module that was made from a description stands in the table under a name for which a context gave the
description out, and says itself that it was made from it. Code can make a module say something else,
which is recorded of the module; of all other modules this stays so, as long as code does not enter
modules or take them out itself.
-/

namespace FragmentWeaver

/-- Does the edit only change what a module says of its description? -/
def TableEdit.describes : TableEdit → Bool
  | .described _ => true
  | .added _ | .replaced _ | .dropped _ => false

namespace Loom

/-- Every entry of the table is one of a module object. A module that was made from a description and of
    which nothing is recorded says so, and it stands only under names for which a context that is not
    closed gave out the description. -/
structure Traced (s : Loom) : Prop where
  known : ∀ {name m}, s.world.imported? name = some m → m < s.world.modules.size
  claims : ∀ {m n}, s.world.madeFrom? m = some n → .described m ∉ s.edits →
    s.world.specOf? m = some n
  given : ∀ {name m n}, s.world.imported? name = some m → s.world.madeFrom? m = some n →
    .described m ∉ s.edits → s.IsGiven name n

/-- Modules stay traced between two states, unless code enters modules or takes them out itself. -/
def Traces (s t : Loom) : Prop :=
  ∃ edits, t.edits = s.edits ++ edits ∧
    ((∀ e ∈ edits, e.describes = true) → s.Traced → t.Traced)

variable {s t u : Loom}

theorem Traces.trans (h : s.Traces t) (h' : t.Traces u) : s.Traces u := by
  obtain ⟨es, hes, htraced⟩ := h
  obtain ⟨es', hes', htraced'⟩ := h'
  refine ⟨es ++ es', by rw [hes', hes, List.append_assoc], fun hall hs => ?_⟩
  have hfirst : ∀ e ∈ es, e.describes = true := fun e he => hall e (List.mem_append_left _ he)
  have hlast : ∀ e ∈ es', e.describes = true := fun e he => hall e (List.mem_append_right _ he)
  exact htraced' hlast (htraced hfirst hs)

/-- Without edits of code in between it is enough that modules stay traced. -/
theorem traces_of (hedits : t.edits = s.edits) (h : s.Traced → t.Traced) : s.Traces t :=
  ⟨[], by rw [hedits, List.append_nil], fun _ => h⟩

/-- Modules stay traced when neither they nor the table change and no description is forgotten. -/
theorem traces_of_given (hmodules : t.world.modules = s.world.modules)
    (htable : t.world.table = s.world.table) (hedits : t.edits = s.edits)
    (hgiven : ∀ {name n}, s.IsGiven name n → t.IsGiven name n) : s.Traces t := by
  refine traces_of hedits fun h => ?_
  have himported (name : String) : t.world.imported? name = s.world.imported? name := by
    rw [World.imported?, htable, ← World.imported?]
  have hmade (m : ModuleId) : t.world.madeFrom? m = s.world.madeFrom? m := by
    rw [World.madeFrom?, hmodules, ← World.madeFrom?]
  have hspec (m : ModuleId) : t.world.specOf? m = s.world.specOf? m := by
    rw [World.specOf?, hmodules, ← World.specOf?]
  refine ⟨fun hm => ?_, fun hn hclear => ?_, fun hm hn hclear => ?_⟩
  · rw [himported] at hm
    rw [hmodules]
    exact h.known hm
  · rw [hmade] at hn
    rw [hedits] at hclear
    rw [hspec]
    exact h.claims hn hclear
  · rw [himported] at hm
    rw [hmade] at hn
    rw [hedits] at hclear
    exact hgiven (h.given hm hn hclear)

theorem traces_of_same (hmodules : t.world.modules = s.world.modules)
    (htable : t.world.table = s.world.table) (hcontexts : t.contexts = s.contexts)
    (hedits : t.edits = s.edits) : s.Traces t := by
  refine traces_of_given hmodules htable hedits fun {name n} h => ?_
  unfold IsGiven at h ⊢
  rwa [hcontexts]

theorem Traces.refl (s : Loom) : s.Traces s := traces_of_same rfl rfl rfl rfl

theorem traces_note (s : Loom) (e : ModuleEvent) : s.Traces (s.note e) :=
  traces_of_same rfl rfl rfl rfl

/-- What a module says of its description is recorded when it changes. -/
theorem traces_changeModule (s : Loom) (m : ModuleId) (f : ModuleRecord → ModuleRecord) :
    s.Traces (s.changeModule m f) := by
  refine ⟨_, rfl, fun _ h => ⟨fun hk => ?_, fun {k n} hn hclear => ?_,
    fun {name k n} hk hn hclear => ?_⟩⟩
  · have hsize : (s.changeModule m f).world.modules.size = s.world.modules.size :=
      World.size_changeModule ..
    rw [hsize]
    exact h.known hk
  · have hmade : s.world.madeFrom? k = some n := World.madeFrom?_changeModule s.world m k f ▸ hn
    have hbefore : .described k ∉ s.edits := fun hmem => hclear (List.mem_append_left _ hmem)
    have hclaims := h.claims hmade hbefore
    by_cases hkm : k = m
    · subst hkm
      by_cases hsame : (s.world.changeModule k f).specOf? k = s.world.specOf? k
      · exact hsame.trans hclaims
      · refine absurd (List.mem_append_right _ ?_) hclear
        rw [if_neg hsame]
        exact List.mem_singleton_self _
    · exact (World.specOf?_changeModule_of_ne _ hkm f).trans hclaims
  · have hmade : s.world.madeFrom? k = some n := World.madeFrom?_changeModule s.world m k f ▸ hn
    exact h.given hk hmade fun hmem => hclear (List.mem_append_left _ hmem)

/-- A new module object does not disturb the trace of the others. -/
theorem Traced.newModule (h : s.Traced) {r : ModuleRecord}
    (hr : ∀ n, r.spec = some n → r.claimedSpec? = some n) :
    Traced { s with world := (s.world.newModule r).2 } where
  known hm := by
    rw [World.size_newModule]
    exact Nat.lt_succ_of_lt (h.known hm)
  claims {m n} hn hclear := by
    rcases World.madeFrom?_newModule s.world r hn with ⟨rfl, hspec⟩ | ⟨hlt, hmade⟩
    · rw [World.specOf?_newModule_self]
      exact hr n hspec
    · rw [World.specOf?_newModule_of_lt s.world r hlt]
      exact h.claims hmade hclear
  given {name m n} hm hn hclear := by
    rcases World.madeFrom?_newModule s.world r hn with ⟨rfl, -⟩ | ⟨-, hmade⟩
    · exact absurd (h.known hm) (Nat.lt_irrefl _)
    · exact h.given hm hmade hclear

/-- A module can be entered under a name for which its description was given out. -/
theorem Traced.enter (h : s.Traced) {name : String} {m : ModuleId}
    (hm : m < s.world.modules.size)
    (hgiven : ∀ n, s.world.madeFrom? m = some n → .described m ∉ s.edits → s.IsGiven name n) :
    Traced { s with world := s.world.enter name m } where
  known {other k} hk := by
    by_cases hne : other = name
    · subst hne
      rw [World.imported?_enter_self] at hk
      cases hk
      exact hm
    · rw [World.imported?_enter_of_ne _ hne] at hk
      exact h.known hk
  claims := h.claims
  given {other k n} hk hn hclear := by
    by_cases hne : other = name
    · subst hne
      rw [World.imported?_enter_self] at hk
      cases hk
      exact hgiven n hn hclear
    · rw [World.imported?_enter_of_ne _ hne] at hk
      exact h.given hk hn hclear

/-- A name can be taken out of the table. -/
theorem Traced.leave (h : s.Traced) (name : String) :
    Traced { s with world := s.world.leave name } where
  known hm := h.known (s.world.imported?_of_leave hm)
  claims := h.claims
  given hm hn hclear := h.given (s.world.imported?_of_leave hm) hn hclear

theorem Traced.note (h : s.Traced) (e : ModuleEvent) : (s.note e).Traced :=
  ⟨h.known, h.claims, h.given⟩

theorem traces_newModule (s : Loom) (name : String) : s.Traces (s.newModule name).2 :=
  traces_of rfl fun h => h.newModule fun _ hn => nomatch hn

theorem traces_enter (s : Loom) (name : String) (m : ModuleId) : s.Traces (s.enter name m) := by
  unfold Loom.enter
  cases hk : s.world.imported? name with
  | none => exact ⟨_, rfl, fun hall => nomatch hall _ (List.mem_singleton_self _)⟩
  | some k =>
      dsimp only
      by_cases hsame : k = m
      · subst hsame
        rw [if_pos rfl, List.append_nil]
        exact traces_of rfl fun h => h.enter (h.known hk) fun n => h.given hk
      · rw [if_neg hsame]
        exact ⟨_, rfl, fun hall => nomatch hall _ (List.mem_singleton_self _)⟩

theorem traces_leave (s : Loom) (name : String) : s.Traces (s.leave name) :=
  ⟨_, rfl, fun hall => nomatch hall _ (List.mem_singleton_self _)⟩

theorem traces_bring (s : Loom) (name : String) : s.Traces (s.bring name) := by
  unfold bring
  split
  · exact .refl s
  · refine traces_of rfl fun h => ?_
    have hnew := h.newModule (r := .ofName name) fun _ hn => nomatch hn
    refine hnew.enter ?_ fun n hn _ => ?_
    · dsimp only
      rw [World.size_newModule]
      exact Nat.lt_succ_self _
    · rcases World.madeFrom?_newModule s.world (.ofName name) hn with ⟨-, hspec⟩ | ⟨hlt, -⟩
      · cases hspec
      · exact absurd hlt (Nat.lt_irrefl _)

end Loom

end FragmentWeaver
