import FragmentWeaver.Proofs.Cleanup
import FragmentWeaver.Proofs.FileNames
import FragmentWeaver.Proofs.Reports

/-!
# What weaving can stop with

Weaving goes through files, sources, a compiler and the code that is loaded. Each of these steps stops
with faults of its own only: what files do not allow, a time limit that cannot be kept, what does not fit
in a request, and the one fault that reports every ordinary fault of loaded code.
-/

namespace FragmentWeaver

namespace Run

variable {α β : Type} {Q : World → Fault → Prop}

/-- Whenever an action stops, its fault and the world it stops in are so. -/
def StopsWith (Q : World → Fault → Prop) (a : Run α) : Prop :=
  ∀ s f t, a s = .error f t → Q t.world f

/-- An action that never stops. -/
def Ends (a : Run α) : Prop := ∀ s, ∃ x, a.outcome s = .ok x

theorem Ends.pure (x : α) : Ends (pure x) := fun _ => ⟨x, rfl⟩

theorem Ends.bind {a : Run α} {next : α → Run β} (ha : a.Ends) (hnext : ∀ x, (next x).Ends) :
    (a >>= next).Ends := by
  intro s
  obtain ⟨x, hx⟩ := ha s
  rw [outcome_bind, hx]
  exact hnext x _

theorem StopsWith.fail {f : Fault} (h : ∀ w, Q w f) : (Run.fail f : Run α).StopsWith Q := by
  intro s g t hrun
  cases hrun
  exact h _

/-- The second action is only carried out on what the first one can give. -/
theorem StopsWith.bind {a : Run α} {next : α → Run β} (ha : a.StopsWith Q)
    (hnext : ∀ x, (∃ s, a.outcome s = .ok x) → (next x).StopsWith Q) : (a >>= next).StopsWith Q := by
  intro s f t hrun
  cases hfirst : a s with
  | ok x u =>
      rw [bind_of_ok hfirst] at hrun
      exact hnext x ⟨s, (eq_ok_iff.mp hfirst).1⟩ u f t hrun
  | error g u =>
      rw [bind_of_error hfirst] at hrun
      cases hrun
      exact ha s _ _ hfirst

theorem StopsWith.lift {r : Except Fault α} (h : ∀ f, r = .error f → ∀ w, Q w f) :
    (Run.lift r).StopsWith Q := by
  intro s f t hrun
  have houtcome := (eq_error_iff.mp hrun).1
  rw [outcome_lift] at houtcome
  exact h f houtcome _

theorem StopsWith.withFiles {f : Files.Tree → Surroundings → Except Fault α × Files.Tree}
    (h : ∀ t around g, (f t around).1 = .error g → ∀ w, Q w g) : (Run.withFiles f).StopsWith Q := by
  intro s g t hrun
  have houtcome := (eq_error_iff.mp hrun).1
  rw [outcome_withFiles] at houtcome
  exact h _ _ g houtcome _

/-- A clean-up that never stops, and leaves the world alone, does not show. -/
theorem StopsWith.andFinally {a : Run α} {last : Run β} (ha : a.StopsWith Q) (hends : last.Ends)
    (hworld : ∀ s, (last.final s).world = s.world) : (andFinally a last).StopsWith Q := by
  intro s f t hrun
  obtain ⟨houtcome, hfinal⟩ := eq_error_iff.mp hrun
  rw [outcome_andFinally a hends] at houtcome
  rw [final_andFinally] at hfinal
  rw [← hfinal, hworld]
  exact ha s f _ (eq_error_iff.mpr ⟨houtcome, rfl⟩)

end Run

theorem exists_of_mapM_error {ε α β : Type} {f : α → Except ε β} {as : List α} {e : ε}
    (h : as.mapM f = .error e) : ∃ a ∈ as, f a = .error e := by
  induction as with
  | nil => cases h
  | cons a as ih =>
      rw [List.mapM_cons] at h
      cases ha : f a with
      | error e' =>
          rw [ha] at h
          cases h
          exact ⟨a, List.mem_cons_self, ha⟩
      | ok b =>
          rw [ha] at h
          cases has : as.mapM f with
          | error e' =>
              rw [has] at h
              cases h
              obtain ⟨a', ha', hf⟩ := ih has
              exact ⟨a', List.mem_cons_of_mem a ha', hf⟩
          | ok bs =>
              rw [has] at h
              cases h

theorem exists_of_mapM_ok {ε α β : Type} [Inhabited β] {f : α → Except ε β} {as : List α}
    {bs : List β} (h : as.mapM f = .ok bs) :
    ∃ g : α → β, (∀ a ∈ as, f a = .ok (g a)) ∧ as.map g = bs := by
  refine ⟨fun a => (f a).toOption.getD default, ?_⟩
  induction as generalizing bs with
  | nil =>
      cases h
      exact ⟨by simp, rfl⟩
  | cons a as ih =>
      rw [List.mapM_cons] at h
      cases ha : f a with
      | error e =>
          rw [ha] at h
          cases h
      | ok b =>
          rw [ha] at h
          cases has : as.mapM f with
          | error e =>
              rw [has] at h
              cases h
          | ok rest =>
              rw [has] at h
              cases h
              obtain ⟨hok, hrest⟩ := ih has
              refine ⟨List.forall_mem_cons.mpr ⟨by simp [ha, Except.toOption], hok⟩, ?_⟩
              rw [List.map_cons, hrest, ha]
              rfl

theorem of_map_error {ε α β : Type} {g : α → β} {r : Except ε α} {e : ε}
    (h : g <$> r = .error e) : r = .error e := by
  cases r with
  | error e' =>
      cases h
      rfl
  | ok x => cases h

namespace Files

/-- A fault of files: an operation fails, a path cannot be one, or a pattern is refused. Patterns from
    the root are refused only on some condition. -/
inductive Stops (rooted : Prop) : Fault → Prop
  | file (f : FileFault) : Stops rooted (.file f)
  | unusable : Stops rooted .nullCharacter
  | stars : Stops rooted (.pattern .starsInComponent)
  | absolute (h : rooted) : Stops rooted (.pattern .absolute)

variable {rooted : Prop} {t : Tree} {cwd : List String} {p : Path} {f : Fault}

theorem Stops.mono {other : Prop} (h : Stops rooted f) (himp : rooted → other) : Stops other f := by
  cases h with
  | file e => exact .file e
  | unusable => exact .unusable
  | stars => exact .stars
  | absolute h => exact .absolute (himp h)

namespace Tree

end Tree

/-! ### Patterns from the root -/

theorem starts_of_isAbsolute {s : String} (h : (Path.parse s).isAbsolute = true) :
    s.toList.head? = some '/' := by
  cases hs : s.toList with
  | nil => simp [Path.parse, Path.isAbsolute, Path.anchorOf, hs] at h
  | cons c rest =>
      by_cases hc : c = '/'
      · rw [hc]
        rfl
      · simp [Path.parse, Path.isAbsolute, Path.anchorOf, hs, hc] at h

end Files

namespace Staging

open Files

variable {rooted : Prop} {t : Tree} {cwd : List String} {root : Path} {u : UnitId} {f : Fault}

/-- The simple name of a unit starts like a path from the root. -/
def IsRooted (u : UnitId) : Prop := u.name.toList.head? = some '/'

end Staging

open Files

variable {rooted : Prop} {f : Fault} {u : UnitId}

namespace Loading

end Loading

namespace Fault

variable (w : World)

end Fault

namespace Source

variable {w : World} {unit : UnitId}

end Source

namespace Weaver

/-- What weaving can stop with: a value that does not fit; the report that a unit could not be loaded;
    something that no handler for ordinary faults catches; a file operation that fails; a pattern from
    the root, on some condition; or a time limit that cannot be kept. -/
inductive Stops (limit : Option TimeLimit) (rooted : Prop) (w : World) : Fault → Prop
  | value {f : Fault} (h : f.isValueFault w = true) : Stops limit rooted w f
  | unloaded (unit : UnitId) (phase : LoadPhase) (cause : Fault) :
      Stops limit rooted w (.unloaded unit phase cause)
  | abrupt {f : Fault} (h : f.isOrdinary w = false) : Stops limit rooted w f
  | file (e : FileFault) : Stops limit rooted w (.file e)
  | absolute (h : rooted) : Stops limit rooted w (.pattern .absolute)
  | limit {f : Fault} {l : TimeLimit} (h : limit = some l) (hl : l.expires = .error f) :
      Stops limit rooted w f

theorem Stops.mono {limit : Option TimeLimit} {v : World} {other : Prop}
    (h : Stops limit rooted v f) (himp : rooted → other) : Stops limit other v f := by
  cases h with
  | value h => exact .value h
  | unloaded unit phase cause => exact .unloaded unit phase cause
  | abrupt h => exact .abrupt h
  | file e => exact .file e
  | absolute h => exact .absolute (himp h)
  | limit h hl => exact .limit h hl

variable {i : Interpreter} {w : Weaver} {unit : UnitId}

section

variable (hhost : w.host = .console) (htoolchain : w.toolchain = i.toolchain)

include hhost htoolchain

end

end Weaver

end FragmentWeaver
