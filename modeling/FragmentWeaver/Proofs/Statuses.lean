import FragmentWeaver.Proofs.Answers
import FragmentWeaver.Proofs.Sharing

/-!
# The status of a command line

A fault about a value that does not fit, and the report that the unit was not loaded, end with status
one, as do a unit that did not compile and a call that fails. Status zero is for an answer that was
printed. Any other fault comes out of the program as it is: while the unit is woven there are few of
these, and the ones of the answer are those of looking up the method and of writing down what the call
gave.
-/

namespace FragmentWeaver

namespace Loom

end Loom

namespace Run

variable {α β : Type}

/-- Whatever an action gives is so. -/
def Gives (Q : α → Prop) (a : Run α) : Prop := ∀ s x, a.outcome s = .ok x → Q x

section

variable {Q : α → Prop} {R : β → Prop}

theorem Gives.pure {x : α} (h : Q x) : (Pure.pure x : Run α).Gives Q := by
  rintro s y ⟨⟩
  exact h

theorem Gives.fail (f : Fault) : (Run.fail f : Run α).Gives Q := nofun

theorem Gives.any (a : Run α) : a.Gives fun _ => True := fun _ _ _ => trivial

theorem Gives.bind {a : Run α} {next : α → Run β} (ha : a.Gives Q)
    (hnext : ∀ x, Q x → (next x).Gives R) : (a >>= next).Gives R := by
  intro s y hy
  rw [outcome_bind] at hy
  cases hx : a.outcome s with
  | ok x =>
      rw [hx] at hy
      exact hnext x (ha s x hx) _ y hy
  | error f =>
      rw [hx] at hy
      cases hy

theorem Gives.andFinally {a : Run α} {last : Run β} (ha : a.Gives Q) (hends : last.Ends) :
    (andFinally a last).Gives Q := by
  intro s x hx
  rw [outcome_andFinally a hends] at hx
  exact ha s x hx

end

end Run

/-- A unit with a handle did compile. -/
def WovenUnit.HasCompiled (woven : WovenUnit) : Prop :=
  woven.handle ≠ .null → woven.compilation.success = true

namespace Weaver

/-! ### What a woven unit is -/

variable (w : Weaver) (unit : UnitId)

section

variable {w unit} {methods : Option String} {imports : List Value} {options : WeaveOptions} {s : Loom}
  (hhost : w.host = .console)

include hhost

end

end Weaver

namespace CommandLine

variable {s t u : Loom} {f : Fault} {x : Ending}

/-! ### Woven units -/

/-- The fixed name of the unit of a request; empty if the unit gets the next number. -/
def Request.fixedName (r : Request) : String :=
  match r.task with
  | .inline _ _ _ => ""
  | .method _ _ _ name => (name.map Given.toText).getD ""

/-- The fixed name of the unit of a request starts like a path from the root. -/
def Request.IsRooted (r : Request) : Prop :=
  ∃ unit, UnitId.parse r.fixedName = .ok unit ∧ Staging.IsRooted unit

/-- The unit of a request, if its name is one. -/
def Request.unit? (r : Request) (s : Loom) : Option UnitId :=
  if r.fixedName = "" then some (s.allocator 0).allocate.1 else (UnitId.parse r.fixedName).toOption

section

variable {r : Request} {woven : WovenUnit} {n : Nat}

theorem Invoked.status {unit : UnitId} {target : Value} {arguments : List Value}
    (h : Invoked unit target arguments s (.ok n t)) : n = 0 ∨ n = 1 := by
  cases h with
  | printed hcall hwritten => exact .inl rfl
  | raised hcall hf => exact .inr rfl

theorem Answered.status {task : Task} (h : Answered woven s task (.ok n t)) : n = 0 ∨ n = 1 := by
  cases h with
  | inline h => exact h.status
  | listed hcalled => exact .inl rfl
  | method hcalled h =>
      cases h with
      | called hfound hcallable hgiven hvalues hinvoked => exact hinvoked.status
      | notCallable _ _ | missing _ _ => exact .inr rfl

/-- A command line that ends with a status ends with zero or one. -/
theorem Ended.status (h : Ended r s (.ok n t)) : n = 0 ∨ n = 1 := by
  cases h with
  | refused _ _ | uncompiled _ _ | reported _ _ _ _ => exact .inr rfl
  | answered hweave hhandle hanswered => exact hanswered.status

end

end CommandLine

end FragmentWeaver
