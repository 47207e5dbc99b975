import FragmentWeaver.Proofs.Checking
import FragmentWeaver.Script.Eval
import FragmentWeaver.Text.Composed
import Mathlib.Data.List.Forall2

/-!
# The statement of a field

There is a record for every binding that has a name, and a line for every record. The line of a field
says which expression gives the field its value: the private name of a check is called with the path
to a class and with the value that the private name of the store gives for the unit and the name of
the binding. A name is read in its composed form.
-/

namespace FragmentWeaver

namespace Script

/-- In every state with a certain world an expression has a value, and finding it changes nothing. -/
def Reads (importer : Importer) (depth : Nat) (f : Frame) (w : World) (e : Expr) (v : Value) :
    Prop :=
  ∀ s : Loom, s.world = w → (eval importer depth f e).run s = .ok v s

/-- Statements in two parts: unless the first part gives something back, the second follows. -/
theorem inOrder_append (step : Frame → Stmt → Act (Flow × Frame)) (xs ys : List Stmt) (f : Frame) :
    inOrder step (xs ++ ys) f = (do
      match ← inOrder step xs f with
      | (.gave v, f) => return (.gave v, f)
      | (.next, f) => inOrder step ys f) := by
  induction xs generalizing f with
  | nil => rfl
  | cons x xs ih =>
      rw [List.cons_append, inOrder, inOrder, bind_assoc]
      congr 1
      funext r
      rcases r with ⟨⟨⟩ | v, f⟩
      · exact ih f
      · rfl

theorem source_foldl_attribute (rest : List String) (e : Expr) :
    (rest.foldl Expr.attribute e).source =
      rest.foldl (fun said n => said ++ "." ++ n) e.source := by
  induction rest generalizing e with
  | nil => rfl
  | cons n rest ih =>
      rw [List.foldl_cons, List.foldl_cons, ih]
      rfl

theorem join_foldl (sep : String) (rest : List String) (n : String) :
    rest.foldl (fun said n => said ++ sep ++ n) n = Text.join sep (n :: rest) := by
  induction rest generalizing n with
  | nil => exact (Text.join_singleton sep n).symm
  | cons m rest ih =>
      rw [List.foldl_cons, ih, Text.join_cons (List.cons_ne_nil m rest)]
      cases rest with
      | nil => rw [Text.join_singleton, Text.join_singleton]
      | cons k rest =>
          rw [Text.join_cons (List.cons_ne_nil k rest), Text.join_cons (List.cons_ne_nil k rest)]
          simp [String.append_assoc]

/-- Names read one from the other are written with dots between them. -/
theorem source_path (n : String) (rest : List String) :
    (Expr.path (n :: rest)).source = Text.join "." (n :: rest) := by
  rw [Expr.path, source_foldl_attribute, ← join_foldl]
  rfl

end Script

namespace Source

open Script (Expr Literal sources)

section Records

variable {w : World} {unit : UnitId} {bindings : List (Value × Value)} {rs : List BindingRecord}

/-- A record belongs to a binding: it has its name, which was accepted, its value and the type that is
    inferred for it. -/
structure RecordOf (w : World) (unit : UnitId) (b : Value × Value) (r : BindingRecord) : Prop where
  name : w.opened b.1 = .text r.name
  accepted : checkBindingName w unit b.1 = .ok r.name
  value : r.value = b.2
  declared : r.descriptor = w.infer b.2

/-- An accepted name is the text that was given, and none of the names that the unit keeps for itself
    or for its class. -/
theorem checkBindingName_ok {name : Value} {s : String}
    (hcheck : checkBindingName w unit name = .ok s) :
    w.opened name = .text s ∧ Text.beginsWith privateOpening s = false ∧ s ≠ unit.name := by
  unfold checkBindingName at hcheck
  dsimp only at hcheck
  split at hcheck
  · next t hopened =>
      split at hcheck
      · cases hcheck
      · split at hcheck
        · cases hcheck
        · next hfree =>
            cases hcheck
            simp only [Bool.or_eq_true, decide_eq_true_eq, not_or, Bool.not_eq_true] at hfree
            exact ⟨hopened, hfree⟩
  · cases hcheck

/-- There is one record for every binding that has a name, in order. -/
theorem records_forall₂ (hrecords : records w unit bindings = .ok rs) :
    List.Forall₂ (RecordOf w unit) (bindings.filter fun b => b.1 ≠ .null) rs := by
  induction bindings generalizing rs with
  | nil =>
      cases hrecords
      exact .nil
  | cons b bindings ih =>
      obtain ⟨name, value⟩ := b
      unfold records at hrecords
      by_cases hname : name = .null
      · rw [if_pos hname] at hrecords
        rw [List.filter_cons_of_neg (by simpa using hname)]
        exact ih hrecords
      · rw [if_neg hname] at hrecords
        rw [List.filter_cons_of_pos (by simpa using hname)]
        cases hcheck : checkBindingName w unit name with
        | error fault =>
            rw [hcheck] at hrecords
            cases hrecords
        | ok s =>
            cases hrest : records w unit bindings with
            | error fault =>
                rw [hcheck, hrest] at hrecords
                cases hrecords
            | ok others =>
                rw [hcheck, hrest] at hrecords
                cases hrecords
                exact .cons ⟨(checkBindingName_ok hcheck).1, hcheck, rfl, rfl⟩ (ih hrest)

/-- Every record belongs to some binding. -/
theorem exists_recordOf (hrecords : records w unit bindings = .ok rs) {r : BindingRecord}
    (hr : r ∈ rs) : ∃ b, RecordOf w unit b r := by
  have hall := records_forall₂ hrecords
  generalize (bindings.filter fun b => b.1 ≠ .null) = named at hall
  clear hrecords
  induction hall with
  | nil => cases hr
  | @cons b r' _ _ hrecord _ ih =>
      rcases List.mem_cons.mp hr with rfl | hr
      · exact ⟨b, hrecord⟩
      · exact ih hr

end Records

/-- The private name that the path to a checked class starts with, and the names behind it. -/
def targetNames (d : Descriptor) : String × List String :=
  match castModule? d with
  | some m =>
      (privateAlias m,
        Text.split '.' (String.ofList (d.castName.toList.drop (m.length + 1))))
  | none => (privateOpening ++ "builtins", Text.split '.' d.castName)

/-- The path to a checked class, with the names in it spelled in some way. -/
def targetExpr (spell : String → String) (d : Descriptor) : Expr :=
  .path (spell (targetNames d).1 :: (targetNames d).2.map spell)

/-- The function that the name of a check stands for. -/
def checkFunction (d : Descriptor) : Native :=
  if d.kind = .boxed then .unbox else .cast

/-- Spelled as it is, the path to a checked class is what the line of the field has for it. -/
theorem castTarget_eq (d : Descriptor) : castTarget d = (targetExpr id d).source := by
  rw [targetExpr, List.map_id, id_eq, Script.source_path]
  unfold castTarget targetNames
  cases hmodule : castModule? d with
  | none =>
      dsimp only
      rw [Text.join_cons (Text.split_ne_nil '.' _),
        show Text.join "." (Text.split '.' d.castName) = d.castName from Text.join_split '.' _]
      rfl
  | some m =>
      obtain ⟨-, name, hname⟩ := World.castModule?_some hmodule
      have htail : String.ofList (d.castName.toList.drop m.length) = "." ++ name := by
        rw [hname, String.append_assoc, Text.drop_append]
      dsimp only
      rw [World.drop_castName hname, htail, Text.join_cons (Text.split_ne_nil '.' _),
        show Text.join "." (Text.split '.' name) = name from Text.join_split '.' _,
        String.append_assoc]

end Source

end FragmentWeaver
