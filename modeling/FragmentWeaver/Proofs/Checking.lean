import FragmentWeaver.Binding.Check
import FragmentWeaver.Source.Field

/-!
# The class behind a checked name

A descriptor writes down the class that a value is checked against. Its name is read again from the
module that it starts with, or from the built-in names when it starts with none of the modules of the
descriptor; what it leads to there is the class it denotes.
-/

namespace FragmentWeaver

namespace Text

theorem beginsWith_append (a b : String) : beginsWith a (a ++ b) = true := by
  simp [beginsWith]

theorem drop_append (a b : String) : String.ofList ((a ++ b).toList.drop a.length) = b := by
  rw [String.toList_append, ← String.length_toList, List.drop_left, String.ofList_toList]

theorem append_of_beginsWith {a s : String} (h : beginsWith a s = true) : ∃ b, s = a ++ b := by
  rw [beginsWith, List.isPrefixOf_iff_prefix] at h
  obtain ⟨rest, hrest⟩ := h
  refine ⟨String.ofList rest, ?_⟩
  rw [← String.toList_inj, String.toList_append, String.toList_ofList, hrest]

/-- A text without a character begins with nothing that has the character. -/
theorem beginsWith_of_not_mem {a s : String} {c : Char} (ha : c ∈ a.toList)
    (hs : c ∉ s.toList) : beginsWith a s = false := by
  rw [beginsWith, Bool.eq_false_iff]
  intro hprefix
  exact hs ((List.isPrefixOf_iff_prefix.mp hprefix).subset ha)

theorem split_cons_sep (sep : Char) (s : String) :
    split sep (String.ofList [sep] ++ s) = "" :: split sep s := by
  simp [split, cutAt]

end Text

namespace World

/-- What the checked name of a descriptor leads to. -/
def resolved? (w : World) (d : Descriptor) : Option Value :=
  match Source.castModule? d with
  | some m =>
      (w.imported? m).bind fun owner =>
        w.walk (.module owner)
          (Text.split '.' (String.ofList (d.castName.toList.drop (m.length + 1))))
  | none => w.walk (.module builtins) (Text.split '.' d.castName)

/-- The checked name of a descriptor leads to a class. -/
def Denotes (w : World) (d : Descriptor) (c : ClassId) : Prop :=
  w.resolved? d = some (.cls c)

/-- The check that the field of a descriptor makes. -/
def check (w : World) (d : Descriptor) (c : ClassId) (v : Value) : Except Fault Value :=
  if d.kind = .boxed then w.unbox c v else w.cast c v

variable {w : World} {d : Descriptor} {c : ClassId}

theorem leadsTo_iff {m : ModuleId} {dotted : String} :
    w.leadsTo m dotted c = true ↔ w.walk (.module m) (Text.split '.' dotted) = some (.cls c) := by
  simp [leadsTo]

/-- The part of a checked name behind the module it starts with. -/
theorem drop_castName {m name : String} (hname : d.castName = m ++ "." ++ name) :
    String.ofList (d.castName.toList.drop (m.length + 1)) = name := by
  have hlength : m.length + 1 = (m ++ ".").length := by
    rw [String.length_append]
    rfl
  rw [hname, hlength, Text.drop_append]

theorem castModule?_of_module {m n : String} (hmodules : d.modules = [m])
    (hname : d.castName = m ++ "." ++ n) : Source.castModule? d = some m := by
  rw [Source.castModule?, hmodules, hname, List.find?_cons_of_pos]
  exact Text.beginsWith_append _ _

/-- A name that starts with the one module of its descriptor is read from that module. -/
theorem denotes_of_module {m n : String} {owner : ModuleId} (hmodules : d.modules = [m])
    (hname : d.castName = m ++ "." ++ n) (howner : w.imported? m = some owner)
    (hleads : w.leadsTo owner n c = true) : w.Denotes d c := by
  unfold Denotes resolved?
  rw [castModule?_of_module hmodules hname]
  dsimp only
  rw [howner, Option.bind_some, drop_castName hname]
  exact leadsTo_iff.mp hleads

/-- A name that starts with no module of its descriptor is read from the built-in names. -/
theorem denotes_of_builtin (hcast : Source.castModule? d = none)
    (hleads : w.leadsTo builtins d.castName c = true) : w.Denotes d c := by
  unfold Denotes resolved?
  rw [hcast]
  exact leadsTo_iff.mp hleads

/-- The module that a checked name is reached through is one of its modules, and the name starts with
    it. -/
theorem castModule?_some {m : String} (hcast : Source.castModule? d = some m) :
    m ∈ d.modules ∧ ∃ name, d.castName = m ++ "." ++ name := by
  unfold Source.castModule? at hcast
  have hbegins : Text.beginsWith (m ++ ".") d.castName = true :=
    List.find?_some (p := fun m => Text.beginsWith (m ++ ".") d.castName) hcast
  exact ⟨List.mem_of_find?_eq_some hcast, Text.append_of_beginsWith hbegins⟩

theorem castModule?_of_no_dot (hdot : '.' ∉ d.castName.toList) : Source.castModule? d = none := by
  rw [Source.castModule?, List.find?_eq_none]
  intro m _
  rw [Text.beginsWith_of_not_mem (c := '.') (by simp) hdot]
  simp

theorem castModule?_of_no_modules (hmodules : d.modules = []) : Source.castModule? d = none := by
  rw [Source.castModule?, hmodules, List.find?_nil]

/-- A value passes the check against every class above its own. -/
theorem cast_of_lineage {v : Value} (hv : v ≠ .missing) (hc : c ∈ w.lineage (w.typeOf v)) :
    w.cast c v = .ok v := by
  have hinstance : w.isInstance v c = true := by
    unfold isInstance isSubclass
    rw [List.contains_iff_mem.mpr hc]
    rfl
  rw [cast, if_neg hv, if_pos hinstance]

end World

end FragmentWeaver
