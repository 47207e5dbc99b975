import FragmentWeaver.Proofs.Sharing
import FragmentWeaver.Unit.Tally
import Mathlib.Algebra.Group.Int.Defs

/-!
# Names that identify units

A qualified name tells which unit it is the name of, and a unit that was read from some text is read
from its own name again: reading cuts at the last dot, and what white space it drops from a text is
not there in the name. The numbers that an allocator hands out follow each other, whoever asks for
them, and different numbers are written differently; so no two of the units it hands out share a
name. Only a number with more digits than can be written has no unit, and is used up all the same.
-/

namespace FragmentWeaver

namespace Text

/-- White space stands neither first nor last in a text. -/
structure Trimmed (cs : List Char) : Prop where
  first : ∀ c ∈ cs.head?, isBlank c = false
  last : ∀ c ∈ cs.getLast?, isBlank c = false

theorem trimmed_trimBy (cs : List Char) : Trimmed (trimBy isBlank cs) := by
  have hcut (ds : List Char) : ∀ c ∈ (ds.dropWhile isBlank).head?, isBlank c = false := by
    intro c hc
    have := List.head?_dropWhile_not isBlank ds
    rwa [Option.mem_def.mp hc] at this
  refine ⟨?_, ?_⟩
  · -- What is dropped at the end leaves the first character alone, unless it drops them all.
    intro c hc
    have hopening : trimBy isBlank cs <+: cs.dropWhile isBlank := by
      have := List.dropWhile_suffix (l := (cs.dropWhile isBlank).reverse) isBlank
      rwa [← List.reverse_prefix, List.reverse_reverse] at this
    obtain ⟨dropped, hdropped⟩ := hopening
    refine hcut cs c ?_
    rw [← hdropped, List.head?_append, Option.mem_def.mp hc]
    rfl
  · intro c hc
    rw [trimBy, List.getLast?_reverse] at hc
    exact hcut _ c hc

theorem Trimmed.trimBy_eq {cs : List Char} (h : Trimmed cs) : trimBy isBlank cs = cs := by
  have hkept {ds : List Char} (hds : ∀ c ∈ ds.head?, isBlank c = false) :
      ds.dropWhile isBlank = ds := by
    cases ds with
    | nil => rfl
    | cons d ds => rw [List.dropWhile_cons, hds d rfl]; rfl
  rw [trimBy, hkept h.first, hkept (by rw [List.head?_reverse]; exact h.last), List.reverse_reverse]

/-- What stands around a text does not matter, as long as it is not white space. -/
theorem Trimmed.around {before after : List Char} (hbefore : Trimmed before) (hafter : Trimmed after)
    (hbefore' : before ≠ []) (hafter' : after ≠ []) (between : List Char) :
    Trimmed (before ++ between ++ after) := by
  obtain ⟨c, before, rfl⟩ := List.exists_cons_of_ne_nil hbefore'
  refine ⟨hbefore.first, ?_⟩
  rw [List.getLast?_append_of_ne_nil _ hafter']
  exact hafter.last

theorem isBlank_of_isDigit {c : Char} (h : c.isDigit = true) : isBlank c = false := by
  simp only [Char.isDigit, Bool.and_eq_true, decide_eq_true_eq, ge_iff_le,
    UInt32.le_iff_toNat_le] at h
  have hrange : 48 ≤ c.toNat ∧ c.toNat ≤ 57 := h
  simp only [isBlank, Bool.or_eq_false_iff, Bool.and_eq_false_iff, decide_eq_false_iff_not,
    beq_eq_false_iff_ne]
  omega

/-- A character that occurs in a text occurs for a last time. -/
theorem exists_last_of_mem {c : Char} {cs : List Char} (h : c ∈ cs) :
    ∃ before after, cs = before ++ c :: after ∧ c ∉ after := by
  obtain ⟨after, before, hsplit, hafter⟩ := List.eq_append_cons_of_mem (List.mem_reverse.mpr h)
  refine ⟨before.reverse, after.reverse, ?_, by simpa using hafter⟩
  rw [← cs.reverse_reverse, hsplit]
  simp

end Text

namespace UnitId

theorem partsOf_member {simple : String} (h : '.' ∉ simple.toList) (parent : String) :
    partsOf (parent ++ "." ++ simple) = (parent, simple) := by
  have htext : (parent ++ "." ++ simple).toList = parent.toList ++ '.' :: simple.toList := by
    simp
  rw [partsOf, htext, Text.cutLast_append h]
  simp

theorem partsOf_undotted {name : String} (h : '.' ∉ name.toList) : partsOf name = ("", name) := by
  rw [partsOf, Text.cutLast, Text.cutAt_of_not_mem h]
  rfl

/-- A unit is read from its name, if there is no white space around the name. -/
theorem parse_qualifiedName {u : UnitId} (h : Text.Trimmed u.qualifiedName.toList) :
    parse u.qualifiedName = .ok u := by
  have hstrip : Text.strip u.qualifiedName = u.qualifiedName := by
    rw [Text.strip, h.trimBy_eq, String.ofList_toList]
  have hparts : partsOf u.qualifiedName = (u.space, u.name) := partsOf_member u.name_undotted _
  rw [parse, hstrip, hparts]
  dsimp only
  rw [if_neg u.space_ne, ofParts_parts]

theorem trimmed_defaultSpace : Text.Trimmed defaultSpace.toList := by
  have htext : defaultSpace.toList = ['w', 'o', 'v', 'e', 'n'] := rfl
  rw [htext]
  refine ⟨fun c hc => ?_, fun c hc => ?_⟩
  · obtain rfl := Option.some.inj hc
    rfl
  · obtain rfl := Option.some.inj hc
    rfl

/-- Where a namespace was written, the name of the unit is what was read. Where none was, the default
    namespace stands before what was read. -/
theorem trimmed_of_parse {written : String} {u : UnitId} (h : parse written = .ok u) :
    Text.Trimmed u.qualifiedName.toList := by
  have hread : Text.Trimmed (Text.strip written).toList := by
    rw [Text.strip, String.toList_ofList]
    exact Text.trimmed_trimBy _
  unfold parse at h
  generalize Text.strip written = read at h hread
  by_cases hdot : '.' ∈ read.toList
  · obtain ⟨before, after, hsplit, hafter⟩ := Text.exists_last_of_mem hdot
    have hwhole : read = String.ofList before ++ "." ++ String.ofList after := by
      apply String.toList_injective
      simp [hsplit]
    rw [hwhole, partsOf_member (by simpa using hafter)] at h
    obtain ⟨hspace, hname⟩ := ofParts_ok h
    rw [qualifiedName, hspace, hname]
    split
    · next hnone =>
        have htext : (defaultSpace ++ "." ++ String.ofList after).toList =
            defaultSpace.toList ++ [] ++ read.toList := by
          rw [hwhole, hnone]
          simp
        rw [htext]
        exact trimmed_defaultSpace.around hread (by decide) (List.ne_nil_of_mem hdot) _
    · rwa [← hwhole]
  · rw [partsOf_undotted hdot] at h
    obtain ⟨hspace, hname⟩ := ofParts_ok h
    have htext : u.qualifiedName.toList = defaultSpace.toList ++ ['.'] ++ read.toList := by
      rw [qualifiedName, hspace, hname]
      simp
    rw [htext]
    refine trimmed_defaultSpace.around hread (by decide) ?_ _
    intro hnil
    exact u.name_ne (hname.trans (String.toList_injective hnil))

/-- A minus and digits are no white space. -/
theorem trimmed_numbered (n : Int) : Text.Trimmed (numbered n).qualifiedName.toList := by
  have hplain : ∀ c ∈ Number.wholeChars n, Text.isBlank c = false := by
    intro c hc
    rcases Number.mem_wholeChars hc with rfl | hdigit
    · rfl
    · exact Text.isBlank_of_isDigit hdigit
  have hwhole : Text.Trimmed (Number.wholeChars n) :=
    ⟨fun c hc => hplain c (List.mem_of_mem_head? hc),
      fun c hc => hplain c (List.mem_of_mem_getLast? hc)⟩
  have htext : (numbered n).qualifiedName.toList =
      defaultSpace.toList ++ ('.' :: numberedOpening.toList) ++ Number.wholeChars n := by
    simp [qualifiedName, numbered, Number.wholeText]
  rw [htext]
  exact trimmed_defaultSpace.around hwhole (by decide) (Number.wholeChars_ne_nil n) _

end UnitId

namespace Number

theorem wholeText_injective {m n : Int} (h : wholeText m = wholeText n) : m = n := by
  have hdigits {i j : Nat} (h : digitsOf i = digitsOf j) : i = j := by
    have := congrArg (fun ds => Nat.ofDigitChars 10 ds 0) h
    simpa [digitsOf] using this
  have hchars : wholeChars m = wholeChars n := String.ofList_injective h
  have hminus (i : Nat) (cs : List Char) : digitsOf i ≠ '-' :: cs := by
    intro hcs
    have hmem : '-' ∈ digitsOf i := hcs ▸ List.mem_cons_self
    exact absurd (Nat.isDigit_of_mem_toDigits (by decide) (by decide) hmem) (by decide)
  unfold wholeChars at hchars
  split at hchars <;> split at hchars
  · have := hdigits (List.cons.inj hchars).2
    omega
  · exact absurd hchars.symm (hminus _ _)
  · exact absurd hchars (hminus _ _)
  · have := hdigits hchars
    omega

end Number

theorem shown_whole (w : World) (n : Int) : w.shown (.whole n) = wholeText? n := rfl

/-- A number that is not too long to be written. -/
def Writable (n : Int) : Prop :=
  n.natAbs < 10 ^ digitLimit

instance : DecidablePred Writable := fun n =>
  inferInstanceAs (Decidable (n.natAbs < 10 ^ digitLimit))

theorem wholeText?_eq (n : Int) : wholeText? n =
    if Writable n then .ok (Number.wholeText n) else .error .tooManyDigits := by
  have hlength : (Number.wholeText n).length - (if n < 0 then 1 else 0) =
      (Number.digitsOf n.natAbs).length := by
    rw [Number.wholeText, String.length_ofList, Number.wholeChars]
    split <;> simp
  have hfits : (Number.digitsOf n.natAbs).length ≤ digitLimit ↔ Writable n :=
    Nat.length_toDigits_le_iff (by decide) (by decide)
  rw [wholeText?, hlength]
  by_cases h : Writable n
  · rw [if_pos h, if_neg (Nat.not_lt.mpr (hfits.mpr h))]
  · rw [if_neg h, if_pos (Nat.not_le.mp (mt hfits.mp h))]

namespace World

theorem numberedUnit_whole (w : World) (n : Int) : w.numberedUnit (.whole n) =
    if Writable n then .ok (.numbered n) else .error (.unwritten .tooManyDigits) := by
  rw [numberedUnit, shown_whole, wholeText?_eq]
  by_cases h : Writable n
  · rw [if_pos h, if_pos h]
    exact congrArg (Except.mapError Fault.unitName) (UnitId.ofParts_parts (.numbered n))
  · rw [if_neg h, if_neg h]

end World

/-- A call of an allocator. -/
inductive NumberCall where
  | next
  | allocate
  deriving DecidableEq, Repr

/-- What a call of an allocator is answered. -/
inductive NumberAnswer where
  | number (v : Value)
  | unit (u : UnitId)

/-- The unit of an answer, if there is one. -/
def NumberAnswer.unit? : Except Fault NumberAnswer → Option UnitId
  | .ok (.unit u) => some u
  | _ => none

/-- What a call is answered that comes to a number: the number, or its unit. A number that is too long
    to be written has no unit. -/
def NumberCall.answer (n : Int) : NumberCall → Except Fault NumberAnswer
  | .next => .ok (.number (.whole n))
  | .allocate =>
      if Writable n then .ok (.unit (.numbered n)) else .error (.unwritten .tooManyDigits)

namespace Tally

/-- Carry a call out. The value is handed out before a unit is made of it, so it is used up also where
    it has no unit. -/
def run (t : Tally) (w : World) (call : NumberCall) : Except Fault NumberAnswer × Tally × World :=
  match t.next w with
  | .error f => (.error f, t, w)
  | .ok ((v, t), w) =>
      match call with
      | .next => (.ok (.number v), t, w)
      | .allocate => ((w.numberedUnit v).map .unit, t, w)

theorem run_next (t : Tally) (w : World) : (t.run w .next).1 =
    (t.next w).map fun r => .number r.1.1 := by
  unfold run
  split <;> simp [Except.map, *]

theorem run_allocate (t : Tally) (w : World) : (t.run w .allocate).1 =
    (t.allocate w).map fun r => .unit r.1.1 := by
  unfold run allocate
  cases t.next w with
  | error f => rfl
  | ok r =>
      cases h : r.2.numberedUnit r.1.1 <;> simp [h, Except.map, bind, Except.bind, pure, Except.pure]

theorem run_whole (n : Int) (w : World) (call : NumberCall) :
    run ⟨.whole n⟩ w call = (call.answer (n + 1), ⟨.whole (n + 1)⟩, w) := by
  have hnext : next ⟨.whole n⟩ w = .ok ((.whole (n + 1), ⟨.whole (n + 1)⟩), w) :=
    next_whole w ⟨n⟩
  rw [run, hnext]
  cases call with
  | next => rfl
  | allocate =>
      dsimp only
      rw [World.numberedUnit_whole, NumberCall.answer]
      by_cases h : Writable (n + 1)
      · rw [if_pos h, if_pos h]
        rfl
      · rw [if_neg h, if_neg h]
        rfl

/-- Carry calls out one after the other, each of them in the world of its time. -/
def runAll (t : Tally) : List (World × NumberCall) → List (Except Fault NumberAnswer) × Tally
  | [] => ([], t)
  | (w, call) :: calls =>
      let (answer, t, _) := t.run w call
      let (answers, t) := t.runAll calls
      (answer :: answers, t)

theorem runAll_whole (n : Int) (calls : List (World × NumberCall)) :
    runAll ⟨.whole n⟩ calls =
      (calls.mapIdx fun i c => c.2.answer (n + 1 + i), ⟨.whole (n + calls.length)⟩) := by
  induction calls generalizing n with
  | nil => simp [runAll]
  | cons c calls ih =>
      obtain ⟨w, call⟩ := c
      rw [runAll, run_whole]
      dsimp only
      rw [ih (n + 1), List.mapIdx_cons]
      have hplace (i : Nat) : n + 1 + 1 + (i : Int) = n + 1 + ((i + 1 : Nat) : Int) := by
        omega
      have hlast : n + 1 + (calls.length : Int) = n + ((calls.length + 1 : Nat) : Int) := by
        omega
      simp only [hplace, hlast, List.length_cons, Int.natCast_zero, Int.add_zero]

end Tally

/-- The units among some answers. -/
def unitsOf (answers : List (Except Fault NumberAnswer)) : List UnitId :=
  answers.filterMap NumberAnswer.unit?

theorem unit?_answer {n : Int} {call : NumberCall} {u : UnitId}
    (h : NumberAnswer.unit? (call.answer n) = some u) : u = .numbered n := by
  cases call with
  | next => cases h
  | allocate =>
      rw [NumberCall.answer] at h
      split at h
      · exact (Option.some.inj h).symm
      · cases h

theorem numbered_injective {m n : Int} (h : UnitId.numbered m = UnitId.numbered n) : m = n := by
  have hname := congrArg (fun u => u.name.toList) h
  simp only [UnitId.numbered, String.toList_append] at hname
  exact Number.wholeText_injective (String.toList_injective (List.append_cancel_left hname))

/-- Different calls come to different numbers, and different numbers have different units. -/
theorem nodup_unitsOf (n : Int) (calls : List (World × NumberCall)) :
    (unitsOf (calls.mapIdx fun i c => c.2.answer (n + i))).Nodup := by
  rw [unitsOf, List.Nodup, List.pairwise_filterMap, List.pairwise_iff_getElem]
  intro i j hi hj hlt u hu v hv huv
  rw [List.getElem_mapIdx] at hu hv
  have hsame : UnitId.numbered (n + i) = UnitId.numbered (n + j) := by
    rw [← unit?_answer hu, ← unit?_answer hv, huv]
  have := numbered_injective hsame
  omega

/-- What a unit's name says. The name of a unit is the name of no other one. A unit that was read from
    a text is read from its own name. An allocator that starts at a whole number comes to the next
    number with every call, whoever makes it: the number is what it answers, or what its unit is made
    of, unless the number is too long to be written. No two of the units have the same name, and each
    is read from its name. -/
theorem names_identify_units :
    (∀ u v : UnitId, u.qualifiedName = v.qualifiedName → u = v) ∧
    (∀ (written : String) (u : UnitId),
      UnitId.parse written = .ok u → UnitId.parse u.qualifiedName = .ok u) ∧
    ∀ (start : Int) (calls : List (World × NumberCall)),
      let run := Tally.runAll ⟨.whole start⟩ calls
      run.1 = calls.mapIdx (fun i c => c.2.answer (start + 1 + i)) ∧
      run.2 = ⟨.whole (start + calls.length)⟩ ∧
      ((unitsOf run.1).map UnitId.qualifiedName).Nodup ∧
      ∀ u ∈ unitsOf run.1, UnitId.parse u.qualifiedName = .ok u := by
  refine ⟨fun u v => UnitId.qualifiedName_injective, ?_, ?_⟩
  · intro written u hread
    exact UnitId.parse_qualifiedName (UnitId.trimmed_of_parse hread)
  · intro start calls
    dsimp only
    rw [Tally.runAll_whole]
    refine ⟨rfl, rfl, ?_, ?_⟩
    · exact (nodup_unitsOf _ calls).map fun u v => UnitId.qualifiedName_injective
    · intro u hu
      obtain ⟨answer, hanswer, hunit⟩ := List.mem_filterMap.mp hu
      obtain ⟨i, hi, rfl⟩ := List.mem_mapIdx.mp hanswer
      rw [unit?_answer hunit]
      exact UnitId.parse_qualifiedName (UnitId.trimmed_numbered _)

/-- Two units are asked for, and a number between them. -/
def numberedTwice : List (World × NumberCall) :=
  [({}, .allocate), ({}, .next), ({}, .allocate)]

/-- A name without a namespace and with white space around it; numbers on both sides of nought. -/
theorem names_identify_units_spaced :
    (∃ u, UnitId.parse "\t.x \u2003" = .ok u ∧ UnitId.parse u.qualifiedName = .ok u) ∧
    unitsOf (Tally.runAll ⟨.whole (-2)⟩ numberedTwice).1 = [.numbered (-1), .numbered 1] ∧
    UnitId.parse "woven.gen-1" = .ok (.numbered (-1)) := by
  obtain ⟨-, hread, hrun⟩ := names_identify_units
  obtain ⟨hanswers, -, -, hback⟩ := hrun (-2) numberedTwice
  have hwritten : UnitId.parse "\t.x \u2003" =
      .ok ⟨"woven", "x", by decide, by decide, by decide⟩ := by decide +kernel
  have hunits : unitsOf (Tally.runAll ⟨.whole (-2)⟩ numberedTwice).1 =
      [.numbered (-1), .numbered 1] := by
    rw [hanswers]
    decide +kernel
  have hname : "woven.gen-1" = (UnitId.numbered (-1)).qualifiedName := by decide +kernel
  refine ⟨⟨_, hwritten, hread _ _ hwritten⟩, hunits, ?_⟩
  rw [hname]
  refine hback _ ?_
  rw [hunits]
  exact List.mem_cons_self

/-- The number after `10 ^ 4300 - 1` is too long to be written, so an allocator refuses the unit. -/
theorem unit_refused_beyond_limit :
    (Tally.runAll ⟨.whole (10 ^ 4300 - 1)⟩ [({}, .allocate)]).1 =
        [.error (.unwritten .tooManyDigits)] ∧
      unitsOf (Tally.runAll ⟨.whole (10 ^ 4300 - 1)⟩ [({}, .allocate)]).1 = [] := by
  have hlong : ¬ Writable (10 ^ 4300 - 1 + 1 + ((0 : Nat) : Int)) := by decide +kernel
  have hanswers : (Tally.runAll ⟨.whole (10 ^ 4300 - 1)⟩ [({}, .allocate)]).1 =
      [.error (.unwritten .tooManyDigits)] := by
    rw [Tally.runAll_whole]
    simp only [List.mapIdx_cons, List.mapIdx_nil, NumberCall.answer]
    rw [if_neg hlong]
  exact ⟨hanswers, by rw [hanswers]; rfl⟩

end FragmentWeaver
