import FragmentWeaver.Script.Parser
import FragmentWeaver.Text.Split
import Mathlib.Data.List.TakeWhile

/-!
# Reading dotted names

A line that is a dotted name, that imports one or that imports a name from one is cut into tokens
and read back: the tokens are the names and the dots between them, and what is read is the path or
the import. That takes names that are identifiers and no reserved words; the names that are read are
the composed forms.
-/

namespace FragmentWeaver

namespace Text

/-- A name that a source can have: an identifier that is no reserved word. -/
def IsWord (s : String) : Prop :=
  isIdentifier s = true ∧ isKeyword s = false

instance (s : String) : Decidable (IsWord s) :=
  inferInstanceAs (Decidable (_ ∧ _))

theorem exists_of_isName {cs : List Char} (h : isName cs = true) :
    ∃ c rest, cs = c :: rest ∧ isNameStart c = true ∧ ∀ d ∈ rest, isNameRest d = true := by
  cases cs with
  | nil => cases h
  | cons c rest =>
      rw [isName, Bool.and_eq_true, List.all_eq_true] at h
      exact ⟨c, rest, rfl, h⟩

end Text

namespace Script

open Text (isNameStart isNameRest)
open Token

variable {c : Char} {cs rest after : List Char}

theorem ne_of_isNameStart (hc : isNameStart c = true) {d : Char} (hd : isNameStart d = false) :
    c ≠ d := by
  rintro rfl
  rw [hd] at hc
  cases hc

theorem isDecimal_of_isNameStart (hc : isNameStart c = true) : isDecimal c = false := by
  have hletter : ¬(48 ≤ c.toNat ∧ c.toNat ≤ 57) := by
    rintro ⟨hlow, hhigh⟩
    rw [isNameStart, if_pos (by omega), Bool.or_eq_true, beq_iff_eq] at hc
    rcases hc with hc | rfl
    · have halpha : c.isAlpha =
          (decide ('A'.val ≤ c.val ∧ c.val ≤ 'Z'.val) ||
            (decide ('a'.val ≤ c.val) && decide (c.val ≤ 'z'.val))) := rfl
      simp only [halpha, Bool.or_eq_true, Bool.and_eq_true, decide_eq_true_eq,
        UInt32.le_iff_toNat_le] at hc
      change (65 ≤ c.toNat ∧ c.toNat ≤ 90) ∨ (97 ≤ c.toNat ∧ c.toNat ≤ 122) at hc
      omega
    · revert hhigh
      decide
  unfold isDecimal isDigitOf Text.hexValue?
  simp only [Bool.and_eq_true, decide_eq_true_eq, if_neg hletter]
  split
  · next n hn =>
      rw [decide_eq_false_iff_not]
      split at hn
      · obtain rfl := Option.some.inj hn
        omega
      · split at hn
        · obtain rfl := Option.some.inj hn
          omega
        · cases hn
  · rfl

namespace Lexeme

variable {digits fuel line : Nat} {margins : List (Nat × Nat)} {brackets : List Char} {n : String}

/-- A name is read up to its end. -/
theorem scan_name (hn : Text.isIdentifier n = true)
    (hafter : ∀ d ∈ after.head?, isNameRest d = false ∧ d ≠ '\'' ∧ d ≠ '"') :
    scan digits (fuel + 1) false line margins brackets (n.toList ++ after) =
      ⟨.name n, line, none⟩ :: scan digits fuel false line margins brackets after := by
  obtain ⟨c, rest, hchars, hc, hrest⟩ := Text.exists_of_isName hn
  have hne {d : Char} (hd : isNameStart d = false) : c ≠ d := ne_of_isNameStart hc hd
  have hnumber : startsNumber (c :: (rest ++ after)) = false := by
    unfold startsNumber
    split
    · next heq => exact absurd (List.cons.inj heq).1 (hne (by decide))
    · next heq =>
        obtain ⟨rfl, -⟩ := List.cons.inj heq
        exact isDecimal_of_isNameStart hc
    · rfl
  have hquote : (decide (c = '\'') || decide (c = '"')) = false := by
    simp [hne (d := '\'') (by decide), hne (d := '"') (by decide)]
  have hends : after.takeWhile isNameRest = [] ∧ after.dropWhile isNameRest = after := by
    cases after with
    | nil => exact ⟨rfl, rfl⟩
    | cons d after =>
        have hd := (hafter d rfl).1
        exact ⟨List.takeWhile_cons_of_neg (by simp [hd]), List.dropWhile_cons_of_neg (by simp [hd])⟩
  rw [← String.ofList_toList (s := n), String.toList_ofList, hchars, List.cons_append, scan]
  · rw [hnumber, hquote, List.takeWhile_append_of_pos hrest, List.dropWhile_append_of_pos hrest,
      hends.1, hends.2, hc, List.append_nil]
    cases after with
    | nil => rfl
    | cons d after =>
        obtain ⟨-, hd, hd'⟩ := hafter d rfl
        simp [hd, hd']
  · exact hne (by decide)
  · exact hne (by decide)
  · exact hne (by decide)
  · exact hne (by decide)
  · exact hne (by decide)
  · exact fun _ h => absurd h (hne (by decide))
  · exact hne (by decide)

/-- A dot before a name is a sign of its own. -/
theorem scan_dot (hc : isNameStart c = true) :
    scan digits (fuel + 1) false line margins brackets ('.' :: c :: rest) =
      ⟨.sign ".", line, none⟩ :: scan digits fuel false line margins brackets (c :: rest) := by
  have hne : '.' ≠ c := (ne_of_isNameStart hc (by decide)).symm
  have hsign : sign? ('.' :: c :: rest) = some (".", c :: rest) := by
    have hlong : (longSigns.find? fun s => s.toList.isPrefixOf ('.' :: c :: rest)) = none := by
      simp [longSigns, hne]
    rw [sign?, hlong]
    rfl
  rw [scan]
  · rw [startsNumber, isDecimal_of_isNameStart hc, hsign]
    rfl
  all_goals simp

theorem scan_space : scan digits (fuel + 1) false line margins brackets (' ' :: rest) =
    scan digits fuel false line margins brackets rest := by
  rw [scan]

theorem scan_end : scan digits (fuel + 1) false line [] [] [] =
    [⟨.newline, line, none⟩, ⟨.done, line, none⟩] := by
  rw [scan]
  rfl

/-- A line without a margin starts with its first token. -/
theorem scan_start (hc : isNameStart c = true) :
    scan digits (fuel + 1) true line [] [] (c :: rest) =
      scan digits fuel false (line + joinedLines (c :: rest)) [] [] (c :: rest) := by
  have hne {d : Char} (hd : isNameStart d = false) : c ≠ d := ne_of_isNameStart hc hd
  have hmargin : margin 0 0 0 (c :: rest) = some (0, 0, c :: rest) := by
    rw [margin]
    · rfl
    · exact fun _ h => absurd (List.cons.inj h).1 (hne (by decide))
    · exact fun _ h => absurd (List.cons.inj h).1 (hne (by decide))
    · exact fun _ h => absurd (List.cons.inj h).1 (hne (by decide))
    · exact fun _ h => absurd (List.cons.inj h).1 (hne (by decide))
    · exact fun _ h => absurd (List.cons.inj h).1 (hne (by decide))
  rw [scan, hmargin]
  dsimp only
  split
  · next heq => exact absurd (List.cons.inj heq).1 (hne (by decide))
  · next heq => exact absurd (List.cons.inj heq).1 (hne (by decide))
  · rfl

end Lexeme

/-- The tokens of names behind dots. -/
def memberTokens (names : List String) : List Token :=
  names.flatMap fun n => [.sign ".", .name n]

theorem memberTokens_cons (n : String) (names : List String) :
    memberTokens (n :: names) = .sign "." :: .name n :: memberTokens names :=
  rfl

/-- The characters of names with dots between them. -/
def dottedChars (n : String) (names : List String) : List Char :=
  Text.glue ['.'] ((n :: names).map String.toList)

variable {n : String} {names : List String}

theorem dottedChars_cons (n m : String) (names : List String) :
    dottedChars n (m :: names) = n.toList ++ '.' :: dottedChars m names :=
  Text.glue_cons (List.cons_ne_nil _ _)

theorem exists_dottedChars (hn : Text.isIdentifier n = true) (names : List String) :
    ∃ c rest, dottedChars n names = c :: rest ∧ isNameStart c = true := by
  obtain ⟨c, rest, hchars, hc, -⟩ := Text.exists_of_isName hn
  cases names with
  | nil => exact ⟨c, rest, hchars, hc⟩
  | cons m names =>
      rw [dottedChars_cons, hchars]
      exact ⟨c, _, rfl, hc⟩

/-- Names with dots between them are read one by one. -/
theorem scan_names {digits line more : Nat} {margins : List (Nat × Nat)} {brackets : List Char}
    (hn : Text.isIdentifier n = true) (hnames : ∀ m ∈ names, Text.isIdentifier m = true)
    (hafter : ∀ d ∈ after.head?, isNameRest d = false ∧ d ≠ '\'' ∧ d ≠ '"') :
    (Lexeme.scan digits (more + 2 * names.length + 1) false line margins brackets
        (dottedChars n names ++ after)).map (·.token) =
      .name n :: memberTokens names ++
        (Lexeme.scan digits more false line margins brackets after).map (·.token) := by
  induction names generalizing n with
  | nil =>
      rw [show dottedChars n [] = n.toList from rfl, Lexeme.scan_name hn hafter]
      rfl
  | cons m names ih =>
      have hm := hnames m List.mem_cons_self
      obtain ⟨c, rest, hothers, hc⟩ := exists_dottedChars hm names
      rw [dottedChars_cons, List.append_assoc, List.cons_append,
        Lexeme.scan_name hn (by simp; decide), hothers, List.cons_append, List.length_cons,
        show more + 2 * (names.length + 1) = more + 2 * names.length + 1 + 1 from rfl,
        Lexeme.scan_dot hc, ← List.cons_append, ← hothers, List.map_cons, List.map_cons,
        ih hm fun k hk => hnames k (List.mem_cons_of_mem m hk)]
      rfl

/-- At the end of a line there is nothing behind them. -/
theorem scan_dotted {digits line fuel : Nat} (hn : Text.isIdentifier n = true)
    (hnames : ∀ m ∈ names, Text.isIdentifier m = true) (hfuel : 2 * names.length + 2 ≤ fuel) :
    (Lexeme.scan digits fuel false line [] [] (dottedChars n names)).map (·.token) =
      .name n :: memberTokens names ++ [Token.newline, Token.done] := by
  obtain ⟨more, rfl⟩ : ∃ more, fuel = more + 1 + 2 * names.length + 1 :=
    ⟨fuel - (2 * names.length + 2), by omega⟩
  rw [← List.append_nil (dottedChars n names), scan_names hn hnames (by simp), Lexeme.scan_end]
  rfl

theorem toList_join (n : String) (names : List String) :
    (Text.join "." (n :: names)).toList = dottedChars n names := by
  rw [Text.join, String.toList_ofList]
  rfl

theorem unifyLineEnds_of_not_mem {cs : List Char} (h : '\r' ∉ cs) : Text.unifyLineEnds cs = cs := by
  induction cs with
  | nil => rfl
  | cons c cs ih =>
      rw [List.mem_cons, not_or] at h
      rw [Text.unifyLineEnds, ih h.2]
      · exact fun _ hc => absurd hc.symm h.1
      · exact fun hc => h.1 hc.symm

theorem return_notMem_dottedChars (hn : Text.isIdentifier n = true)
    (hnames : ∀ m ∈ names, Text.isIdentifier m = true) : '\r' ∉ dottedChars n names := by
  intro hmem
  rcases Text.mem_glue hmem with hdot | ⟨piece, hpiece, hreturn⟩
  · cases hdot
  · obtain ⟨m, hm, rfl⟩ := List.mem_map.mp hpiece
    have hident : Text.isIdentifier m = true := by
      rcases List.mem_cons.mp hm with rfl | hm
      · exact hn
      · exact hnames m hm
    exact Text.not_mem_of_isIdentifier hident (by decide) (by decide) hreturn

theorem length_dottedChars (hn : Text.isIdentifier n = true)
    (hnames : ∀ m ∈ names, Text.isIdentifier m = true) :
    names.length + 1 ≤ (dottedChars n names).length := by
  induction names generalizing n with
  | nil =>
      obtain ⟨c, rest, hchars, -⟩ := exists_dottedChars hn []
      rw [hchars]
      simp
  | cons m names ih =>
      have hrest := ih (hnames m List.mem_cons_self) fun k hk => hnames k (List.mem_cons_of_mem m hk)
      rw [dottedChars_cons]
      simp only [List.length_append, List.length_cons]
      omega

/-- The tokens of a line that is a dotted name. -/
theorem ofSource_dotted (digits : Nat) (hn : Text.isIdentifier n = true)
    (hnames : ∀ m ∈ names, Text.isIdentifier m = true) :
    Token.ofSource digits (Text.join "." (n :: names)) =
      .name n :: memberTokens names ++ [Token.newline, Token.done] := by
  obtain ⟨c, rest, hchars, hc⟩ := exists_dottedChars hn names
  have hlength := length_dottedChars hn hnames
  rw [Token.ofSource, Lexeme.ofSource, toList_join,
    unifyLineEnds_of_not_mem (return_notMem_dottedChars hn hnames), hchars, Lexeme.scan_start hc,
    ← hchars]
  exact scan_dotted hn hnames (by omega)

/-- The tokens of a line that imports a module. -/
theorem ofSource_import (digits : Nat) (hn : Text.isIdentifier n = true)
    (hnames : ∀ m ∈ names, Text.isIdentifier m = true) :
    Token.ofSource digits ("import " ++ Text.join "." (n :: names)) =
      .name "import" :: .name n :: memberTokens names ++ [Token.newline, Token.done] := by
  have hlength := length_dottedChars hn hnames
  have hchars : ("import " ++ Text.join "." (n :: names)).toList =
      "import".toList ++ ' ' :: dottedChars n names := by
    rw [String.toList_append, toList_join]
    rfl
  have hreturn : '\r' ∉ "import".toList ++ ' ' :: dottedChars n names := by
    have := return_notMem_dottedChars hn hnames
    simp [this]
  have hfuel : 2 * ("import".toList ++ ' ' :: dottedChars n names).length + 2 =
      2 * (dottedChars n names).length + 13 + 1 + 1 + 1 := by
    simp
    omega
  have hstart : "import".toList ++ ' ' :: dottedChars n names =
      'i' :: ("mport".toList ++ ' ' :: dottedChars n names) := rfl
  rw [Token.ofSource, Lexeme.ofSource, hchars, unifyLineEnds_of_not_mem hreturn, hfuel, hstart,
    Lexeme.scan_start (by decide), ← hstart, Lexeme.scan_name (by decide) (by simp; decide),
    Lexeme.scan_space, List.map_cons, scan_dotted hn hnames (by omega)]
  rfl

/-- The tokens of a line that imports a name from a module. -/
theorem ofSource_importFrom (digits : Nat) (hn : Text.isIdentifier n = true)
    (hnames : ∀ m ∈ names, Text.isIdentifier m = true) {k : String}
    (hk : Text.isIdentifier k = true) :
    Token.ofSource digits ("from " ++ Text.join "." (n :: names) ++ " import " ++ k) =
      .name "from" :: .name n ::
        (memberTokens names ++ [Token.name "import", Token.name k, Token.newline, Token.done]) := by
  let imported := ' ' :: ("import".toList ++ ' ' :: dottedChars k [])
  let chars := "from".toList ++ ' ' :: (dottedChars n names ++ imported)
  have hchars : ("from " ++ Text.join "." (n :: names) ++ " import " ++ k).toList = chars := by
    rw [String.toList_append, String.toList_append, String.toList_append, toList_join,
      List.append_assoc, List.append_assoc]
    rfl
  have hreturn : '\r' ∉ chars := by
    have hmodule := return_notMem_dottedChars hn hnames
    have hname : '\r' ∉ dottedChars k [] := return_notMem_dottedChars hk (by simp)
    simp [chars, imported, hmodule, hname]
  have hlength := length_dottedChars hn hnames
  obtain ⟨more, hfuel⟩ : ∃ more, 2 * chars.length + 2 =
      more + 2 + 1 + 1 + 1 + 2 * names.length + 1 + 1 + 1 + 1 := by
    have hfrom : "from".toList.length = 4 := rfl
    refine ⟨2 * chars.length + 2 - (2 * names.length + 9), ?_⟩
    simp only [chars, List.length_append, List.length_cons]
    omega
  have himported (line : Nat) :
      (Lexeme.scan digits (more + 2 + 1 + 1 + 1) false line [] [] imported).map (·.token) =
        [Token.name "import", Token.name k, Token.newline, Token.done] := by
    rw [Lexeme.scan_space, Lexeme.scan_name (by decide) (by simp; decide), Lexeme.scan_space,
      List.map_cons, scan_dotted hk (by simp) (by simp)]
    rfl
  have hstart : chars = 'f' :: ("rom".toList ++ ' ' :: (dottedChars n names ++ imported)) := rfl
  rw [Token.ofSource, Lexeme.ofSource, hchars, unifyLineEnds_of_not_mem hreturn, hfuel, hstart,
    Lexeme.scan_start (by decide), ← hstart, Lexeme.scan_name (by decide) (by simp; decide),
    Lexeme.scan_space, List.map_cons, scan_names hn hnames (by simp [imported]; decide), himported]
  rfl

namespace Parser

open Text (IsWord)

variable {inner : Reader Expr} {more : List Token}

theorem name_word (hn : IsWord n) : name (.name n :: more) = .ok (Text.composed n, more) := by
  rw [name, hn.2]
  rfl

theorem trailers_members (hnames : ∀ m ∈ names, IsWord m) {limit : Nat}
    (hlimit : names.length ≤ limit) (e : Expr) :
    trailers inner limit e (memberTokens names ++ .newline :: more) =
      .ok ((names.map Text.composed).foldl .attribute e, .newline :: more) := by
  induction names generalizing limit e with
  | nil =>
      cases limit with
      | zero => rfl
      | succ limit => rfl
  | cons m names ih =>
      rw [List.length_cons] at hlimit
      obtain ⟨limit, rfl⟩ : ∃ k, limit = k + 1 := ⟨limit - 1, by omega⟩
      rw [memberTokens_cons, List.cons_append, List.cons_append, trailers,
        name_word (hnames m List.mem_cons_self)]
      exact ih (fun k hk => hnames k (List.mem_cons_of_mem m hk)) (by omega) _

theorem ne_of_isWord {k : String} (hn : IsWord n) (hk : Text.isKeyword k = true) : n ≠ k := by
  rintro rfl
  rw [hn.2] at hk
  cases hk

theorem name_cons_ne {k : String} {ts rest : List Token} (hne : n ≠ k) :
    Token.name n :: ts ≠ .name k :: rest :=
  fun h => hne (Token.name.inj (List.cons.inj h).1)

theorem atom_word (hn : IsWord n) :
    atom inner (.name n :: more) = .ok (.name (Text.composed n), more) := by
  rw [atom]
  · rw [hn.2]
    rfl
  · exact ne_of_isWord hn (by decide)
  · exact ne_of_isWord hn (by decide)
  · exact ne_of_isWord hn (by decide)

theorem length_memberTokens (names : List String) (more : List Token) :
    names.length ≤ (memberTokens names ++ more).length := by
  induction names with
  | nil => exact Nat.zero_le _
  | cons m names ih =>
      change names.length + 1 ≤ (memberTokens names ++ more).length + 2
      omega

theorem factor_dotted (hn : IsWord n) (hnames : ∀ m ∈ names, IsWord m) (depth : Nat) :
    factor (depth + 1) (.name n :: (memberTokens names ++ .newline :: more)) =
      .ok (.path ((n :: names).map Text.composed), .newline :: more) := by
  rw [factor, atom_word hn]
  · exact trailers_members hnames (length_memberTokens names _) _
  · simp
  · simp

theorem chain_newline (operand : Reader Expr) (ops : List (String × Operator)) (limit : Nat)
    (left : Expr) : chain operand ops limit left (.newline :: more) = .ok (left, .newline :: more) := by
  cases limit with
  | zero => rfl
  | succ limit => rfl

/-- A dotted name at the end of a line is read as names read one from the other. -/
theorem expr_dotted (hn : IsWord n) (hnames : ∀ m ∈ names, IsWord m) (depth : Nat) :
    expr (depth + 2) (.name n :: (memberTokens names ++ .newline :: more)) =
      .ok (.path ((n :: names).map Text.composed), .newline :: more) := by
  rw [expr]
  simp only [factor_dotted hn hnames, chain_newline, bind, Except.bind]

theorem anyExprs_dotted (hn : IsWord n) (hnames : ∀ m ∈ names, IsWord m) :
    anyExprs (.name n :: (memberTokens names ++ .newline :: more)) =
      .ok (.path ((n :: names).map Text.composed), .newline :: more) := by
  have hany : anyExpr (.name n :: (memberTokens names ++ .newline :: more)) =
      .ok (.path ((n :: names).map Text.composed), .newline :: more) :=
    expr_dotted hn hnames _
  rw [anyExprs, openTuple, List.length_cons, commaList]
  simp only [hany, bind, Except.bind, nextIs, Bool.false_eq_true, if_false]

theorem simple_dotted (hn : IsWord n) (hnames : ∀ m ∈ names, IsWord m) :
    simple (.name n :: (memberTokens names ++ .newline :: more)) =
      .ok (.expr (.path ((n :: names).map Text.composed)), .newline :: more) := by
  rw [simple]
  · rw [anyExprs_dotted hn hnames]
    rfl
  all_goals exact fun _ => name_cons_ne (ne_of_isWord hn (by decide))

theorem dotted_words (hn : IsWord n) (hnames : ∀ m ∈ names, IsWord m)
    (hmore : nextIs "." more = false) {limit : Nat} (hlimit : names.length < limit) :
    dotted limit (.name n :: (memberTokens names ++ more)) =
      .ok ((n :: names).map Text.composed, more) := by
  induction names generalizing n limit with
  | nil =>
      obtain ⟨limit, rfl⟩ := Nat.exists_eq_add_of_lt hlimit
      rw [memberTokens, List.flatMap_nil, List.nil_append, dotted, name_word hn]
      simp only [bind, Except.bind, hmore, Bool.false_eq_true, if_false]
      rfl
  | cons m names ih =>
      rw [List.length_cons] at hlimit
      obtain ⟨limit, rfl⟩ : ∃ k, limit = k + 1 := ⟨limit - 1, by omega⟩
      have hrest : dotted limit (.name m :: (memberTokens names ++ more)) =
          .ok ((m :: names).map Text.composed, more) :=
        ih (hnames m List.mem_cons_self) (fun k hk => hnames k (List.mem_cons_of_mem m hk))
          (by omega)
      rw [memberTokens_cons, List.cons_append, List.cons_append, dotted, name_word hn]
      simp only [bind, Except.bind, nextIs, decide_true, if_true, List.drop_succ_cons,
        List.drop_zero, hrest]
      rfl

/-- A reserved word among the names cannot be read. -/
theorem dotted_keyword {limit : Nat} (hkey : ∃ m ∈ n :: names, Text.isKeyword m = true) :
    dotted limit (.name n :: (memberTokens names ++ more)) = .error .malformed := by
  induction limit generalizing n names with
  | zero => rfl
  | succ limit ih =>
      rw [dotted, name]
      cases hn : Text.isKeyword n with
      | true => rfl
      | false =>
          obtain ⟨m, hm, hkey⟩ := hkey
          have hm : m ∈ names := by
            refine (List.mem_cons.mp hm).resolve_left ?_
            rintro rfl
            cases hn.symm.trans hkey
          obtain _ | ⟨k, names⟩ := names
          · cases hm
          have hrest : dotted limit (.name k :: (memberTokens names ++ more)) = .error .malformed :=
            ih ⟨m, hm, hkey⟩
          simp only [memberTokens_cons, List.cons_append, bind, Except.bind, Bool.false_eq_true,
            if_false, nextIs, decide_true, if_true, List.drop_succ_cons, List.drop_zero, hrest]

theorem simple_import (hn : IsWord n) (hnames : ∀ m ∈ names, IsWord m) :
    simple (.name "import" :: .name n :: (memberTokens names ++ .newline :: more)) =
      .ok (.imports [⟨(n :: names).map Text.composed, none⟩], .newline :: more) := by
  rw [simple, List.length_cons, importItems, List.length_cons,
    dotted_words hn hnames rfl (Nat.lt_succ_of_le (length_memberTokens names _))]
  rfl

theorem simple_importFrom (hn : IsWord n) (hnames : ∀ m ∈ names, IsWord m) {k : String}
    (hk : IsWord k) :
    simple (.name "from" :: .name n ::
        (memberTokens names ++ .name "import" :: .name k :: .newline :: more)) =
      .ok (.importsFrom 0 ((n :: names).map Text.composed) [(Text.composed k, none)],
        .newline :: more) := by
  have hend : nextIs "." (.name "import" :: .name k :: .newline :: more) = false := rfl
  rw [simple, importFrom, dots]
  · simp only [bind, Except.bind, Nat.lt_irrefl, decide_false, Bool.false_and, Bool.false_eq_true,
      if_false, List.length_cons, dotted_words hn hnames hend
        (Nat.lt_succ_of_le (length_memberTokens names _))]
    simp only [word, if_true, nextIs, Bool.false_eq_true, if_false, List.length_cons, importNames,
      name_word hk, bind, Except.bind, asName, nextWord]
  · simp
  · simp

theorem simple_importFrom_keyword (hn : Text.isIdentifier n = true)
    (hnames : ∀ m ∈ names, Text.isIdentifier m = true) {k : String}
    (hkey : ∃ m ∈ k :: n :: names, Text.isKeyword m = true) :
    simple (.name "from" :: .name n ::
        (memberTokens names ++ .name "import" :: .name k :: .newline :: more)) =
      .error .malformed := by
  rw [simple, importFrom, dots]
  · simp only [bind, Except.bind, Nat.lt_irrefl, decide_false, Bool.false_and, Bool.false_eq_true,
      if_false]
    by_cases hmodule : ∃ m ∈ n :: names, Text.isKeyword m = true
    · rw [dotted_keyword hmodule]
    · obtain ⟨m, hm, hk⟩ := hkey
      obtain rfl : m = k := (List.mem_cons.mp hm).resolve_right fun hm => hmodule ⟨m, hm, hk⟩
      simp only [not_exists, not_and, Bool.not_eq_true, List.forall_mem_cons] at hmodule
      have hend : nextIs "." (.name "import" :: .name m :: .newline :: more) = false := rfl
      rw [List.length_cons, dotted_words ⟨hn, hmodule.1⟩
        (fun d hd => ⟨hnames d hd, hmodule.2 d hd⟩) hend
        (Nat.lt_succ_of_le (length_memberTokens names _))]
      simp only [word, if_true, nextIs, Bool.false_eq_true, if_false, List.length_cons, importNames,
        name, hk, bind, Except.bind]
      rfl
  · simp
  · simp

/-- A source that starts with a line of simple statements. -/
theorem parse_of_line {n : String} {more : List Token}
    (hstart : n ≠ "if" ∧ n ≠ "def" ∧ n ≠ "class") :
    parse (.name n :: more) = (do
      let (first, rest) ← line (more.length + 1) (.name n :: more)
      let others ← module more.length rest
      .ok (first ++ others)) := by
  obtain ⟨hif, hdef, hclass⟩ := hstart
  rw [parse, List.length_cons, module, statement]
  · rfl
  · exact fun _ => name_cons_ne hif
  · exact fun _ => name_cons_ne hdef
  · exact fun _ => name_cons_ne hclass
  · simp
  · simp

/-- A source of one simple statement. -/
theorem parse_line {ts : List Token} {s : Stmt} (hsimple : simple ts = .ok (s, [.newline, .done]))
    (hstart : ∃ n more, ts = .name n :: more ∧ n ≠ "if" ∧ n ≠ "def" ∧ n ≠ "class") :
    parse ts = .ok [s] := by
  obtain ⟨n, more, rfl, hstart⟩ := hstart
  have hend : ∀ limit, module limit [.done] = .ok [] := by
    intro limit
    cases limit with
    | zero => rfl
    | succ limit => rfl
  rw [parse_of_line hstart, line, hsimple]
  simp only [bind, Except.bind, hend]
  rfl

/-- A source whose first statement cannot be read. -/
theorem parse_line_error {ts : List Token} {f : SourceFault} (hsimple : simple ts = .error f)
    (hstart : ∃ n more, ts = .name n :: more ∧ n ≠ "if" ∧ n ≠ "def" ∧ n ≠ "class") :
    parse ts = .error f := by
  obtain ⟨n, more, rfl, hstart⟩ := hstart
  rw [parse_of_line hstart, line, hsimple]
  rfl

/-- A line that is a dotted name is read as an expression. -/
theorem parse_dotted (digits : Nat) (hn : IsWord n) (hnames : ∀ m ∈ names, IsWord m) :
    parse (Token.ofSource digits (Text.join "." (n :: names))) =
      .ok [.expr (.path ((n :: names).map Text.composed))] := by
  rw [ofSource_dotted digits hn.1 fun m hm => (hnames m hm).1]
  exact parse_line (simple_dotted hn hnames) ⟨n, _, rfl, ne_of_isWord hn (by decide),
    ne_of_isWord hn (by decide), ne_of_isWord hn (by decide)⟩

/-- A line that imports a dotted name is read as an import. -/
theorem parse_import (digits : Nat) (hn : IsWord n) (hnames : ∀ m ∈ names, IsWord m) :
    parse (Token.ofSource digits ("import " ++ Text.join "." (n :: names))) =
      .ok [.imports [⟨(n :: names).map Text.composed, none⟩]] := by
  rw [ofSource_import digits hn.1 fun m hm => (hnames m hm).1]
  exact parse_line (simple_import hn hnames) ⟨_, _, rfl, by decide, by decide, by decide⟩

/-- A line that imports a name from a module is read as such an import. -/
theorem parse_importFrom (digits : Nat) (hn : IsWord n) (hnames : ∀ m ∈ names, IsWord m)
    {k : String} (hk : IsWord k) :
    parse (Token.ofSource digits ("from " ++ Text.join "." (n :: names) ++ " import " ++ k)) =
      .ok [.importsFrom 0 ((n :: names).map Text.composed) [(Text.composed k, none)]] := by
  rw [ofSource_importFrom digits hn.1 (fun m hm => (hnames m hm).1) hk.1]
  exact parse_line (simple_importFrom hn hnames hk) ⟨_, _, rfl, by decide, by decide, by decide⟩

/-- With a reserved word in it such a line cannot be read. -/
theorem parse_importFrom_keyword (digits : Nat) (hn : Text.isIdentifier n = true)
    (hnames : ∀ m ∈ names, Text.isIdentifier m = true) {k : String}
    (hk : Text.isIdentifier k = true) (hkey : ∃ m ∈ k :: n :: names, Text.isKeyword m = true) :
    parse (Token.ofSource digits ("from " ++ Text.join "." (n :: names) ++ " import " ++ k)) =
      .error .malformed := by
  rw [ofSource_importFrom digits hn hnames hk]
  exact parse_line_error (simple_importFrom_keyword hn hnames hkey)
    ⟨_, _, rfl, by decide, by decide, by decide⟩

end Parser

end Script
end FragmentWeaver
