import FragmentWeaver.Source.Block
import Mathlib.Data.List.TakeWhile

/-!
# The rows of a block

A fragment is cut into rows at line feeds when it is moved left, and into lines when it gets the
margin of its new place; and there are more line ends than line feeds. The margin is put in front of
each row on its own. A row that is one line is moved as a whole, and the block can be moved back. A
row with a line end in the middle gets the margin at that place too, even where it is part of a
literal.
-/

namespace FragmentWeaver

namespace Text

/-- A row with an opening in front, unless it is blank. -/
def placeRow (opening row : List Char) : List Char :=
  if allBlank row then row else opening ++ row

/-- A row without what was put in front of it. -/
def unplaceRow (opening row : List Char) : List Char :=
  if allBlank row then row else row.drop opening.length

/-- Behind every line end inside a row there is white space only. -/
def IsOneLine (row : List Char) : Prop :=
  ∀ before e after, row = before ++ e :: after → isLineEnd e = true → allBlank after = true

/-- No line ends in the text. -/
def IsPlain (cs : List Char) : Prop :=
  ∀ c ∈ cs, isLineEnd c = false

instance (cs : List Char) : Decidable (IsPlain cs) :=
  decidable_of_iff (cs.all fun c => !isLineEnd c) (by simp [IsPlain])

variable {opening row as bs cs : List Char} {c e : Char}

theorem allBlank_append : allBlank (as ++ bs) = (allBlank as && allBlank bs) :=
  List.all_append

theorem allBlank_cons : allBlank (c :: cs) = (isBlank c && allBlank cs) :=
  List.all_cons

/-- Line ends are white space. -/
theorem isBlank_of_isLineEnd (h : isLineEnd c = true) : isBlank c = true := by
  simp only [isLineEnd, isBlank, Bool.or_eq_true, Bool.and_eq_true, decide_eq_true_eq,
    beq_iff_eq] at h ⊢
  omega

theorem IsPlain.feed_notMem (h : IsPlain cs) : '\n' ∉ cs :=
  fun hmem => absurd (h _ hmem) (by decide)

/-- Spaces end no line. -/
theorem isPlain_of_spaces (h : ∀ c ∈ cs, c = ' ') : IsPlain cs := by
  intro c hc
  rw [h c hc]
  decide

theorem allBlank_of_spaces (h : ∀ c ∈ cs, c = ' ') : allBlank cs = true := by
  refine List.all_eq_true.mpr fun c hc => ?_
  rw [h c hc]
  decide

theorem placeRow_of_blank (h : allBlank row = true) : placeRow opening row = row :=
  if_pos h

theorem placeRow_of_written (h : allBlank row = false) : placeRow opening row = opening ++ row :=
  if_neg (by rw [h]; decide)

theorem placeRow_append_blank (h : allBlank bs = true) :
    placeRow opening (as ++ bs) = placeRow opening as ++ bs := by
  rw [placeRow, placeRow, allBlank_append, h, Bool.and_true]
  split
  · rfl
  · rw [List.append_assoc]

section Lines

/-- Every text is made of lines: one without a line end, or one with its line end and more behind
    it. -/
theorem linesInduction {motive : List Char → Prop} (plain : ∀ as, IsPlain as → motive as)
    (ended : ∀ as e bs, IsPlain as → isLineEnd e = true → motive bs → motive (as ++ e :: bs))
    (cs : List Char) : motive cs := by
  suffices h : ∀ as, IsPlain as → motive (as ++ cs) from h [] (by simp [IsPlain])
  induction cs with
  | nil => simpa using plain
  | cons c cs ih =>
      intro as has
      cases hc : isLineEnd c with
      | true => exact ended as c cs has hc (ih [] (by simp [IsPlain]))
      | false =>
          rw [List.append_cons]
          refine ih (as ++ [c]) fun d hd => ?_
          rcases List.mem_append.mp hd with hd | hd
          · exact has d hd
          · rw [List.mem_singleton.mp hd, hc]

theorem linesWithEnds_cons_plain (hc : isLineEnd c = false) :
    linesWithEnds (c :: cs) =
      match linesWithEnds cs with
      | [] => [[c]]
      | line :: lines => (c :: line) :: lines := by
  rw [linesWithEnds]
  · exact if_neg (by rw [hc]; decide)
  · rintro rest rfl -
    exact absurd hc (by decide)

/-- A text without a line end is one line, if there is anything in it. -/
theorem linesWithEnds_plain (h : IsPlain as) (hne : as ≠ []) : linesWithEnds as = [as] := by
  induction as with
  | nil => exact absurd rfl hne
  | cons c as ih =>
      rw [linesWithEnds_cons_plain (h c List.mem_cons_self)]
      cases as with
      | nil => rfl
      | cons d as => rw [ih (fun x hx => h x (List.mem_cons_of_mem _ hx)) (List.cons_ne_nil _ _)]

/-- What stands before the first line belongs to it. -/
theorem linesWithEnds_append {line : List Char} {lines : List (List Char)} (h : IsPlain as)
    (hcs : linesWithEnds cs = line :: lines) : linesWithEnds (as ++ cs) = (as ++ line) :: lines := by
  induction as with
  | nil => exact hcs
  | cons c as ih =>
      rw [List.cons_append, linesWithEnds_cons_plain (h c List.mem_cons_self),
        ih fun x hx => h x (List.mem_cons_of_mem _ hx)]
      rfl

theorem indent_plain (h : IsPlain as) : indent opening as = placeRow opening as := by
  rcases eq_or_ne as [] with rfl | hne
  · rfl
  · rw [indent, linesWithEnds_plain h hne, List.flatMap_singleton]
    rfl

/-- A line with the blank mark that ends it gets the opening before what holds the line. -/
theorem indent_line {mark : List Char} (h : IsPlain as) (hmark : allBlank mark = true)
    (hlines : linesWithEnds (mark ++ bs) = mark :: linesWithEnds bs) :
    indent opening (as ++ (mark ++ bs)) = placeRow opening as ++ (mark ++ indent opening bs) := by
  have hfirst : indent opening (as ++ (mark ++ bs)) =
      placeRow opening (as ++ mark) ++ indent opening bs := by
    rw [indent, linesWithEnds_append h hlines, List.flatMap_cons]
    rfl
  rw [hfirst, placeRow_append_blank hmark, List.append_assoc]

/-- The first line gets the opening, and so do the lines behind its end. -/
theorem indent_ended (h : IsPlain as) (he : isLineEnd e = true) :
    indent opening (as ++ e :: bs) = placeRow opening as ++ e :: indent opening bs := by
  by_cases hcrlf : e = '\r' ∧ ∃ rest, bs = '\n' :: rest
  · -- A carriage return and a line feed are one end; alone the line feed would be a blank line.
    obtain ⟨rfl, rest, rfl⟩ := hcrlf
    have hfeed : indent opening ('\n' :: rest) = '\n' :: indent opening rest := by
      simp [indent, linesWithEnds, isLineEnd, allBlank, isBlank]
    have hends : linesWithEnds (['\r', '\n'] ++ rest) = ['\r', '\n'] :: linesWithEnds rest := by
      simp [linesWithEnds]
    rw [hfeed]
    exact indent_line h (by decide) hends
  · have hblank : allBlank [e] = true := by
      rw [allBlank_cons, isBlank_of_isLineEnd he]
      rfl
    have hends : linesWithEnds ([e] ++ bs) = [e] :: linesWithEnds bs := by
      rw [List.singleton_append, linesWithEnds]
      · rw [if_pos he]
      · rintro rest rfl heq
        exact hcrlf ⟨rfl, rest, heq⟩
    exact indent_line h hblank hends

/-- Lines get their openings each on its own. -/
theorem indent_append (he : isLineEnd e = true) :
    indent opening (as ++ e :: bs) = indent opening as ++ e :: indent opening bs := by
  induction as using linesInduction with
  | plain as has => rw [indent_ended has he, indent_plain has]
  | ended as d cs has hd ih =>
      rw [List.append_assoc, List.cons_append, indent_ended has hd, indent_ended has hd, ih,
        List.append_assoc, List.cons_append]

theorem indent_glue (rows : List (List Char)) :
    indent opening (glue ['\n'] rows) = glue ['\n'] (rows.map (indent opening)) := by
  induction rows with
  | nil => rfl
  | cons row rows ih =>
      cases rows with
      | nil => rfl
      | cons next rows =>
          rw [glue_cons (List.cons_ne_nil next rows), indent_append (by decide), ih]
          exact (glue_cons (by simp)).symm

theorem mem_placeRow (hc : c ∈ placeRow opening row) : c ∈ opening ∨ c ∈ row := by
  unfold placeRow at hc
  split at hc
  · exact .inr hc
  · exact List.mem_append.mp hc

theorem mem_indent (hc : c ∈ indent opening cs) : c ∈ opening ∨ c ∈ cs := by
  induction cs using linesInduction with
  | plain as has => exact mem_placeRow (indent_plain has ▸ hc)
  | ended as e bs has he ih =>
      rw [indent_ended has he, List.mem_append, List.mem_cons] at hc
      rw [List.mem_append, List.mem_cons]
      rcases hc with hc | rfl | hc
      · exact (mem_placeRow hc).imp_right .inl
      · exact .inr (.inr (.inl rfl))
      · exact (ih hc).imp_right fun h => .inr (.inr h)

/-- A text gets its openings row by row, and keeps its rows. -/
theorem cutAt_indent (hopening : '\n' ∉ opening) (cs : List Char) :
    cutAt '\n' (indent opening cs) = (cutAt '\n' cs).map (indent opening) := by
  have hrows : glue ['\n'] ((cutAt '\n' cs).map (indent opening)) = indent opening cs := by
    rw [← indent_glue, glue_cutAt]
  rw [← hrows]
  refine cutAt_glue (by simp [cutAt_ne_nil]) fun row hrow => ?_
  obtain ⟨piece, hpiece, rfl⟩ := List.mem_map.mp hrow
  exact fun hmem => (mem_indent hmem).elim hopening (sep_notMem_of_mem_cutAt hpiece)

end Lines

section Placing

theorem length_placeRow (opening row : List Char) : row.length ≤ (placeRow opening row).length := by
  unfold placeRow
  split
  · exact Nat.le_refl _
  · rw [List.length_append]
    exact Nat.le_add_left _ _

theorem length_indent (opening cs : List Char) : cs.length ≤ (indent opening cs).length := by
  induction cs using linesInduction with
  | plain as has =>
      rw [indent_plain has]
      exact length_placeRow opening as
  | ended as e bs has he ih =>
      have hfirst := length_placeRow opening as
      rw [indent_ended has he]
      simp only [List.length_append, List.length_cons]
      omega

/-- Only a blank text keeps its length. -/
theorem indent_eq_self_iff (hopening : opening ≠ []) :
    indent opening cs = cs ↔ allBlank cs = true := by
  have hplace (row : List Char) : placeRow opening row = row ↔ allBlank row = true := by
    refine ⟨fun h => ?_, placeRow_of_blank⟩
    by_contra hrow
    rw [placeRow_of_written (Bool.not_eq_true _ ▸ hrow)] at h
    exact hopening (List.self_eq_append_left.mp h.symm)
  induction cs using linesInduction with
  | plain as has => rw [indent_plain has, hplace]
  | ended as e bs has he ih =>
      have hfirst := length_placeRow opening as
      have hrest := length_indent opening bs
      have ih : indent opening bs = bs ↔ allBlank bs = true := ih
      rw [indent_ended has he, allBlank_append, allBlank_cons, isBlank_of_isLineEnd he,
        Bool.true_and, Bool.and_eq_true, ← hplace, ← ih]
      constructor
      · intro h
        have hlength := congrArg List.length h
        simp only [List.length_append, List.length_cons] at hlength
        obtain ⟨has, hbs⟩ := List.append_inj h (by omega)
        exact ⟨has, (List.cons.inj hbs).2⟩
      · rintro ⟨has, hbs⟩
        rw [has, hbs]

theorem isOneLine_of_plain (h : IsPlain as) : IsOneLine as := by
  rintro before e after rfl he
  exact absurd (h e (by simp)) (by rw [he]; decide)

/-- What counts is what stands behind the first line end. -/
theorem isOneLine_ended_iff (h : IsPlain as) (he : isLineEnd e = true) :
    IsOneLine (as ++ e :: bs) ↔ allBlank bs = true := by
  refine ⟨fun hone => hone as e bs rfl he, fun hbs before d after hsplit hd => ?_⟩
  have hbs' : ∀ c ∈ bs, isBlank c = true := List.all_eq_true.mp hbs
  rcases List.append_eq_append_iff.mp hsplit with ⟨more, rfl, hmore⟩ | ⟨more, rfl, hmore⟩
  · refine List.all_eq_true.mpr fun c hc => hbs' c ?_
    cases more with
    | nil =>
        obtain ⟨-, rfl⟩ := List.cons.inj hmore
        exact hc
    | cons x more =>
        obtain ⟨-, rfl⟩ := List.cons.inj hmore
        simp [hc]
  · cases more with
    | nil =>
        obtain ⟨-, rfl⟩ := List.cons.inj hmore
        exact hbs
    | cons x more =>
        obtain ⟨rfl, -⟩ := List.cons.inj hmore
        exact absurd (h d (by simp)) (by rw [hd]; decide)

/-- A row is moved as a whole exactly if it is one line. -/
theorem indent_eq_placeRow_iff (hopening : opening ≠ []) (hplain : IsPlain opening) :
    indent opening row = placeRow opening row ↔ IsOneLine row := by
  induction row using linesInduction with
  | plain as has => exact iff_of_true (indent_plain has) (isOneLine_of_plain has)
  | ended as e bs has he _ =>
      have hblank : allBlank (as ++ e :: bs) = (allBlank as && allBlank bs) := by
        rw [allBlank_append, allBlank_cons, isBlank_of_isLineEnd he, Bool.true_and]
      rw [indent_ended has he, isOneLine_ended_iff has he]
      constructor
      · intro h
        by_contra hbs
        rw [Bool.not_eq_true] at hbs
        have hwritten : placeRow opening (as ++ e :: bs) = opening ++ (as ++ e :: bs) :=
          placeRow_of_written (by rw [hblank, hbs, Bool.and_false])
        rw [hwritten, ← List.append_assoc] at h
        cases has' : allBlank as with
        | false =>
            -- Both begin alike, so the lines behind would have got nothing.
            rw [placeRow_of_written has'] at h
            have hrest := (List.cons.inj (List.append_cancel_left h)).2
            rw [indent_eq_self_iff hopening, hbs] at hrest
            cases hrest
        | true =>
            -- The first line end would have to stand at two places.
            rw [placeRow_of_blank has'] at h
            have hfirst : ∀ (ds : List Char) (xs : List Char), IsPlain ds →
                (ds ++ e :: xs).takeWhile (fun c => !isLineEnd c) = ds := by
              intro ds xs hds
              rw [List.takeWhile_append_of_pos (by simpa [IsPlain] using hds), List.takeWhile_cons, he]
              simp
            have hboth := congrArg (List.takeWhile fun c => !isLineEnd c) h
            rw [hfirst _ _ has, hfirst] at hboth
            · exact hopening (List.self_eq_append_left.mp hboth)
            · intro c hc
              exact (List.mem_append.mp hc).elim (hplain c) (has c)
      · intro hbs
        rw [(indent_eq_self_iff hopening).mpr hbs, ← placeRow_append_blank]
        rw [allBlank_cons, isBlank_of_isLineEnd he, hbs]
        rfl

theorem unplaceRow_placeRow (hblank : allBlank opening = true) :
    unplaceRow opening (placeRow opening row) = row := by
  unfold placeRow
  split
  · next hrow => exact if_pos hrow
  · next hrow =>
      rw [unplaceRow, if_neg, List.drop_left]
      rwa [allBlank_append, hblank, Bool.true_and]

end Placing

end Text

namespace Source

open Text

theorem indentBlock_of_blank {fragment margin : String}
    (h : allBlank (blockBody fragment.toList) = true) :
    indentBlock (some fragment) margin = margin ++ emptyBlock := by
  simp only [indentBlock, Option.getD_some, h, if_true]

theorem indentBlock_of_written {fragment margin : String}
    (h : allBlank (blockBody fragment.toList) = false) :
    (indentBlock (some fragment) margin).toList =
      indent margin.toList (blockBody fragment.toList) := by
  simp only [indentBlock, Option.getD_some, h, Bool.false_eq_true, if_false, String.toList_ofList]

/-- A fragment with nothing in it becomes the empty block. Any other keeps its rows, and each row is
    moved on its own. -/
theorem indentBlock_moves_rows (fragment : String) {margin : String} (hmargin : margin ≠ "")
    (hspaces : ∀ c ∈ margin.toList, c = ' ') :
    let body := blockBody fragment.toList
    let rows := cutAt '\n' body
    let block := cutAt '\n' (indentBlock (some fragment) margin).toList
    (allBlank body = true → indentBlock (some fragment) margin = margin ++ "pass") ∧
    (allBlank body = false →
      block = rows.map (indent margin.toList) ∧
      (∀ row ∈ rows,
        indent margin.toList row = placeRow margin.toList row ↔ IsOneLine row) ∧
      (block = rows.map (placeRow margin.toList) ↔ ∀ row ∈ rows, IsOneLine row) ∧
      ((∀ row ∈ rows, IsOneLine row) →
        glue ['\n'] (block.map (unplaceRow margin.toList)) = body)) := by
  intro body rows block
  have hplain := isPlain_of_spaces hspaces
  have hne : margin.toList ≠ [] := fun h => hmargin (String.toList_inj.mp h)
  refine ⟨indentBlock_of_blank, fun hbody => ?_⟩
  have hblock : block = rows.map (indent margin.toList) := by
    change cutAt '\n' (indentBlock (some fragment) margin).toList = _
    rw [indentBlock_of_written hbody, cutAt_indent hplain.feed_notMem]
  have hrows : block = rows.map (placeRow margin.toList) ↔ ∀ row ∈ rows, IsOneLine row := by
    rw [hblock, List.map_inj_left]
    exact forall₂_congr fun row _ => indent_eq_placeRow_iff hne hplain
  refine ⟨hblock, fun row _ => indent_eq_placeRow_iff hne hplain, hrows, fun hone => ?_⟩
  rw [hrows.mpr hone, List.map_map]
  have hback : unplaceRow margin.toList ∘ placeRow margin.toList = id := by
    funext row
    exact unplaceRow_placeRow (allBlank_of_spaces hspaces)
  rw [hback, List.map_id]
  exact glue_cutAt '\n' body

/-- A loop is moved row by row. A form feed in a literal is taken for the end of a line. -/
theorem indentBlock_moves_rows_loop :
    cutAt '\n' (indentBlock (some "\tfor n in ns:\n\n\t  total += n\n") "    ").toList =
        (cutAt '\n' (blockBody "\tfor n in ns:\n\n\t  total += n\n".toList)).map
          (placeRow "    ".toList) ∧
      cutAt '\n' (indentBlock (some "return 'a\x0cb'") "    ").toList ≠
        (cutAt '\n' (blockBody "return 'a\x0cb'".toList)).map (placeRow "    ".toList) := by
  have hmargin : "    " ≠ "" := by decide
  have hspaces : ∀ c ∈ "    ".toList, c = ' ' := fun c hc => by simpa using hc
  refine ⟨?_, fun hrows => ?_⟩
  · have hplain : ((cutAt '\n' (blockBody "\tfor n in ns:\n\n\t  total += n\n".toList)).all
        fun row => IsPlain row) = true := by decide +kernel
    have hloop := indentBlock_moves_rows "\tfor n in ns:\n\n\t  total += n\n" hmargin hspaces
    refine (hloop.2 (by decide +kernel)).2.2.1.mpr fun row hrow => isOneLine_of_plain ?_
    exact of_decide_eq_true (List.all_eq_true.mp hplain row hrow)
  · have hliteral := indentBlock_moves_rows "return 'a\x0cb'" hmargin hspaces
    have hone := (hliteral.2 (by decide +kernel)).2.2.1.mp hrows "return 'a\x0cb'".toList
      (by decide +kernel)
    exact absurd (hone "return 'a".toList '\x0c' "b'".toList (by decide) (by decide)) (by decide)

end Source
end FragmentWeaver
