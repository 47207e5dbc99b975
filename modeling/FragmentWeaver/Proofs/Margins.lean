import FragmentWeaver.Proofs.Rows
import Mathlib.Data.List.DropRight

/-!
# The margin of a fragment

The margin of a text stands in front of all its rows; so a margin put in front of a whole text is part
of the margin found there, and goes when the text is moved left. Where line feeds, spaces and tabs are
the only white space, this holds of every text: the block made of a fragment is the same however the
fragment was indented, and a block made of a block is that block.
-/

namespace FragmentWeaver

namespace Text

/-- The only white space in a text are line feeds, spaces and tabs. -/
def IsSpaced (cs : List Char) : Prop :=
  ∀ c ∈ cs, isBlank c = true → c = '\n' ∨ isMargin c = true

/-- Nothing but spaces and tabs. -/
def IsMargin (cs : List Char) : Prop :=
  ∀ c ∈ cs, isMargin c = true

instance (cs : List Char) : Decidable (IsSpaced cs) :=
  decidable_of_iff (cs.all fun c => !isBlank c || c == '\n' || isMargin c)
    (by simp [IsSpaced, imp_iff_not_or, or_assoc])

instance (cs : List Char) : Decidable (IsMargin cs) :=
  decidable_of_iff (cs.all isMargin) List.all_eq_true

/-- A row with a margin in front, unless it is empty. -/
def openRow (m row : List Char) : List Char :=
  if row = [] then [] else m ++ row

/-- Rows moved left together as far as they go. -/
def shiftLeft (rows : List (List Char)) : List (List Char) :=
  rows.map (dropMargin (margin rows))

/-- A row that holds something other than a margin, or nothing at all. -/
def IsClear (row : List Char) : Prop :=
  row ≠ [] → ∃ c ∈ row, isMargin c = false

variable {m q row cs : List Char} {rows : List (List Char)} {c : Char}

section Characters

theorem isMargin_cases (h : isMargin c = true) : c = ' ' ∨ c = '\t' := by
  simpa [isMargin] using h

theorem isBlank_of_isMargin (h : isMargin c = true) : isBlank c = true := by
  rcases isMargin_cases h with rfl | rfl
  · decide
  · decide

theorem isPlain_of_isMargin (h : IsMargin m) : IsPlain m := by
  intro c hc
  rcases isMargin_cases (h c hc) with rfl | rfl
  · decide
  · decide

/-- A row of a spaced text is one line. -/
theorem IsSpaced.isPlain (h : IsSpaced row) (hrow : '\n' ∉ row) : IsPlain row := by
  intro c hc
  by_contra hend
  rw [Bool.not_eq_false] at hend
  rcases h c hc (isBlank_of_isLineEnd hend) with rfl | hmargin
  · exact hrow hc
  · have := isPlain_of_isMargin (m := [c]) (by simpa [IsMargin] using hmargin) c List.mem_cons_self
    rw [hend] at this
    cases this

/-- A row of a spaced text is blank if it is all margin. -/
theorem IsSpaced.allBlank_eq (h : IsSpaced row) (hrow : '\n' ∉ row) :
    allBlank row = row.all isMargin := by
  rw [Bool.eq_iff_iff, allBlank, List.all_eq_true, List.all_eq_true]
  refine forall₂_congr fun c hc => ⟨fun hblank => ?_, isBlank_of_isMargin⟩
  exact (h c hc hblank).resolve_left fun heq => hrow (heq ▸ hc)

theorem IsSpaced.of_mem_cutAt (h : IsSpaced cs) (hrow : row ∈ cutAt '\n' cs) : IsSpaced row :=
  fun c hc => h c (mem_of_mem_cutAt hrow hc)

end Characters

section Rows

theorem clearRow_eq (h : IsClear row) : clearRow row = row := by
  unfold clearRow
  split
  · next hall =>
      by_contra hne
      obtain ⟨c, hc, hmargin⟩ := h (Ne.symm hne)
      rw [List.all_eq_true.mp hall c hc] at hmargin
      cases hmargin
  · rfl

theorem mem_clearRow (hc : c ∈ clearRow row) : c ∈ row := by
  unfold clearRow at hc
  split at hc
  · cases hc
  · exact hc

theorem mem_dropMargin (hc : c ∈ dropMargin m row) : c ∈ row := by
  unfold dropMargin at hc
  split at hc
  · exact List.mem_of_mem_drop hc
  · exact hc

/-- A row of a spaced text that was moved is cleared, or has the opening. -/
theorem clearRow_indent (hrow : IsSpaced row) (hnone : '\n' ∉ row) (hq : IsMargin q) :
    clearRow (indent q row) = openRow q (clearRow row) := by
  rw [indent_plain (hrow.isPlain hnone), placeRow, hrow.allBlank_eq hnone]
  by_cases hall : row.all isMargin = true
  · rw [if_pos hall, clearRow, if_pos hall]
    rfl
  · have hne : row ≠ [] := by
      rintro rfl
      exact hall rfl
    have hopened : (q ++ row).all isMargin = row.all isMargin := by
      rw [List.all_append, List.all_eq_true.mpr hq, Bool.true_and]
    rw [if_neg hall, clearRow, hopened, if_neg hall, clearRow, if_neg hall, openRow, if_neg hne]

theorem isClear_clearRow (row : List Char) : IsClear (clearRow row) := by
  unfold clearRow
  split
  · exact fun h => absurd rfl h
  · next hsome =>
      intro _
      simpa [IsClear] using hsome

theorem commonOpening_append (m as bs : List Char) :
    commonOpening (m ++ as) (m ++ bs) = m ++ commonOpening as bs := by
  induction m with
  | nil => rfl
  | cons c m ih => simp [commonOpening, ih]

theorem commonOpening_prefix_left (as bs : List Char) : commonOpening as bs <+: as := by
  fun_induction commonOpening as bs with
  | case1 a as bs ih => exact List.cons_prefix_cons.mpr ⟨rfl, ih⟩
  | case2 => exact List.nil_prefix
  | case3 => exact List.nil_prefix

theorem commonOpening_prefix_right (as bs : List Char) : commonOpening as bs <+: bs := by
  fun_induction commonOpening as bs with
  | case1 a as bs ih => exact List.cons_prefix_cons.mpr ⟨rfl, ih⟩
  | case2 => exact List.nil_prefix
  | case3 => exact List.nil_prefix

theorem foldl_commonOpening_append (m first : List Char) (others : List (List Char)) :
    (others.map (m ++ ·)).foldl commonOpening (m ++ first) =
      m ++ others.foldl commonOpening first := by
  induction others generalizing first with
  | nil => rfl
  | cons other others ih => rw [List.map_cons, List.foldl_cons, commonOpening_append, ih,
      List.foldl_cons]

theorem foldl_commonOpening_opens (first : List Char) (others : List (List Char)) :
    ∀ row ∈ first :: others, others.foldl commonOpening first <+: row := by
  induction others generalizing first with
  | nil => simp
  | cons other others ih =>
      intro row hrow
      rw [List.foldl_cons]
      have hfirst := ih (commonOpening first other) _ List.mem_cons_self
      rcases List.mem_cons.mp hrow with rfl | hrow
      · exact hfirst.trans (commonOpening_prefix_left _ _)
      · rcases List.mem_cons.mp hrow with rfl | hrow
        · exact hfirst.trans (commonOpening_prefix_right _ _)
        · exact ih _ row (List.mem_cons_of_mem _ hrow)

/-- The margin stands at the start of every row with anything in it. -/
theorem margin_opens (hrow : row ∈ rows) (hne : row ≠ []) :
    margin rows <+: row.takeWhile isMargin := by
  have hmem : row.takeWhile isMargin ∈
      (rows.filter fun row => !row.isEmpty).map (List.takeWhile isMargin) :=
    List.mem_map_of_mem (List.mem_filter.mpr ⟨hrow, by simpa using hne⟩)
  unfold margin
  split
  · exact List.nil_prefix
  · next first others hrows =>
      rw [hrows] at hmem
      exact foldl_commonOpening_opens first others _ hmem

theorem takeWhile_isMargin_append (hm : IsMargin m) (row : List Char) :
    (m ++ row).takeWhile isMargin = m ++ row.takeWhile isMargin :=
  List.takeWhile_append_of_pos hm

theorem margin_of_empty (h : ∀ row ∈ rows, row = []) : margin rows = [] := by
  have hnone : (rows.filter fun row => !row.isEmpty) = [] := by
    simpa [List.filter_eq_nil_iff] using h
  rw [margin, hnone]
  rfl

/-- A margin in front of all rows is part of their margin. -/
theorem margin_openRow (hm : IsMargin m) (hsome : ∃ row ∈ rows, row ≠ []) :
    margin (rows.map (openRow m)) = m ++ margin rows := by
  have hopened : ((rows.map (openRow m)).filter fun row => !row.isEmpty) =
      (rows.filter fun row => !row.isEmpty).map (m ++ ·) := by
    have hempty : ((fun row => !row.isEmpty) ∘ openRow m) = fun row : List Char => !row.isEmpty := by
      funext row
      cases row with
      | nil => rfl
      | cons c row => simp [openRow]
    rw [List.filter_map, hempty]
    refine List.map_congr_left fun row hrow => if_neg fun hnil => ?_
    subst hnil
    exact absurd (List.mem_filter.mp hrow).2 (by decide)
  obtain ⟨first, others, hrows⟩ :
      ∃ first others, (rows.filter fun row => !row.isEmpty) = first :: others := by
    obtain ⟨row, hrow, hne⟩ := hsome
    refine List.exists_cons_of_ne_nil (List.ne_nil_of_mem (a := row) ?_)
    exact List.mem_filter.mpr ⟨hrow, by simpa using hne⟩
  have hstarts : ((first :: others).map (m ++ ·)).map (List.takeWhile isMargin) =
      ((first :: others).map (List.takeWhile isMargin)).map (m ++ ·) := by
    rw [List.map_map, List.map_map]
    exact List.map_congr_left fun row _ => takeWhile_isMargin_append hm row
  rw [margin, hopened, hrows, hstarts, margin, hrows]
  exact foldl_commonOpening_append m _ _

theorem dropMargin_nil (m : List Char) : dropMargin m [] = [] := by
  unfold dropMargin
  split
  · exact List.drop_nil
  · rfl

theorem dropMargin_append (m row : List Char) : dropMargin m (m ++ row) = row := by
  rw [dropMargin, if_pos (List.isPrefixOf_iff_prefix.mpr (List.prefix_append m row)),
    List.drop_left]

/-- A row with anything in it is its margin with the moved row behind. -/
theorem append_dropMargin (hrow : row ∈ rows) (hne : row ≠ []) :
    margin rows ++ dropMargin (margin rows) row = row := by
  obtain ⟨rest, hrest⟩ := (margin_opens hrow hne).trans (List.takeWhile_prefix isMargin)
  conv_lhs => rw [← hrest, dropMargin_append]
  exact hrest

/-- Rows are moved to the same place wherever they stood before. -/
theorem shiftLeft_openRow (hm : IsMargin m) (rows : List (List Char)) :
    shiftLeft (rows.map (openRow m)) = shiftLeft rows := by
  by_cases hsome : ∃ row ∈ rows, row ≠ []
  · rw [shiftLeft, shiftLeft, margin_openRow hm hsome, List.map_map]
    refine List.map_congr_left fun row hrow => ?_
    cases row with
    | nil => exact (dropMargin_nil _).trans (dropMargin_nil _).symm
    | cons c row =>
        have hwhole := append_dropMargin hrow (List.cons_ne_nil c row)
        change dropMargin (m ++ margin rows) (m ++ c :: row) = _
        conv_lhs => rw [← hwhole, ← List.append_assoc, dropMargin_append]
  · have hempty : ∀ row ∈ rows, row = [] := by simpa using hsome
    have hsame : rows.map (openRow m) = rows := by
      conv_rhs => rw [← List.map_id rows]
      refine List.map_congr_left fun row hrow => ?_
      rw [hempty row hrow]
      rfl
    rw [hsame]

theorem isMargin_margin (rows : List (List Char)) : IsMargin (margin rows) := by
  by_cases hsome : ∃ row ∈ rows, row ≠ []
  · obtain ⟨row, hrow, hne⟩ := hsome
    exact fun c hc => List.mem_takeWhile_imp ((margin_opens hrow hne).subset hc)
  · rw [margin_of_empty (by simpa using hsome)]
    exact fun c hc => absurd hc List.not_mem_nil

/-- What is left of a row that holds something holds it still. -/
theorem isClear_dropMargin (hrow : row ∈ rows) (hclear : IsClear row) :
    IsClear (dropMargin (margin rows) row) := by
  intro hleft
  have hne : row ≠ [] := by
    rintro rfl
    exact hleft (dropMargin_nil _)
  obtain ⟨c, hc, hother⟩ := hclear hne
  refine ⟨c, ?_, hother⟩
  rw [← append_dropMargin hrow hne, List.mem_append] at hc
  refine hc.resolve_left fun hmargin => ?_
  rw [isMargin_margin rows c hmargin] at hother
  cases hother

/-- Moved rows have no margin left. -/
theorem margin_shiftLeft (hclear : ∀ row ∈ rows, IsClear row) : margin (shiftLeft rows) = [] := by
  have hback : (shiftLeft rows).map (openRow (margin rows)) = rows := by
    rw [shiftLeft, List.map_map]
    conv_rhs => rw [← List.map_id rows]
    refine List.map_congr_left fun row hrow => ?_
    by_cases hne : row = []
    · rw [hne, Function.comp_apply, dropMargin_nil]
      rfl
    · have hleft : dropMargin (margin rows) row ≠ [] := by
        intro hnil
        obtain ⟨c, hc, hother⟩ := hclear row hrow hne
        rw [← append_dropMargin hrow hne, hnil, List.append_nil] at hc
        rw [isMargin_margin rows c hc] at hother
        cases hother
      rw [Function.comp_apply, openRow, if_neg hleft, append_dropMargin hrow hne]
      rfl
  by_cases hsome : ∃ row ∈ shiftLeft rows, row ≠ []
  · have hmargin := margin_openRow (isMargin_margin rows) hsome
    rw [hback] at hmargin
    exact List.self_eq_append_right.mp hmargin
  · exact margin_of_empty (by simpa using hsome)

end Rows

section Dedent

theorem dedentRows_eq (cs : List Char) :
    dedentRows cs = shiftLeft ((cutAt '\n' cs).map clearRow) :=
  rfl

theorem cutAt_dedent (cs : List Char) : cutAt '\n' (dedent cs) = dedentRows cs := by
  refine cutAt_glue (by simp [dedentRows, cutAt_ne_nil]) fun row hrow => ?_
  obtain ⟨cleared, hcleared, rfl⟩ := List.mem_map.mp hrow
  obtain ⟨piece, hpiece, rfl⟩ := List.mem_map.mp hcleared
  intro hfeed
  exact sep_notMem_of_mem_cutAt hpiece (mem_clearRow (mem_dropMargin hfeed))

/-- Moving a spaced text as a whole does not change how it looks moved left. -/
theorem dedent_indent (hcs : IsSpaced cs) (hq : IsMargin q) :
    dedent (indent q cs) = dedent cs := by
  have hfeed : '\n' ∉ q := (isPlain_of_isMargin hq).feed_notMem
  have hrows : (cutAt '\n' (indent q cs)).map clearRow =
      ((cutAt '\n' cs).map clearRow).map (openRow q) := by
    rw [cutAt_indent hfeed, List.map_map, List.map_map]
    refine List.map_congr_left fun row hrow => ?_
    have hspaced := hcs.of_mem_cutAt hrow
    have hnone := sep_notMem_of_mem_cutAt hrow
    exact clearRow_indent hspaced hnone hq
  rw [dedent, dedent, dedentRows_eq, dedentRows_eq, hrows, shiftLeft_openRow hq]

/-- A text whose rows are clear and have no margin stays. -/
theorem dedent_eq_self (hclear : ∀ row ∈ cutAt '\n' cs, IsClear row)
    (hmargin : margin (cutAt '\n' cs) = []) : dedent cs = cs := by
  have hcleared : (cutAt '\n' cs).map clearRow = cutAt '\n' cs := by
    conv_rhs => rw [← List.map_id (cutAt '\n' cs)]
    exact List.map_congr_left fun row hrow => clearRow_eq (hclear row hrow)
  have hshifted : shiftLeft (cutAt '\n' cs) = cutAt '\n' cs := by
    rw [shiftLeft, hmargin]
    conv_rhs => rw [← List.map_id (cutAt '\n' cs)]
    exact List.map_congr_left fun row _ => dropMargin_append [] row
  rw [dedent, dedentRows_eq, hcleared, hshifted, glue_cutAt]

end Dedent

section Trim

/-- The rows with anything in them. -/
def writtenRows (cs : List Char) : List (List Char) :=
  (cutAt '\n' cs).filter fun row => !row.isEmpty

theorem margin_congr {rows' : List (List Char)}
    (h : (rows.filter fun row => !row.isEmpty) = rows'.filter fun row => !row.isEmpty) :
    margin rows = margin rows' := by
  rw [margin, margin, h]

theorem writtenRows_append (as bs : List Char) :
    writtenRows (as ++ '\n' :: bs) = writtenRows as ++ writtenRows bs := by
  rw [writtenRows, cutAt_append, List.filter_append]
  rfl

theorem writtenRows_dropWhile (cs : List Char) :
    writtenRows (cs.dropWhile (· = '\n')) = writtenRows cs := by
  induction cs with
  | nil => rfl
  | cons c cs ih =>
      by_cases hc : c = '\n'
      · rw [List.dropWhile_cons_of_pos (by simpa using hc), ih, writtenRows, writtenRows, cutAt,
          if_pos hc]
        rfl
      · rw [List.dropWhile_cons_of_neg (by simpa using hc)]

theorem writtenRows_feeds {feeds : List Char} (h : ∀ c ∈ feeds, c = '\n') (as : List Char) :
    writtenRows (as ++ feeds) = writtenRows as := by
  induction feeds generalizing as with
  | nil => rw [List.append_nil]
  | cons c feeds ih =>
      rw [List.append_cons, ih (fun d hd => h d (List.mem_cons_of_mem _ hd)),
        h c List.mem_cons_self, writtenRows_append]
      exact List.append_nil _

/-- Line feeds around a text are no part of a row with anything in it. -/
theorem writtenRows_trim (cs : List Char) :
    writtenRows (trimBy (· = '\n') cs) = writtenRows cs := by
  have hfeeds : ∀ c ∈ ((cs.dropWhile (· = '\n')).reverse.takeWhile (· = '\n')).reverse,
      c = '\n' := by
    intro c hc
    simpa using List.mem_takeWhile_imp (List.mem_reverse.mp hc)
  have hsplit : cs.dropWhile (· = '\n') = trimBy (· = '\n') cs ++
      ((cs.dropWhile (· = '\n')).reverse.takeWhile (· = '\n')).reverse := by
    rw [trimBy, ← List.reverse_append, List.takeWhile_append_dropWhile, List.reverse_reverse]
  rw [← writtenRows_dropWhile cs, hsplit, writtenRows_feeds hfeeds]

theorem trimBy_trimBy (p : Char → Bool) (cs : List Char) : trimBy p (trimBy p cs) = trimBy p cs := by
  have hstart : (trimBy p cs).dropWhile p = trimBy p cs := by
    obtain ⟨dropped, hdropped⟩ := List.rdropWhile_prefix p (cs.dropWhile p)
    have hfirst := List.head?_dropWhile_not p cs
    cases hkept : trimBy p cs with
    | nil => rfl
    | cons c kept =>
        rw [← hdropped, show List.rdropWhile p (cs.dropWhile p) = c :: kept from hkept] at hfirst
        exact List.dropWhile_cons_of_neg (by simpa using hfirst)
  conv_lhs => rw [trimBy, hstart]
  exact List.rdropWhile_idempotent p (cs.dropWhile p)

theorem mem_of_mem_trimBy {p : Char → Bool} (hc : c ∈ trimBy p cs) : c ∈ cs := by
  rw [trimBy, List.mem_reverse] at hc
  have hkept := List.dropWhile_subset p hc
  exact List.dropWhile_subset p (List.mem_reverse.mp hkept)

end Trim

end Text

namespace Source

open Text

variable {cs : List Char}

theorem mem_blockBody {c : Char} (hc : c ∈ blockBody cs) : c = '\n' ∨ c ∈ cs := by
  rcases mem_glue (mem_of_mem_trimBy hc) with rfl | ⟨row, hrow, hc⟩
  · exact .inl rfl
  · obtain ⟨cleared, hcleared, rfl⟩ := List.mem_map.mp hrow
    obtain ⟨piece, hpiece, rfl⟩ := List.mem_map.mp hcleared
    exact .inr (mem_of_mem_cutAt hpiece (mem_clearRow (mem_dropMargin hc)))

/-- What is left of a fragment stays as it is. -/
theorem blockBody_blockBody (cs : List Char) : blockBody (blockBody cs) = blockBody cs := by
  have hrows : ∀ row ∈ dedentRows cs, IsClear row := by
    intro row hrow
    obtain ⟨cleared, hcleared, rfl⟩ := List.mem_map.mp hrow
    obtain ⟨piece, -, rfl⟩ := List.mem_map.mp hcleared
    exact isClear_dropMargin hcleared (isClear_clearRow piece)
  have hwritten : writtenRows (blockBody cs) = writtenRows (dedent cs) := writtenRows_trim _
  have hmargin : margin (cutAt '\n' (blockBody cs)) = [] := by
    have hleft : margin (dedentRows cs) = [] := by
      refine margin_shiftLeft fun row hrow => ?_
      obtain ⟨piece, -, rfl⟩ := List.mem_map.mp hrow
      exact isClear_clearRow piece
    rw [← hleft, ← cutAt_dedent]
    exact margin_congr hwritten
  have hclear : ∀ row ∈ cutAt '\n' (blockBody cs), IsClear row := by
    intro row hrow hne
    have hmem : row ∈ writtenRows (dedent cs) := by
      rw [← hwritten]
      exact List.mem_filter.mpr ⟨hrow, by simpa using hne⟩
    refine hrows row ?_ hne
    rw [← cutAt_dedent]
    exact (List.mem_filter.mp hmem).1
  have hdedent := dedent_eq_self hclear hmargin
  rw [blockBody, hdedent]
  exact trimBy_trimBy _ _

/-- The empty block is a block like any other. -/
theorem indentBlock_emptyBlock (margin : String) :
    (indentBlock (some emptyBlock) margin).toList = indent margin.toList emptyBlock.toList :=
  indentBlock_of_written (by decide +kernel)

theorem indent_emptyBlock (margin : String) :
    indent margin.toList emptyBlock.toList = (margin ++ emptyBlock).toList := by
  rw [indent_plain (by decide +kernel), placeRow_of_written (by decide +kernel),
    String.toList_append]

theorem indentBlock_congr {f g margin : String} (h : blockBody f.toList = blockBody g.toList) :
    indentBlock (some f) margin = indentBlock (some g) margin := by
  simp only [indentBlock, Option.getD_some, h]

/-- How a fragment was indented as a whole does not matter, and a block is a fragment that stays as it
    is. -/
theorem indentBlock_stable {fragment margin opening : String} (hfragment : IsSpaced fragment.toList)
    (hmargin : IsMargin margin.toList) (hopening : IsMargin opening.toList) :
    indentBlock (some (String.ofList (indent opening.toList fragment.toList))) margin =
        indentBlock (some fragment) margin ∧
      indentBlock (some (indentBlock (some fragment) margin)) margin =
        indentBlock (some fragment) margin := by
  have hmoved {q cs : List Char} (hq : IsMargin q) (hcs : IsSpaced cs) :
      blockBody (indent q cs) = blockBody cs := by
    rw [blockBody, dedent_indent hcs hq]
    rfl
  refine ⟨indentBlock_congr (by rw [String.toList_ofList, hmoved hopening hfragment]), ?_⟩
  cases hbody : allBlank (blockBody fragment.toList) with
  | true =>
      have hspaced : IsSpaced emptyBlock.toList := by decide +kernel
      have hempty : blockBody (margin ++ emptyBlock).toList = blockBody emptyBlock.toList := by
        rw [← indent_emptyBlock, hmoved hmargin hspaced]
      rw [indentBlock_of_blank hbody, indentBlock_congr hempty, ← String.toList_inj,
        indentBlock_emptyBlock, indent_emptyBlock]
  | false =>
      have hspaced : IsSpaced (blockBody fragment.toList) := fun c hc hblank =>
        (mem_blockBody hc).elim .inl fun hc => hfragment c hc hblank
      refine indentBlock_congr ?_
      rw [indentBlock_of_written hbody, hmoved hmargin hspaced, blockBody_blockBody]

/-- A fragment whose rows begin with tabs and spaces, and with a row of tabs only. -/
theorem indentBlock_stable_loop :
    let fragment := "\tfor n in ns:\n\t\t\n\t  total += n\n"
    indentBlock (some (String.ofList (indent " \t".toList fragment.toList))) "    " =
        indentBlock (some fragment) "    " ∧
      indentBlock (some (indentBlock (some fragment) "    ")) "    " =
        indentBlock (some fragment) "    " :=
  indentBlock_stable (by decide +kernel) (by decide +kernel) (by decide +kernel)

end Source
end FragmentWeaver
