/-!
# Cutting a text at a separator

`cutAt` and `glue` are inverse to each other on the texts that matter: gluing the pieces of a text
gives the text back, and pieces without the separator are found again after gluing.
-/

namespace FragmentWeaver.Text

/-- The pieces of a text between the occurrences of one separator character; always at least one. -/
def cutAt (sep : Char) : List Char → List (List Char)
  | [] => [[]]
  | c :: rest =>
      if c = sep then [] :: cutAt sep rest
      else
        match cutAt sep rest with
        | [] => [[c]]
        | piece :: pieces => (c :: piece) :: pieces

/-- Pieces set side by side with a separator between them. -/
def glue (sep : List Char) : List (List Char) → List Char
  | [] => []
  | [piece] => piece
  | piece :: pieces => piece ++ sep ++ glue sep pieces

theorem cutAt_ne_nil (sep : Char) (cs : List Char) : cutAt sep cs ≠ [] := by
  cases cs with
  | nil => simp [cutAt]
  | cons c rest =>
      unfold cutAt
      split
      · simp
      · split <;> simp

/-- Gluing the pieces of a text gives the text back. -/
theorem glue_cutAt (sep : Char) (cs : List Char) : glue [sep] (cutAt sep cs) = cs := by
  induction cs with
  | nil => rfl
  | cons c rest ih =>
      have hne := cutAt_ne_nil sep rest
      unfold cutAt
      split
      · next h =>
          cases hrest : cutAt sep rest with
          | nil => exact absurd hrest hne
          | cons piece pieces =>
              rw [hrest] at ih
              simp [glue, ih, h]
      · cases hrest : cutAt sep rest with
        | nil => exact absurd hrest hne
        | cons piece pieces =>
            rw [hrest] at ih
            cases pieces with
            | nil => simpa [glue] using ih
            | cons next others => simpa [glue] using ih

variable {sep c : Char} {cs piece : List Char} {pieces : List (List Char)}

theorem cutAt_of_not_mem (h : sep ∉ cs) : cutAt sep cs = [cs] := by
  induction cs with
  | nil => rfl
  | cons c cs ih =>
      rw [List.mem_cons, not_or] at h
      rw [cutAt, if_neg (Ne.symm h.1), ih h.2]

theorem cutAt_append (sep : Char) (cs ds : List Char) :
    cutAt sep (cs ++ sep :: ds) = cutAt sep cs ++ cutAt sep ds := by
  induction cs with
  | nil => simp [cutAt]
  | cons c cs ih =>
      rw [List.cons_append, cutAt, cutAt, ih]
      split
      · rfl
      · cases hpieces : cutAt sep cs with
        | nil => exact absurd hpieces (cutAt_ne_nil sep cs)
        | cons piece pieces => rfl

theorem glue_cons (hne : pieces ≠ []) :
    glue [sep] (piece :: pieces) = piece ++ sep :: glue [sep] pieces := by
  cases pieces with
  | nil => exact absurd rfl hne
  | cons next others => simp [glue]

/-- Pieces without the separator are found again after they were set side by side. -/
theorem cutAt_glue (hne : pieces ≠ []) (h : ∀ piece ∈ pieces, sep ∉ piece) :
    cutAt sep (glue [sep] pieces) = pieces := by
  induction pieces with
  | nil => exact absurd rfl hne
  | cons piece pieces ih =>
      have hpiece := cutAt_of_not_mem (h piece List.mem_cons_self)
      cases pieces with
      | nil => exact hpiece
      | cons next others =>
          have hrest := ih (List.cons_ne_nil _ _) fun p hp => h p (List.mem_cons_of_mem _ hp)
          rw [glue_cons (List.cons_ne_nil _ _), cutAt_append, hpiece, hrest]
          rfl

/-- What is set side by side holds nothing but the pieces and the separator. -/
theorem mem_glue (hc : c ∈ glue [sep] pieces) : c = sep ∨ ∃ piece ∈ pieces, c ∈ piece := by
  induction pieces with
  | nil => cases hc
  | cons piece pieces ih =>
      cases pieces with
      | nil => exact .inr ⟨piece, List.mem_cons_self, hc⟩
      | cons next others =>
          rw [glue_cons (List.cons_ne_nil _ _), List.mem_append, List.mem_cons] at hc
          rcases hc with hc | rfl | hc
          · exact .inr ⟨piece, List.mem_cons_self, hc⟩
          · exact .inl rfl
          · exact (ih hc).imp_right fun ⟨p, hp, hcp⟩ => ⟨p, List.mem_cons_of_mem _ hp, hcp⟩

theorem mem_glue_of_mem (hpiece : piece ∈ pieces) (hc : c ∈ piece) : c ∈ glue [sep] pieces := by
  induction pieces with
  | nil => cases hpiece
  | cons first pieces ih =>
      cases pieces with
      | nil => exact List.mem_singleton.mp hpiece ▸ hc
      | cons next others =>
          rw [glue_cons (List.cons_ne_nil _ _), List.mem_append, List.mem_cons]
          rcases List.mem_cons.mp hpiece with rfl | hpiece
          · exact .inl hc
          · exact .inr (.inr (ih hpiece))

/-- No piece holds the separator. -/
theorem sep_notMem_of_mem_cutAt (hpiece : piece ∈ cutAt sep cs) : sep ∉ piece := by
  induction cs generalizing piece with
  | nil => simp_all [cutAt]
  | cons c cs ih =>
      rw [cutAt] at hpiece
      split at hpiece
      · rcases List.mem_cons.mp hpiece with rfl | hpiece
        · exact List.not_mem_nil
        · exact ih hpiece
      · next hc =>
          split at hpiece
          · rw [List.mem_singleton.mp hpiece]
            simpa using Ne.symm hc
          · next first others hcut =>
              rw [hcut] at ih
              rcases List.mem_cons.mp hpiece with rfl | hpiece
              · rw [List.mem_cons, not_or]
                exact ⟨Ne.symm hc, ih List.mem_cons_self⟩
              · exact ih (List.mem_cons_of_mem _ hpiece)

/-- A piece holds nothing that the text does not hold. -/
theorem mem_of_mem_cutAt (hpiece : piece ∈ cutAt sep cs) (hc : c ∈ piece) : c ∈ cs := by
  rw [← glue_cutAt sep cs]
  exact mem_glue_of_mem hpiece hc

/-- The pieces of a string between the occurrences of one separator character. -/
def split (sep : Char) (s : String) : List String :=
  (cutAt sep s.toList).map String.ofList

/-- Strings set side by side with a separator between them. -/
def join (sep : String) (pieces : List String) : String :=
  String.ofList (glue sep.toList (pieces.map String.toList))

theorem split_join {sep : Char} {pieces : List String} (hne : pieces ≠ [])
    (h : ∀ piece ∈ pieces, sep ∉ piece.toList) :
    split sep (join (String.ofList [sep]) pieces) = pieces := by
  have hpieces : ∀ piece ∈ pieces.map String.toList, sep ∉ piece := by
    simpa using h
  rw [split, join, String.toList_ofList, String.toList_ofList,
    cutAt_glue (by simpa using hne) hpieces, List.map_map]
  simp [Function.comp_def]

theorem join_cons {sep a : String} {rest : List String} (hrest : rest ≠ []) :
    join sep (a :: rest) = a ++ sep ++ join sep rest := by
  cases rest with
  | nil => exact absurd rfl hrest
  | cons b rest =>
      rw [← String.toList_inj]
      simp [join, glue]

theorem join_singleton (sep a : String) : join sep [a] = a := by
  rw [← String.toList_inj]
  simp [join, glue]

/-- The pieces of a text set side by side again. -/
theorem join_split (sep : Char) (s : String) :
    join (String.ofList [sep]) (split sep s) = s := by
  rw [← String.toList_inj]
  have hpieces : (split sep s).map String.toList = cutAt sep s.toList := by
    simp [split, Function.comp_def]
  rw [join, hpieces, String.toList_ofList, String.toList_ofList, glue_cutAt]

theorem split_ne_nil (sep : Char) (s : String) : split sep s ≠ [] := by
  simp [split, cutAt_ne_nil]

/-- Before and after the last separator, or nothing when there is none. -/
def cutLast (sep : Char) (cs : List Char) : Option (List Char × List Char) :=
  match (cutAt sep cs).reverse with
  | [] | [_] => none
  | last :: earlier => some (glue [sep] earlier.reverse, last)

/-- Before and after the first separator, or nothing when there is none. -/
def cutFirst (sep : Char) : List Char → Option (List Char × List Char)
  | [] => none
  | c :: rest =>
      if c = sep then some ([], rest)
      else (cutFirst sep rest).map fun (before, after) => (c :: before, after)

/-- Does the text begin with the given opening? -/
def beginsWith (opening : String) (s : String) : Bool :=
  opening.toList.isPrefixOf s.toList

end FragmentWeaver.Text
