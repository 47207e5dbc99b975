import FragmentWeaver.Ascending
import FragmentWeaver.Text.Split

/-!
# Paths

A path is an anchor, which is empty for relative paths, and the names below it. Empty names and
single dots are dropped when a path is read; two dots are kept, since what they mean depends on the
files.
-/

namespace FragmentWeaver.Files

/-- A path: its anchor and its names. -/
structure Path where
  anchor : String
  names : List String
  deriving DecidableEq, Repr, Inhabited

namespace Path

/-- The anchor at the start of a text: two slashes are an anchor of their own, any other count of
    slashes is as good as one. -/
def anchorOf (cs : List Char) : String :=
  let slashes := cs.takeWhile (· = '/')
  if slashes.length = 0 then "" else if slashes.length = 2 then "//" else "/"

/-- The names in a text. -/
def namesOf (s : String) : List String :=
  (Text.split '/' s).filter fun n => n ≠ "" && n ≠ "."

/-- Read a path. -/
def parse (s : String) : Path :=
  ⟨anchorOf s.toList, namesOf s⟩

/-- The text of a path. -/
def text (p : Path) : String :=
  if p.anchor = "" && p.names.isEmpty then "." else p.anchor ++ Text.join "/" p.names

/-- Is the path anchored? -/
def isAbsolute (p : Path) : Bool :=
  p.anchor ≠ ""

/-- Go on with another path; an anchored one starts anew. -/
def append (p q : Path) : Path :=
  if q.isAbsolute then q else ⟨p.anchor, p.names ++ q.names⟩

/-- Go on with a written path. -/
def join (p : Path) (s : String) : Path :=
  p.append (parse s)

/-- Go on with several written paths. -/
def joinAll (p : Path) (ss : List String) : Path :=
  ss.foldl join p

/-- Go on with one name. -/
def child (p : Path) (name : String) : Path :=
  ⟨p.anchor, p.names ++ [name]⟩

/-- The path without its last name. -/
def parent (p : Path) : Path :=
  ⟨p.anchor, p.names.dropLast⟩

/-- The last name, or nothing at the anchor. -/
def name (p : Path) : String :=
  p.names.getLast?.getD ""

/-- A file name in two: before its last dot and from it on. A dot at either end does not count. -/
def splitName (name : String) : String × String :=
  match Text.cutLast '.' name.toList with
  | some (stem, suffix) =>
      if stem.isEmpty || suffix.isEmpty then (name, "")
      else (String.ofList stem, String.ofList ('.' :: suffix))
  | none => (name, "")

/-- The last name without its suffix. -/
def stem (p : Path) : String := (splitName p.name).1

/-- The suffix of the last name. -/
def suffix (p : Path) : String := (splitName p.name).2

/-- Does the path hold a character that no path can hold? -/
def isUnusable (p : Path) : Bool :=
  p.names.any fun n => n.toList.contains '\x00'

/-- Drop names that are undone by two dots after them. -/
def collapse (names : List String) : List String :=
  names.foldl (fun acc n => if n = ".." then acc.dropLast else acc ++ [n]) []

/-- The names from the root, with two dots undone. -/
def resolve (cwd : List String) (p : Path) : List String :=
  collapse (if p.isAbsolute then p.names else cwd ++ p.names)

/-- The path from the root of some names. -/
def ofRoot (names : List String) : Path :=
  ⟨"/", names⟩

/-- Lists of names compare name by name. -/
def namesUpTo : List String → List String → Bool
  | [], _ => true
  | _ :: _, [] => false
  | a :: as, b :: bs => if a = b then namesUpTo as bs else decide (a ≤ b)

/-- Does a path not come after another one? -/
def upTo (p q : Path) : Bool :=
  if p.anchor = q.anchor then namesUpTo p.names q.names
  else namesUpTo (p.anchor :: p.names) (q.anchor :: q.names)

/-- Paths in ascending order. -/
def sorted (ps : List Path) : List Path :=
  ascending upTo ps

theorem namesUpTo_trans {as bs cs : List String} (h : namesUpTo as bs = true)
    (h' : namesUpTo bs cs = true) : namesUpTo as cs = true := by
  induction as generalizing bs cs with
  | nil => rfl
  | cons a as ih =>
      cases bs with
      | nil => cases h
      | cons b bs =>
          cases cs with
          | nil => cases h'
          | cons c cs =>
              rw [namesUpTo] at h h' ⊢
              by_cases hab : a = b
              · subst hab
                rw [if_pos rfl] at h
                by_cases hac : a = c
                · rw [if_pos hac] at h' ⊢
                  exact ih h h'
                · rwa [if_neg hac] at h' ⊢
              · rw [if_neg hab, decide_eq_true_eq] at h
                by_cases hbc : b = c
                · subst hbc
                  rwa [if_neg hab, decide_eq_true_eq]
                · rw [if_neg hbc, decide_eq_true_eq] at h'
                  have hac : a ≠ c := by
                    rintro rfl
                    exact hab (String.le_antisymm h h')
                  rw [if_neg hac, decide_eq_true_eq]
                  exact String.le_trans h h'

theorem namesUpTo_total (as bs : List String) : namesUpTo as bs = true ∨ namesUpTo bs as = true := by
  induction as generalizing bs with
  | nil => exact .inl rfl
  | cons a as ih =>
      cases bs with
      | nil => exact .inr rfl
      | cons b bs =>
          rw [namesUpTo, namesUpTo]
          by_cases hab : a = b
          · rw [if_pos hab, if_pos hab.symm]
            exact ih bs
          · rw [if_neg hab, if_neg (Ne.symm hab), decide_eq_true_eq, decide_eq_true_eq]
            exact String.le_total a b

/-- The anchor of a path counts as its first name. -/
theorem upTo_eq (p q : Path) : upTo p q = namesUpTo (p.anchor :: p.names) (q.anchor :: q.names) := by
  unfold upTo
  split
  · next h => rw [namesUpTo, if_pos h]
  · rfl

theorem pairwise_sorted (ps : List Path) : (sorted ps).Pairwise (upTo · · = true) := by
  refine pairwise_ascending (fun p q r hpq hqr => ?_) (fun p q => ?_) ps
  · rw [upTo_eq] at *
    exact namesUpTo_trans hpq hqr
  · rw [upTo_eq, upTo_eq, Bool.or_eq_true]
    exact namesUpTo_total ..

end Path

end FragmentWeaver.Files
