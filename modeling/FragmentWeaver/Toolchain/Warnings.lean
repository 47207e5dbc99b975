import FragmentWeaver.Files.Path
import FragmentWeaver.Script.Remark
import FragmentWeaver.Toolchain.Options
import FragmentWeaver.World

/-!
# Warnings of an interpreter

What becomes of the remarks about a source. Rules say which remarks they are about and what is done
with them; of the rules that fit a remark the one that was given last counts.
-/

namespace FragmentWeaver

open Script (Remark RemarkKind)

/-- What is done with a remark. -/
inductive Reaction where
  | ignored
  | shown
  /-- Shown when its text is met for the first time. -/
  | shownOnce
  /-- The source is refused. -/
  | refused
  deriving DecidableEq, Repr, Inhabited

/-- A rule about remarks: what is done, how their text starts, their kind, the module they are about,
    and the line; nothing said fits everything. -/
structure WarningRule where
  reaction : Reaction
  text : String := ""
  kind : String := "Warning"
  module : String := ""
  line : Nat := 0
  deriving DecidableEq, Repr, Inhabited

namespace WarningRule

/-- The words for reactions. Each may be cut short. -/
def words : List (String × Reaction) := [
  ("default", .shown), ("always", .shown), ("ignore", .ignored), ("module", .shown),
  ("once", .shownOnce), ("error", .refused), ("all", .shown)]

/-- The reaction with a word, or what is said about the word. -/
def reactionOf (word : String) : Except String Reaction :=
  if word = "all" then .ok .shown
  else
    match words.find? fun (w, _) => Text.beginsWith word w && w ≠ "all" with
    | some (_, r) => .ok r
    | none => .error ("invalid action: " ++ Text.quote word)

/-- Does the name of a class stand for warnings? -/
def isWarning (name : String) : Bool :=
  (({} : World).lineage (.standard name)).contains (.standard "Warning")

/-- The class of warnings with a name, or what is said about the name. -/
def warningClass (name : String) : Except String String :=
  let (space, simple) := match Text.cutLast '.' name.toList with
    | some (space, simple) => (String.ofList space, String.ofList simple)
    | none => ("builtins", name)
  if name = "" then .ok "Warning"
  else if !Standard.isModule space then
    .error ("invalid module name: " ++ Text.quote space)
  else
    match Standard.member? space simple with
    | none => .error ("unknown warning category: " ++ Text.quote name)
    | some (.cls (.standard key)) =>
        if isWarning key then .ok key else .error ("invalid warning category: " ++ Text.quote name)
    | some _ => .error ("invalid warning category: " ++ Text.quote name)

/-- Read a rule: parts with colons between them, the last of which may be missing. -/
def read (s : String) : Except String WarningRule := do
  let parts := Text.split ':' s
  if 5 < parts.length then throw ("too many fields (max 5): " ++ Text.quote s)
  let part (i : Nat) : String := Text.strip (parts.getD i "")
  let reaction ← reactionOf (part 0)
  let kind ← warningClass (part 2)
  let line ← match part 4 with
    | "" => pure 0
    | digits =>
        match Options.number? digits with
        | some n => pure n
        | none => throw ("invalid lineno " ++ Text.quote digits)
  return ⟨reaction, part 1, kind, part 3, line⟩

/-- Is a rule about a remark on a module? -/
def fits (r : WarningRule) (module : String) (m : Remark) : Bool :=
  Text.beginsWith (r.text.map Char.toLower) (m.text.map Char.toLower) &&
    (r.kind = "Warning" || r.kind = m.kind.name) &&
    (r.module = "" || r.module = module) && (r.line = 0 || r.line = m.line)

end WarningRule

/-- The rules of an interpreter, the one that was given first at the start. -/
abbrev WarningRules := List WarningRule

namespace WarningRules

/-- Read rules; what cannot be read is left out, and something is said about it. -/
def read : List String → WarningRules × List String
  | [] => ([], [])
  | s :: more =>
      let (rules, said) := read more
      match WarningRule.read s with
      | .ok r => (r :: rules, said)
      | .error e => (rules, ("Invalid -W option ignored: " ++ e) :: said)

/-- What is done with a remark on a module. When no rule fits, ways of writing that will go are not
    spoken of. -/
def reaction (rules : WarningRules) (module : String) (m : Remark) : Reaction :=
  match rules.reverse.find? fun r => r.fits module m with
  | some r => r.reaction
  | none =>
      match m.kind with
      | .deprecation => .ignored
      | .sense => .shown

/-- The name under which rules know a source. -/
def moduleOf (source : Files.Path) : String :=
  source.parent.text ++ "/" ++ source.stem

/-- What is shown about a line of a source. -/
def shownText (source : Files.Path) (lines : List String) (m : Remark) : String :=
  let head := source.text ++ ":" ++ toString m.line ++ ": " ++ m.kind.name ++ ": " ++ m.text
  match lines[m.line - 1]? with
  | some line => head ++ "\n  " ++ Text.strip line
  | none => head

/-- What is shown of the remarks about a source, or nothing if one of them is a reason to refuse it;
    `told` are the texts that have been shown once already. -/
def shown? (rules : WarningRules) (source : Files.Path) (lines told : List String) :
    List Remark → Option (List String × List String)
  | [] => some ([], told)
  | m :: rest =>
      match rules.reaction (moduleOf source) m with
      | .refused => none
      | .ignored => rules.shown? source lines told rest
      | .shown => do
          let (said, told) ← rules.shown? source lines told rest
          some (shownText source lines m :: said, told)
      | .shownOnce =>
          if told.contains m.text then rules.shown? source lines told rest
          else do
            let (said, told) ← rules.shown? source lines (m.text :: told) rest
            some (shownText source lines m :: said, told)

end WarningRules

end FragmentWeaver
