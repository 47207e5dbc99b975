import FragmentWeaver.Proofs.DottedNames
import FragmentWeaver.Proofs.Field

/-!
# Public names in a source

No part of a public name is private. Its parts are those of the qualified name of the class, behind
those of the public spelling of the module the class says it comes from; and where all of them are
words, the line that imports the module, the declared type and the path to the checked class can be
read. That the parts are words is not looked at when a class is named: a class whose name is none is
named all the same, and no ancestor is taken in its place.
-/

namespace FragmentWeaver

namespace Text

variable {s part : String} {c sep : Char}

theorem split_append (sep : Char) (a b : String) :
    split sep (a ++ String.ofList [sep] ++ b) = split sep a ++ split sep b := by
  have hchars : (a ++ String.ofList [sep] ++ b).toList = a.toList ++ sep :: b.toList := by simp
  rw [split, hchars, cutAt_append, List.map_append]
  rfl

theorem sep_notMem_of_mem_split (hpart : part ∈ split sep s) : sep ∉ part.toList := by
  obtain ⟨piece, hpiece, rfl⟩ := List.mem_map.mp hpart
  rw [String.toList_ofList]
  exact sep_notMem_of_mem_cutAt hpiece

/-- Every character is a separator or belongs to a part. -/
theorem mem_part (sep : Char) (hc : c ∈ s.toList) :
    c = sep ∨ ∃ part ∈ split sep s, c ∈ part.toList := by
  rw [← glue_cutAt sep s.toList] at hc
  refine (mem_glue hc).imp_right fun ⟨piece, hpiece, hc⟩ => ?_
  exact ⟨String.ofList piece, List.mem_map_of_mem hpiece, by rwa [String.toList_ofList]⟩

theorem isNameRest_of_mem (hs : isIdentifier s = true) (hc : c ∈ s.toList) :
    isNameRest c = true := by
  obtain ⟨d, rest, hchars, hd, hrest⟩ := exists_of_isName hs
  rw [hchars] at hc
  rcases List.mem_cons.mp hc with rfl | hc
  · unfold isNameStart at hd
    unfold isNameRest
    split at hd
    · next hlow =>
        rw [if_pos hlow]
        simp only [Char.isAlphanum, Bool.or_eq_true] at hd ⊢
        exact hd.imp_left .inl
    · next hhigh => rw [if_neg hhigh, hd, Bool.true_or]
  · exact hrest c hc

/-- No reserved word starts with an underscore. -/
theorem isKeyword_of_private (hs : beginsWith "_" s = true) : isKeyword s = false := by
  have hnone : ∀ k ∈ keywords, beginsWith "_" k = false := by decide +kernel
  rw [isKeyword, ← Bool.not_eq_true, List.contains_iff_mem]
  intro hmem
  rw [hnone s hmem] at hs
  cases hs

end Text

open Text (IsWord)

/-- The parts of a public name: those of its module, if it has one, and those of the name that can be
    written after the import. -/
def PublicName.parts (n : PublicName) : List String :=
  n.module.toList.flatMap (Text.split '.') ++ Text.split '.' n.dotted

theorem publicPart_of_open {part : String} (hpart : Text.beginsWith "_" part = false) :
    publicPart part = part := by
  rw [publicPart, hpart]
  rfl

theorem dot_notMem_publicPart {part : String} (hpart : '.' ∉ part.toList) :
    '.' ∉ (publicPart part).toList := by
  unfold publicPart
  split
  · rw [String.toList_ofList]
    exact fun hmem => hpart (List.mem_of_mem_drop hmem)
  · exact hpart

theorem isPrivate_eq_false_iff {dotted : String} :
    isPrivate dotted = false ↔ ∀ part ∈ Text.split '.' dotted, Text.beginsWith "_" part = false := by
  rw [isPrivate, List.any_eq_false]
  exact forall₂_congr fun part _ => Bool.not_eq_true _ ▸ Iff.rfl

/-- Every spelling without private parts has the public parts of the module's name. -/
theorem split_spelling {m home : String} (hm : m ∈ spellings home) (hopen : isPrivate m = false) :
    Text.split '.' m = (Text.split '.' home).map publicPart := by
  have hhome : isPrivate home = false →
      Text.split '.' home = (Text.split '.' home).map publicPart := by
    intro hprivate
    conv_lhs => rw [← List.map_id (Text.split '.' home)]
    exact List.map_congr_left fun part hpart =>
      (publicPart_of_open (isPrivate_eq_false_iff.mp hprivate part hpart)).symm
  have hpublic : Text.split '.' (Text.join "." ((Text.split '.' home).map publicPart)) =
      (Text.split '.' home).map publicPart := by
    refine Text.split_join (by simp [Text.split_ne_nil]) fun part hpart => ?_
    obtain ⟨own, hown, rfl⟩ := List.mem_map.mp hpart
    exact dot_notMem_publicPart (Text.sep_notMem_of_mem_split hown)
  unfold spellings at hm
  dsimp only at hm
  split at hm
  · rw [List.mem_singleton] at hm
    exact hm ▸ hhome (hm ▸ hopen)
  · rcases List.mem_pair.mp hm with rfl | rfl
    · exact hhome hopen
    · exact hpublic

namespace World

open Script
open Source (targetNames targetExpr castTarget privateAlias)

variable {w : World} {c d : ClassId} {n : PublicName}

section Parts

/-- The parts of a public name are those of its module and those of the qualified name of its class. -/
theorem forall_parts_iff (hname : w.publicName d = some n) (p : String → Prop) :
    (∀ part ∈ n.parts, p part) ↔
      (∀ part ∈ Text.split '.' (w.classInfo d).name, p part) ∧
        ∀ m, n.module = some m → ∀ part ∈ Text.split '.' m, p part := by
  obtain ⟨-, ⟨rfl, -⟩ | ⟨m, -, owner, rfl, -⟩⟩ := publicName_cases hname
  · simp [PublicName.parts]
  · have hdotted : Text.split '.' (m ++ "." ++ (w.classInfo d).name) =
        Text.split '.' m ++ Text.split '.' (w.classInfo d).name :=
      Text.split_append '.' m _
    simp only [PublicName.parts, Option.toList_some, List.flatMap_singleton, hdotted,
      List.mem_append, Option.some.injEq]
    constructor
    · intro hall
      refine ⟨fun part hpart => hall part (.inr (.inr hpart)), ?_⟩
      rintro _ rfl part hpart
      exact hall part (.inl hpart)
    · rintro ⟨hown, hmodule⟩ part (hpart | hpart | hpart)
      · exact hmodule m rfl part hpart
      · exact hmodule m rfl part hpart
      · exact hown part hpart

theorem split_module (hname : w.publicName d = some n) {m : String} (hm : n.module = some m) :
    Text.split '.' m = (Text.split '.' (w.homeOf d)).map publicPart := by
  obtain ⟨-, ⟨rfl, -⟩ | ⟨m', hspelling, owner, rfl, hopen, -⟩⟩ := publicName_cases hname
  · cases hm
  · obtain rfl := Option.some.inj hm
    exact split_spelling hspelling hopen

theorem parts_open (hname : w.publicName d = some n) :
    ∀ part ∈ n.parts, Text.beginsWith "_" part = false := by
  refine (forall_parts_iff hname _).mpr ?_
  obtain ⟨hopen, ⟨rfl, -⟩ | ⟨m, -, owner, rfl, hm, -⟩⟩ := publicName_cases hname
  · exact ⟨isPrivate_eq_false_iff.mp hopen, fun _ h => nomatch h⟩
  · refine ⟨isPrivate_eq_false_iff.mp hopen, fun m' hm' => ?_⟩
    obtain rfl := Option.some.inj hm'
    exact isPrivate_eq_false_iff.mp hm

end Parts

section Reading

/-- A text whose parts are words is these words with dots between them. -/
theorem exists_words {s : String} (hs : ∀ part ∈ Text.split '.' s, IsWord part) :
    ∃ first rest, Text.split '.' s = first :: rest ∧ s = Text.join "." (first :: rest) ∧
      IsWord first ∧ ∀ part ∈ rest, IsWord part := by
  obtain ⟨first, rest, hsplit⟩ := List.exists_cons_of_ne_nil (Text.split_ne_nil '.' s)
  rw [hsplit, List.forall_mem_cons] at hs
  exact ⟨first, rest, hsplit, hsplit ▸ (Text.join_split '.' s).symm, hs⟩

theorem isWord_privateAlias {m : String} (hm : ∀ part ∈ Text.split '.' m, IsWord part) :
    IsWord (privateAlias m) := by
  have hrest : ∀ c ∈ m.toList.map (fun c => if c = '.' then '_' else c),
      Text.isNameRest c = true := by
    intro c hc
    obtain ⟨d, hd, rfl⟩ := List.mem_map.mp hc
    split
    · decide
    · next hdot =>
        rcases Text.mem_part '.' hd with rfl | ⟨part, hpart, hd⟩
        · exact absurd rfl hdot
        · exact Text.isNameRest_of_mem (hm part hpart).1 hd
  have hchars : (privateAlias m).toList =
      '_' :: (['c', 'w', '_'] ++ m.toList.map fun c => if c = '.' then '_' else c) := by
    rw [privateAlias, String.toList_append, String.toList_ofList]
    rfl
  refine ⟨?_, Text.isKeyword_of_private ?_⟩
  · rw [Text.isIdentifier, hchars, Text.isName, Bool.and_eq_true, List.all_append, Bool.and_eq_true]
    exact ⟨by decide, by decide, List.all_eq_true.mpr hrest⟩
  · rw [Text.beginsWith, hchars]
    rfl

/-- Where the parts of a public name are words, so are the names on the path to the checked class. -/
theorem targetNames_words (hname : w.publicName d = some n) (hwords : ∀ part ∈ n.parts, IsWord part) :
    IsWord (targetNames (.ofName n)).1 ∧ ∀ part ∈ (targetNames (.ofName n)).2, IsWord part := by
  obtain ⟨hown, hmodule⟩ := (forall_parts_iff hname _).mp hwords
  obtain ⟨-, ⟨rfl, -⟩ | ⟨m, -, owner, rfl, -⟩⟩ := publicName_cases hname
  · rw [targetNames, castModule?_of_no_modules rfl]
    exact ⟨show IsWord (Source.privateOpening ++ "builtins") by decide, hown⟩
  · have hm := hmodule m rfl
    have hne : m ≠ "" := by
      rintro rfl
      exact absurd (hm "" (by decide)) (by decide)
    have hmodules : (Descriptor.ofName ⟨some m, m ++ "." ++ (w.classInfo d).name⟩).modules = [m] := by
      simp [Descriptor.ofName, hne]
    rw [targetNames, castModule?_of_module hmodules rfl]
    dsimp only
    rw [drop_castName rfl]
    exact ⟨isWord_privateAlias hm, hown⟩

theorem parse_text (digits : Nat) {s : String} (hs : ∀ part ∈ Text.split '.' s, IsWord part) :
    Parser.parse (Token.ofSource digits s) =
      .ok [.expr (.path ((Text.split '.' s).map Text.composed))] := by
  obtain ⟨first, rest, hsplit, hjoin, hfirst, hrest⟩ := exists_words hs
  rw [hsplit, hjoin]
  exact Parser.parse_dotted digits hfirst hrest

theorem parse_import_text (digits : Nat) {m : String} (hm : ∀ part ∈ Text.split '.' m, IsWord part) :
    Parser.parse (Token.ofSource digits ("import " ++ m)) =
      .ok [.imports [⟨(Text.split '.' m).map Text.composed, none⟩]] := by
  obtain ⟨first, rest, hsplit, hjoin, hfirst, hrest⟩ := exists_words hm
  rw [hsplit, hjoin]
  exact Parser.parse_import digits hfirst hrest

theorem parse_castTarget (digits : Nat) (hname : w.publicName d = some n)
    (hwords : ∀ part ∈ n.parts, IsWord part) :
    Parser.parse (Token.ofSource digits (castTarget (.ofName n))) =
      .ok [.expr (targetExpr Text.composed (.ofName n))] := by
  obtain ⟨hfirst, hrest⟩ := targetNames_words hname hwords
  rw [Source.castTarget_eq, targetExpr, List.map_id, id_eq, Script.source_path]
  exact Parser.parse_dotted digits hfirst hrest

theorem module_of_mem_modules {m : String} (hm : m ∈ (Descriptor.ofName n).modules) :
    n.module = some m := by
  simp only [Descriptor.ofName] at hm
  split at hm
  · next m' hm' =>
      split at hm
      · cases hm
      · rw [hm', List.mem_singleton.mp hm]
  · cases hm

end Reading

/-- A class is declared by its first ancestor with a public name. -/
theorem nameType_of_first {before after : List ClassId} (hlineage : w.lineage c = before ++ d :: after)
    (hbefore : ∀ b ∈ before, w.publicName b = none) (hname : w.publicName d = some n) :
    w.nameType c = .ofName n := by
  have hfirst : w.firstNamed (w.lineage c) = some n := by
    rw [hlineage, firstNamed, List.findSome?_append, List.findSome?_eq_none_iff.mpr hbefore,
      Option.none_or, List.findSome?_cons, hname]
  rw [nameType, hfirst]

/-- A public name holds no private part. Its parts are words exactly if those of the qualified name are
    and, where a module is imported, the public parts of its name; and then the import, the declared
    type and the path to the checked class can be read as what they stand for. A class is declared by
    its first ancestor that has a public name, whether the parts of it are words or not. -/
theorem public_names_read (hname : w.publicName d = some n) :
    (∀ part ∈ n.parts, Text.beginsWith "_" part = false) ∧
    ((∀ part ∈ n.parts, IsWord part) ↔
      (∀ part ∈ Text.split '.' (w.classInfo d).name, IsWord part) ∧
      (n.module.isSome = true →
        ∀ part ∈ Text.split '.' (w.homeOf d), IsWord (publicPart part))) ∧
    ((∀ part ∈ n.parts, IsWord part) → ∀ digits,
      (∀ m ∈ (Descriptor.ofName n).modules,
        Parser.parse (Token.ofSource digits ("import " ++ m)) =
          .ok [.imports [⟨(Text.split '.' m).map Text.composed, none⟩]]) ∧
      Parser.parse (Token.ofSource digits (Descriptor.ofName n).typeName) =
        .ok [.expr (.path ((Text.split '.' n.dotted).map Text.composed))] ∧
      Parser.parse (Token.ofSource digits (castTarget (.ofName n))) =
        .ok [.expr (targetExpr Text.composed (.ofName n))]) ∧
    ∀ c before after, w.lineage c = before ++ d :: after →
      (∀ b ∈ before, w.publicName b = none) → w.nameType c = .ofName n := by
  refine ⟨parts_open hname, ?_, fun hwords digits => ⟨fun m hm => ?_, ?_, ?_⟩, ?_⟩
  · rw [forall_parts_iff hname]
    refine and_congr_right fun _ => ?_
    cases hm : n.module with
    | none => simp
    | some m => simp [split_module hname hm]
  · have hmodule := ((forall_parts_iff hname _).mp hwords).2
    exact parse_import_text digits (hmodule m (module_of_mem_modules hm))
  · exact parse_text digits fun part hpart => hwords part (List.mem_append_right _ hpart)
  · exact parse_castTarget digits hname hwords
  · exact fun c before after hlineage hbefore => nameType_of_first hlineage hbefore hname

/-- A world with two classes of the module `_app` that its public module `app` has under their names;
    the name of the second one is a reserved word, and it stands below the first. -/
def reservedWorld : World where
  classes := #[
    { space := some "_app", name := "Foo", above := [.object], kind := .standard "type",
      shown := "Foo" },
    { space := some "_app", name := "class", above := [.defined 0, .object],
      kind := .standard "type", shown := "class" }]
  modules := #[{ name := "builtins", attributes := [("object", .cls .object)] },
    { name := "app", attributes := [("Foo", .cls (.defined 0)), ("class", .cls (.defined 1))] }]
  table := [("builtins", 0), ("app", 1)]

/-- The name of the first class is read as it stands for the class. The second class is declared by a
    name that cannot be read, although the first one could stand in its place. -/
theorem public_names_read_reserved :
    (Parser.parse (Token.ofSource 0 "import app") = .ok [.imports [⟨["app"], none⟩]] ∧
      Parser.parse (Token.ofSource 0 "app.Foo") = .ok [.expr (.path ["app", "Foo"])] ∧
      Parser.parse (Token.ofSource 0 "_cw_app.Foo") = .ok [.expr (.path ["_cw_app", "Foo"])]) ∧
    (¬ ∀ part ∈ PublicName.parts ⟨some "app", "app.class"⟩, IsWord part) ∧
    reservedWorld.nameType (.defined 1) = .ofName ⟨some "app", "app.class"⟩ ∧
    ∀ stmts, Parser.parse (Token.ofSource 0 "app.class") ≠ .ok stmts := by
  have hfoo : reservedWorld.publicName (.defined 0) = some ⟨some "app", "app.Foo"⟩ := by
    decide +kernel
  have hclass : reservedWorld.publicName (.defined 1) = some ⟨some "app", "app.class"⟩ := by
    decide +kernel
  refine ⟨?_, ?_, ?_, fun stmts hread => ?_⟩
  · obtain ⟨-, hwords, hread, -⟩ := public_names_read hfoo
    obtain ⟨himport, htype, htarget⟩ :=
      hread (hwords.mpr ⟨by decide +kernel, fun _ => by decide +kernel⟩) 0
    have happ : (Text.split '.' "app").map Text.composed = ["app"] := by decide +kernel
    have hname : (Text.split '.' "app.Foo").map Text.composed = ["app", "Foo"] := by decide +kernel
    have hcast : castTarget (.ofName ⟨some "app", "app.Foo"⟩) = "_cw_app.Foo" := by decide +kernel
    have hnames : targetNames (.ofName ⟨some "app", "app.Foo"⟩) = ("_cw_app", ["Foo"]) := by
      decide +kernel
    have himport := himport "app" (by decide)
    rw [happ] at himport
    rw [hname] at htype
    rw [hcast, targetExpr, hnames] at htarget
    exact ⟨himport, htype, htarget⟩
  · rw [(public_names_read hclass).2.1]
    exact fun h => absurd (h.1 "class" (by decide +kernel)) (by decide)
  · exact (public_names_read hclass).2.2.2 (.defined 1) [] [.defined 0, .object] rfl (by simp)
  · have hrefused : (Parser.parse (Token.ofSource 0 "app.class")).isOk = false := by decide +kernel
    rw [hread] at hrefused
    cases hrefused

end World

end FragmentWeaver
