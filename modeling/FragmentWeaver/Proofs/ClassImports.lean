import FragmentWeaver.Proofs.Closing
import FragmentWeaver.Proofs.PublicNames
import FragmentWeaver.Source.Import

/-!
# Importing classes

The line for a class names a module and the outermost part of the name of the class. What the module
has under that part leads to the class by the other parts. Where all that is named are words in
composed form, the line is read as an import, and to carry it out binds the part to just that.
Whether they are words is not looked at: the public spelling of a module may be none, and a name may
be a reserved word. Then the line cannot be read.
-/

namespace FragmentWeaver

open Script (Frame Stmt Token Parser.parse exec)
open Text (IsWord)

namespace Text

/-- The first piece ends at the first separator. -/
theorem exists_cutAt (sep : Char) (cs : List Char) :
    ∃ rest, cutAt sep cs = cs.takeWhile (· ≠ sep) :: rest := by
  induction cs with
  | nil => exact ⟨[], rfl⟩
  | cons c cs ih =>
      obtain ⟨rest, hrest⟩ := ih
      by_cases hc : c = sep
      · refine ⟨cutAt sep cs, ?_⟩
        rw [cutAt, if_pos hc, List.takeWhile_cons_of_neg (by simpa using hc)]
      · refine ⟨rest, ?_⟩
        rw [cutAt, if_neg hc, hrest, List.takeWhile_cons_of_pos (by simpa using hc)]

theorem split_of_not_mem {sep : Char} {s : String} (h : sep ∉ s.toList) : split sep s = [s] := by
  rw [split, cutAt_of_not_mem h, List.map_singleton, String.ofList_toList]

/-- A text whose parts are words is not another text without a separator that is none. -/
theorem ne_of_words {s k : String} (hs : ∀ part ∈ split '.' s, IsWord part)
    (hdot : '.' ∉ k.toList) (hk : ¬ IsWord k) : s ≠ k := by
  rintro rfl
  rw [split_of_not_mem hdot] at hs
  exact hk (hs s (List.mem_singleton_self s))

end Text

namespace Source

variable {w : World} {c : ClassId}

/-- The module that the import of a class names. -/
def importSource (w : World) (c : ClassId) : String :=
  match w.publicName c with
  | some ⟨some m, _⟩ => m
  | _ => (w.classInfo c).space.getD "None"

/-- The names in the import of a class: the one that is imported and the parts of the module's. -/
def importedParts (w : World) (c : ClassId) : List String :=
  firstPart (w.classInfo c).name :: Text.split '.' (importSource w c)

/-- The import of a class, as it is read where the names in it are words, with these spelled in some
    way. -/
def importStmt (spell : String → String) (w : World) (c : ClassId) : Stmt :=
  .importsFrom 0 ((Text.split '.' (importSource w c)).map spell)
    [(spell (firstPart (w.classInfo c).name), none)]

theorem exists_split_firstPart (s : String) : ∃ rest, Text.split '.' s = firstPart s :: rest := by
  obtain ⟨rest, hrest⟩ := Text.exists_cutAt '.' s.toList
  exact ⟨rest.map String.ofList, by rw [Text.split, hrest, List.map_cons, firstPart]⟩

/-- The line for a class. -/
theorem importOfClass_eq (w : World) (c : ClassId) :
    importOfClass w c =
      "from " ++ importSource w c ++ " import " ++ firstPart (w.classInfo c).name := by
  unfold importOfClass importSource
  cases hname : w.publicName c with
  | none => rfl
  | some n =>
      obtain ⟨-, ⟨rfl, -⟩ | ⟨m, -, owner, rfl, -⟩⟩ := World.publicName_cases hname
      · rfl
      · have hdrop : String.ofList ((m ++ "." ++ (w.classInfo c).name).toList.drop (m.length + 1)) =
            (w.classInfo c).name :=
          World.drop_castName (d := .ofName ⟨some m, m ++ "." ++ (w.classInfo c).name⟩) rfl
        dsimp only
        rw [hdrop]

end Source

namespace World

open Source (importSource importedParts importStmt importOfClass firstPart renderImport)

variable {w : World} {c : ClassId} {n : PublicName}

/-- A public name has no module exactly if the class counts as built in. -/
theorem module_eq_none_iff (hname : w.publicName c = some n) :
    n.module = none ↔ w.homeOf c = "builtins" := by
  unfold publicName at hname
  dsimp only at hname
  split at hname
  · cases hname
  split at hname
  · next hhome =>
      split at hname
      · obtain rfl := Option.some.inj hname
        exact iff_of_true rfl hhome
      · cases hname
  · next hhome =>
      obtain ⟨m, -, hfound⟩ := List.exists_of_findSome?_eq_some hname
      refine iff_of_false ?_ hhome
      split at hfound
      · cases hfound
      split at hfound
      · cases hfound
      split at hfound
      · obtain rfl := Option.some.inj hfound
        exact nofun
      · cases hfound

theorem homeOf_of_space {home : String} (hspace : (w.classInfo c).space = some home) :
    w.homeOf c = if home = "" then "builtins" else home := by
  rw [homeOf, hspace]

/-- A class can be arrived at: it has a public name, or its qualified name leads to it in the module
    that it says it comes from. -/
def IsReached (w : World) (c : ClassId) : Prop :=
  (w.publicName c).isSome = true ∨
    ∃ home owner, (w.classInfo c).space = some home ∧ w.imported? home = some owner ∧
      w.leadsTo owner (w.classInfo c).name c = true

/-- The module that the line names has the parts of the class's own module, or their public
    spellings. -/
theorem split_importSource {home : String} (hspace : (w.classInfo c).space = some home) :
    Text.split '.' (importSource w c) = Text.split '.' home ∨
      Text.split '.' (importSource w c) = (Text.split '.' home).map publicPart := by
  unfold importSource
  rw [hspace]
  cases hname : w.publicName c with
  | none => exact .inl rfl
  | some n =>
      obtain ⟨_ | m, dotted⟩ := n
      · exact .inl rfl
      · have hhome := homeOf_of_space hspace
        split at hhome
        · cases (module_eq_none_iff hname).mpr hhome
        · exact .inr (hhome ▸ split_module hname rfl)

/-- The module that the line names leads to the class, if its name can be written. -/
theorem importSource_leads (hbuiltins : w.imported? "builtins" = some builtins)
    (hreached : w.IsReached c) (hwords : ∀ part ∈ Text.split '.' (importSource w c), IsWord part) :
    ∃ owner, w.imported? (importSource w c) = some owner ∧
      w.leadsTo owner (w.classInfo c).name c = true := by
  unfold importSource at hwords ⊢
  cases hname : w.publicName c with
  | none =>
      obtain hsome | ⟨home, owner, hspace, howner, hleads⟩ := hreached
      · rw [hname] at hsome
        cases hsome
      · rw [hspace]
        exact ⟨owner, howner, hleads⟩
  | some n =>
      rw [hname] at hwords
      obtain ⟨-, ⟨rfl, hleads⟩ | ⟨m, -, owner, rfl, -, howner, hleads⟩⟩ := publicName_cases hname
      · dsimp only at hwords ⊢
        -- Neither the name for no module nor the empty one can be written.
        have hspace : (w.classInfo c).space = some "builtins" := by
          cases hspace : (w.classInfo c).space with
          | none =>
              rw [hspace] at hwords
              exact absurd rfl (Text.ne_of_words hwords (by decide) (by decide))
          | some home =>
              rw [hspace] at hwords
              have hne : home ≠ "" := Text.ne_of_words hwords (by decide) (by decide)
              have hhome := homeOf_of_space hspace
              rw [(module_eq_none_iff hname).mp rfl, if_neg hne] at hhome
              rw [hhome]
        rw [hspace]
        exact ⟨builtins, hbuiltins, hleads⟩
      · exact ⟨owner, howner, hleads⟩

theorem parse_importOfClass (digits : Nat) (hwords : ∀ n ∈ importedParts w c, IsWord n) :
    Parser.parse (Token.ofSource digits (importOfClass w c)) =
      .ok [importStmt Text.composed w c] := by
  obtain ⟨hname, hmodule⟩ := List.forall_mem_cons.mp hwords
  obtain ⟨first, rest, hsplit, hjoin, hfirst, hrest⟩ := exists_words hmodule
  rw [Source.importOfClass_eq, importStmt, hsplit, hjoin]
  exact Script.Parser.parse_importFrom digits hfirst hrest hname

theorem parse_importOfClass_keyword (digits : Nat)
    (hnames : ∀ n ∈ importedParts w c, Text.isIdentifier n = true)
    (hkey : ∃ n ∈ importedParts w c, Text.isKeyword n = true) :
    Parser.parse (Token.ofSource digits (importOfClass w c)) = .error .malformed := by
  obtain ⟨hname, hmodule⟩ := List.forall_mem_cons.mp hnames
  obtain ⟨first, rest, hsplit⟩ :=
    List.exists_cons_of_ne_nil (Text.split_ne_nil '.' (importSource w c))
  have hjoin : importSource w c = Text.join "." (first :: rest) :=
    hsplit ▸ (Text.join_split '.' _).symm
  unfold importedParts at hkey
  rw [hsplit] at hmodule hkey
  rw [List.forall_mem_cons] at hmodule
  rw [Source.importOfClass_eq, hjoin]
  exact Script.Parser.parse_importFrom_keyword digits hmodule.1 hmodule.2 hname hkey

end World

namespace Loading

variable {s : Loom} {f : Frame} {path : List String} {n : String} {m : ModuleId} {v : Value}

/-- Nothing has to be imported for a name that the module keeps. -/
theorem run_importMembers_kept (again : Script.Caller) (importer : Script.Importer)
    (hv : s.world.moduleAttribute? m n = some v) :
    (Script.importMembers again importer m [n]).run s = .ok () s := by
  rw [Script.importMembers, List.forM_eq_forM, List.forM_cons, List.forM_nil, bind_pure,
    Act.run_bind_ok (Act.run_world s)]
  dsimp only
  split
  · refine Act.run_tryCatch_ok ?_
    rw [Act.run_bind_ok (Script.run_readHooked_kept again hv)]
    rfl
  · rfl

theorem run_importedName_kept (again : Script.Caller)
    (hv : s.world.moduleAttribute? m n = some v) :
    (Script.importedName again m n).run s = .ok v s := by
  have hdone : (do
      let r ← Script.readHooked again (.module m) n
      ExceptT.run (pure r) : Act (Except Value Value)).run s = .ok (.ok v) s := by
    rw [Act.run_bind_ok (Script.run_readHooked_kept again hv)]
    rfl
  rw [Script.importedName, Act.run_bind_ok (Act.run_tryCatch_ok hdone)]
  rfl

/-- To import a name from a module that stands in the table and keeps it binds what is kept. -/
theorem run_importsFrom_kept (hpath : Text.join "." path ≠ "")
    (hm : s.world.imported? (Text.join "." path) = some m)
    (hv : s.world.moduleAttribute? m n = some v) (depth : Nat) (f : Frame) :
    ∃ t : Loom, s.world.Grows t.world ∧
      (exec importModule (depth + 1) f (.importsFrom 0 path [(n, none)])).run s = ((do
        let f ← f.bind n v
        return (.next, f)) : Act (Script.Flow × Frame)).run t := by
  obtain ⟨t, himport, hgrows⟩ := run_importModule_of_imported hpath hm
  refine ⟨t, hgrows, ?_⟩
  rw [exec, Script.absoluteName, if_pos rfl, pure_bind]
  dsimp only
  rw [Act.run_bind_ok himport, List.map_singleton,
    Act.run_bind_ok (run_importMembers_kept _ _ (hgrows.kept hv))]
  simp only [List.foldlM_cons, List.foldlM_nil, Option.getD_none, bind_assoc, pure_bind]
  rw [Act.run_bind_ok (run_importedName_kept _ (hgrows.kept hv))]

end Loading

namespace World

open Loading (importModule)
open Source (importSource importedParts importStmt firstPart renderImport)

variable {w : World} {c : ClassId}

/-- Words in composed form are read as they are written. -/
theorem importStmt_composed (hwords : ∀ n ∈ importedParts w c, Text.composed n = n) :
    importStmt Text.composed w c = importStmt id w c := by
  obtain ⟨hname, hmodule⟩ := List.forall_mem_cons.mp hwords
  rw [importStmt, importStmt, hname, List.map_congr_left hmodule]
  rfl

/-- The import of a class keeps the rules unless it asks for something from the language or the name
    is fixed. -/
theorem fits_importStmt (w : World) (c : ClassId) :
    (importStmt id w c).fits .module = true ↔
      importSource w c ≠ "__future__" ∧ firstPart (w.classInfo c).name ≠ Script.fixedName := by
  have hfuture : Text.split '.' (importSource w c) = ["__future__"] ↔
      importSource w c = "__future__" := by
    constructor
    · intro hsplit
      rw [← Text.join_split '.' (importSource w c), hsplit]
      exact Text.join_singleton _ _
    · intro hsource
      rw [hsource, Text.split_of_not_mem (by decide)]
  simp [importStmt, Stmt.fits, hfuture]

/-- The module that the line names has, under the name that is imported, what leads to the class. -/
theorem exists_walk {owner : ModuleId} (hleads : w.leadsTo owner (w.classInfo c).name c = true) :
    ∃ v rest, Text.split '.' (w.classInfo c).name = firstPart (w.classInfo c).name :: rest ∧
      w.moduleAttribute? owner (firstPart (w.classInfo c).name) = some v ∧
      w.walk v rest = some (.cls c) := by
  obtain ⟨rest, hsplit⟩ := Source.exists_split_firstPart (w.classInfo c).name
  rw [leadsTo, decide_eq_true_eq, hsplit, World.walk] at hleads
  split at hleads
  · cases hleads
  · cases hleads
  · next v _ hv => exact ⟨v, rest, hsplit, hv, hleads⟩

/-- What the import of a class comes to. The line names a module by the parts of the class's own, or
    by their public spellings, and the outermost part of the name of the class. Where all of them
    are identifiers, the line is read as an import exactly if none is a reserved word. Where they
    are words in composed form, to carry it out in a module binds the part to what leads to the
    class by the other parts; besides that the world only grows. -/
theorem class_import_binds {entry : Value} (hentry : w.opened entry = .cls c)
    (hbuiltins : w.imported? "builtins" = some builtins) (hreached : w.IsReached c) :
    let first := firstPart (w.classInfo c).name
    let line := "from " ++ importSource w c ++ " import " ++ first
    renderImport w entry = .ok line ∧
    (∀ home, (w.classInfo c).space = some home →
      Text.split '.' (importSource w c) = Text.split '.' home ∨
        Text.split '.' (importSource w c) = (Text.split '.' home).map publicPart) ∧
    (∀ digits, (∀ n ∈ importedParts w c, Text.isIdentifier n = true) →
      Parser.parse (Token.ofSource digits line) =
        if (importedParts w c).any Text.isKeyword then .error .malformed
        else .ok [importStmt Text.composed w c]) ∧
    ((∀ n ∈ importedParts w c, IsWord n ∧ Text.composed n = n) →
      importStmt Text.composed w c = importStmt id w c ∧
      ((importStmt id w c).fits .module = true ↔
        importSource w c ≠ "__future__" ∧ first ≠ Script.fixedName) ∧
      ∃ v rest, Text.split '.' (w.classInfo c).name = first :: rest ∧
        w.walk v rest = some (.cls c) ∧
        ∀ (s : Loom) (f : Frame) (depth : Nat), s.world = w → f.place = .module →
          f.secret = none → f.globals < w.modules.size →
          ∃ (t : Loom) (u : World),
            (exec importModule (depth + 1) f (importStmt id w c)).run s = .ok (.next, f) t ∧
            t.world.moduleAttribute? f.globals first = some v ∧
            w.Grows u ∧ t.world = u.changeModule f.globals (·.put first v) ∧
            (u.moduleAttribute? f.globals first = none → t.world.walk v rest = some (.cls c))) := by
  intro first line
  have hline : Source.importOfClass w c = line := Source.importOfClass_eq w c
  refine ⟨?_, fun home => split_importSource, fun digits hnames => ?_, fun hwords => ?_⟩
  · rw [renderImport, hentry, ← hline]
  · rw [← hline]
    split
    · next hkey => exact parse_importOfClass_keyword digits hnames (List.any_eq_true.mp hkey)
    · next hkey =>
        rw [Bool.not_eq_true, List.any_eq_false] at hkey
        exact parse_importOfClass digits fun n hn =>
          ⟨hnames n hn, Bool.eq_false_iff.mpr (hkey n hn)⟩
  · have hmodule := (List.forall_mem_cons.mp fun n hn => (hwords n hn).1).2
    obtain ⟨owner, howner, hleads⟩ := importSource_leads hbuiltins hreached hmodule
    obtain ⟨v, rest, hsplit, hv, hwalk⟩ := exists_walk hleads
    have hjoin : Text.join "." (Text.split '.' (importSource w c)) = importSource w c :=
      Text.join_split '.' _
    have hne : importSource w c ≠ "" := Text.ne_of_words hmodule (by decide) (by decide)
    refine ⟨importStmt_composed fun n hn => (hwords n hn).2, fits_importStmt w c, v, rest, hsplit,
      hwalk, ?_⟩
    rintro s f depth rfl hplace hsecret hknown
    obtain ⟨t, hgrows, hrun⟩ := Loading.run_importsFrom_kept (hjoin.symm ▸ hne)
      (hjoin.symm ▸ howner) hv depth f
    have hbind := Frame.run_bind_module hplace hsecret first v t
    rw [Act.run_bind_ok hbind] at hrun
    refine ⟨t.changeModule f.globals (·.put first v), t.world, ?_,
      moduleAttribute?_put_self _ (Nat.lt_of_lt_of_le hknown hgrows.size) _ _, hgrows, rfl,
      fun hnone => (hgrows.trans (grows_put hnone v)).walk hwalk⟩
    rw [importStmt, List.map_id]
    exact hrun

/-- A world with a class of the module `_app` that its public module `app` has inside another class,
    and one of the module `_1`, which the module `1` has. -/
def aliasWorld : World where
  classes := #[
    { space := some "_app", name := "Outer", above := [.object], kind := .standard "type",
      attributes := [("Inner", .cls (.defined 1))], shown := "Outer" },
    { space := some "_app", name := "Outer.Inner", above := [.object], kind := .standard "type",
      shown := "Inner" },
    { space := some "_1", name := "Foo", above := [.object], kind := .standard "type",
      shown := "Foo" }]
  modules := #[{ name := "builtins", attributes := [("object", .cls .object)] },
    { name := "woven.gen1" }, { name := "app", attributes := [("Outer", .cls (.defined 0))] },
    { name := "1", attributes := [("Foo", .cls (.defined 2))] }]
  table := [("builtins", 0), ("woven.gen1", 1), ("app", 2), ("1", 3)]

/-- The inner class is imported by the outer one, and arrived at from there. The line for the other
    class names its public module, and cannot be read. -/
theorem class_import_binds_outer :
    let stmt : Stmt := .importsFrom 0 ["app"] [("Outer", none)]
    let f : Frame := { globals := 1 }
    (renderImport aliasWorld (.cls (.defined 1)) = .ok "from app import Outer" ∧
      Parser.parse (Token.ofSource 0 "from app import Outer") = .ok [stmt] ∧
      ∃ (t : Loom) (v : Value),
        (exec importModule 1 f stmt).run { world := aliasWorld } = .ok (.next, f) t ∧
        t.world.moduleAttribute? 1 "Outer" = some v ∧
        aliasWorld.walk v ["Inner"] = some (.cls (.defined 1))) ∧
    renderImport aliasWorld (.cls (.defined 2)) = .ok "from 1 import Foo" ∧
    ∀ stmts, Parser.parse (Token.ofSource 0 "from 1 import Foo") ≠ .ok stmts := by
  intro stmt f
  obtain ⟨hnamed, hsource, hfirst, hparts, hname, hcomposed, hnamed', hsource', hfirst', hrefused⟩ :
      (aliasWorld.publicName (.defined 1)).isSome = true ∧
        importSource aliasWorld (.defined 1) = "app" ∧
        firstPart (aliasWorld.classInfo (.defined 1)).name = "Outer" ∧
        importedParts aliasWorld (.defined 1) = ["Outer", "app"] ∧
        Text.split '.' (aliasWorld.classInfo (.defined 1)).name = ["Outer", "Inner"] ∧
        (∀ n ∈ ["Outer", "app"], IsWord n ∧ Text.composed n = n) ∧
        (aliasWorld.publicName (.defined 2)).isSome = true ∧
        importSource aliasWorld (.defined 2) = "1" ∧
        firstPart (aliasWorld.classInfo (.defined 2)).name = "Foo" ∧
        (Parser.parse (Token.ofSource 0 "from 1 import Foo")).isOk = false := by
    decide +kernel
  have hstmt : importStmt id aliasWorld (.defined 1) = stmt := by
    rw [importStmt, hsource, hfirst, Text.split_of_not_mem (by decide)]
    rfl
  have hwords : ∀ n ∈ importedParts aliasWorld (.defined 1), IsWord n ∧ Text.composed n = n :=
    hparts ▸ hcomposed
  have hinner : aliasWorld.opened (.cls (.defined 1)) = .cls (.defined 1) := rfl
  have hfoo : aliasWorld.opened (.cls (.defined 2)) = .cls (.defined 2) := rfl
  obtain ⟨hline, -, hread, himport⟩ := class_import_binds hinner rfl (.inl hnamed)
  obtain ⟨hread', -, v, rest, hsplit, hwalk, hrun⟩ := himport hwords
  have hread := hread 0 fun n hn => (hwords n hn).1.1
  rw [hsource, hfirst] at hline hread
  rw [if_neg (by rw [hparts]; decide), hread', hstmt] at hread
  rw [hfirst, hname] at hsplit
  obtain ⟨-, rfl⟩ := List.cons.inj hsplit
  obtain ⟨t, -, hexec, hbound, -⟩ := hrun { world := aliasWorld } f 0 rfl rfl rfl (by decide)
  rw [hstmt] at hexec
  rw [hfirst] at hbound
  refine ⟨⟨hline, hread, t, v, hexec, hbound, hwalk⟩, ?_, fun stmts hstmts => ?_⟩
  · have hline := (class_import_binds hfoo rfl (.inl hnamed')).1
    rwa [hsource', hfirst'] at hline
  · rw [hstmts] at hrefused
    cases hrefused

end World

end FragmentWeaver
