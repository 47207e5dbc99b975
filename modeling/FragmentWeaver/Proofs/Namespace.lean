import FragmentWeaver.Proofs.Field
import FragmentWeaver.Proofs.Inference
import FragmentWeaver.Proofs.Reading
import FragmentWeaver.Source.Unit

/-!
# The private names of a unit

All checks of a unit read their helpers and classes from one set of names. The import lines bind the
private names in order; the class of the unit and the fields follow, each under its own name. What a
check reads in the end is what the last of all these lines gave the name, in its composed form. A
check goes to the class that was inferred exactly when no later line has given one of its names to
something else.
-/

namespace FragmentWeaver

open Script (Importer Frame Flow Stmt Reads exec inOrder)
open Source (BindingRecord)

namespace Source

/-- The import of a module under its private name, with the names in it spelled in some way. -/
def moduleStmt (spell : String → String) (m : String) : Stmt :=
  .imports [⟨(Text.split '.' m).map spell, some (spell (privateAlias m))⟩]

/-- The import of the checks and of what takes values out of the store. -/
def checksStmt : Stmt :=
  .importsFrom 0 ["codeweave", "bindings"]
    [("cast", some (privateOpening ++ "cast")), ("steal", some (privateOpening ++ "steal")),
      ("unbox", some (privateOpening ++ "unbox"))]

/-- The import of the entry point. -/
def entryStmt : Stmt :=
  .importsFrom 0 ["codeweave", "runtime", "unit"]
    [("Invocable", some (privateOpening ++ "Invocable"))]

/-- The statements that bind the private names of a unit. -/
def privateStmts (spell : String → String) (rs : List BindingRecord) : List Stmt :=
  moduleStmt id "builtins" :: (castModules rs).map (moduleStmt spell) ++ [checksStmt, entryStmt]

theorem linesAfter_append (margin : String) (xs ys : List Stmt) :
    Script.linesAfter margin (xs ++ ys) =
      Script.linesAfter margin xs ++ Script.linesAfter margin ys := by
  induction xs with
  | nil => rfl
  | cons x xs ih => rw [List.cons_append, Script.linesAfter, Script.linesAfter, ih,
      List.append_assoc]

/-- The line that imports a module under its private name. -/
theorem lines_moduleStmt (m : String) :
    (moduleStmt id m).lines "" = ["import " ++ m ++ " as " ++ privateAlias m] := by
  have hpath : Text.join "." (Text.split '.' m) = m := Text.join_split '.' m
  rw [moduleStmt, List.map_id, Stmt.lines]
  simp only [List.map_cons, List.map_nil, Script.renamed, Text.join_singleton, hpath, id_eq]
  rw [String.empty_append, String.append_assoc, String.append_assoc, String.append_assoc]

/-- Spelled as they are, the statements are the lines that the source of the unit has for the private
    names. -/
theorem linesAfter_privateStmts (rs : List BindingRecord) :
    Script.linesAfter "" (privateStmts id rs) = privateImports rs := by
  have hmodules : Script.linesAfter "" ((castModules rs).map (moduleStmt id)) =
      (castModules rs).map fun m => "import " ++ m ++ " as " ++ privateAlias m := by
    induction castModules rs with
    | nil => rfl
    | cons m ms ih =>
        rw [List.map_cons, List.map_cons, Script.linesAfter, ih, lines_moduleStmt]
        rfl
  rw [privateStmts, privateImports, linesAfter_append, Script.linesAfter, hmodules,
    lines_moduleStmt]
  congr 1

/-- What the import of the checks and of the entry point binds, by private names. -/
def supportNames (entry : Value) : List (String × Value) :=
  [(privateOpening ++ "cast", .native .cast), (privateOpening ++ "steal", .native .steal),
    (privateOpening ++ "unbox", .native .unbox), (privateOpening ++ "Invocable", entry)]

/-- What the imports of some modules bind. -/
def moduleNames (w : World) (ms : List String) : List (String × Value) :=
  ms.filterMap fun m =>
    (w.imported? m).map fun owner => (Text.composed (privateAlias m), .module owner)

/-- All that the import lines bind, in order. -/
def privateNames (w : World) (rs : List BindingRecord) (entry : Value) : List (String × Value) :=
  (privateOpening ++ "builtins", .module World.builtins) :: moduleNames w (castModules rs) ++
    supportNames entry

/-- The private name that the path to a checked class starts with, as it is read. -/
def readRoot (d : Descriptor) : String := Text.composed (targetNames d).1

/-- The names behind it, as they are read. -/
def readPath (d : Descriptor) : List String := (targetNames d).2.map Text.composed

/-- What the class of a unit and some of its fields are kept under. -/
def givenNames (unit : UnitId) (maker : Value) (field : BindingRecord → Value)
    (rs : List BindingRecord) : List (String × Value) :=
  (Text.composed unit.name, maker) :: rs.map fun r => (Text.composed r.name, field r)

end Source

namespace World

/-- The names that are kept in a module. -/
def names? (w : World) (m : ModuleId) : Option (List (String × Value)) :=
  w.modules[m]?.map ModuleRecord.attributes

end World

namespace Script

variable {importer : Importer} {depth : Nat} {f : Frame} {I : World → Prop} {w : World}

/-- In all of some worlds, an action goes on with the next statement and leaves the module of a frame
    with some more names. It leads from one of the worlds to another. -/
def Binds (f : Frame) (I : World → Prop) (action : Act (Flow × Frame))
    (given : List (String × Value)) : Prop :=
  ∀ (s : Loom) (names : List (String × Value)), I s.world → s.world.names? f.globals = some names →
    ∃ t : Loom, action.run s = .ok (.next, f) t ∧ I t.world ∧
      t.world.names? f.globals = some (Assoc.putAll names given)

theorem Binds.nil : Binds f I (inOrder (exec importer depth) [] f) [] :=
  fun s _ hworld hnames => ⟨s, rfl, hworld, hnames⟩

theorem Binds.cons {stmt : Stmt} {rest : List Stmt} {given more : List (String × Value)}
    (hstmt : Binds f I (exec importer depth f stmt) given)
    (hrest : Binds f I (inOrder (exec importer depth) rest f) more) :
    Binds f I (inOrder (exec importer depth) (stmt :: rest) f) (given ++ more) := by
  intro s names hworld hnames
  obtain ⟨t, hrun, hworld', hnames'⟩ := hstmt s names hworld hnames
  obtain ⟨u, hrun', hworld'', hnames''⟩ := hrest t _ hworld' hnames'
  refine ⟨u, ?_, hworld'', ?_⟩
  · rw [inOrder, Act.run_bind_ok hrun]
    exact hrun'
  · rw [hnames'', Assoc.putAll_append]

theorem Binds.append {xs ys : List Stmt} {given more : List (String × Value)}
    (hxs : Binds f I (inOrder (exec importer depth) xs f) given)
    (hys : Binds f I (inOrder (exec importer depth) ys f) more) :
    Binds f I (inOrder (exec importer depth) (xs ++ ys) f) (given ++ more) := by
  intro s names hworld hnames
  obtain ⟨t, hrun, hworld', hnames'⟩ := hxs s names hworld hnames
  obtain ⟨u, hrun', hworld'', hnames''⟩ := hys t _ hworld' hnames'
  refine ⟨u, ?_, hworld'', ?_⟩
  · rw [inOrder_append, Act.run_bind_ok hrun]
    exact hrun'
  · rw [hnames'', Assoc.putAll_append]

/-- A name that a module keeps is read in the module as what is kept. -/
theorem reads_name {names : List (String × Value)} {n : String} {v : Value}
    (hplace : f.place = .module) (hsecret : f.secret = none) (hn : n ≠ fixedName)
    (hnames : w.names? f.globals = some names) (hfind : Assoc.find? names n = some v) :
    Reads importer (depth + 1) f w (.name n) v := by
  intro s hs
  have hkept : s.world.moduleAttribute? f.globals n = some v := by
    obtain ⟨r, hr, rfl⟩ := Option.map_eq_some_iff.mp hnames
    rw [hs, World.moduleAttribute?_of_get hr, ModuleRecord.attribute?, hfind]
  rw [eval]
  exact Frame.run_read_kept hplace hsecret hn hkept

theorem fits_of_mem {place : Place} {stmts : List Stmt} (hfits : fitsAll place stmts = true)
    {stmt : Stmt} (hmem : stmt ∈ stmts) : stmt.fits place = true := by
  induction stmts with
  | nil => cases hmem
  | cons x rest ih =>
      rw [fitsAll, Bool.and_eq_true] at hfits
      rcases List.mem_cons.mp hmem with rfl | hmem
      · exact hfits.1
      · exact ih hfits.2 hmem

/-- A name has no more than one reading. -/
theorem Reads.unique {e : Expr} {v v' : Value} (h : Reads importer depth f w e v)
    (h' : Reads importer depth f w e v') : v = v' := by
  have hsame := (h { world := w } rfl).symm.trans (h' { world := w } rfl)
  cases hsame
  rfl

end Script

/-- The imports of a unit do what they say, in all of some worlds: a module is bound to what stands in
    the module table under its name, the checks and the entry point are those of the support
    modules. -/
structure Script.Imports (importer : Importer) (depth : Nat) (f : Frame) (w : World) (entry : Value)
    (rs : List BindingRecord) (I : World → Prop) : Prop where
  builtins : Binds f I (exec importer depth f (Source.moduleStmt id "builtins"))
    [(Source.privateOpening ++ "builtins", .module World.builtins)]
  module : ∀ m ∈ Source.castModules rs, ∀ owner, w.imported? m = some owner →
    Binds f I (exec importer depth f (Source.moduleStmt Text.composed m))
      [(Text.composed (Source.privateAlias m), Value.module owner)]
  checks : Binds f I (exec importer depth f Source.checksStmt)
    [(Source.privateOpening ++ "cast", .native .cast),
      (Source.privateOpening ++ "steal", .native .steal),
      (Source.privateOpening ++ "unbox", .native .unbox)]
  entry : Binds f I (exec importer depth f Source.entryStmt)
    [(Source.privateOpening ++ "Invocable", entry)]

namespace World

variable {importer : Importer} {depth : Nat} {f : Frame} {I : World → Prop} {w now : World}
  {entry : Value} {rs : List BindingRecord} {d : Descriptor} {c : ClassId}
  {given names : List (String × Value)}

theorem binds_moduleStmts (ms : List String)
    (himports : ∀ m ∈ ms, ∀ owner, w.imported? m = some owner →
      Script.Binds f I (exec importer depth f (Source.moduleStmt Text.composed m))
        [(Text.composed (Source.privateAlias m), Value.module owner)])
    (hmodules : ∀ m ∈ ms, (w.imported? m).isSome) :
    Script.Binds f I
      (inOrder (exec importer depth) (ms.map (Source.moduleStmt Text.composed)) f)
      (Source.moduleNames w ms) := by
  induction ms with
  | nil => exact .nil
  | cons m ms ih =>
      obtain ⟨owner, howner⟩ := Option.isSome_iff_exists.mp (hmodules m List.mem_cons_self)
      have hnames : Source.moduleNames w (m :: ms) =
          [(Text.composed (Source.privateAlias m), Value.module owner)] ++ Source.moduleNames w ms := by
        rw [Source.moduleNames, List.filterMap_cons, howner]
        rfl
      rw [hnames]
      exact (himports m List.mem_cons_self owner howner).cons
        (ih (fun m hm => himports m (List.mem_cons_of_mem _ hm))
          fun m hm => hmodules m (List.mem_cons_of_mem _ hm))

/-- The import lines of a unit go well and bind the private names. -/
theorem binds_privateStmts (himports : Script.Imports importer depth f w entry rs I)
    (hmodules : ∀ m ∈ Source.castModules rs, (w.imported? m).isSome) :
    Script.Binds f I (inOrder (exec importer depth) (Source.privateStmts Text.composed rs) f)
      (Source.privateNames w rs entry) := by
  have hclasses := himports.builtins.cons (binds_moduleStmts _ himports.module hmodules)
  have hsupport := himports.checks.cons (himports.entry.cons Script.Binds.nil)
  exact hclasses.append hsupport

/-- The names that the unit keeps for itself are in composed form. -/
theorem composed_private : ∀ n ∈ ["builtins", "cast", "steal", "unbox", "Invocable"],
    Text.composed (Source.privateOpening ++ n) = Source.privateOpening ++ n := by
  decide +kernel

theorem composed_checkName (d : Descriptor) :
    Text.composed (Source.checkName d) = Source.checkName d := by
  unfold Source.checkName
  split
  · exact composed_private "unbox" (by decide)
  · exact composed_private "cast" (by decide)

/-- A check reads what it is meant to read in the world at hand: its name stands for the function that
    makes it, and the path behind it starts where it leads to the class. -/
structure ChecksAs (importer : Importer) (depth : Nat) (f : Frame) (w now : World) (d : Descriptor)
    (c : ClassId) : Prop where
  helper : Reads importer (depth + 1) f now (.name (Text.composed (Source.checkName d)))
    (.native (Source.checkFunction d))
  target : ∃ root, Reads importer (depth + 1) f now (.name (Source.readRoot d)) root ∧
    w.walk root (Source.readPath d) = some (.cls c)

/-- No line behind the import of a name has given the name to something that makes a difference.
    `given` are the names that the class of the unit and the earlier fields have given, in order. The
    private name of a class may have gone to one of them, to what the unit imports for itself, or to
    the last module that shares it. -/
structure Undisturbed (w : World) (rs : List BindingRecord) (entry : Value)
    (given : List (String × Value)) (d : Descriptor) (c : ClassId) : Prop where
  helper : ∀ v, Assoc.find? given.reverse (Text.composed (Source.checkName d)) = some v →
    v = .native (Source.checkFunction d)
  field : ∀ v, Assoc.find? given.reverse (Source.readRoot d) = some v →
    w.walk v (Source.readPath d) = some (.cls c)
  support : Assoc.find? given.reverse (Source.readRoot d) = none →
    ∀ v, Assoc.find? (Source.supportNames entry).reverse (Source.readRoot d) = some v →
      w.walk v (Source.readPath d) = some (.cls c)
  module : Assoc.find? given.reverse (Source.readRoot d) = none →
    Assoc.find? (Source.supportNames entry).reverse (Source.readRoot d) = none →
    ∀ v, Assoc.find? (Source.moduleNames w (Source.castModules rs)).reverse (Source.readRoot d) =
      some v → w.walk v (Source.readPath d) = some (.cls c)
  builtin : Assoc.find? given.reverse (Source.readRoot d) = none →
    Assoc.find? (Source.supportNames entry).reverse (Source.readRoot d) = none →
    Assoc.find? (Source.moduleNames w (Source.castModules rs)).reverse (Source.readRoot d) = none →
    w.walk (.module builtins) (Source.readPath d) = some (.cls c)

section Lookup

/-- What a name stands for among the private names and the names that are given later. -/
theorem find?_given (n : String) :
    Assoc.find? (Assoc.putAll (Assoc.putAll names (Source.privateNames w rs entry)) given) n =
      (Assoc.find? given.reverse n).or
        ((Assoc.find? (Source.supportNames entry).reverse n).or
          ((Assoc.find? (Source.moduleNames w (Source.castModules rs)).reverse n).or
            ((Assoc.find? [(Source.privateOpening ++ "builtins", .module builtins)] n).or
              (Assoc.find? names n)))) := by
  rw [Assoc.find?_putAll, Assoc.find?_putAll, Source.privateNames, List.cons_append,
    List.reverse_cons, List.reverse_append, Assoc.find?_append, Assoc.find?_append,
    Option.or_assoc, Option.or_assoc]

/-- Whatever was there before, the name of a check is there for the function behind it. -/
theorem find?_support (entry : Value) (d : Descriptor) :
    Assoc.find? (Source.supportNames entry).reverse (Text.composed (Source.checkName d)) =
      some (.native (Source.checkFunction d)) := by
  rw [composed_checkName, Source.checkName, Source.checkFunction]
  split
  · rfl
  · rfl

theorem readRoot_of_builtin (hcast : Source.castModule? d = none) :
    Source.readRoot d = Source.privateOpening ++ "builtins" := by
  rw [Source.readRoot, Source.targetNames, hcast]
  exact composed_private "builtins" (by decide)

theorem readRoot_of_module {m : String} (hcast : Source.castModule? d = some m) :
    Source.readRoot d = Text.composed (Source.privateAlias m) := by
  rw [Source.readRoot, Source.targetNames, hcast]

theorem mem_castModules {m : String} :
    m ∈ Source.castModules rs ↔ ∃ r ∈ rs, Source.castModule? r.descriptor = some m := by
  rw [Source.castModules, (Text.sorted_perm _).mem_iff, mem_distinct, List.mem_filterMap]

/-- In a source that keeps the rules, the path to a class does not start with a fixed name. -/
theorem target_not_fixed {r : BindingRecord} (hr : r ∈ rs)
    (hfits : Script.fitsAll .module (Source.privateStmts Text.composed rs) = true) :
    Source.readRoot r.descriptor ≠ Script.fixedName := by
  cases hcast : Source.castModule? r.descriptor with
  | none =>
      rw [readRoot_of_builtin hcast]
      decide
  | some m =>
      rw [readRoot_of_module hcast]
      have hstmt : Source.moduleStmt Text.composed m ∈ Source.privateStmts Text.composed rs :=
        List.mem_append_left _
          (List.mem_cons_of_mem _ (List.mem_map_of_mem (mem_castModules.mpr ⟨r, hr, hcast⟩)))
      simpa [Stmt.fits, Source.moduleStmt, Script.ImportItem.bound] using
        Script.fits_of_mem hfits hstmt

theorem mem_moduleNames {ms : List String} {n : String} {v : Value} :
    (n, v) ∈ Source.moduleNames w ms ↔ ∃ m ∈ ms, ∃ owner, w.imported? m = some owner ∧
      Text.composed (Source.privateAlias m) = n ∧ Value.module owner = v := by
  simp only [Source.moduleNames, List.mem_filterMap, Option.map_eq_some_iff, Prod.mk.injEq]

/-- The module of a checked class has its private name, unless a later module of the same private name
    has it. -/
theorem find?_moduleNames {r : BindingRecord} (hr : r ∈ rs) {m : String} {owner : ModuleId}
    (hcast : Source.castModule? r.descriptor = some m) (howner : w.imported? m = some owner) :
    Assoc.find? (Source.moduleNames w (Source.castModules rs)).reverse
      (Text.composed (Source.privateAlias m)) ≠ none := by
  rw [Ne, Assoc.find?_eq_none_iff, not_not]
  have hmem : (Text.composed (Source.privateAlias m), Value.module owner) ∈
      Source.moduleNames w (Source.castModules rs) :=
    mem_moduleNames.mpr ⟨m, mem_castModules.mpr ⟨r, hr, hcast⟩, owner, howner, rfl, rfl⟩
  exact Assoc.mem_keys (List.mem_reverse.mpr hmem)

/-- When no module has the private name of a class, the class is one of the built-in names. -/
theorem castModule?_of_unnamed {r : BindingRecord} (hr : r ∈ rs)
    (hdenotes : w.Denotes r.descriptor c)
    (hmodule : Assoc.find? (Source.moduleNames w (Source.castModules rs)).reverse
      (Source.readRoot r.descriptor) = none) :
    Source.castModule? r.descriptor = none := by
  unfold Denotes resolved? at hdenotes
  cases hcast : Source.castModule? r.descriptor with
  | none => rfl
  | some m =>
      rw [readRoot_of_module hcast] at hmodule
      rw [hcast] at hdenotes
      dsimp only at hdenotes
      cases howner : w.imported? m with
      | none =>
          rw [howner] at hdenotes
          cases hdenotes
      | some owner => exact absurd hmodule (find?_moduleNames hr hcast howner)

/-- A check reads what it is meant to read exactly when its names are undisturbed. -/
theorem checksAs_iff_undisturbed {r : BindingRecord} (hplace : f.place = .module)
    (hsecret : f.secret = none) (hr : r ∈ rs) (hdenotes : w.Denotes r.descriptor c)
    (hfixed : Source.readRoot r.descriptor ≠ Script.fixedName)
    (hnow : now.names? f.globals =
      some (Assoc.putAll (Assoc.putAll names (Source.privateNames w rs entry)) given)) :
    ChecksAs importer depth f w now r.descriptor c ↔ w.Undisturbed rs entry given r.descriptor c := by
  have hread {n : String} {v : Value} (hn : n ≠ Script.fixedName)
      (hfind : Assoc.find? (Assoc.putAll (Assoc.putAll names (Source.privateNames w rs entry)) given)
        n = some v) : Reads importer (depth + 1) f now (.name n) v :=
    Script.reads_name hplace hsecret hn hnow hfind
  have hhelperFixed : Text.composed (Source.checkName r.descriptor) ≠ Script.fixedName := by
    rw [composed_checkName, Source.checkName]
    split
    · decide
    · decide
  have hbuiltin (hmodule : Assoc.find? (Source.moduleNames w (Source.castModules rs)).reverse
      (Source.readRoot r.descriptor) = none) :
      Assoc.find? [(Source.privateOpening ++ "builtins", Value.module builtins)]
        (Source.readRoot r.descriptor) = some (Value.module builtins) := by
    rw [readRoot_of_builtin (castModule?_of_unnamed hr hdenotes hmodule), Assoc.find?, if_pos rfl]
  constructor
  · rintro ⟨hhelper, root, hroot, hwalk⟩
    have hleads {v : Value} (hfind : Assoc.find? (Assoc.putAll (Assoc.putAll names
        (Source.privateNames w rs entry)) given)
          (Source.readRoot r.descriptor) = some v) :
        w.walk v (Source.readPath r.descriptor) = some (.cls c) := by
      rw [(hread hfixed hfind).unique hroot]
      exact hwalk
    refine ⟨fun v hv => ?_, fun v hv => ?_, fun hfield v hv => ?_, fun hfield hsupport v hv => ?_,
      fun hfield hsupport hmodule => ?_⟩
    · refine (hread hhelperFixed ?_).unique hhelper
      rw [find?_given, hv, Option.some_or]
    · refine hleads ?_
      rw [find?_given, hv, Option.some_or]
    · refine hleads ?_
      rw [find?_given, hfield, hv, Option.none_or, Option.some_or]
    · refine hleads ?_
      rw [find?_given, hfield, hsupport, hv, Option.none_or, Option.none_or, Option.some_or]
    · refine hleads ?_
      rw [find?_given, hfield, hsupport, hmodule, hbuiltin hmodule, Option.none_or, Option.none_or,
        Option.none_or, Option.some_or]
  · intro hclear
    refine ⟨hread hhelperFixed ?_, ?_⟩
    · rw [find?_given, find?_support]
      cases hgiven : Assoc.find? given.reverse (Text.composed (Source.checkName r.descriptor)) with
      | none => rw [Option.none_or, Option.some_or]
      | some v => rw [Option.some_or, hclear.helper v hgiven]
    · cases hfield : Assoc.find? given.reverse
          (Source.readRoot r.descriptor) with
      | some v =>
          refine ⟨v, hread hfixed ?_, hclear.field v hfield⟩
          rw [find?_given, hfield, Option.some_or]
      | none =>
          cases hsupport : Assoc.find? (Source.supportNames entry).reverse
              (Source.readRoot r.descriptor) with
          | some v =>
              refine ⟨v, hread hfixed ?_, hclear.support hfield v hsupport⟩
              rw [find?_given, hfield, hsupport, Option.none_or, Option.some_or]
          | none =>
              cases hmodule : Assoc.find? (Source.moduleNames w (Source.castModules rs)).reverse
                  (Source.readRoot r.descriptor) with
              | some v =>
                  refine ⟨v, hread hfixed ?_, hclear.module hfield hsupport v hmodule⟩
                  rw [find?_given, hfield, hsupport, hmodule, Option.none_or, Option.none_or,
                    Option.some_or]
              | none =>
                  refine ⟨.module builtins, hread hfixed ?_,
                    hclear.builtin hfield hsupport hmodule⟩
                  rw [find?_given, hfield, hsupport, hmodule, hbuiltin hmodule, Option.none_or,
                    Option.none_or, Option.none_or, Option.some_or]

end Lookup

section Apart

/-- The names of a unit do not meet. The names of the bindings, the private name of the class and the
    names behind it are in composed form; the private name is none of those that the unit imports for
    itself, and no module but the one that it is meant for has it. -/
structure Apart (rs : List BindingRecord) (d : Descriptor) : Prop where
  field : ∀ r ∈ rs, Text.composed r.name = r.name
  root : Source.readRoot d = (Source.targetNames d).1
  path : Source.readPath d = (Source.targetNames d).2
  support : Source.readRoot d ∉
    ["cast", "steal", "unbox", "Invocable"].map fun n => Source.privateOpening ++ n
  module : ∀ m ∈ Source.castModules rs,
    Text.composed (Source.privateAlias m) = Source.readRoot d → Source.castModule? d = some m

theorem composed_ascii {s : String} (h : (s.toList.all fun c => c.toNat < 128) = true) :
    Text.composed s = s := by
  rw [Text.composed, if_pos h]

/-- The name of the class of a numbered unit is in composed form, and none of the private names. -/
theorem numbered_name (k : Int) :
    Text.composed (UnitId.numbered k).name = (UnitId.numbered k).name ∧
      Text.beginsWith Source.privateOpening (UnitId.numbered k).name = false := by
  constructor
  · apply composed_ascii
    rw [List.all_eq_true]
    intro ch hch
    simp only [UnitId.numbered, UnitId.numberedOpening, Number.wholeText, String.toList_append,
      List.mem_append, String.toList_ofList] at hch
    rcases hch with hch | hch
    · have hopening : (UnitId.numberedOpening.toList.all fun c => c.toNat < 128) = true := by
        decide
      exact List.all_eq_true.mp hopening ch hch
    · rcases Number.mem_wholeChars hch with rfl | hdigit
      · decide
      · rw [Char.isDigit, Bool.and_eq_true, decide_eq_true_eq, decide_eq_true_eq] at hdigit
        have hle : ch.toNat ≤ '9'.toNat := hdigit.2
        exact decide_eq_true (Nat.lt_of_le_of_lt hle (by decide))
  · rw [Text.beginsWith, UnitId.numbered, String.toList_append]
    rfl

/-- Names in composed form that are given to the class of a numbered unit and to accepted bindings are
    no private names. -/
theorem find?_givenNames {k : Int} {bindings : List (Value × Value)} {pre : List BindingRecord}
    (hrecords : Source.records w (.numbered k) bindings = .ok rs) (hpre : ∀ r ∈ pre, r ∈ rs)
    (hfield : ∀ r ∈ rs, Text.composed r.name = r.name) (maker : Value)
    (field : BindingRecord → Value) (n : String) :
    Assoc.find? (Source.givenNames (.numbered k) maker field pre).reverse
      (Source.privateOpening ++ n) = none := by
  rw [Assoc.find?_eq_none_iff]
  intro hmem
  rw [Assoc.keys, List.mem_map] at hmem
  obtain ⟨⟨name, v⟩, hmem, hname⟩ := hmem
  have hprivate : Text.beginsWith Source.privateOpening name = true := by
    rw [show name = Source.privateOpening ++ n from hname]
    exact Text.beginsWith_append _ _
  rw [List.mem_reverse, Source.givenNames, List.mem_cons] at hmem
  rcases hmem with hclass | hmem
  · cases hclass
    obtain ⟨hcomposed, hopening⟩ := numbered_name k
    rw [hcomposed, hopening] at hprivate
    cases hprivate
  · obtain ⟨r, hr, hrecord⟩ := List.mem_map.mp hmem
    cases hrecord
    obtain ⟨b, hb⟩ := Source.exists_recordOf hrecords (hpre r hr)
    rw [hfield r (hpre r hr), (Source.checkBindingName_ok hb.accepted).2.1] at hprivate
    cases hprivate

theorem targetNames_private (d : Descriptor) :
    ∃ n, (Source.targetNames d).1 = Source.privateOpening ++ n := by
  unfold Source.targetNames
  split
  · exact ⟨_, rfl⟩
  · exact ⟨_, rfl⟩

/-- Where the names do not meet, nothing disturbs a check. -/
theorem undisturbed_of_apart {k : Int} {bindings : List (Value × Value)}
    {pre : List BindingRecord} {r : BindingRecord}
    (hrecords : Source.records w (.numbered k) bindings = .ok rs) (hpre : ∀ r ∈ pre, r ∈ rs)
    (hr : r ∈ rs) (hdenotes : w.Denotes r.descriptor c) (hapart : Apart rs r.descriptor)
    (maker : Value) (field : BindingRecord → Value) :
    w.Undisturbed rs entry (Source.givenNames (.numbered k) maker field pre) r.descriptor c := by
  obtain ⟨n, hn⟩ := targetNames_private r.descriptor
  have hgiven := find?_givenNames hrecords hpre hapart.field maker field
  refine ⟨fun v hv => ?_, fun v hv => ?_, fun _ v hv => ?_, fun _ _ v hv => ?_,
    fun _ _ hmodule => ?_⟩
  · rw [composed_checkName, Source.checkName, hgiven] at hv
    cases hv
  · rw [hapart.root, hn, hgiven] at hv
    cases hv
  · exact absurd (Assoc.mem_keys (List.mem_reverse.mp (Assoc.mem_of_find? hv))) hapart.support
  · obtain ⟨m, hm, owner, howner, hname, rfl⟩ :=
      mem_moduleNames.mp (List.mem_reverse.mp (Assoc.mem_of_find? hv))
    have hcast := hapart.module m hm hname
    rw [hapart.path, Source.targetNames, hcast]
    rw [Denotes, resolved?, hcast] at hdenotes
    dsimp only at hdenotes ⊢
    rw [howner, Option.bind_some] at hdenotes
    exact hdenotes
  · have hcast := castModule?_of_unnamed hr hdenotes hmodule
    rw [hapart.path, Source.targetNames, hcast]
    rw [Denotes, resolved?, hcast] at hdenotes
    exact hdenotes

end Apart

/-- Whether the check of a field goes to the class that was inferred for it, whatever other bindings the
    unit has. The import lines bind the private names; then the class of the unit and the earlier
    fields get their values. In any world with those names the check reads what it is meant to read
    exactly when none of its names has gone to something else since; that is so in particular where
    the names do not meet. -/
theorem field_checksAs_iff (importer : Importer) (depth : Nat) (f : Frame) (w : World) (k : Int)
    (entry maker : Value) (bindings : List (Value × Value)) (rs pre post : List BindingRecord)
    (r : BindingRecord) (c : ClassId) (I : World → Prop) (field : BindingRecord → Value)
    (hplace : f.place = .module) (hsecret : f.secret = none) (hw : w.Furnished)
    (himports : Script.Imports importer depth f w entry rs I)
    (hfits : Script.fitsAll .module (Source.privateStmts Text.composed rs) = true)
    (hrecords : Source.records w (.numbered k) bindings = .ok rs) (hsplit : rs = pre ++ r :: post)
    (hdenotes : w.Denotes r.descriptor c) :
    let given := Source.givenNames (.numbered k) maker field pre
    (Script.linesAfter "" (Source.privateStmts id rs) = Source.privateImports rs ∧
        Source.castTarget r.descriptor = (Source.targetExpr id r.descriptor).source) ∧
      (∀ (s : Loom) (names : List (String × Value)), I s.world →
        s.world.names? f.globals = some names →
        ∃ (t : Loom) (bound : List (String × Value)),
          (inOrder (exec importer depth) (Source.privateStmts Text.composed rs) f).run s =
              .ok (.next, f) t ∧
            t.world.names? f.globals = some bound ∧
            ∀ now : World, now.names? f.globals = some (Assoc.putAll bound given) →
              (ChecksAs importer depth f w now r.descriptor c ↔
                w.Undisturbed rs entry given r.descriptor c)) ∧
      (Apart rs r.descriptor → w.Undisturbed rs entry given r.descriptor c) := by
  intro given
  have hr : r ∈ rs := hsplit ▸ List.mem_append_right pre List.mem_cons_self
  have hpre : ∀ q ∈ pre, q ∈ rs := fun q hq => hsplit ▸ List.mem_append_left _ hq
  have hmodules : ∀ m ∈ Source.castModules rs, (w.imported? m).isSome := by
    intro m hm
    obtain ⟨q, hq, hcast⟩ := mem_castModules.mp hm
    obtain ⟨b, hb⟩ := Source.exists_recordOf hrecords hq
    rw [hb.declared] at hcast
    exact imported_of_infer hw hcast
  refine ⟨⟨Source.linesAfter_privateStmts rs, Source.castTarget_eq r.descriptor⟩,
    fun s names hworld hnames => ?_, fun hapart => ?_⟩
  · obtain ⟨t, hrun, -, hbound⟩ := binds_privateStmts himports hmodules s names hworld hnames
    exact ⟨t, _, hrun, hbound, fun now hnow =>
      checksAs_iff_undisturbed hplace hsecret hr hdenotes (target_not_fixed hr hfits) hnow⟩
  · exact undisturbed_of_apart hrecords hpre hr hdenotes hapart maker field

section Foo

/-- Modules are taken from the table. -/
def fromTable : Importer := fun name => do
  match (← Act.world).imported? name with
  | some m => return m
  | none => Act.fail (.import (.noModule name))

/-- The two classes and a module of a unit, which keeps some names. -/
def withUnit (names : List (String × Value)) : World :=
  { twoClasses with
    modules := twoClasses.modules.push { name := "woven.gen1", attributes := names } }

/-- The frame of the module of the unit. -/
def unitFrame : Frame := { globals := 7, mode := { postponed := true } }

/-- The record of an instance of `Foo` under some name. -/
def fooRecord (name : String) : BindingRecord :=
  ⟨name, .object 0 (.defined 0), .ofName ⟨some "app", "app.Foo"⟩⟩

/-- Two bindings of one unit. -/
def twoFoos : List BindingRecord := [fooRecord "a", fooRecord "b"]

theorem binds_withUnit {action : Act (Flow × Frame)}
    (haction : ∀ (s : Loom) (names : List (String × Value)), s.world = withUnit names →
      ∃ t : Loom, action.run s = .ok (.next, unitFrame) t ∧
        t.world = withUnit (Assoc.putAll names given)) :
    Script.Binds unitFrame (fun w => ∃ names, w = withUnit names) action given := by
  rintro s names ⟨names', hworld⟩ hnames
  rw [hworld] at hnames
  have hsame : names' = names := Option.some.inj hnames
  subst hsame
  obtain ⟨t, hrun, ht⟩ := haction s names' hworld
  exact ⟨t, hrun, ⟨_, ht⟩, by rw [ht]; rfl⟩

theorem twoFoos_imports :
    Script.Imports fromTable 1 unitFrame twoClasses
      (.cls (.standard "codeweave.runtime.unit.Invocable")) twoFoos
      (fun w => ∃ names, w = withUnit names) where
  builtins := binds_withUnit fun s names hs => by
    cases s
    cases hs
    exact ⟨_, rfl, rfl⟩
  module := by
    intro m hm owner howner
    have hmodules : Source.castModules twoFoos = ["app"] := by decide +kernel
    rw [hmodules] at hm
    cases List.mem_singleton.mp hm
    have happ : twoClasses.imported? "app" = some 3 := by decide +kernel
    cases happ.symm.trans howner
    refine binds_withUnit fun s names hs => ?_
    cases s
    cases hs
    exact ⟨_, rfl, rfl⟩
  checks := binds_withUnit fun s names hs => by
    cases s
    cases hs
    exact ⟨_, rfl, rfl⟩
  entry := binds_withUnit fun s names hs => by
    cases s
    cases hs
    exact ⟨_, rfl, rfl⟩

theorem twoFoos_apart : Apart twoFoos (fooRecord "b").descriptor where
  field := by decide +kernel
  root := by decide +kernel
  path := by decide +kernel
  support := by decide +kernel
  module := by decide +kernel

theorem fooRecord_denotes (name : String) :
    twoClasses.Denotes (fooRecord name).descriptor (.defined 0) := by
  have hfoo : twoClasses.resolved? (.ofName ⟨some "app", "app.Foo"⟩) = some (.cls (.defined 0)) := by
    decide +kernel
  exact hfoo

theorem field_checksAs_foo :
    ∃ (t : Loom) (bound : List (String × Value)),
      (inOrder (exec fromTable 1) (Source.privateStmts Text.composed twoFoos) unitFrame).run
          { world := withUnit [] } = .ok (.next, unitFrame) t ∧
        t.world.names? 7 = some bound ∧
        ∀ now : World, now.names? 7 = some (Assoc.putAll bound
            (Source.givenNames (.numbered 1) .null BindingRecord.value [fooRecord "a"])) →
          ChecksAs fromTable 1 unitFrame twoClasses now (fooRecord "b").descriptor (.defined 0) := by
  obtain ⟨-, hrun, hapart⟩ := field_checksAs_iff fromTable 1 unitFrame twoClasses 1
    (.cls (.standard "codeweave.runtime.unit.Invocable")) .null
    [(.text "a", .object 0 (.defined 0)), (.text "b", .object 0 (.defined 0))] twoFoos
    [fooRecord "a"] [] (fooRecord "b") (.defined 0) (fun w => ∃ names, w = withUnit names)
    BindingRecord.value rfl rfl twoClasses_furnished twoFoos_imports (by decide +kernel)
    (by decide +kernel) rfl (fooRecord_denotes "b")
  obtain ⟨t, bound, hrun, hbound, hchecks⟩ := hrun { world := withUnit [] } [] ⟨[], rfl⟩ rfl
  exact ⟨t, bound, hrun, hbound, fun now hnow => (hchecks now hnow).mpr (hapart twoFoos_apart)⟩

/-- Two modules with one private name: `Foo` is a class of the first one. -/
def sharedAlias : World :=
  { twoClasses with
    modules := #[
      { name := "x.y", attributes := [("Foo", .cls (.defined 0))] },
      { name := "x_y", attributes := [("Bar", .cls (.defined 1))] }]
    table := [("x.y", 0), ("x_y", 1)] }

/-- An instance of each of the two classes. -/
def fooAndBar : List BindingRecord :=
  [⟨"a", .object 0 (.defined 0), .ofName ⟨some "x.y", "x.y.Foo"⟩⟩,
    ⟨"b", .object 0 (.defined 1), .ofName ⟨some "x_y", "x_y.Bar"⟩⟩]

/-- The instance of `Bar` redirects the check of the instance of `Foo`. -/
theorem field_disturbed_foo :
    ¬ sharedAlias.Undisturbed fooAndBar .null
      (Source.givenNames (.numbered 1) .null BindingRecord.value [])
      (.ofName ⟨some "x.y", "x.y.Foo"⟩) (.defined 0) := by
  intro hclear
  have hmodules : Source.castModules fooAndBar = ["x.y", "x_y"] := by decide +kernel
  have hmodule := hclear.module (by decide +kernel) (by decide +kernel) (.module 1)
  rw [hmodules] at hmodule
  have hnowhere : sharedAlias.walk (.module 1)
      (Source.readPath (.ofName ⟨some "x.y", "x.y.Foo"⟩)) = none := by
    decide +kernel
  cases hnowhere.symm.trans (hmodule (by decide +kernel))

end Foo

end World

end FragmentWeaver
