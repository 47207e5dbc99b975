import FragmentWeaver.Account

/-!
# The chronicle of imports

What becomes of the module table while modules are imported, told event by event. A body is started for
a name that is not in the table, with the new module standing there; when it is carried out to its end,
the module still stands there, and when it fails, its name is taken out. An import of a name that is in
the table finds the module that stands there. As long as code itself does not edit the table, nothing
else becomes of it.
-/

namespace FragmentWeaver

/-- Which module stands under a name. -/
abbrev Table := String → Option ModuleId

namespace Table

/-- A module is entered under a name. -/
def put (b : Table) (name : String) (m : ModuleId) : Table := fun other =>
  if other = name then some m else b other

/-- A name is taken out. -/
def drop (b : Table) (name : String) : Table := fun other => if other = name then none else b other

variable (b : Table) {name other : String}

@[simp]
theorem put_self (m : ModuleId) : b.put name m name = some m := if_pos rfl

theorem put_of_ne (h : other ≠ name) (m : ModuleId) : b.put name m other = b other := if_neg h

/-- Nothing becomes of the table when the module stands there already. -/
theorem put_eq_self {b : Table} {m : ModuleId} (h : b name = some m) : b.put name m = b := by
  funext other
  by_cases hother : other = name
  · rw [hother, put_self, h]
  · exact put_of_ne b hother m

@[simp]
theorem drop_self : b.drop name name = none := if_pos rfl

theorem drop_of_ne (h : other ≠ name) : b.drop name other = b other := if_neg h

end Table

namespace World

/-- Which module stands under a name. -/
def tableOf (w : World) : Table := w.imported?

variable (w : World)

theorem tableOf_enter (name : String) (m : ModuleId) :
    (w.enter name m).tableOf = w.tableOf.put name m := by
  funext other
  by_cases h : other = name
  · subst h
    rw [Table.put_self]
    exact imported?_enter_self w other m
  · rw [Table.put_of_ne _ h]
    exact imported?_enter_of_ne w h m

theorem tableOf_leave (name : String) : (w.leave name).tableOf = w.tableOf.drop name := by
  funext other
  by_cases h : other = name
  · subst h
    rw [Table.drop_self]
    exact imported?_leave_self w other
  · rw [Table.drop_of_ne _ h]
    exact imported?_leave_of_ne w h

end World

/-- How a table can become another one, and what happens on the way. The events of a body lie between
    its start and its end. -/
inductive Chronicle : Table → List ModuleEvent → Table → Prop
  | idle (b : Table) : Chronicle b [] b
  | next {a b c : Table} {es es' : List ModuleEvent} (h : Chronicle a es b) (h' : Chronicle b es' c) :
      Chronicle a (es ++ es') c
  /-- A module that comes with a standard one. -/
  | brought {b : Table} {name : String} (m : ModuleId) (hname : '.' ∉ name.toList)
      (h : b name = none) : Chronicle b [] (b.put name m)
  | took (b : Table) (unit : String) (name : Value) : Chronicle b [.took unit name] b
  | imported {b : Table} {name : String} {m : ModuleId} (h : b name = some m) :
      Chronicle b [.imported name m] b
  | completed {a b : Table} {name : String} {m : ModuleId} {byImport : Bool} {es : List ModuleEvent}
      (hname : a name = none) (h : Chronicle (a.put name m) es b) (hend : b name = some m) :
      Chronicle a (.started name m byImport :: es ++ [ModuleEvent.completed name m]) b
  | failed {a b : Table} {name : String} {m : ModuleId} {byImport : Bool} {es : List ModuleEvent}
      (hname : a name = none) (h : Chronicle (a.put name m) es b) :
      Chronicle a (.started name m byImport :: es ++ [ModuleEvent.failed name m]) (b.drop name)

/-- What the descriptions of a context depend on. -/
def Context.face (c : Context) : Files.Path × String × Bool := (c.root, c.space, c.closed)

theorem Context.source?_congr {c d : Context} (h : c.face = d.face) (files : Files.Tree)
    (cwd : List String) (name : String) : c.source? files cwd name = d.source? files cwd name := by
  obtain ⟨root, space, given, loaded, closed⟩ := c
  obtain ⟨root', space', given', loaded', closed'⟩ := d
  obtain ⟨rfl, rfl, rfl⟩ : root = root' ∧ space = space' ∧ closed = closed' := by
    simpa only [face, Prod.mk.injEq] using h
  rfl

namespace Loom

/-- The first context that imports ask describes the module of a name. -/
def Offers (s : Loom) (c : Nat) (name : String) : Prop :=
  s.finders.head? = some c ∧ ∃ context source, s.contexts[c]? = some context ∧
    context.source? s.files s.around.cwd name = .ok (some source)

/-- The module under a name says that it was made from a description that a context gave out for the
    name. -/
def Holds (s : Loom) (c : Nat) (name : String) : Prop :=
  ∃ m n, s.world.imported? name = some m ∧ s.world.specOf? m = some n ∧ n ∈ s.givenFor c name

/-- What imports ask, and what they are told, does not change. -/
structure SameOffers (s t : Loom) : Prop where
  asked : t.asked = s.asked
  files : t.files = s.files
  around : t.around = s.around
  faces : t.contexts.map Context.face = s.contexts.map Context.face

/-- Some events tell what becomes of the table between two states. A name of which the first context
    knows is entered by that context, if at all. -/
structure Tells (s t : Loom) (events : List ModuleEvent) : Prop where
  chronicle : Chronicle s.world.tableOf events t.world.tableOf
  claimed : ∀ {c name}, '.' ∈ name.toList → s.Offers c name → s.world.imported? name = none →
    t.world.imported? name ≠ none → t.Holds c name

/-- What was remembered between two states tells what became of the table, as far as it is not told by
    the edits of code in between; and every body was started on behalf of an import. -/
def Recounted (s t : Loom) : Prop :=
  ∃ edits events, t.edits = s.edits ++ edits ∧ t.history = s.history ++ events ∧
    (∀ name m, .started name m false ∉ events) ∧ (edits = [] → s.Tells t events)

variable {names : List String} {s t u : Loom} {c : Nat} {name : String}

theorem SameOffers.trans (h : s.SameOffers t) (h' : t.SameOffers u) : s.SameOffers u :=
  ⟨h'.asked.trans h.asked, h'.files.trans h.files, h'.around.trans h.around,
    h'.faces.trans h.faces⟩

theorem SameOffers.offers (h : s.SameOffers t) (hs : s.Offers c name) : t.Offers c name := by
  obtain ⟨hfirst, context, source, hc, hsource⟩ := hs
  have hfaces := congrArg (·[c]?) h.faces
  simp only [Array.getElem?_map, hc, Option.map_some] at hfaces
  obtain ⟨after, hafter, hface⟩ := Option.map_eq_some_iff.mp hfaces
  refine ⟨?_, after, source, hafter, ?_⟩
  · rw [finders, h.asked]
    exact hfirst
  · rw [h.files, h.around, Context.source?_congr hface]
    exact hsource

/-- A module that a context claims goes on to be claimed, as long as no code edits the table. -/
theorem Holds.keep (h : s.Holds c name) (hname : name ∉ names) (hentries : KeepsEntries names s t)
    (hspecs : s.KeepsSpecs t) : t.Holds c name := by
  obtain ⟨m, n, hm, hn, hmem⟩ := h
  obtain ⟨htable, hgiven⟩ := hentries name m hname hm
  have hlt : m < s.world.modules.size := by
    obtain ⟨r, hr, -⟩ := Option.bind_eq_some_iff.mp hn
    exact (Array.getElem?_eq_some_iff.mp hr).1
  exact ⟨m, n, htable, (hspecs.specs m hlt).trans hn, hgiven c ▸ hmem⟩

/-- Nothing is told when nothing becomes of the table. -/
theorem tells_nil (h : t.world.tableOf = s.world.tableOf) : s.Tells t [] where
  chronicle := h ▸ .idle _
  claimed _ _ hs ht := absurd ((congrFun h _).trans hs) ht

theorem Tells.trans {es es' : List ModuleEvent} (h : s.Tells t es) (hoffers : s.SameOffers t)
    (h' : t.Tells u es') (hentries : KeepsEntries [] t u) (hspecs : t.KeepsSpecs u) :
    s.Tells u (es ++ es') where
  chronicle := h.chronicle.next h'.chronicle
  claimed {c name} hdot hoffer hs hu := by
    cases ht : t.world.imported? name with
    | none => exact h'.claimed hdot (hoffers.offers hoffer) ht hu
    | some m =>
        have hheld := h.claimed hdot hoffer hs (by rw [ht]; exact Option.some_ne_none m)
        exact hheld.keep List.not_mem_nil hentries hspecs

/-- Nothing is to be remembered when nothing becomes of the table. -/
theorem recounted_of_table {edits : List TableEdit} (hedits : t.edits = s.edits ++ edits)
    (hhistory : t.history = s.history)
    (htable : edits = [] → t.world.tableOf = s.world.tableOf) : s.Recounted t :=
  ⟨edits, [], hedits, by rw [hhistory, List.append_nil], fun _ _ => List.not_mem_nil,
    fun hnil => tells_nil (htable hnil)⟩

/-- One event is remembered when nothing else becomes of the table. -/
theorem recounted_of_event {e : ModuleEvent} (hedits : t.edits = s.edits)
    (hhistory : t.history = s.history ++ [e]) (htable : t.world.tableOf = s.world.tableOf)
    (h : Chronicle s.world.tableOf [e] s.world.tableOf) (he : ∀ name m, e ≠ .started name m false) :
    s.Recounted t :=
  ⟨[], [e], by rw [hedits, List.append_nil], hhistory,
    fun name m hmem => he name m (List.mem_singleton.mp hmem).symm,
    fun _ => ⟨htable ▸ h, fun _ _ hs ht => absurd ((congrFun htable _).trans hs) ht⟩⟩

theorem Recounted.refl (s : Loom) : s.Recounted s :=
  recounted_of_table (List.append_nil _).symm rfl fun _ => rfl

theorem Recounted.trans (h : s.Recounted t) (hoffers : s.SameOffers t) (h' : t.Recounted u)
    (hedited : Edited [] t u) : s.Recounted u := by
  obtain ⟨ds, es, hds, hes, himports, htells⟩ := h
  obtain ⟨ds', es', hds', hes', himports', htells'⟩ := h'
  obtain ⟨ds'', hds'', hkeeps, hnone⟩ := hedited
  obtain rfl : ds' = ds'' := List.append_cancel_left (hds'.symm.trans hds'')
  refine ⟨ds ++ ds', es ++ es', by rw [hds', hds, List.append_assoc],
    by rw [hes', hes, List.append_assoc], fun name m hmem => ?_, fun hnil => ?_⟩
  · rcases List.mem_append.mp hmem with hmem | hmem
    · exact himports name m hmem
    · exact himports' name m hmem
  · obtain ⟨rfl, rfl⟩ := List.append_eq_nil_iff.mp hnil
    exact (htells rfl).trans hoffers (htells' rfl) (hkeeps fun _ h => nomatch h) (hnone rfl).1

end Loom

end FragmentWeaver
