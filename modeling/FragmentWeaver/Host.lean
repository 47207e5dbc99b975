import FragmentWeaver.Loom

/-!
# Hosts

The application that a weaver is part of. It is shown the source of a unit on request and told when
a unit could not be loaded. A host that fails does not disturb the request: its fault is reported on
the side.
-/

namespace FragmentWeaver

/-- What a host does when it is shown a source and when it is told of a fault. -/
structure Host where
  showSource : String → String → Run Unit
  failed : Fault → Run Unit

namespace Host

/-- A host that takes no notice. -/
def silent : Host where
  showSource _ _ := pure ()
  failed _ := pure ()

/-- The line before a printed source. -/
def banner : String := "###### codeweave GENERATED CODE #####"

/-- The line behind a printed source. -/
def bannerEnd : String := "###### END #####"

/-- A host that prints sources. -/
def console : Host where
  showSource filename source := do
    Run.print banner
    Run.print ("# " ++ filename)
    Run.print source
    Run.print bannerEnd
  failed _ := pure ()

/-- A host that keeps what it is told. -/
def recording : Host where
  showSource filename source := modify fun s =>
    { s with events := s.events ++ [.source filename source] }
  failed f := modify fun s => { s with events := s.events ++ [.failure (f.kind s.world)] }

/-- A host that keeps what it is told and fails then. -/
def gone : Host where
  showSource filename source := do
    recording.showSource filename source
    Run.fail (.thrown (.standard "RuntimeError") [.text "host is gone"])
  failed f := do
    recording.failed f
    Run.fail (.thrown (.standard "RuntimeError") [.text "host is gone"])

/-- Let a host act; when it fails in an ordinary way a record is reported instead. -/
def act (action : Run Unit) (r : LogRecord) : Run Unit := do
  try action
  catch f => do
    if f.isOrdinary (← Run.world) then Run.report [r] else Run.fail f

/-- Show a host the source of a unit. -/
def shown (h : Host) (unit : UnitId) (filename source : String) : Run Unit :=
  act (h.showSource filename source)
    ⟨.error, "codeweave.runtime.weaver",
      "Host could not show the source of " ++ unit.qualifiedName⟩

/-- Tell a host, if there is one, why a unit could not be loaded. -/
def told (h : Option Host) (unit : UnitId) (f : Fault) : Run Unit :=
  match h with
  | none => pure ()
  | some h => act (h.failed f)
      ⟨.error, "codeweave.runtime.loader",
        "Host could not report the load failure of " ++ unit.qualifiedName⟩

end Host

end FragmentWeaver
