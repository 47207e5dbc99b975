import FragmentWeaver.Main
import FragmentWeaver.Proofs.Cleanup
import FragmentWeaver.Proofs.CommonClasses
import FragmentWeaver.Proofs.Entries
import FragmentWeaver.Proofs.Inference
import FragmentWeaver.Proofs.Ledger
import FragmentWeaver.Proofs.Margins
import FragmentWeaver.Proofs.HandOff
import FragmentWeaver.Proofs.Leftovers
import FragmentWeaver.Proofs.Namespace
import FragmentWeaver.Proofs.Neighbours
import FragmentWeaver.Proofs.Once
import FragmentWeaver.Proofs.Rebuilding
import FragmentWeaver.Proofs.Sharing
import FragmentWeaver.Script.Printer
import FragmentWeaver.Unit.Display
import FragmentWeaver.Unit.Tally
import FragmentWeaver.Proofs.Calls
import FragmentWeaver.Proofs.Fragments
import FragmentWeaver.Proofs.Packages
import FragmentWeaver.Proofs.Spellings
import FragmentWeaver.Proofs.RegularLists
import FragmentWeaver.Proofs.CompiledFiles
import FragmentWeaver.Proofs.Synthesis
import FragmentWeaver.Proofs.Layout
import FragmentWeaver.Proofs.ModuleLists
import FragmentWeaver.Proofs.Statuses
import FragmentWeaver.Proofs.FailedCalls
import FragmentWeaver.Proofs.SearchPaths
import FragmentWeaver.Proofs.Confinement
import FragmentWeaver.Proofs.ClassImports
