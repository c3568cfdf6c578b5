import LockDiscipline.CommandLine.Folder
import LockDiscipline.Main
import LockDiscipline.Options.Json
import LockDiscipline.Program.HandBuilt
import LockDiscipline.Proofs.EntryLocks
import LockDiscipline.Proofs.LexicalLocks
import LockDiscipline.Proofs.Credit
import LockDiscipline.Proofs.CanonicalForms
import LockDiscipline.Proofs.ReceiverPaths
import LockDiscipline.Proofs.Nesting
import LockDiscipline.Proofs.TypeTable
import LockDiscipline.Proofs.ReadingBack
import LockDiscipline.Proofs.DeclaredGuards
import LockDiscipline.Proofs.AcceptedGuards
import LockDiscipline.Proofs.RequiredGuards
import LockDiscipline.Check.Workers
import LockDiscipline.Proofs.Workers
import LockDiscipline.Proofs.Overriding
import LockDiscipline.Proofs.Subtyping
import LockDiscipline.Proofs.CallContracts
import LockDiscipline.Proofs.Signatures
import LockDiscipline.Proofs.MoreLocks
import LockDiscipline.Proofs.StatedTypes
import LockDiscipline.Proofs.Assignments
import LockDiscipline.Proofs.ReadWriteLocks
import LockDiscipline.Proofs.Accounting
import LockDiscipline.Proofs.WellScoped
import LockDiscipline.Proofs.BareUnits
import LockDiscipline.Proofs.ClassOrder
import LockDiscipline.Proofs.UnitReading
import LockDiscipline.Proofs.Meaning
import LockDiscipline.Proofs.Receivers
import LockDiscipline.Proofs.GuardLanguage
import LockDiscipline.Proofs.Shadowing
import LockDiscipline.Proofs.Worklist
import LockDiscipline.Proofs.HeldScopes
import LockDiscipline.Proofs.OneStack
import LockDiscipline.Proofs.Advice
import LockDiscipline.Proofs.WaysUp
import LockDiscipline.Proofs.NameIndex
import LockDiscipline.Proofs.BatchRuns
import LockDiscipline.Proofs.Folders
import LockDiscipline.Proofs.HandBuilt
import LockDiscipline.Proofs.FieldNames
import LockDiscipline.Proofs.NearestNames
import LockDiscipline.Proofs.DistanceRows
import LockDiscipline.Proofs.Colours
import LockDiscipline.Proofs.Underlines
