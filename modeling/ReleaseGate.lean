import ReleaseGate.CommandLine.Workspace
import ReleaseGate.Main
import ReleaseGate.Proofs.Backends
import ReleaseGate.Proofs.ChangedLines
import ReleaseGate.Proofs.Decoding
import ReleaseGate.Proofs.HistoryAccess
import ReleaseGate.Proofs.MissedChange
import ReleaseGate.Proofs.PatchReading
import ReleaseGate.Proofs.PatchText
import ReleaseGate.Proofs.PlainPaths
import ReleaseGate.Proofs.Ranges
import ReleaseGate.Proofs.SnapshotChanges
import ReleaseGate.Proofs.Verdict
import ReleaseGate.Release.Semver
import ReleaseGate.Proofs.Checks
import ReleaseGate.Proofs.HistoryFailures
import ReleaseGate.Proofs.FailureLine
import ReleaseGate.Proofs.LineEnds
import ReleaseGate.Proofs.TreeChanges
import ReleaseGate.Proofs.DocumentLineEnds
import ReleaseGate.Proofs.Remedies
import ReleaseGate.Proofs.Repair
import ReleaseGate.Proofs.FailFast
import ReleaseGate.Proofs.RangeCases
import ReleaseGate.Proofs.DiffableRanges
import ReleaseGate.Proofs.OtherReleases
import ReleaseGate.Proofs.Outcome
import ReleaseGate.Proofs.MarkedLines
import ReleaseGate.Proofs.OrderedSnapshots
import ReleaseGate.Proofs.PathSelection
import ReleaseGate.Proofs.PathRestriction
import ReleaseGate.Proofs.Loading
import ReleaseGate.Proofs.PatternSearch
import ReleaseGate.Proofs.FirstSignal
import ReleaseGate.Proofs.Relocation
import ReleaseGate.Proofs.StartingPlace
import ReleaseGate.Proofs.SlidChanges
import ReleaseGate.Proofs.RepositorySettings
import ReleaseGate.Proofs.PatternPlaces
import ReleaseGate.Proofs.DeclarationPattern
import ReleaseGate.Proofs.DeclarationLines
import ReleaseGate.Proofs.NotesLines
import ReleaseGate.Proofs.QuotedDeclarations
import ReleaseGate.Proofs.LinePlaces
import ReleaseGate.Proofs.HeadingLines
import ReleaseGate.Proofs.CaseFolding
import ReleaseGate.Proofs.NotesPattern
import ReleaseGate.Proofs.NotesHeadings
import ReleaseGate.Proofs.PatchParts
import ReleaseGate.Proofs.ExtraPatterns
import ReleaseGate.Proofs.RangeInputs
import ReleaseGate.Proofs.NotesDirectory
import ReleaseGate.Proofs.DecodedParts
