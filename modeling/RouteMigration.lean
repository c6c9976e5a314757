import RouteMigration.Batch.Report
import RouteMigration.Main
import RouteMigration.Proofs.Bindings
import RouteMigration.Proofs.Trees
import RouteMigration.Proofs.ImportEdits
import RouteMigration.Proofs.Rebinding
import RouteMigration.Proofs.AddedImports
import RouteMigration.Proofs.Attachments
import RouteMigration.Proofs.DraftRuns
import RouteMigration.Proofs.Detaching
import RouteMigration.Proofs.Migrations
import RouteMigration.Proofs.Finishing
import RouteMigration.Proofs.Descriptors
import RouteMigration.Proofs.KeptImports
import RouteMigration.Proofs.SingleDescriptor
import RouteMigration.Proofs.StaleImports
import RouteMigration.Proofs.LostImports
import RouteMigration.Proofs.KeptNames
import RouteMigration.Proofs.StatementNames
import RouteMigration.Proofs.AccountedNames
import RouteMigration.Proofs.DanglingUses
import RouteMigration.Proofs.TopLevelNames
import RouteMigration.Proofs.NameClashes
import RouteMigration.Proofs.ExportedNames
import RouteMigration.Proofs.ReleasedExports
import RouteMigration.Proofs.MigratedExports
import RouteMigration.Proofs.ExportSurface
import RouteMigration.Proofs.Conversions
import RouteMigration.Proofs.Bystanders
import RouteMigration.Proofs.ParsedModules
import RouteMigration.Proofs.Places
import RouteMigration.Proofs.PrintableDrafts
import RouteMigration.Proofs.SourceFidelity
import RouteMigration.Proofs.Boundaries
import RouteMigration.Proofs.RoundTrips
import RouteMigration.Proofs.Neighbours
import RouteMigration.Proofs.FailingAttachments
import RouteMigration.Proofs.FailingMigrations
import RouteMigration.Proofs.KeptVariables
import RouteMigration.Proofs.LostNeighbours
import RouteMigration.Batch.Schedule
import RouteMigration.Proofs.BatchRuns
import RouteMigration.Proofs.ScheduledBatches
import RouteMigration.Proofs.Unwrapping
import RouteMigration.Proofs.PassedStatements
import RouteMigration.Proofs.ReferredHandlers
import RouteMigration.Proofs.DescriptorPlaces
import RouteMigration.Proofs.LineEnds
import RouteMigration.Proofs.UntouchedStatements
import RouteMigration.Proofs.FileFidelity
import RouteMigration.Proofs.Readings
import RouteMigration.Proofs.UnwrappedHandlers
import RouteMigration.Proofs.RemovedImports
import RouteMigration.Proofs.RequestedImports
import RouteMigration.Proofs.AvailableImports
import RouteMigration.Proofs.LeadingStatements
import RouteMigration.Proofs.LeadingDirectives
import RouteMigration.Proofs.RoutePaths
import RouteMigration.Proofs.ReplacedSources
import RouteMigration.Proofs.WrittenClauses
import RouteMigration.Proofs.ClauseEdits
import RouteMigration.Proofs.Comments
import RouteMigration.Proofs.AdvisedDrafts
import RouteMigration.Proofs.WrittenComments
import RouteMigration.Proofs.PrintedClauses
import RouteMigration.Proofs.StringLiterals
import RouteMigration.Proofs.PrintedAdvisories
import RouteMigration.Proofs.RouteFiles
import RouteMigration.Proofs.SplitLines
import RouteMigration.Proofs.MatchedLines
import RouteMigration.Proofs.Patches
import RouteMigration.Proofs.Hunks
import RouteMigration.Proofs.PrintedDiffs
import RouteMigration.Proofs.Cursors
import RouteMigration.Proofs.Openings
import RouteMigration.Proofs.OpeningRules
import RouteMigration.Proofs.Readers
import RouteMigration.Proofs.FunctionRules
import RouteMigration.Proofs.GrammarRules
import RouteMigration.Proofs.ConvertedTrees
import RouteMigration.Proofs.BoundNames
import RouteMigration.Proofs.ShiftedTexts
import RouteMigration.Proofs.ShownTexts
import RouteMigration.Proofs.KeptTexts
import RouteMigration.Proofs.MovedLiterals
import RouteMigration.Proofs.SpelledTexts
import RouteMigration.Proofs.Roles
import RouteMigration.Proofs.RecordedConstructs
import RouteMigration.Proofs.FreshNames
import RouteMigration.Proofs.IntactNodes
import RouteMigration.Proofs.UntouchedNodes
import RouteMigration.Proofs.WrittenPieces
import RouteMigration.Proofs.DeepenedTexts
import RouteMigration.Proofs.DeepenedBodies
