import CatalogReport.Main
import CatalogReport.Report.ResultSet
import CatalogReport.Proofs.JsonText
import CatalogReport.Proofs.FloatText
import CatalogReport.Proofs.JsonCodec
import CatalogReport.Proofs.SnapshotText
import CatalogReport.Proofs.CommandParts
import CatalogReport.Proofs.DialogueRuns
import CatalogReport.Proofs.ProperCommands
import CatalogReport.Proofs.Declined
import CatalogReport.Proofs.DescribedRelations
import CatalogReport.Proofs.Selection
import CatalogReport.Proofs.CursorRuns
import CatalogReport.Proofs.FailedQueries
import CatalogReport.Proofs.TableSections
import CatalogReport.Proofs.Words
import CatalogReport.Proofs.CommandGrammar
import CatalogReport.Proofs.Placeholders
import CatalogReport.Proofs.AskedFilters
import CatalogReport.Proofs.ConditionText
import CatalogReport.Proofs.PushedDown
import CatalogReport.Proofs.SystemRows
import CatalogReport.Proofs.SearchPatterns
import CatalogReport.Proofs.FloatRounding
import CatalogReport.Proofs.FloatRange
import CatalogReport.Proofs.FloatDigits
import CatalogReport.Proofs.ShownCells
import CatalogReport.Proofs.JsonRows
import CatalogReport.Proofs.RenderedRows
import CatalogReport.Proofs.RunStages
import CatalogReport.Proofs.WritingPass
import CatalogReport.Proofs.FunctionListing
import CatalogReport.Proofs.NamesAsPatterns
import CatalogReport.Proofs.OwnParts
import CatalogReport.Proofs.IncomingKeys
import CatalogReport.Proofs.StatRows
import CatalogReport.Proofs.ListedTypes
import CatalogReport.Proofs.IndexRenderings
import CatalogReport.Proofs.VerboseReports
import CatalogReport.Proofs.RegularTables
import CatalogReport.Proofs.SettingValues
import CatalogReport.Proofs.FailureLines
