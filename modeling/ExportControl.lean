import ExportControl.Text.Alphanumeric
import ExportControl.Text.Blank
import ExportControl.Text.Digit
import ExportControl.Text.Glyph
import ExportControl.Text.Lowercase
import ExportControl.Text.Pattern
import ExportControl.Json.Form
import ExportControl.Json.Reader
import ExportControl.Json.Value
import ExportControl.Identifier
import ExportControl.Register
import ExportControl.Taxonomy.Document
import ExportControl.Taxonomy.Match
import ExportControl.Instant
import ExportControl.Catalog.Basic
import ExportControl.Catalog.Document
import ExportControl.Assessment.Batch
import ExportControl.Assessment.Desk
import ExportControl.Assessment.Document
import ExportControl.Suggestion.Corrections
import ExportControl.Suggestion.Document
import ExportControl.Settings.Address
import ExportControl.Settings.LogFilter
import ExportControl.Settings.Environment
import ExportControl.Settings.EnvFile
import ExportControl.Settings.Config
import ExportControl.Http.Router
import ExportControl.CommandLine.Run
import ExportControl.Main
import ExportControl.Proofs.Acceptance
import ExportControl.Proofs.CarryingOut
import ExportControl.Proofs.CasePrecedents
import ExportControl.Proofs.Checking
import ExportControl.Proofs.Composition
import ExportControl.Proofs.Linking
import ExportControl.Proofs.Outcome
import ExportControl.Proofs.Runs
import ExportControl.Proofs.LongestPrefix
import ExportControl.Proofs.Matching
import ExportControl.Proofs.Isolation
import ExportControl.Proofs.Transactions
import ExportControl.Proofs.LinkedRows
import ExportControl.Proofs.TerminalCases
import ExportControl.Proofs.Recording
import ExportControl.Proofs.AuditTrail
import ExportControl.Proofs.Description
import ExportControl.Proofs.SharedGoods
import ExportControl.Proofs.LineReports
import ExportControl.Proofs.DisplayText
import ExportControl.Proofs.Effects
import ExportControl.Proofs.Reassessment
import ExportControl.Proofs.Interchange
import ExportControl.Proofs.SuggestionReports
import ExportControl.Proofs.SuggestedPairs
import ExportControl.Proofs.RepeatedLines
import ExportControl.Proofs.Availability
import ExportControl.Proofs.Replies
import ExportControl.Proofs.Numerals
import ExportControl.Proofs.JsonText
import ExportControl.Proofs.FilledForms
import ExportControl.Proofs.InstantText
import ExportControl.Proofs.SeedRoundTrip
import ExportControl.Proofs.StoredDescriptions
import ExportControl.Proofs.Locality
import ExportControl.Proofs.MirroredGoods
import ExportControl.Proofs.UnusedDescriptions
import ExportControl.Proofs.Decorations
import ExportControl.Proofs.TableGrowth
import ExportControl.Proofs.ShownChanges
import ExportControl.Proofs.QuotedRecords
import ExportControl.Proofs.ReportText
import ExportControl.Proofs.NamedColumns
import ExportControl.Proofs.CorrectionTables
