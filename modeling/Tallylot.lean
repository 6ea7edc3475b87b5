import Tallylot.Data.Dict
import Tallylot.Data.Sorted
import Tallylot.Data.Log
import Tallylot.Data.Decimal
import Tallylot.Data.Instant
import Tallylot.Data.Json
import Tallylot.Domain.Temporal
import Tallylot.Domain.Issues
import Tallylot.Captures.Registry
import Tallylot.Captures.Assembly
import Tallylot.Captures.Transparency
import Tallylot.Captures.RowMerge
import Tallylot.Balances.Models
import Tallylot.Balances.References
import Tallylot.Balances.Assertions
import Tallylot.Data.Components
import Tallylot.Translation.Inputs
import Tallylot.Translation.Overlap
import Tallylot.Translation.Coverage
import Tallylot.Translation.Selection
import Tallylot.Data.Text
import Tallylot.Data.Parts
import Tallylot.Translation.Winners
import Tallylot.Translation.Planner
import Tallylot.Translation.Soundness
import Tallylot.Domain.Assertion
import Tallylot.Domain.Instruments
import Tallylot.Domain.Claim
import Tallylot.Domain.Economics
import Tallylot.Domain.Reconciliation
import Tallylot.Domain.Evidence
import Tallylot.Evidence.Models
import Tallylot.Evidence.Builder
import Tallylot.Evidence.Collection
import Tallylot.Kernel.Reconciliation
import Tallylot.Data.Path
import Tallylot.Intake.Markers
import Tallylot.Intake.Packages
import Tallylot.Intake.Duplicates
import Tallylot.Intake.DuplicateContents
import Tallylot.Intake.Finalize
import Tallylot.Intake.Entries
import Tallylot.Intake.Archives
import Tallylot.Intake.Placement
import Tallylot.Intake.PlannedPaths
import Tallylot.Kernel.Checkpoint
import Tallylot.Kernel.Certification
import Tallylot.Kernel.ReadyClaims
import Tallylot.Kernel.Guarantees
import Tallylot.Kernel.Sums
import Tallylot.Balances.Targets
import Tallylot.Data.Firsts
import Tallylot.Balances.Check
import Tallylot.Balances.Comparison
import Tallylot.Balances.Conflicts
import Tallylot.Balances.Inspect
import Tallylot.Balances.Rerun
import Tallylot.Balances.Summary
import Tallylot.Balances.Corroboration
import Tallylot.Balances.Discovery
import Tallylot.Evidence.Fingerprints
import Tallylot.Evidence.Agreement
import Tallylot.Evidence.SourceEvidence
import Tallylot.Evidence.RowAccounting
import Tallylot.Data.Decoding
import Tallylot.Data.JsonText
import Tallylot.Data.DecimalText
import Tallylot.Data.InstantText
import Tallylot.Data.Day
import Tallylot.Domain.ValueObjects
import Tallylot.Domain.LocationIdentifiers
import Tallylot.Transactions.Models
import Tallylot.Transactions.Facts
import Tallylot.Transactions.Codec
import Tallylot.Transactions.RoundTrip
import Tallylot.Balances.Codec
import Tallylot.Balances.RoundTrip
import Tallylot.Storage.RowCodecs
import Tallylot.Outputs.RenderPolicy
import Tallylot.Outputs.CointrackingCsv
import Tallylot.Submission.Rows
import Tallylot.Submission.Validation
import Tallylot.Submission.Materialize
import Tallylot.Claims.Records
import Tallylot.Claims.CoinbaseStatements
import Tallylot.Claims.StatementRows
import Tallylot.Data.Totals
import Tallylot.Claims.ClaimedPositions
import Tallylot.Claims.StatementSums
import Tallylot.Claims.StatementParity
import Tallylot.Balances.Snapshots
import Tallylot.Intake.SourceLabelMap
import Tallylot.Intake.SourceLabels
import Tallylot.Intake.LabelPriority
import Tallylot.Data.CsvFile
import Tallylot.Captures.Lifecycle
import Tallylot.Captures.RegistryFiles
import Tallylot.Captures.SourceLifecycle
import Tallylot.Intake.Idempotence
import Tallylot.Kernel.Projections
import Tallylot.Kernel.JudgedClaims
import Tallylot.Kernel.ProjectedRows
import Tallylot.Kernel.Verdicts
import Tallylot.Normalization.Drafts
import Tallylot.Normalization.Window
import Tallylot.Normalization.CompatibilityFacts
import Tallylot.Normalization.NormalizeSource
import Tallylot.Data.Calendar
import Tallylot.Data.Strptime
import Tallylot.Profiling.DateInference
import Tallylot.Profiling.InventoryTimestamps
import Tallylot.Profiling.HeaderRows
import Tallylot.Profiling.RowReferences
import Tallylot.Profiling.TimezoneDetails
import Tallylot.Profiling.ShiftOverlap
import Tallylot.Balances.Precedence
import Tallylot.Balances.AsOf
import Tallylot.Binance.Fields
import Tallylot.Normalization.DraftLegs
import Tallylot.Binance.TransactionHistory
import Tallylot.Binance.Conservation
import Tallylot.Binance.Numerals
import Tallylot.Binance.SpotTrades
import Tallylot.Binance.OrderHistory
import Tallylot.LedgerLive.Conservation
import Tallylot.Profiling.SlashDates
import Tallylot.Captures.Identity
import Tallylot.Domain.InstrumentIds
import Tallylot.Domain.Provenance
import Tallylot.Domain.IdentifierLocations
import Tallylot.Normalization.Pruning
import Tallylot.Balances.IssueIds
import Tallylot.StructuredCsv.Completeness
import Tallylot.Coinbase.RetailOutcomes
import Tallylot.Transactions.Satisfiable
import Tallylot.Data.Seconds
import Tallylot.Normalization.WindowTiles
import Tallylot.Domain.AssetClaims
import Tallylot.EvmExplorer.Transfers
import Tallylot.EvmExplorer.Bookings
import Tallylot.EvmExplorer.SettledRows
import Tallylot.EvmExplorer.Accounting
import Tallylot.Data.Shift
import Tallylot.Ronin.Rows
import Tallylot.Ronin.Drafts
import Tallylot.Ronin.Groups
import Tallylot.Ronin.Outcomes
import Tallylot.Ronin.Fees
import Tallylot.Ronin.LocalTimes
import Tallylot.Data.Reordering
import Tallylot.Kernel.EconomicFacts
import Tallylot.Kernel.BookedLegs
import Tallylot.Kernel.BookableBundles
import Tallylot.Kernel.ClaimedSums
import Tallylot.Kernel.Reordered
import Tallylot.Products.FactsRoundTrip
import Tallylot.Products.StatesRoundTrip
import Tallylot.Products.Checkpoints
