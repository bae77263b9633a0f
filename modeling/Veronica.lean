import Veronica.Library.Runs
import Veronica.Library.Dict
import Veronica.Library.Tally
import Veronica.Library.PyValue
import Veronica.Library.Escrow
import Veronica.Library.Commitments
import Veronica.Library.Walks
import Veronica.Library.Forests
import Veronica.Library.PyConversions
import Veronica.Library.Prefixes
import Veronica.Library.Unwinding
import Veronica.Library.Atomic
import Veronica.Library.Delimited
import Veronica.Library.Doubles
import Veronica.Library.RotatedLog
import Veronica.Library.MovingAverage
import Veronica.Ledger
import Veronica.Conservation
import Veronica.Overspend
import Veronica.SettleLoss
import Veronica.Types
import Veronica.Planners
import Veronica.Arbiters
import Veronica.RedisArbiter
import Veronica.SharedBudget
import Veronica.RetriedReserves
import Veronica.Pipeline
import Veronica.StepContext
import Veronica.Stages
import Veronica.Issue
import Veronica.PipelineRuns
import Veronica.CeilingBound
import Veronica.OrgCaps
import Veronica.OverCommit
import Veronica.SpendAccounting
import Veronica.StepGuarantee
import Veronica.StepSessions
import Veronica.Reservations
import Veronica.AuditTrail
import Veronica.FileStore
import Veronica.ChainIsolation
import Veronica.BudgetContext
import Veronica.Distribution
import Veronica.PolicyUpdates
import Veronica.OptimisticUpdates
import Veronica.Rollouts
import Veronica.ActivationGate
import Veronica.Lifecycle
import Veronica.SimulationGate
import Veronica.RevokedPolicy
import Veronica.RolloutAtomicity
import Veronica.Signatures
import Veronica.ServedVersions
import Veronica.EventIngestor
import Veronica.IngestConservation
import Veronica.Tenants
import Veronica.TenantAtomicity
import Veronica.Resolver
import Veronica.Validation
import Veronica.EffectivePolicy
import Veronica.Narrowing
import Veronica.ResolveRaces
import Veronica.PolicyParsing
import Veronica.Simulation
import Veronica.Replay
import Veronica.ReplayAgreement
import Veronica.FieldGrammar
import Veronica.HistoryAnalyzer
import Veronica.MemoryHistory
import Veronica.PassthroughIssue
import Veronica.ChainIndependence
import Veronica.DeniedSteps
import Veronica.ReservationIdentity
import Veronica.FailureTightens
import Veronica.RecordStore
import Veronica.RecordRefinement
import Veronica.RotationWindow
import Veronica.StoreAgreement
import Veronica.StoreReopen
import Veronica.StatsFlush
import Veronica.ChainStatistics
import Veronica.CostHistory
import Veronica.SimulatedPrefix
import Veronica.LooserPolicies
import Veronica.ReplayOrder
import Veronica.ParserAgreement
import Veronica.ErrorFactors
import Veronica.PlannerCooldown
import Veronica.ProportionalShares
import Veronica.SurplusRedistribution
import Veronica.SignalComposition
import Veronica.EventConversion
import Veronica.PolicyHash
import Veronica.BufferedEmitter
import Veronica.AutoUnsubscribe
import Veronica.ExportPages
import Veronica.Library.FloatOrder
import Veronica.EventSchema
import Veronica.EventQueries
import Veronica.EventsPage
import Veronica.RunQueries
import Veronica.ServedEvents
import Veronica.PgStore
import Veronica.StoreReplacement
import Veronica.Library.Checks
import Veronica.TenantApi
import Veronica.TenantAnswers
import Veronica.Library.Outlines
import Veronica.TenantsPage
import Veronica.Library.Admissions
import Veronica.PrometheusSubscriber
import Veronica.MetricsSubscriber
import Veronica.PolicyEditor
import Veronica.EditorSaves
import Veronica.RolloutsPage
import Veronica.RolloutClicks
import Veronica.Telemetry
