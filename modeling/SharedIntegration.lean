import SharedIntegration.Library.Transition
import SharedIntegration.SqlJobs
import SharedIntegration.SqliteJobs
import SharedIntegration.SystemMoves
import SharedIntegration.Claiming
import SharedIntegration.FindingLifecycle
import SharedIntegration.FindingDict
import SharedIntegration.Terminal
import SharedIntegration.Redelivery
import SharedIntegration.Library.JsonText
import SharedIntegration.Auth
import SharedIntegration.FailClosed
import SharedIntegration.JobLog
import SharedIntegration.EventStream
import SharedIntegration.FindingColumns
import SharedIntegration.Storing
import SharedIntegration.References
import SharedIntegration.Journal
import SharedIntegration.Library.JsonStrings
import SharedIntegration.ColumnTypes
import SharedIntegration.PayloadBinding
import SharedIntegration.BackendEquivalence
import SharedIntegration.DedupFold
import SharedIntegration.Cancellation
import SharedIntegration.Results
import SharedIntegration.Library.Base64
import SharedIntegration.Library.PyString
import SharedIntegration.Mediation
import SharedIntegration.Secrets
import SharedIntegration.Library.PyTime
import SharedIntegration.IdentityModels
import SharedIntegration.Library.Ledger
import SharedIntegration.Identity
import SharedIntegration.IdentityMoves
import SharedIntegration.IdentityCalls
import SharedIntegration.IdentityHistory
import SharedIntegration.Credentials
import SharedIntegration.Exchange
import SharedIntegration.ExchangeMoves
import SharedIntegration.ExchangeSafety
import SharedIntegration.Creation
import SharedIntegration.CreationMoves
import SharedIntegration.CreationSafety
import SharedIntegration.IdempotentCreation
import SharedIntegration.Library.Mirror
import SharedIntegration.StoreCalls
import SharedIntegration.TenantParts
import SharedIntegration.JobIsolation
import SharedIntegration.FindingIsolation
import SharedIntegration.Noninterference
import SharedIntegration.ExchangeLimiter
import SharedIntegration.HostileCredentials
import SharedIntegration.Cursors
import SharedIntegration.Positions
import SharedIntegration.Pagination
import SharedIntegration.Library.Trail
import SharedIntegration.TriageAudit
import SharedIntegration.IdentityTrail
import SharedIntegration.LiveCalls
import SharedIntegration.Storable
import SharedIntegration.ColumnLimits
import SharedIntegration.Library.Fallible
import SharedIntegration.Library.Rerun
import SharedIntegration.Migration
import SharedIntegration.MigrationReruns
import SharedIntegration.TenantRows
import SharedIntegration.MigrationJobs
import SharedIntegration.Library.Binary64
import SharedIntegration.Correlations
import SharedIntegration.OverlappingScans
import SharedIntegration.ArrivalOrders
import SharedIntegration.RetryAfter
import SharedIntegration.SessionCleanup
import SharedIntegration.RevocationSafety
import SharedIntegration.Library.Retention
import SharedIntegration.SqliteRegistry
import SharedIntegration.RetainedFindings
import SharedIntegration.Outcomes
import SharedIntegration.UndisturbedRuns
import SharedIntegration.ExecutionOutcome
import SharedIntegration.Library.OpenOrder
import SharedIntegration.StoredCorrelations
import SharedIntegration.Library.Fanout
import SharedIntegration.LiveUpdates
import SharedIntegration.ImportedCorrelations
import SharedIntegration.Library.Connection
import SharedIntegration.SqliteTransactions
import SharedIntegration.FailedCalls
import SharedIntegration.ConcurrentAdds
import SharedIntegration.LimiterMemory
import SharedIntegration.Library.CanonicalJson
import SharedIntegration.SecretVerification
import SharedIntegration.Fingerprints
import SharedIntegration.ConcurrentAddMoves
import SharedIntegration.SerialAdds
import SharedIntegration.SerializableAdds
import SharedIntegration.Library.JsonDumps
import SharedIntegration.Library.JsonChars
import SharedIntegration.Library.TextFile
import SharedIntegration.Library.Slots
import SharedIntegration.Adapters
import SharedIntegration.AdapterScans
import SharedIntegration.AdapterMoves
import SharedIntegration.AdapterSafety
import SharedIntegration.Library.Programs
import SharedIntegration.ApiV1
import SharedIntegration.HttpGateway
import SharedIntegration.ApiConfinement
import SharedIntegration.ForeignRows
import SharedIntegration.ShownRows
import SharedIntegration.IdentityStores
import SharedIntegration.HttpMoves
import SharedIntegration.HttpDisclosure
import SharedIntegration.HttpAuthorization
import SharedIntegration.Library.Masked
import SharedIntegration.SilencedTenant
import SharedIntegration.Library.HiddenSteps
import SharedIntegration.HttpNoninterference
import SharedIntegration.Library.ForeignKeys
import SharedIntegration.ForeignKeys
