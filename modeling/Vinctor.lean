import Vinctor.Core.Audit
import Vinctor.Core.Enforce
import Vinctor.Core.Infer
import Vinctor.Core.KeptPairs
import Vinctor.Core.Models
import Vinctor.Core.Policy
import Vinctor.Core.Proposals
import Vinctor.Core.Registry
import Vinctor.Core.Scope
import Vinctor.Core.ScopeGrammar
import Vinctor.Foundation.Base64
import Vinctor.Foundation.Bytes
import Vinctor.Foundation.Clustering
import Vinctor.Foundation.Collect
import Vinctor.Foundation.CrashImages
import Vinctor.Foundation.Datetime
import Vinctor.Foundation.DatetimeOrder
import Vinctor.Foundation.DatetimeRoundTrip
import Vinctor.Foundation.Dict
import Vinctor.Foundation.DictRows
import Vinctor.Foundation.Effects
import Vinctor.Foundation.Fallible
import Vinctor.Foundation.FileSystem
import Vinctor.Foundation.GuardedLog
import Vinctor.Foundation.HashChain
import Vinctor.Foundation.Interleaving
import Vinctor.Foundation.Json
import Vinctor.Foundation.JsonNested
import Vinctor.Foundation.JsonRoundTrip
import Vinctor.Foundation.Machine
import Vinctor.Foundation.PrefixCode
import Vinctor.Foundation.Script
import Vinctor.Foundation.Serial
import Vinctor.Foundation.Table
import Vinctor.Foundation.Text
import Vinctor.Foundation.Transactions
import Vinctor.Service.ApprovalRules
import Vinctor.Service.Audit
import Vinctor.Service.AuditChain
import Vinctor.Service.AuditPages
import Vinctor.Service.AuditPagination
import Vinctor.Service.AuditQueries
import Vinctor.Service.AuditReference
import Vinctor.Service.AuditVerification
import Vinctor.Service.AuditWriting
import Vinctor.Service.AuthFailureCounts
import Vinctor.Service.AuthFailures
import Vinctor.Service.Authority
import Vinctor.Service.AutoApproval
import Vinctor.Service.BackupFrame
import Vinctor.Service.BackupHarm
import Vinctor.Service.BoundReads
import Vinctor.Service.BoundaryFrames
import Vinctor.Service.BoundaryNonInterference
import Vinctor.Service.BoundsStorage
import Vinctor.Service.CompleteReports
import Vinctor.Service.ControlAuditor
import Vinctor.Service.ControlEvents
import Vinctor.Service.ControlOperations
import Vinctor.Service.DatedEvents
import Vinctor.Service.DatedRows
import Vinctor.Service.DecisionPhases
import Vinctor.Service.DecisionSafety
import Vinctor.Service.DecisionSteps
import Vinctor.Service.Decisions
import Vinctor.Service.DelegatedControls
import Vinctor.Service.EmissionCommits
import Vinctor.Service.EmissionInvariant
import Vinctor.Service.EmissionSafety
import Vinctor.Service.EmissionScopes
import Vinctor.Service.EmissionSteps
import Vinctor.Service.ExportPayload
import Vinctor.Service.ExportQueue
import Vinctor.Service.ExportQueueSafety
import Vinctor.Service.ExportShutdown
import Vinctor.Service.FaithfulReads
import Vinctor.Service.FilterAgreement
import Vinctor.Service.GrantRequests
import Vinctor.Service.Grants
import Vinctor.Service.IdempotencyCodecs
import Vinctor.Service.IdempotencyCrypto
import Vinctor.Service.IdempotencyEffects
import Vinctor.Service.IdempotencyHistory
import Vinctor.Service.IdempotencyKeyring
import Vinctor.Service.IdempotencyLifecycle
import Vinctor.Service.IdempotencyModels
import Vinctor.Service.IdempotencyReplay
import Vinctor.Service.IdempotencyRuns
import Vinctor.Service.IdempotencySteps
import Vinctor.Service.IdempotencyStorage
import Vinctor.Service.IdempotencyTransactions
import Vinctor.Service.InMemory
import Vinctor.Service.InferenceWindows
import Vinctor.Service.KeyLifecycle
import Vinctor.Service.KeyRotation
import Vinctor.Service.LifecycleSteps
import Vinctor.Service.LocalKeys
import Vinctor.Service.MandateStorage
import Vinctor.Service.Models
import Vinctor.Service.NonInterference
import Vinctor.Service.NonceUniqueness
import Vinctor.Service.OperatorViews
import Vinctor.Service.PolicyBackends
import Vinctor.Service.PolicyExports
import Vinctor.Service.PolicyFiles
import Vinctor.Service.PolicyFrames
import Vinctor.Service.PolicyRestoration
import Vinctor.Service.PolicyRoundTrip
import Vinctor.Service.PolicyTables
import Vinctor.Service.PolicyVersions
import Vinctor.Service.PolicyWrites
import Vinctor.Service.Pop
import Vinctor.Service.PopBinding
import Vinctor.Service.PopReplay
import Vinctor.Service.PostgresAudit
import Vinctor.Service.PostgresChain
import Vinctor.Service.PostgresConnection
import Vinctor.Service.PostgresIdempotency
import Vinctor.Service.PostgresIdempotencyRuns
import Vinctor.Service.PostgresIdempotencySafety
import Vinctor.Service.PostgresKeys
import Vinctor.Service.PostgresKeysRuns
import Vinctor.Service.PostgresKeysSafety
import Vinctor.Service.PostgresKeysServices
import Vinctor.Service.PostgresReadiness
import Vinctor.Service.PostgresReadinessRuns
import Vinctor.Service.PostgresReadinessSafety
import Vinctor.Service.ProposalEvidence
import Vinctor.Service.ProvenIdentity
import Vinctor.Service.RateLimitSources
import Vinctor.Service.RateLimits
import Vinctor.Service.ReadinessBound
import Vinctor.Service.ReadinessProbe
import Vinctor.Service.ReplayStores
import Vinctor.Service.ReportCoherence
import Vinctor.Service.ReportStreams
import Vinctor.Service.Repositories
import Vinctor.Service.RuleEdits
import Vinctor.Service.ShownMandates
import Vinctor.Service.SimulationAgreement
import Vinctor.Service.Simulations
import Vinctor.Service.SlotLedger
import Vinctor.Service.SqliteAudit
import Vinctor.Service.SqliteAuditSafety
import Vinctor.Service.SqliteBackup
import Vinctor.Service.SqlitePool
import Vinctor.Service.SqlitePoolSafety
import Vinctor.Service.SqliteReplacement
import Vinctor.Service.SqliteReplacementCrashes
import Vinctor.Service.SqliteReplacementRuns
import Vinctor.Service.SqliteReplacementSafety
import Vinctor.Service.StoredPolicies
import Vinctor.Service.StoredResults
import Vinctor.Service.SubjectTokens
import Vinctor.Service.TamperEvidence
import Vinctor.Service.TokenRuns
import Vinctor.Service.V1Enforce
import Vinctor.Service.V1Exits
