import SyndicateClaw.Api.MemoryAgreement
import SyndicateClaw.Api.RateBounds
import SyndicateClaw.Api.RateKeys
import SyndicateClaw.Api.ReadPolicy
import SyndicateClaw.Api.RunAdmission
import SyndicateClaw.Api.StorageAccounting
import SyndicateClaw.Api.StoredValues
import SyndicateClaw.Approval.Authorities
import SyndicateClaw.Audit.DeadLetterRuns
import SyndicateClaw.Audit.Tampering
import SyndicateClaw.Authz.CacheRaces
import SyndicateClaw.Authz.DenyPrecedence
import SyndicateClaw.Connectors.Base
import SyndicateClaw.Inference.AuditClosure
import SyndicateClaw.Inference.CircuitBreaker
import SyndicateClaw.Inference.CircuitRuns
import SyndicateClaw.Inference.Fallback
import SyndicateClaw.Inference.Revalidation
import SyndicateClaw.Inference.SafeFetch
import SyndicateClaw.Inference.SnapshotRollback
import SyndicateClaw.Inference.StaleEnvelopes
import SyndicateClaw.Inference.SyncSafety
import SyndicateClaw.Memory.CacheKeys
import SyndicateClaw.Memory.TrustRuns
import SyndicateClaw.Memory.ValueLimits
import SyndicateClaw.Orchestrator.AgentWaits
import SyndicateClaw.Orchestrator.ApprovedCalls
import SyndicateClaw.Orchestrator.Attempts
import SyndicateClaw.Orchestrator.AuditTrail
import SyndicateClaw.Orchestrator.CancelledRuns
import SyndicateClaw.Orchestrator.ConditionPrinting
import SyndicateClaw.Orchestrator.EdgeChoice
import SyndicateClaw.Orchestrator.PausedRuns
import SyndicateClaw.Orchestrator.Snapshots
import SyndicateClaw.Policy.FailClosed
import SyndicateClaw.Policy.RuleViews
import SyndicateClaw.Policy.Ties
import SyndicateClaw.Runtime.AuditedRuns
import SyndicateClaw.Runtime.SkillRegistry
import SyndicateClaw.Runtime.Spelling
import SyndicateClaw.RuntimeBoundary.ChainWriters
import SyndicateClaw.RuntimeBoundary.ControlPlaneClient
import SyndicateClaw.RuntimeBoundary.CorruptChain
import SyndicateClaw.RuntimeBoundary.TamperEvidence
import SyndicateClaw.Security.KeyScopes
import SyndicateClaw.Security.Redaction
import SyndicateClaw.Services.ConcurrentEdits
import SyndicateClaw.Services.MessageWriters
import SyndicateClaw.Services.ResponseDelivery
import SyndicateClaw.Services.RunVersions
import SyndicateClaw.Services.ScheduleValidity
import SyndicateClaw.Services.StreamingTokens
import SyndicateClaw.Services.VersionDiff
import SyndicateClaw.Tools.BoundaryBinding
import SyndicateClaw.Tools.PolicyAgreement
import SyndicateClaw.Tools.ToolAudit
