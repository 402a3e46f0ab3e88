import AgenticLab.Verification.Application.Acquire
import AgenticLab.Verification.Application.CancellationPairing
import AgenticLab.Verification.Application.Leases
import AgenticLab.Verification.Log.AppendOnly
import AgenticLab.Verification.Log.Atomicity
import AgenticLab.Verification.Merkle.Inclusion
import AgenticLab.Verification.Merkle.Lengths
import AgenticLab.Verification.Trust.ManifestLogging
import AgenticLab.Verification.Trust.RootChain
import AgenticLab.Verification.Trust.RootLogging
import AgenticLab.Verification.Application.Retries
import AgenticLab.Verification.Application.ResearchFlow
import AgenticLab.Verification.Reports.Sidecars
import AgenticLab.Verification.Reports.ArchiveExport
import AgenticLab.Verification.Research.ReviewRevisionLoop
import AgenticLab.Verification.Trust.CheckpointState
import AgenticLab.Verification.Trust.WitnessQuorum
import AgenticLab.Verification.Trust.WitnessStatement
import AgenticLab.Verification.Memory.Context
import AgenticLab.Verification.Memory.Repeats
import AgenticLab.Verification.Research.VectorIndexLifecycle
import AgenticLab.Verification.Research.CachingLocalDocumentParser
import AgenticLab.Verification.PersistentCacheMaintenance
import AgenticLab.Verification.Research.ParagraphEvidenceExtractor
import AgenticLab.Verification.Research.PipelineSourceSearch
import AgenticLab.Verification.Tracing.TraceSessions
import AgenticLab.Verification.Tracing.AgentTraceArchive
import AgenticLab.Verification.Trust.DecisionReceipt
import AgenticLab.Verification.Research.HttpSourceReader
import AgenticLab.Verification.Trust.SplitViewEvidence
import AgenticLab.Verification.Planning.TopologicalOrder
import AgenticLab.Verification.Planning.PlanningAgentLoop
import AgenticLab.Verification.Rag.ParagraphChunks
import AgenticLab.Verification.Application.LeaseRecovery
import AgenticLab.Verification.Research.MessageReception
import AgenticLab.Verification.Application.ReliabilitySnapshots
import AgenticLab.Verification.Research.ScholarlyWorkGroups
import AgenticLab.Verification.Research.AgentRegistry
import AgenticLab.Verification.Research.PriceRegistry
import AgenticLab.Verification.Research.PatentClaimGrounding
import AgenticLab.Verification.SchemaMigration
import AgenticLab.Verification.CachePrunePlanning
import AgenticLab.Verification.Research.FederatedSourceSearch
import AgenticLab.Verification.Research.AnswerCitationParser
import AgenticLab.Verification.Rag.ContextPacking
import AgenticLab.Verification.Trust.CheckpointExport
import AgenticLab.Verification.Evals.RegressionEvaluation
import AgenticLab.Verification.Research.Stage9AcquisitionAwareLoop
import AgenticLab.Verification.Research.SourceReading
import AgenticLab.Verification.Research.HwpxPackages
import AgenticLab.Verification.Research.GenerativeClaims
import AgenticLab.Verification.ExecutionControl
import AgenticLab.Verification.RetryPolicy
import AgenticLab.Verification.FailureRecovery
import AgenticLab.Verification.Research.PatentCql
