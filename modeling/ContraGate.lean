import ContraGate.Library.Machine
import ContraGate.HandoffSchema
import ContraGate.WorkflowStore
import ContraGate.WorkflowStoreTheorems
import ContraGate.Execution
import ContraGate.ExecutionTheorems
import ContraGate.ExecutionOnce
import ContraGate.HumanReview
import ContraGate.StoreRuns
import ContraGate.View
import ContraGate.HumanReviewTheorems
import ContraGate.ReviewDecisions
import ContraGate.Intake
import ContraGate.RiskGate
import ContraGate.Graph
import ContraGate.Gateway
import ContraGate.GraphTheorems
import ContraGate.GatewayTheorems
import ContraGate.StandingApproval
import ContraGate.FinalStatus
import ContraGate.CompletedExecuted
import ContraGate.PolicyRejection
import ContraGate.Library.Scan
import ContraGate.Library.SqlLex
import ContraGate.ExplainParser
import ContraGate.ExplainParserTheorems
import ContraGate.ExplainTarget
import ContraGate.Library.SqlStatements
import ContraGate.ExplainWrites
import ContraGate.Library.PgSession
import ContraGate.TransactionSandbox
import ContraGate.SandboxIsolation
import ContraGate.McpClient
import ContraGate.McpEnvelope
import ContraGate.McpFailures
import ContraGate.Library.Walks
import ContraGate.CascadeTracer
import ContraGate.CascadePaths
import ContraGate.Library.StableSort
import ContraGate.MemoryStore
import ContraGate.RiskRules
import ContraGate.Retrieval
import ContraGate.RejectionEscalates
import ContraGate.ExplainResult
import ContraGate.FastPath
import ContraGate.Classifiers
import ContraGate.Library.Fallible
import ContraGate.ExplainJson
import ContraGate.Library.PyCall
import ContraGate.PostgresReader
import ContraGate.PolicyRules
import ContraGate.ExtractTables
import ContraGate.QuickCheck
import ContraGate.GateCalls
import ContraGate.ReadImpact
import ContraGate.PolicyEvaluation
import ContraGate.Interception
import ContraGate.DropTruncate
import ContraGate.GateRefinement
import ContraGate.Library.SqlTree
import ContraGate.TableExtraction
import ContraGate.AnalyzerTools
import ContraGate.Analyzer
import ContraGate.ApprovalContract
import ContraGate.ContextSim
import ContraGate.ContractAgent
import ContraGate.FieldOwnership
import ContraGate.Library.PyDict
import ContraGate.ManifestBinding
import ContraGate.StatusResponse
import ContraGate.StoreCalls
import ContraGate.WriteThrough
import ContraGate.Notifications
import ContraGate.StatusStream
import ContraGate.RiskIndependence
import ContraGate.ReaderTools
import ContraGate.ReaderReplies
import ContraGate.HealthyAnalysis
import ContraGate.CascadeCondition
import ContraGate.CascadeTriggers
import ContraGate.Library.Tags
import ContraGate.Prompts
import ContraGate.PromptBoundary
import ContraGate.Library.RowChanges
import ContraGate.SandboxCounts
import ContraGate.Library.IsoTime
import ContraGate.ContractJson
import ContraGate.DatabaseRows
import ContraGate.AuditFeedback
import ContraGate.ContractWrites
import ContraGate.Restart
import ContraGate.RestartRoundTrip
import ContraGate.DecisionAgreement
import ContraGate.PolicyOrder
import ContraGate.RiskMonotone
import ContraGate.StartWorkflow
import ContraGate.ProvenanceTrail
import ContraGate.Library.JsonText
import ContraGate.Library.Jsonb
import ContraGate.AuditLog
import ContraGate.AuditListing
import ContraGate.TamperEvidence
import ContraGate.Library.Unwinding
import ContraGate.OperationMemory
import ContraGate.TenantIsolation
import ContraGate.ReversibilityTable
import ContraGate.ClassifierAgreement
import ContraGate.FailClosed
import ContraGate.AutoExecute
import ContraGate.PermanentComponents
import ContraGate.SelectiveReanalysis
import ContraGate.ModifyRounds
import ContraGate.SimulationData
import ContraGate.SectionTotals
import ContraGate.ConditionExtraction
import ContraGate.TargetTable
import ContraGate.IntentExtraction
import ContraGate.AuditTrail
import ContraGate.CompositeKeys
import ContraGate.AccuracyFeedback
import ContraGate.UnreadableTables
import ContraGate.SandboxSessions
import ContraGate.InterceptionTotal
import ContraGate.EstimateReply
import ContraGate.Library.KeywordForms
import ContraGate.ProseScreen
import ContraGate.ProseIndependence
import ContraGate.ApiKeys
import ContraGate.TriggerRoundTrip
import ContraGate.ExecutionOutcome
import ContraGate.Library.Components
import ContraGate.Proxy
import ContraGate.ProxyIsolation
import ContraGate.ProxySafety
import ContraGate.ApprovalPage
import ContraGate.AssembledContract
import ContraGate.Library.EventStream
import ContraGate.Library.PyInt
import ContraGate.PageStops
import ContraGate.SlackChannel
import ContraGate.StatusEvents
import ContraGate.Library.Potential
import ContraGate.ReviewedContract
import ContraGate.TaskEnds
import ContraGate.ContractView
import ContraGate.ContractViewTheorems
import ContraGate.PanelSends
