import EsanGbos.ActionGuard.Policy
import EsanGbos.AgentRuntime.Completion
import EsanGbos.AgentRuntime.Fencing
import EsanGbos.AgentRuntime.InvocationAgreement
import EsanGbos.AgentRuntime.MaterializationDelivery
import EsanGbos.AgentRuntime.MaterializationQueue
import EsanGbos.AgentRuntime.Screening
import EsanGbos.App.DraftPages
import EsanGbos.App.History
import EsanGbos.App.Once
import EsanGbos.App.Pagination
import EsanGbos.App.Visibility
import EsanGbos.Context.AgentView
import EsanGbos.Context.Convergence
import EsanGbos.Context.Release
import EsanGbos.LocalPilotRuntime.Restart
import EsanGbos.MediaRuntime.Refinement
import EsanGbos.Metrics.Agreement
import EsanGbos.Metrics.Availability
import EsanGbos.Metrics.Projector
import EsanGbos.ModelGateway.Coverage
import EsanGbos.ModelGateway.Detokenization
import EsanGbos.ModelGateway.InvocationAudit
import EsanGbos.ModelGateway.Receipts
import EsanGbos.Observer.Agreement
import EsanGbos.Observer.Archive
import EsanGbos.Observer.Commands
import EsanGbos.Observer.Cursor
import EsanGbos.Observer.Identifiers
import EsanGbos.Observer.Ingress
import EsanGbos.Observer.Interruption
import EsanGbos.Observer.Lifecycle
import EsanGbos.Observer.Marking
import EsanGbos.Observer.Pausing
import EsanGbos.Observer.Settlement
import EsanGbos.Observer.Stranding
import EsanGbos.Observer.Webhook
