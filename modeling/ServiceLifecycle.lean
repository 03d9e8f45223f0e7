import ServiceLifecycle.Graph.Discovery
import ServiceLifecycle.Json.Codec
import ServiceLifecycle.Proofs.Branch
import ServiceLifecycle.Proofs.Convergence
import ServiceLifecycle.Proofs.Cycles
import ServiceLifecycle.Proofs.Interruption
import ServiceLifecycle.Proofs.Quiescence
import ServiceLifecycle.Proofs.Validity
import ServiceLifecycle.Provider.Session
import ServiceLifecycle.Task.Script
import ServiceLifecycle.Proofs.Amendments
import ServiceLifecycle.Proofs.References
import ServiceLifecycle.Proofs.Callbacks
import ServiceLifecycle.Proofs.Outcomes
import ServiceLifecycle.Proofs.Verdicts
import ServiceLifecycle.Proofs.Teardown
import ServiceLifecycle.Proofs.Accounting
import ServiceLifecycle.Proofs.Recounts
import ServiceLifecycle.Proofs.Cleanup
import ServiceLifecycle.Proofs.Dismantling
import ServiceLifecycle.Proofs.Repetitions
import ServiceLifecycle.Proofs.Subgraph
import ServiceLifecycle.Proofs.Unscheduling
import ServiceLifecycle.Proofs.Rollback
import ServiceLifecycle.Proofs.Edits
import ServiceLifecycle.Proofs.Instances
import ServiceLifecycle.Proofs.Refusals
import ServiceLifecycle.Proofs.Lifetimes
