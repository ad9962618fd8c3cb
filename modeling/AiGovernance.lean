import AiGovernance.Audits.Inertness
import AiGovernance.Audits.Locking
import AiGovernance.Authorization.AgentFacts
import AiGovernance.Authorization.Delegations
import AiGovernance.Authorization.HttpContract
import AiGovernance.Authorization.Linearizability
import AiGovernance.Connections.LostUpdates
import AiGovernance.Decisions.EvidenceLimits
import AiGovernance.Decisions.Justification
import AiGovernance.Decisions.Persistence
import AiGovernance.Decisions.Simulation
import AiGovernance.Evaluations.Persistence
import AiGovernance.Events.Ordering
import AiGovernance.Experiments.ParameterOverrides
import AiGovernance.Experiments.Winners
import AiGovernance.Findings.Finality
import AiGovernance.Findings.Persistence
import AiGovernance.Findings.Recovery
import AiGovernance.Findings.Selection
import AiGovernance.Findings.Windows
import AiGovernance.Interventions.Lifecycle
import AiGovernance.Jobs.Selection
import AiGovernance.Jobs.Statements
import AiGovernance.Lifecycle.Pagination
import AiGovernance.Lifecycle.Privacy
import AiGovernance.Lifecycle.Redelivery
import AiGovernance.Lifecycle.WorkflowSteps
import AiGovernance.Ontology.Agreement
import AiGovernance.Ontology.Uniqueness
import AiGovernance.Policies.Activation
import AiGovernance.Projections.Faithfulness
import AiGovernance.Registries.Observations
import AiGovernance.Replays.AtomicCancellation
import AiGovernance.Replays.Cancellation
import AiGovernance.Replays.CatalogPages
import AiGovernance.Replays.Evidence
import AiGovernance.Replays.ResultPages
import AiGovernance.Replays.RoundTrip
import AiGovernance.Settings.Isolation
import AiGovernance.Settings.Ledger
import AiGovernance.Synchronization.Attempts
import AiGovernance.Telemetry.Conservation
import AiGovernance.Tenancy.Administrators
import AiGovernance.Tenancy.Grants
import AiGovernance.Tenancy.Noninterference
import AiGovernance.Tenancy.TokenErrors
