import ClusterOperator.Admin.Exchange
import ClusterOperator.Simulation.Platform
import ClusterOperator.Simulation.Scenario
import ClusterOperator.Proofs.Configuration.Debounce
import ClusterOperator.Proofs.Membership.Grace
import ClusterOperator.Proofs.Pass.Deletions
import ClusterOperator.Proofs.Upgrade.Restarts
import ClusterOperator.Proofs.Upgrade.Rollback
import ClusterOperator.Proofs.Upgrade.Timers
import ClusterOperator.Proofs.Pass.Memory
import ClusterOperator.Proofs.Pass.Reconciling
import ClusterOperator.Proofs.Pass.History
import ClusterOperator.Proofs.Pass.Interleaving
import ClusterOperator.Proofs.Membership.Cooldown
import ClusterOperator.Proofs.Upgrade.Lifecycle
import ClusterOperator.Proofs.Membership.Agreement
import ClusterOperator.Proofs.Configuration.Recorded
import ClusterOperator.Proofs.Upgrade.Order
import ClusterOperator.Proofs.Upgrade.Gate
import ClusterOperator.Proofs.Membership.Minority
import ClusterOperator.Proofs.Membership.Health
import ClusterOperator.Proofs.Configuration.Rollout
import ClusterOperator.Proofs.Configuration.Annotation
import ClusterOperator.Proofs.Configuration.Digest
import ClusterOperator.Proofs.Configuration.Boot
import ClusterOperator.Proofs.Resources.Selection
import ClusterOperator.Proofs.Resources.Children
import ClusterOperator.Proofs.Pass.Finalizer
import ClusterOperator.Proofs.Pass.Rejecting
import ClusterOperator.Proofs.Validation.Valid
import ClusterOperator.Proofs.Upgrade.Tokens
import ClusterOperator.Proofs.Pass.Databases
import ClusterOperator.Proofs.Upgrade.Planning
import ClusterOperator.Proofs.Upgrade.Completion
import ClusterOperator.Proofs.Pass.Conditions
import ClusterOperator.Proofs.Pass.Steady
import ClusterOperator.Proofs.Pass.Phases
import ClusterOperator.Proofs.Metrics.Phases
import ClusterOperator.Proofs.Membership.Recognition
import ClusterOperator.Proofs.Cluster.Encoding
import ClusterOperator.Proofs.Configuration.Coverage
import ClusterOperator.Proofs.Membership.Division
import ClusterOperator.Proofs.Upgrade.Progress
import ClusterOperator.Proofs.Upgrade.Repetition
import ClusterOperator.Proofs.Pass.Splits
import ClusterOperator.Proofs.Validation.Downgrade
import ClusterOperator.Proofs.Validation.Hints
import ClusterOperator.Proofs.Pass.Transitions
import ClusterOperator.Proofs.Platform.Vanishing
import ClusterOperator.Proofs.Membership.Fingerprint
import ClusterOperator.Proofs.Settings.Loading
import ClusterOperator.Proofs.Membership.Asking
import ClusterOperator.Proofs.Upgrade.Tracking
import ClusterOperator.Proofs.Pass.Backoff
