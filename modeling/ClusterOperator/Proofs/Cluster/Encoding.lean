import ClusterOperator.Cluster.Status
import ClusterOperator.Proofs.Json.Records

/-!
# What is persisted of a cluster

The declaration and the status are kept as documents, and nothing else is: what a pass knows of the
passes before it is what it reads there.

> **`persisted_readsBack`** — every declaration and every status is read back as it was, from the
> document and from the text of the document.

Both are records of records, and are read back part by part, from the names and numbers up. A record
is one level deeper than its parts.
-/

set_option autoImplicit false

namespace ClusterOperator

open Json

variable {d : Nat}

/-! ## Names -/

theorem faithful_mode : Faithful d Mode.ofJson? Mode.toJson :=
  faithful_choice (fun mode => by cases mode <;> decide) (by decide)

theorem faithful_upgradeOrder : Faithful d UpgradeOrder.ofJson? fun order => .str order.name :=
  faithful_choice (fun order => by cases order <;> decide) (by decide)

theorem faithful_clusterPhase : Faithful d ClusterPhase.ofJson? fun phase => .str phase.name :=
  faithful_choice (fun phase => by cases phase <;> decide) (by decide)

theorem faithful_health : Faithful d MembershipHealth.ofJson? fun health => .str health.name :=
  faithful_choice (fun health => by cases health <;> decide) (by decide)

theorem faithful_upgradePhase : Faithful d UpgradePhase.ofJson? fun phase => .str phase.name :=
  faithful_choice (fun phase => by cases phase <;> decide) (by decide)

theorem faithful_serverClass :
    Faithful d ServerClass.ofJson? fun serverClass => .str serverClass.name :=
  faithful_choice (fun serverClass => by cases serverClass <;> decide) (by decide)

/-! ## The declaration -/

theorem faithful_roleHint : Faithful (d + 1) RoleHint.ofJson? RoleHint.toJson := by
  refine .object _ (fun h => rfl) (by simp) fun h => ?_
  refine .required faithful_int32 ?_
  exact .required faithful_string (.pure h)

theorem faithful_image : Faithful (d + 1) ImageSpec.ofJson? ImageSpec.toJson := by
  refine .object _ (fun i => rfl) (by simp) fun i => ?_
  refine .defaulted faithful_string ?_
  refine .defaulted faithful_string ?_
  exact .defaulted faithful_string (.pure i)

theorem faithful_secretRef : Faithful (d + 1) SecretRef.ofJson? SecretRef.toJson := by
  refine .object _ (fun s => rfl) (by simp) fun s => ?_
  refine .required faithful_string ?_
  exact .defaulted faithful_string (.pure s)

theorem faithful_auth : Faithful (d + 2) Auth.ofJson? Auth.toJson := by
  refine .object _ (fun a => rfl) (by simp) fun a => ?_
  exact .required faithful_secretRef (.pure a)

theorem faithful_upgradeStrategy :
    Faithful (d + 1) UpgradeStrategy.ofJson? UpgradeStrategy.toJson := by
  refine .object _ (fun s => rfl) (by simp) fun s => ?_
  refine .defaulted faithful_bool ?_
  refine .defaulted faithful_bool ?_
  refine .defaulted faithful_bool ?_
  refine .defaulted faithful_int32 ?_
  refine .defaulted faithful_uint64 ?_
  exact .defaulted faithful_upgradeOrder (.pure s)

theorem faithful_consistency :
    Faithful (d + 1) ConsistencyOverrides.ofJson? ConsistencyOverrides.toJson := by
  refine .record _ (fun c => rfl) (by simp) fun c => ?_
  refine .optional faithful_uint64 ?_
  refine .optional faithful_uint64 ?_
  exact .optional faithful_uint64 (.pure c)

theorem faithful_storage : Faithful (d + 1) StorageSpec.ofJson? StorageSpec.toJson := by
  refine .record _ (fun s => rfl) (by simp) fun s => ?_
  refine .optional faithful_string ?_
  exact .defaulted faithful_string (.pure s)

theorem faithful_compute : Faithful (d + 1) ComputeSpec.ofJson? ComputeSpec.toJson := by
  refine .object _ (fun c => rfl) (by simp) fun c => ?_
  refine .defaulted faithful_string ?_
  exact .defaulted faithful_string (.pure c)

/-- **A declaration is read back.** -/
theorem faithful_spec : Faithful (d + 3) ClusterSpec.ofJson? ClusterSpec.toJson := by
  refine .record _ (fun s => rfl) (by simp) fun s => ?_
  refine .defaulted faithful_int32 ?_
  refine .defaulted faithful_mode ?_
  refine .listing faithful_roleHint ?_
  refine .defaulted faithful_image ?_
  refine .optional faithful_auth ?_
  refine .defaulted faithful_string.map ?_
  refine .defaulted faithful_upgradeStrategy ?_
  refine .defaulted faithful_consistency ?_
  refine .defaulted faithful_storage ?_
  refine .defaulted faithful_compute ?_
  refine .defaulted faithful_string.map ?_
  exact .defaulted faithful_string.map (.pure s)

/-! ## The status -/

theorem faithful_replicas : Faithful (d + 1) ReplicaCount.ofJson? ReplicaCount.toJson := by
  refine .object _ (fun r => rfl) (by simp) fun r => ?_
  refine .required faithful_int32 ?_
  exact .required faithful_int32 (.pure r)

theorem faithful_serverStatus : Faithful (d + 1) ServerStatus.ofJson? ServerStatus.toJson := by
  refine .object _ (fun s => rfl) (by simp) fun s => ?_
  refine .required faithful_int32 ?_
  exact .required faithful_mode (.pure s)

theorem faithful_endpoints : Faithful (d + 1) Endpoints.ofJson? Endpoints.toJson := by
  refine .object _ (fun e => rfl) (by simp) fun e => ?_
  refine .required faithful_string ?_
  exact .required faithful_string (.pure e)

theorem faithful_configuration :
    Faithful (d + 1) ConfigurationRecord.ofJson? ConfigurationRecord.toJson := by
  refine .record _ (fun c => rfl) (by simp) fun c => ?_
  refine .optional faithful_string ?_
  refine .optional faithful_string ?_
  refine .optional faithful_string ?_
  exact .optional faithful_string (.pure c)

theorem faithful_membership :
    Faithful (d + 2) MembershipRecord.ofJson? MembershipRecord.toJson := by
  refine .record _ (fun m => rfl) (by simp) fun m => ?_
  refine .defaulted faithful_health ?_
  refine .optional faithful_string ?_
  refine .optional faithful_string ?_
  refine .optional faithful_string ?_
  exact .listing faithful_string (.pure m)

theorem faithful_classProgress : Faithful (d + 1) ClassProgress.ofJson? ClassProgress.toJson := by
  refine .object _ (fun p => rfl) (by simp) fun p => ?_
  refine .required faithful_int32 ?_
  refine .required faithful_int32 ?_
  refine .required faithful_int32 ?_
  exact .required faithful_int32 (.pure p)

theorem faithful_upgradeProgress :
    Faithful (d + 2) UpgradeProgress.ofJson? UpgradeProgress.toJson := by
  refine .object _ (fun p => rfl) (by simp) fun p => ?_
  refine .required faithful_classProgress ?_
  exact .required faithful_classProgress (.pure p)

theorem faithful_plannedServer : Faithful (d + 1) PlannedServer.ofJson? PlannedServer.toJson := by
  refine .object _ (fun p => rfl) (by simp) fun p => ?_
  refine .required faithful_int32 ?_
  exact .required faithful_serverClass (.pure p)

theorem faithful_inFlightServer :
    Faithful (d + 1) InFlightServer.ofJson? InFlightServer.toJson := by
  refine .object _ (fun s => rfl) (by simp) fun s => ?_
  refine .required faithful_int32 ?_
  exact .required faithful_string (.pure s)

theorem faithful_upgradeRecord : Faithful (d + 3) UpgradeRecord.ofJson? UpgradeRecord.toJson := by
  refine .record _ (fun u => rfl) (by simp) fun u => ?_
  refine .defaulted faithful_upgradePhase ?_
  refine .optional faithful_string ?_
  refine .required faithful_string ?_
  refine .defaulted faithful_upgradeProgress ?_
  refine .listing faithful_plannedServer ?_
  refine .listing faithful_inFlightServer ?_
  refine .optional faithful_string ?_
  refine .optional faithful_string ?_
  refine .optional faithful_string ?_
  refine .optional faithful_string ?_
  refine .optional faithful_string ?_
  exact .optional faithful_string (.pure u)

theorem faithful_condition : Faithful (d + 1) Condition.ofJson? Condition.toJson := by
  refine .record _ (fun c => rfl) (by simp) fun c => ?_
  refine .required faithful_string ?_
  refine .required faithful_string ?_
  refine .required faithful_string ?_
  refine .required faithful_string ?_
  refine .required faithful_string ?_
  exact .nullable faithful_int64 (.pure c)

/-- **A status is read back.** -/
theorem faithful_status : Faithful (d + 4) ClusterStatus.ofJson? ClusterStatus.toJson := by
  refine .record _ (fun s => rfl) (by simp) fun s => ?_
  refine .defaulted faithful_clusterPhase ?_
  refine .defaulted faithful_replicas ?_
  refine .optional faithful_string ?_
  refine .optional faithful_upgradeRecord ?_
  refine .defaulted faithful_configuration ?_
  refine .defaulted faithful_membership ?_
  refine .listing faithful_serverStatus ?_
  refine .optional faithful_int64 ?_
  refine .defaulted faithful_condition.list ?_
  exact .optional faithful_endpoints (.pure s)

/-- **Persisted state is read back as it was**, whatever it is: as a document, and as the text of
that document. -/
theorem persisted_readsBack :
    (∀ status : ClusterStatus, ClusterStatus.ofJson? status.toJson = some status ∧
      (parse? status.toJson.compress).bind ClusterStatus.ofJson? = some status) ∧
    ∀ spec : ClusterSpec, ClusterSpec.ofJson? spec.toJson = some spec ∧
      (parse? spec.toJson.compress).bind ClusterSpec.ofJson? = some spec := by
  refine ⟨fun status => ⟨?_, ?_⟩, fun spec => ⟨?_, ?_⟩⟩
  · exact (faithful_status (d := 0)).reads status
  · exact (faithful_status (d := 0)).parse?_compress (by decide) status
  · exact (faithful_spec (d := 0)).reads spec
  · exact (faithful_spec (d := 0)).parse?_compress (by decide) spec

end ClusterOperator
