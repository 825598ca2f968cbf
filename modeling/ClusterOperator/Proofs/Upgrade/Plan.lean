import ClusterOperator.Proofs.Text.Numerals
import ClusterOperator.Upgrade.Plan

/-!
# The order names every server once

A pod's name tells its ordinal, and the order of an upgrade lists every declared ordinal exactly
once, whichever class comes first and whatever the servers host:

> **`buildPlan_perm`** — the ordinals of an order are the declared ordinals, rearranged.

So two servers of an order never share a pod. An upgrade counts servers by their place in the order
and deletes pods by their name; without this the two could differ.
-/

set_option autoImplicit false

namespace ClusterOperator

/-! ## Names of pods -/

theorem podName_injective {cluster : String} {a b : Ordinal}
    (h : podName cluster a = podName cluster b) : a = b :=
  Int32.toInt_inj.mp (Text.toString_int_inj ((String.append_right_inj _).mp h))

/-! ## The declared ordinals -/

theorem nodup_ordinals (servers : Int32) : (ordinals servers).Nodup := by
  unfold ordinals
  refine List.pairwise_map.mpr (List.nodup_range.imp_of_mem fun {i j} hi hj hne heq => hne ?_)
  -- An ordinal is below the number of servers, which fits, so no two of them wrap to one.
  have hbound := Int32.toInt_lt servers
  rw [List.mem_range] at hi hj
  have hint := congrArg Int32.toInt heq
  rw [Int32.toInt_ofNat_of_lt (by omega), Int32.toInt_ofNat_of_lt (by omega)] at hint
  exact Int.ofNat.inj hint

/-! ## The order -/

section
variable (cluster : String) (topology : Topology) (hosted : HostedDatabases) (order : UpgradeOrder)

/-- **The ordinals of an order are the declared ordinals, rearranged.** -/
theorem buildPlan_perm :
    ((buildPlan cluster topology hosted order).map (·.ordinal)).Perm
      (ordinals topology.servers) := by
  unfold buildPlan
  generalize hservers : (ordinals topology.servers).reverse.map (fun ordinal =>
    (⟨ordinal, classOfServer cluster topology hosted ordinal⟩ : PlannedServer)) = servers
  -- The two classes are the two halves of one filter, so together they are all the servers.
  have hordinals : servers.map (·.ordinal) = (ordinals topology.servers).reverse := by
    rw [← hservers, List.map_map]
    exact List.map_id _
  refine ((List.filter_append_perm (·.serverClass == order.first) servers).map _).trans ?_
  rw [hordinals]
  exact List.reverse_perm _

theorem nodup_ordinal_buildPlan :
    ((buildPlan cluster topology hosted order).map (·.ordinal)).Nodup :=
  (buildPlan_perm cluster topology hosted order).nodup_iff.mpr (nodup_ordinals _)

end

end ClusterOperator
