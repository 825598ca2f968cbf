import ClusterOperator.Proofs.Configuration.Files
import ClusterOperator.Proofs.Platform.Applying

/-!
# The labels by which pods are found

The pods of a cluster are found by two labels. Four look for them: the set of the servers, both
services, and the operator itself when it lists them. The labels that they look for are the
operator's alone; but the pods carry the labels of every resource, and over those the user's are
put.

> **`selected_iff`** — all four find the pods of the template exactly if the user gives neither
> label another value.

So the labels that a user adds do no harm, and a user who sets one of the two anew keeps every pod
from being found (`not_selected_renamed`).
-/

set_option autoImplicit false

namespace ClusterOperator

open Platform

/-- That a selector finds what carries some labels: every label that it names is there, with the
value that it names. -/
def Selects (selector labels : SortedMap String) : Prop :=
  ∀ e ∈ selector.entries, labels.find? e.1 = some e.2

/-- The query that lists what a selector finds. -/
def labelQuery (selector : SortedMap String) : String :=
  "labelSelector=" ++ Text.formEncoded (selectorText selector)

/-- That the pods of a cluster are found by all that look for them. The labels are written at
several places from one function, but the user's own labels are put over them at one of these
only. -/
structure Cluster.Selected (c : Cluster) (manifest : Manifest) : Prop where
  statefulSet : Selects (c.statefulSet manifest).selector (c.statefulSet manifest).template.labels
  headlessService : Selects c.headlessService.selector (c.statefulSet manifest).template.labels
  clientService : Selects c.clientService.selector (c.statefulSet manifest).template.labels
  /-- Whatever is asked when the pods are listed. -/
  listed : ∀ (millis : Nat) (replies : List (Turn fun _ : Request => Reply))
    (result : Except Failure (List ServerPod)), (listServerPods millis c).Runs replies result →
      ∀ turn ∈ replies, ∃ selector, turn.question.query = labelQuery selector ∧
        Selects selector (c.statefulSet manifest).template.labels

theorem Platform.asked_of_send {α : Type} {deadline : Deadline} {read : Json → Option α}
    {request : Request} {replies : List (Turn fun _ : Request => Reply)}
    {result : Except Failure α} (h : (send deadline read request).Runs replies result) :
    ∃ reply, replies = [⟨request, reply⟩] := by
  obtain ⟨before, reply, after, rfl, hquery, hdone⟩ := Program.runs_bind.mp h
  obtain ⟨rfl, -⟩ := Program.runs_done.mp hdone
  rw [List.append_nil]
  exact ⟨reply, Program.runs_query.mp hquery⟩

section
variable {c : Cluster}

theorem query_of_listServerPods {millis : Nat}
    {replies : List (Turn fun _ : Request => Reply)} {result : Except Failure (List ServerPod)}
    (h : (listServerPods millis c).Runs replies result) :
    ∀ turn ∈ replies, turn.question.query = labelQuery c.selectorLabels := by
  have hasked : ∃ request reply, request.query = labelQuery c.selectorLabels ∧
      replies = [⟨request, reply⟩] := by
    rcases Program.runs_bind_except.mp h with ⟨_, _, hsend⟩ | ⟨_, _, _, rfl, hsend, hdone⟩
    · obtain ⟨reply, heq⟩ := asked_of_send hsend
      exact ⟨_, reply, rfl, heq⟩
    · obtain ⟨reply, rfl⟩ := asked_of_send hsend
      obtain ⟨rfl, -⟩ := Program.runs_done.mp hdone
      exact ⟨_, reply, rfl, List.append_nil _⟩
  obtain ⟨request, reply, hquery, rfl⟩ := hasked
  intro turn hturn
  rw [List.mem_singleton.mp hturn]
  exact hquery

theorem mem_selectorLabels_iff {e : String × String} : e ∈ c.selectorLabels.entries ↔
    e = (nameLabel, c.name) ∨ e = (managedByLabel, operatorName) := by
  have hnodup : ([(nameLabel, c.name), (managedByLabel, operatorName)].map (·.1)).Nodup := by
    change [nameLabel, managedByLabel].Nodup
    decide
  unfold Cluster.selectorLabels
  rw [SortedMap.mem_ofList_iff hnodup]
  simp

/-- The operator's labels on a resource, without the user's. -/
theorem find?_standardLabels {e : String × String} (h : e ∈ c.selectorLabels.entries) :
    c.standardLabels.find? e.1 = (c.spec.labels.find? e.1).or (some e.2) := by
  have hnodup : ([(nameLabel, c.name), (managedByLabel, operatorName),
      (componentLabel, "neo4j")].map (·.1)).Nodup := by
    change [nameLabel, managedByLabel, componentLabel].Nodup
    decide
  have hown : (SortedMap.ofList [(nameLabel, c.name), (managedByLabel, operatorName),
      (componentLabel, "neo4j")]).find? e.1 = some e.2 := by
    rw [SortedMap.find?_eq_some_iff, SortedMap.mem_ofList_iff hnodup]
    rcases mem_selectorLabels_iff.mp h with rfl | rfl <;> simp
  -- The user's labels are put over the operator's, so they are found first.
  unfold Cluster.standardLabels
  rw [SortedMap.find?_union, hown]

theorem selects_standardLabels_iff : Selects c.selectorLabels c.standardLabels ↔
    (∀ value, c.spec.labels.find? nameLabel = some value → value = c.name) ∧
      (∀ value, c.spec.labels.find? managedByLabel = some value → value = operatorName) := by
  have hor : ∀ (found : Option String) (own : String),
      found.or (some own) = some own ↔ ∀ value, found = some value → value = own := by
    intro found own
    cases found <;> simp
  have hlabel : ∀ e ∈ c.selectorLabels.entries, c.standardLabels.find? e.1 = some e.2 ↔
      ∀ value, c.spec.labels.find? e.1 = some value → value = e.2 := by
    intro e he
    rw [find?_standardLabels he, hor]
  have hname : (nameLabel, c.name) ∈ c.selectorLabels.entries :=
    mem_selectorLabels_iff.mpr (.inl rfl)
  have hmanaged : (managedByLabel, operatorName) ∈ c.selectorLabels.entries :=
    mem_selectorLabels_iff.mpr (.inr rfl)
  constructor
  · intro h
    exact ⟨(hlabel _ hname).mp (h _ hname), (hlabel _ hmanaged).mp (h _ hmanaged)⟩
  · rintro ⟨hname', hmanaged'⟩ e he
    rw [hlabel e he]
    rcases mem_selectorLabels_iff.mp he with rfl | rfl
    · exact hname'
    · exact hmanaged'

/-- **The pods of a cluster are found exactly if the user keeps the labels by which they are.** The
user may set the two labels, as long as the values are those that they have anyway. -/
theorem selected_iff (manifest : Manifest) : c.Selected manifest ↔
    (∀ value, c.spec.labels.find? nameLabel = some value → value = c.name) ∧
      (∀ value, c.spec.labels.find? managedByLabel = some value → value = operatorName) := by
  rw [← selects_standardLabels_iff]
  constructor
  · intro h
    exact h.statefulSet
  · intro h
    exact ⟨h, h, h, fun millis replies result hrun turn hturn =>
      ⟨c.selectorLabels, query_of_listServerPods hrun turn hturn, h⟩⟩

end

/-- One server, with a label of the user's. -/
def labelledCluster (label value : String) : Cluster :=
  { metadata := { name := some "db", «namespace» := some "data" }
    spec := { servers := 1, labels := .ofList [(label, value)] } }

/-- **A user may rename the pods, and then they are not found.** The label that the user sets takes
the place of the one that is selected by. -/
theorem not_selected_renamed :
    validateCluster (labelledCluster nameLabel "graphs") none =
        .ok ⟨.standalone, [.unrestricted]⟩ ∧
      ¬ (labelledCluster nameLabel "graphs").Selected
        (.of ⟨.standalone, [.unrestricted]⟩ "neo4j:5.26.0"
          (deriveConfig ⟨.standalone, [.unrestricted]⟩
            ((labelledCluster nameLabel "graphs").renderInputs none))) := by
  refine ⟨by decide +kernel, fun h => ?_⟩
  obtain ⟨hname, -⟩ := selects_standardLabels_iff.mp h.statefulSet
  exact absurd (hname "graphs" (by decide)) (by decide)

end ClusterOperator
