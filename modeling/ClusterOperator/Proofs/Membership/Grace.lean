import ClusterOperator.Membership.Classification
import ClusterOperator.Proofs.Time.Instants

/-!
# No split before its time

A disagreement becomes a split only when it has lasted for the grace period. The detector sees one
pass at a time; all it knows of the passes before is a digest and the text of a time. What it must
not do is stated over the run of all passes:

> **`same_fingerprint_of_split`** — when a pass finds a split, every pass since one that lies a
> whole grace period back observed the same, and no serving pod became ready within the period.

Pods, views, clock, grace and declaration are arbitrary in every pass: pods flap, servers stop
answering, the clock steps back. Each of these changes the digest or moves the start of the window
forward, and neither can make the window longer than it is. The invariant of the run is
`observedSince_eq`: the recorded time is always the clock of *some* pass since which the digest has
not changed.
-/

set_option autoImplicit false

namespace ClusterOperator

open Instant

/-! ## One pass -/

namespace DetectionInput

theorem nanos_le_later_left (a b : Instant) : a.nanos ≤ (later a b).nanos := by
  unfold later
  split
  · rename_i h
    exact Int.le_of_lt (by simpa [before] using h)
  · exact Int.le_refl _

theorem nanos_le_later_right (a b : Instant) : b.nanos ≤ (later a b).nanos := by
  unfold later
  split
  · exact Int.le_refl _
  · rename_i h
    exact Int.not_lt.mp (by simpa [before] using h)

/-- The latest of several instants lies before none of them. -/
theorem nanos_le_foldl_later (ts : List Instant) (start : Instant) :
    start.nanos ≤ (ts.foldl later start).nanos ∧
      ∀ t ∈ ts, t.nanos ≤ (ts.foldl later start).nanos := by
  induction ts generalizing start with
  | nil => exact ⟨Int.le_refl _, fun t ht => absurd ht (by simp)⟩
  | cons u ts ih =>
    obtain ⟨hstart, hall⟩ := ih (later start u)
    refine ⟨Int.le_trans (nanos_le_later_left start u) hstart, fun t ht => ?_⟩
    rcases List.mem_cons.mp ht with rfl | ht
    · exact Int.le_trans (nanos_le_later_right start t) hstart
    · exact hall t ht

variable {i : DetectionInput}

/-- A split is a disagreement of enough servers that has lasted. -/
theorem health_eq_split_iff :
    i.health = .split ↔
      (∃ servers quorum, i.deployment = .cluster servers quorum ∧ servers ≤ countOf i.ready) ∧
        1 < i.classes.length ∧ i.grace ≤ elapsed i.disagreementSince i.now := by
  unfold health
  cases i.deployment with
  | standalone =>
    simp only [reduceCtorEq, false_and, exists_false, iff_false]
    split
    · simp
    · simp
  | cluster servers quorum =>
    simp only [Deployment.cluster.injEq]
    by_cases hready : countOf i.ready < servers
    · rw [if_pos hready]
      refine ⟨fun h => absurd h (by simp), fun ⟨⟨_, _, ⟨rfl, _⟩, hle⟩, _⟩ => ?_⟩
      exact absurd hready (Int32.not_lt.mpr hle)
    · rw [if_neg hready]
      have hle : servers ≤ countOf i.ready := Int32.not_lt.mp hready
      split
      · rename_i hone
        simp only [Bool.and_eq_true, beq_iff_eq] at hone
        -- Here all servers are in one class, so they do not disagree.
        have hlength := hone.1.1.1
        simp only [reduceCtorEq, false_iff]
        rintro ⟨-, hmany, -⟩
        omega
      · constructor
        · intro h
          split at h
          · rename_i hmany
            split at h
            · rename_i hgrace
              exact ⟨⟨servers, quorum, ⟨rfl, rfl⟩, hle⟩, hmany, hgrace⟩
            · cases h
          · cases h
        · rintro ⟨-, hmany, hgrace⟩
          rw [if_pos hmany, if_pos hgrace]

theorem grace_le_observedSince (h : i.health = .split) :
    i.grace ≤ elapsed i.observedSince i.now :=
  Nat.le_trans (health_eq_split_iff.mp h).2.2 (elapsed_le_elapsed (nanos_le_foldl_later _ _).1 _)

theorem grace_le_readySince (h : i.health = .split) {pod : ServerPod} {t : Instant}
    (hmem : pod ∈ i.ready) (ht : pod.readySince = some t) : i.grace ≤ elapsed t i.now := by
  have hlisted : t ∈ i.ready.filterMap (·.readySince) := List.mem_filterMap.mpr ⟨pod, hmem, ht⟩
  exact Nat.le_trans (health_eq_split_iff.mp h).2.2
    (elapsed_le_elapsed ((nanos_le_foldl_later _ _).2 t hlisted) _)

theorem mem_ready {pod : ServerPod} :
    pod ∈ i.ready ↔ pod ∈ i.pods ∧ pod.ordinal < i.deployment.servers ∧ pod.isServing := by
  unfold ready
  simp

end DetectionInput

/-! ## Runs of passes -/

/-- What a detection pass is given besides the record of the one before. -/
structure DetectionPass where
  deployment : Deployment
  pods : List ServerPod
  views : Views
  now : Instant
  grace : Nat

namespace DetectionPass

/-- What the pass makes its classification from. -/
def input (p : DetectionPass) (previous : MembershipRecord) : DetectionInput :=
  { deployment := p.deployment, pods := p.pods, views := p.views, previous, now := p.now
    grace := p.grace }

/-- The record before a pass of a run that starts with a new cluster. Only the record goes from one
pass to the next, so a run is determined by what its passes are given. -/
def recordAt (p : Nat → DetectionPass) : Nat → MembershipRecord
  | 0 => {}
  | k + 1 => (classify ((p k).input (recordAt p k))).toRecord (recordAt p k)

/-- What a pass of the run finds. -/
def classificationAt (p : Nat → DetectionPass) (k : Nat) : Classification :=
  classify ((p k).input (recordAt p k))

variable {p : Nat → DetectionPass} {k : Nat}

theorem fingerprint_recordAt_succ :
    (recordAt p (k + 1)).fingerprint = some (classificationAt p k).fingerprint := rfl

theorem observedSince_recordAt_succ :
    (recordAt p (k + 1)).observedSince = some (classificationAt p k).observedSince.toText := rfl

theorem observedSince_classificationAt_succ :
    (classificationAt p (k + 1)).observedSince =
      if (classificationAt p k).fingerprint = (classificationAt p (k + 1)).fingerprint then
        (classificationAt p k).observedSince
      else (p (k + 1)).now := by
  show ((p (k + 1)).input (recordAt p (k + 1))).observedSince = _
  unfold DetectionInput.observedSince
  show (if (recordAt p (k + 1)).fingerprint = some (classificationAt p (k + 1)).fingerprint then
    ((recordAt p (k + 1)).observedSince.bind parse?).getD (p (k + 1)).now else _) = _
  rw [fingerprint_recordAt_succ, observedSince_recordAt_succ, Option.bind_some, parse?_toText,
    Option.getD_some]
  by_cases hsame : (classificationAt p k).fingerprint = (classificationAt p (k + 1)).fingerprint
  · rw [if_pos hsame, if_pos (congrArg some hsame)]
  · rw [if_neg hsame, if_neg fun h => hsame (Option.some.inj h)]
    rfl

/-- **The recorded time is the clock of a pass since which the digest has not changed.** -/
theorem observedSince_eq (p : Nat → DetectionPass) (k : Nat) :
    ∃ j, j ≤ k ∧ (classificationAt p k).observedSince = (p j).now ∧
      ∀ i, j ≤ i → i ≤ k →
        (classificationAt p i).fingerprint = (classificationAt p k).fingerprint := by
  -- A pass either keeps the time, and then its digest is that of the pass before, or it sets the
  -- time to its own clock. The clock itself is never compared, so it may go back.
  induction k with
  | zero =>
    refine ⟨0, Nat.le_refl 0, rfl, fun i h1 h2 => ?_⟩
    rw [Nat.le_antisymm h2 h1]
  | succ k ih =>
    rw [observedSince_classificationAt_succ]
    by_cases hsame : (classificationAt p k).fingerprint = (classificationAt p (k + 1)).fingerprint
    · obtain ⟨j, hjk, hnow, hall⟩ := ih
      rw [if_pos hsame]
      refine ⟨j, by omega, hnow, fun i h1 h2 => ?_⟩
      by_cases hik : i = k + 1
      · rw [hik]
      · rw [hall i h1 (by omega), hsame]
    · rw [if_neg hsame]
      refine ⟨k + 1, Nat.le_refl _, rfl, fun i h1 h2 => ?_⟩
      rw [Nat.le_antisymm h2 h1]

/-- **A split has been observed for the whole grace period.** If a pass of a run finds a split, then
there is a pass at least the grace period before it since which every pass observed the same, and
every declared pod that serves and whose readiness is dated has been ready for at least as long. -/
theorem same_fingerprint_of_split (p : Nat → DetectionPass) (k : Nat)
    (h : (classificationAt p k).health = .split) :
    ∃ j, j ≤ k ∧
      (∀ i, j ≤ i → i ≤ k →
        (classificationAt p i).fingerprint = (classificationAt p k).fingerprint) ∧
      elapsed (p j).now (p k).now ≥ (p k).grace ∧
      ∀ pod ∈ (p k).pods, pod.ordinal < (p k).deployment.servers → pod.isServing →
        ∀ t, pod.readySince = some t → elapsed t (p k).now ≥ (p k).grace := by
  obtain ⟨j, hjk, hnow, hall⟩ := observedSince_eq p k
  refine ⟨j, hjk, hall, ?_, fun pod hmem hdeclared hserving t ht => ?_⟩
  · rw [← hnow]
    exact DetectionInput.grace_le_observedSince h
  · exact DetectionInput.grace_le_readySince h
      (DetectionInput.mem_ready.mpr ⟨hmem, hdeclared, hserving⟩) ht

/-- Two servers that see only themselves, looked at every thirty seconds. -/
def partitioned (k : Nat) : DetectionPass :=
  { deployment := .cluster 2 2
    pods :=
      [{ name := "db-0", ordinal := 0, readySince := some .epoch },
        { name := "db-1", ordinal := 1 }]
    views := .ofList [("db-0", ["db-0"]), ("db-1", ["db-1"])]
    now := Instant.epoch.addSeconds (30 * k)
    grace := 30 }

theorem partitioned_fingerprint :
    (classificationAt partitioned 0).fingerprint = (classificationAt partitioned 1).fingerprint :=
  rfl

theorem classes_partitioned (previous : MembershipRecord) :
    ((partitioned 1).input previous).classes = [["db-0"], ["db-1"]] := by
  have hclasses : ((partitioned 1).input {}).classes = [["db-0"], ["db-1"]] :=
    equivalenceClasses_eq (by decide +kernel) (by decide) (by decide)
  -- The classes do not depend on what was known before.
  exact hclasses

theorem partitioned_split : (classificationAt partitioned 1).health = .split := by
  show ((partitioned 1).input (recordAt partitioned 1)).health = .split
  refine DetectionInput.health_eq_split_iff.mpr ⟨⟨2, 2, rfl, by decide⟩, ?_, ?_⟩
  · rw [classes_partitioned]
    decide
  · have hsince : (classificationAt partitioned 1).observedSince = .epoch := by
      rw [observedSince_classificationAt_succ, if_pos partitioned_fingerprint]
      decide
    unfold DetectionInput.disagreementSince
    rw [show ((partitioned 1).input (recordAt partitioned 1)).observedSince = .epoch from hsince]
    decide

/-- The second look at two servers that see only themselves finds the split that the first began to
wait for. -/
theorem same_fingerprint_of_partitioned :
    (classificationAt partitioned 1).health = .split ∧
    ∃ j, j ≤ 1 ∧
      (∀ i, j ≤ i → i ≤ 1 →
        (classificationAt partitioned i).fingerprint =
          (classificationAt partitioned 1).fingerprint) ∧
      elapsed (partitioned j).now (partitioned 1).now ≥ (partitioned 1).grace ∧
      ∀ pod ∈ (partitioned 1).pods,
        pod.ordinal < (partitioned 1).deployment.servers → pod.isServing →
          ∀ t, pod.readySince = some t → elapsed t (partitioned 1).now ≥ (partitioned 1).grace :=
  ⟨partitioned_split, same_fingerprint_of_split partitioned 1 partitioned_split⟩

end DetectionPass

end ClusterOperator
