import ClusterOperator.Proofs.Upgrade.Lifecycle
import ClusterOperator.Proofs.Validation.Accepted

/-!
# When a version comes back

An upgrade that failed may have moved some servers, and those should not go back to the version
before it. So the tag that servers are created with keeps to the target of a failed upgrade, but
only in a pass that lists a pod which runs it. That leaves two ways back:

> **`back_to_previous`** — once an upgrade is on record, a later pass returns to the version before
> it for two reasons only: that is still the version of the cluster and the pass follows no upgrade,
> or it was declared again after another version had taken its place.

The second is what the user asked for, and no version that is known to be lower gets that far. The
first takes an upgrade that waits to begin, or a failed one and a pod that is missing from one list;
so a server that was moved does go back (`previous_applied_after_failure`).

The invariant is that nothing on record leads back: every upgrade that starts after the first has
another target, because it starts from the previous version or because that was not declared again.
-/

set_option autoImplicit false

namespace ClusterOperator

/-! ## Declarations that are accepted -/

/-- A version that is accepted is not known to be lower than the one that runs. -/
theorem Workable.isDowngrade_eq_false {cluster : Cluster} {topology : Topology} {version : String}
    (h : Workable cluster topology) (hversion : (cluster.status.getD {}).version = some version) :
    isDowngrade version cluster.spec.image.tag = false := by
  have hfaults := (validateCluster_eq_ok_iff.mp h.valid).2.tag
  rw [hversion] at hfaults
  unfold tagFaults at hfaults
  split at hfaults
  · cases hfaults
  · dsimp only at hfaults
    split at hfaults
    · cases hfaults
    · rename_i hno
      simpa using hno

/-! ## One pass -/

namespace Situation

variable {s : Situation} {record : UpgradeRecord}

/-- That the tag follows an upgrade: it has begun, and if it failed, a pod that runs its target is
listed. The second half depends on one list of pods, and is what a missing pod takes away. -/
structure Follows (s : Situation) (record : UpgradeRecord) : Prop where
  current : s.upgrade? = some record
  begun : record.phase ≠ .pending
  listed : record.phase = .failed → runsTag s.pods s.spec.image record.targetVersion = true

theorem tag_of_follows (h : s.Follows record) : s.tag = record.targetVersion := by
  unfold tag effectiveTag
  rw [h.current]
  cases hphase : record.phase with
  | inProgress | paused | completed => simp only [hphase]
  | pending => exact absurd hphase h.begun
  | failed => simp only [hphase, if_pos (h.listed hphase)]

theorem tag_of_not_follows (h : ∀ record, ¬ s.Follows record) :
    s.tag = s.status.version.getD s.spec.image.tag := by
  unfold tag effectiveTag
  cases hcurrent : s.upgrade? with
  | none => rfl
  | some record =>
    cases hphase : record.phase with
    | pending => simp only [hphase]
    | failed =>
      have hunlisted : ¬ runsTag s.pods s.spec.image record.targetVersion = true := by
        intro hlisted
        refine h record ⟨hcurrent, ?_, fun _ => hlisted⟩
        rw [hphase]
        exact UpgradePhase.noConfusion
      simp only [hphase, if_neg hunlisted]
    | inProgress | paused | completed =>
      refine absurd ⟨hcurrent, ?_, fun hfailed => ?_⟩ (h record)
      · rw [hphase]
        exact UpgradePhase.noConfusion
      · cases hphase.symm.trans hfailed

/-- The target of an upgrade is that of the stored one, or it was declared. -/
theorem targetVersion_of_upgrade? (h : s.upgrade? = some record) :
    (∃ stored, s.status.upgrade = some stored ∧ record.targetVersion = stored.targetVersion) ∨
      ∃ version, s.status.version = some version ∧ s.spec.image.tag ≠ version ∧
        record.targetVersion = s.spec.image.tag := by
  have hevolves := s.evolves_upgrade?
  rw [h] at hevolves
  generalize s.status.upgrade = current at hevolves ⊢
  cases hevolves with
  | continued stored _ _ hcontinues => exact .inl ⟨stored, rfl, hcontinues.targetVersion⟩
  | started _ version _ _ hversion hdeclared _ hcontinues =>
    exact .inr ⟨version, hversion, hdeclared, hcontinues.targetVersion⟩

end Situation

/-! ## All passes -/

namespace History

variable {ref : ClusterRef} {h : History ref} {i j k : Nat} {s t : Situation}
  {record next : UpgradeRecord} {previous : String}

/-- That a version is declared again while another is that of the cluster, and is accepted. This is
the one way in which the user asks for an older version, and an upgrade to it is an upgrade like any
other. -/
structure Redeclares (h : History ref) (k : Nat) (s : Situation) (previous : String) : Prop where
  finds : h.Finds k s
  declared : s.spec.image.tag = previous
  replaced : ∃ version, (h.status k).version = some version ∧ version ≠ previous ∧
    isDowngrade version previous = false

theorem Finds.redeclares (hs : h.Finds k s) {version : String}
    (hversion : (h.status k).version = some version) (hdeclared : s.spec.image.tag = previous)
    (hne : version ≠ previous) : h.Redeclares k s previous := by
  refine ⟨hs, hdeclared, version, hversion, hne, ?_⟩
  rw [← hs.status_eq] at hversion
  rw [← hdeclared]
  exact (ClusterOperator.Finds.workable hs).isDowngrade_eq_false hversion

/-- An upgrade never leads to the version that it came from. -/
theorem previousVersion_ne (hfresh : h.start = none)
    (hrecord : (h.status k).upgrade = some record) :
    record.previousVersion ≠ some record.targetVersion := by
  induction k generalizing record with
  | zero =>
    rw [status_zero hfresh] at hrecord
    cases hrecord
  | succ k ih =>
    rcases h.continues_or_starts hrecord with ⟨stored, hstored, hcontinues⟩ | ⟨s, version, hstarts⟩
    · rw [hcontinues.targetVersion, hcontinues.previousVersion]
      exact ih hstored
    · rw [hstarts.continues.targetVersion, hstarts.continues.previousVersion]
      exact fun heq => hstarts.declared (Option.some.inj heq).symm

/-- Unless a version is declared again, no upgrade that starts leads to it. -/
theorem targetVersion_ne_of_le (hfirst : ∀ record, (h.status i).upgrade = some record →
      record.targetVersion ≠ previous) (hij : i ≤ j)
    (hnever : ∀ k s, i ≤ k → k < j → ¬ h.Redeclares k s previous)
    (hrecord : (h.status j).upgrade = some record) : record.targetVersion ≠ previous := by
  induction j, hij using Nat.le_induction generalizing record with
  | base => exact hfirst record hrecord
  | succ k hik ih =>
    have hearlier := fun n s hin hnk => hnever n s hin (Nat.lt_succ_of_lt hnk)
    rcases h.continues_or_starts hrecord with ⟨stored, hstored, hcontinues⟩ | ⟨s, version, hstarts⟩
    · rw [hcontinues.targetVersion]
      exact ih hearlier hstored
    · rw [hstarts.continues.targetVersion]
      intro hdeclared
      refine hnever k s hik (Nat.lt_succ_self k) ?_
      exact hstarts.stores.1.redeclares hstarts.running hdeclared fun heq =>
        hstarts.declared (hdeclared.trans heq.symm)

theorem targetVersion_ne_of_finds (hfirst : ∀ record, (h.status i).upgrade = some record →
      record.targetVersion ≠ previous) (hij : i ≤ j)
    (hnever : ∀ k s, i ≤ k → k ≤ j → ¬ h.Redeclares k s previous) (ht : h.Finds j t)
    (hrecord : t.upgrade? = some record) : record.targetVersion ≠ previous := by
  rcases Situation.targetVersion_of_upgrade? hrecord with
    ⟨stored, hstored, htarget⟩ | ⟨version, hversion, hdeclared, htarget⟩
  · rw [htarget]
    rw [ht.status_eq] at hstored
    exact targetVersion_ne_of_le hfirst hij (fun k s hik hkj => hnever k s hik (Nat.le_of_lt hkj))
      hstored
  · rw [htarget]
    rw [ht.status_eq] at hversion
    intro hprevious
    exact hnever j t hij (Nat.le_refl j) (ht.redeclares hversion hprevious fun heq =>
      hdeclared (hprevious.trans heq.symm))

/-- A manifest is applied by a pass that has found a situation, and it is the one of that. -/
theorem finds_of_applied {cluster : Cluster} {manifest : Manifest} {answer : Except Failure Unit}
    (happlied : ⟨.applyManifest cluster manifest, answer⟩ ∈ (h.pass j).trace) :
    ∃ t, h.Finds j t ∧ manifest = t.manifest := by
  by_cases hfinds : ∃ t, h.Finds j t
  · obtain ⟨t, ht⟩ := hfinds
    exact ⟨t, ht, (ht.works.applied _ _ _ happlied).2⟩
  · have hnone : ∀ t, ¬ h.Finds j t := fun t ht => hfinds ⟨t, ht⟩
    exact absurd ((quiet_of_not_finds (h.pass j).runs (h.reads j) hnone).servers _ happlied) id

/-- **Why a version comes back.** Once an upgrade that came from a version is on record, a manifest
with that version is applied in two cases only: the version is still the one on record and the pass
goes by no upgrade, or somebody has declared it again since. In particular no upgrade leads back by
itself. -/
theorem back_to_previous (h : History ref) (hfresh : h.start = none)
    (hrecord : (h.status i).upgrade = some record)
    (hprevious : record.previousVersion = some previous) (hij : i ≤ j)
    {cluster : Cluster} {manifest : Manifest} {answer : Except Failure Unit}
    (happlied : ⟨.applyManifest cluster manifest, answer⟩ ∈ (h.pass j).trace) :
    ∃ t, h.Finds j t ∧ manifest.image = t.spec.image.referenceFor t.tag ∧
      (t.tag = previous →
        ((h.status j).version = some previous ∧ ∀ other, ¬ t.Follows other) ∨
          ∃ k s, i ≤ k ∧ k ≤ j ∧ h.Redeclares k s previous) := by
  obtain ⟨t, ht, rfl⟩ := finds_of_applied happlied
  refine ⟨t, ht, rfl, fun hback => ?_⟩
  by_cases hanew : ∃ k s, i ≤ k ∧ k ≤ j ∧ h.Redeclares k s previous
  · exact .inr hanew
  left
  -- From here on nobody has asked for the version. Then no upgrade leads to it, so the tag can only
  -- be the version on record.
  have hnever : ∀ k s, i ≤ k → k ≤ j → ¬ h.Redeclares k s previous :=
    fun k s hik hkj hs => hanew ⟨k, s, hik, hkj, hs⟩
  have hfirst : ∀ stored, (h.status i).upgrade = some stored → stored.targetVersion ≠ previous := by
    intro stored hstored htarget
    cases hrecord.symm.trans hstored
    exact previousVersion_ne hfresh hrecord (by rw [hprevious, htarget])
  have hunfollowed : ∀ other, ¬ t.Follows other := by
    intro other hfollows
    rw [Situation.tag_of_follows hfollows] at hback
    exact targetVersion_ne_of_finds hfirst hij hnever ht hfollows.current hback
  refine ⟨?_, hunfollowed⟩
  have hrunning : ∃ version, (h.status i).version = some version := by
    cases hversion : (h.status i).version with
    | some version => exact ⟨version, rfl⟩
    | none => cases hrecord.symm.trans (upgrade_eq_none hfresh i hversion)
  obtain ⟨version, hversion⟩ := hrunning
  obtain ⟨later, hlater⟩ := h.exists_version_of_le hij hversion
  rw [Situation.tag_of_not_follows hunfollowed, ht.status_eq, hlater, Option.getD_some] at hback
  rw [hlater, hback]

end History

/-! ## A server that is left out once -/

/-- That a status is one of the single server after its upgrade was given up. -/
structure IsGivenUp (status : ClusterStatus) : Prop where
  version : status.version = some "1"
  upgrade : status.upgrade = some givenUpRecord
  settled : status.configuration.lastAppliedHash = some installed.derived.hash

section
variable {image : Option String} {last : ClusterStatus}

theorem targetVersion_givenUpRecord : givenUpRecord.targetVersion = "2" := by
  rw [givenUpRecord, (raisedRecord.continues_advance _).targetVersion]
  exact versions_raisedRecord.1

theorem previousVersion_givenUpRecord : givenUpRecord.previousVersion = some "1" := by
  rw [givenUpRecord, (raisedRecord.continues_advance _).previousVersion]
  exact versions_raisedRecord.2

theorem upgrade?_of_isGivenUp (h : IsGivenUp last) :
    (soloAt "2" (some "stop") image (some last)).upgrade? = some givenUpRecord := by
  have hcurrent : (soloAt "2" (some "stop") image (some last)).status.upgrade =
      some givenUpRecord := h.upgrade
  have hended : givenUpRecord.phase.isTerminal = true := by
    rw [phase_givenUpRecord]
    rfl
  rw [Situation.upgrade?_eq,
    Situation.openRecord?_of_declared hcurrent targetVersion_givenUpRecord, Option.map_some,
    (givenUpRecord.continues_advance _).ended hended]

theorem isGivenUp_nextStatus (h : IsGivenUp last) :
    IsGivenUp (soloAt "2" (some "stop") image (some last)).nextStatus := by
  refine ⟨congrArg some ?_, upgrade?_of_isGivenUp h, (settled_soloAt h.settled).2⟩
  have hversion : (soloAt "2" (some "stop") image (some last)).status.version = some "1" :=
    h.version
  rcases Situation.version_of_running hversion with hsame | ⟨record, _, hrecord, hbefore, -⟩
  · exact hsame
  · cases h.upgrade.symm.trans hrecord
    cases phase_givenUpRecord.symm.trans hbefore

/-- Without its pod in the list the server goes back. -/
theorem tag_of_isGivenUp (h : IsGivenUp last) :
    (soloAt "2" (some "stop") none (some last)).tag = "1" := by
  have hversion : (soloAt "2" (some "stop") none (some last)).status.version = some "1" := h.version
  have hunfollowed : ∀ record, ¬ (soloAt "2" (some "stop") none (some last)).Follows record := by
    intro record hfollows
    cases (upgrade?_of_isGivenUp h).symm.trans hfollows.current
    cases hfollows.listed phase_givenUpRecord
  rw [Situation.tag_of_not_follows hunfollowed, hversion]
  rfl

end

theorem isGivenUp_givenUp : IsGivenUp givenUp.nextStatus := by
  have hraised : raised.nextStatus.configuration.lastAppliedHash = some installed.derived.hash :=
    (settled_soloAt applied_installed).2
  exact ⟨congrArg some version_givenUp, upgrade?_givenUp, (settled_soloAt hraised).2⟩

/-- The server runs the version whose upgrade was given up. -/
def moved : Situation := soloAt "2" (some "stop") (some "neo4j:2") (some givenUp.nextStatus)

/-- Its pod is missing from the list, because it is being replaced, say. -/
def unlisted : Situation := soloAt "2" (some "stop") none (some moved.nextStatus)

namespace History

theorem succession_unlisted :
    Succession ⟨"data", "db"⟩ none [installed, raised, givenUp, moved, unlisted] := by
  have hvalid {last : ClusterStatus} (hlast : last.version = some "1") :
      validateCluster (solo "2" none none) ((some last).getD {}).version =
        .ok ⟨.standalone, [.unrestricted]⟩ := by
    rw [Option.getD_some, hlast]
    exact valid_raise
  exact ⟨attainable_soloAt valid_install, rfl, attainable_soloAt (hvalid rfl), rfl,
    attainable_soloAt (hvalid (congrArg some version_raised)), rfl,
    attainable_soloAt (hvalid isGivenUp_givenUp.version), rfl,
    attainable_soloAt (hvalid (isGivenUp_nextStatus isGivenUp_givenUp).version), rfl, trivial⟩

/-- The upgrade of the single server is given up after its server was moved, and a later pass
applies the version before it. -/
theorem exists_unlisted : ∃ h : History ⟨"data", "db"⟩, h.start = none ∧ h.Finds 3 moved ∧
    (h.status 3).upgrade = some givenUpRecord ∧ ∃ answer,
      ⟨.applyManifest unlisted.cluster unlisted.manifest, answer⟩ ∈ (h.pass 4).trace := by
  obtain ⟨h, hstart, hcourse, -⟩ := exists_history succession_unlisted
  have hrecord : (h.status 3).upgrade = some givenUpRecord := by
    rw [(hcourse 2 givenUp rfl).2.status_succ]
    exact upgrade?_givenUp
  have hpermits : unlisted.permitsApply = true :=
    (settled_soloAt (isGivenUp_nextStatus isGivenUp_givenUp).settled).1
  exact ⟨h, hstart, (hcourse 3 moved rfl).2.1, hrecord, .ok (),
    (hcourse 4 unlisted rfl).1.applied hpermits⟩

theorem back_to_previous_unlisted : ∃ h : History ⟨"data", "db"⟩, ∃ answer, h.start = none ∧
    (h.status 3).upgrade = some givenUpRecord ∧ givenUpRecord.previousVersion = some "1" ∧
    ⟨.applyManifest unlisted.cluster unlisted.manifest, answer⟩ ∈ (h.pass 4).trace ∧
    ∃ t, h.Finds 4 t ∧ unlisted.manifest.image = t.spec.image.referenceFor t.tag ∧
      (t.tag = "1" →
        ((h.status 4).version = some "1" ∧ ∀ other, ¬ t.Follows other) ∨
          ∃ k s, 3 ≤ k ∧ k ≤ 4 ∧ h.Redeclares k s "1") := by
  obtain ⟨h, hstart, -, hrecord, answer, happlied⟩ := exists_unlisted
  exact ⟨h, answer, hstart, hrecord, previousVersion_givenUpRecord, happlied,
    back_to_previous h hstart hrecord previousVersion_givenUpRecord (by decide) happlied⟩

/-- **A server that was moved goes back when its pod is missing from one list.** The upgrade was
given up after the server had been moved, and whether its version counts is told from the pods that
are listed. -/
theorem previous_applied_after_failure :
    ¬ ∀ (h : History ⟨"data", "db"⟩), h.start = none → ∀ i j s record previous, i < j →
      h.Finds i s → (h.status i).upgrade = some record → record.phase = .failed →
      runsTag s.pods s.spec.image record.targetVersion = true →
      record.previousVersion = some previous → ∀ cluster manifest answer,
        ⟨.applyManifest cluster manifest, answer⟩ ∈ (h.pass j).trace →
        manifest.image ≠ cluster.spec.image.referenceFor previous := by
  intro hall
  obtain ⟨h, hstart, hfinds, hrecord, answer, happlied⟩ := exists_unlisted
  have hruns : runsTag moved.pods moved.spec.image givenUpRecord.targetVersion = true := by
    rw [targetVersion_givenUpRecord]
    decide
  refine hall h hstart 3 4 moved givenUpRecord "1" (by decide) hfinds hrecord phase_givenUpRecord
    hruns previousVersion_givenUpRecord _ _ _ happlied ?_
  have htag : unlisted.tag = "1" := tag_of_isGivenUp (isGivenUp_nextStatus isGivenUp_givenUp)
  show unlisted.spec.image.referenceFor unlisted.tag = _
  rw [htag]
  rfl

end History

end ClusterOperator
