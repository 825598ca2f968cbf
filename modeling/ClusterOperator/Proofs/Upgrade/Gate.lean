import Mathlib.Data.Nat.Basic
import Mathlib.Order.Basic
import ClusterOperator.Proofs.Configuration.Recorded
import ClusterOperator.Proofs.Upgrade.Rollback

/-!
# What a tag has to pass

A tag that the user declares should reach the pods in one of two ways: the cluster is created with
it, or an upgrade to it is begun. Which of the two it is, a pass reads off the status: where no
version is on record, it takes it that nothing runs yet. That may be wrong. The version is put on
record at the end of a pass, after the manifest was applied, and between the two a call may fail.

> **`gated_of_fresh`** — a tag that is sent was declared in a pass that found no version on record,
> or an upgrade to it has begun by then; and once a pass has stored its status, no tag comes in the
> first way any more.

So if the first pass that sends a manifest stores its status, its tag is the only one without an
upgrade. If it does not, the next pass sends whatever is declared by then, as if it were the first
(`second_tag_after_lost_write`), and puts a version on record that no server runs.

The tag of a failed upgrade comes back when a pod is seen to run it. That has to be a pod that an
earlier pass has given the tag, which is why the proof is an induction over the passes that send.
-/

set_option autoImplicit false

namespace ClusterOperator

/-! ## Upgrades that have begun -/

/-- That an upgrade has begun and not failed: in these phases it decides which tag is sent. A failed
one may decide it too, but only by what a pod is seen to run. -/
def UpgradePhase.hasBegun : UpgradePhase → Bool
  | .inProgress | .paused | .completed => true
  | .pending | .failed => false

theorem hasBegun_of_mem_upgradeMoves : ∀ m ∈ upgradeMoves, m.target.hasBegun = true →
    m.source.hasBegun = true ∨ (m.source = .pending ∧ m.target = .inProgress) := by decide

theorem UpgradeRecord.Continues.hasBegun {record next : UpgradeRecord} (h : record.Continues next)
    (hbegun : next.phase.hasBegun = true) :
    record.phase.hasBegun = true ∨ (record.phase = .pending ∧ next.phase = .inProgress) := by
  rcases h.phase with hsame | ⟨m, hmem, hsource, htarget⟩
  · rw [hsame] at hbegun
    exact .inl hbegun
  · rw [← hsource, ← htarget]
    rw [← htarget] at hbegun
    exact hasBegun_of_mem_upgradeMoves m hmem hbegun

namespace Situation

variable {s : Situation} {record next : UpgradeRecord}

/-- That an upgrade to a version enters progress. -/
def Begins (s : Situation) (version : String) : Prop :=
  ∃ record next, s.openRecord? = some record ∧ record.phase = .pending ∧
    s.upgrade? = some next ∧ next.phase = .inProgress ∧ next.targetVersion = version

theorem stored_or_begins (hnext : s.upgrade? = some next) (hbegun : next.phase.hasBegun = true) :
    (∃ stored, s.status.upgrade = some stored ∧ stored.phase.hasBegun = true ∧
      stored.targetVersion = next.targetVersion) ∨ s.Begins next.targetVersion := by
  have hevolves := s.evolves_upgrade?
  rw [hnext] at hevolves
  generalize s.status.upgrade = current at hevolves ⊢
  cases hevolves with
  | continued stored _ hopen hcontinues =>
    rcases hcontinues.hasBegun hbegun with hstored | ⟨hpending, hphase⟩
    · exact .inl ⟨stored, rfl, hstored, hcontinues.targetVersion.symm⟩
    · exact .inr ⟨stored, next, hopen, hpending, hnext, hphase, rfl⟩
  | started _ version _ hopen _ _ _ hcontinues =>
    rcases hcontinues.hasBegun hbegun with hnew | ⟨hpending, hphase⟩
    · cases hnew
    · exact .inr ⟨_, next, hopen, hpending, hnext, hphase, rfl⟩

/-! ## Clusters without a version -/

theorem openRecord?_eq_none (hversion : s.status.version = none)
    (hcurrent : s.status.upgrade = none) : s.openRecord? = none := by
  unfold openRecord? request resolveRequest
  rw [hversion, hcurrent]

theorem tag_of_new (hversion : s.status.version = none) (hcurrent : s.status.upgrade = none) :
    s.tag = s.spec.image.tag := by
  have hunfollowed : ∀ record, ¬ s.Follows record := by
    intro record hfollows
    have hnone := s.upgrade?_eq
    rw [openRecord?_eq_none hversion hcurrent] at hnone
    cases hnone.symm.trans hfollows.current
  rw [tag_of_not_follows hunfollowed, hversion]
  rfl

theorem version_of_new (hversion : s.status.version = none) (hcurrent : s.status.upgrade = none) :
    s.version = s.spec.image.tag := by
  unfold Situation.version
  rw [step?_eq, openRecord?_eq_none hversion hcurrent, hversion]
  rfl

theorem permitsApply_of_new (h : s.status.configuration.lastAppliedHash = none) :
    s.permitsApply = true := by
  unfold permitsApply drift evaluated
  rw [ConfigurationRecord.evaluate_new _ _ h]
  rfl

end Situation

/-! ## Histories -/

namespace History

variable {ref : ClusterRef} {h : History ref} {i j k : Nat} {s t : Situation}
  {record : UpgradeRecord} {tag : String}

/-- That a pass sends the manifest of its situation, whatever comes of it. -/
def Sends (h : History ref) (k : Nat) (s : Situation) : Prop :=
  h.Finds k s ∧ ∃ cluster answer, ⟨.applyManifest cluster s.manifest, answer⟩ ∈ (h.pass k).trace

/-- That a tag was sent by a pass that found no version on record, and was declared at the time. -/
def Installed (h : History ref) (k : Nat) (tag : String) : Prop :=
  ∃ i s, i ≤ k ∧ h.Sends i s ∧ (h.status i).version = none ∧ s.spec.image.tag = tag

/-- That an upgrade to a version has begun. -/
def Begun (h : History ref) (k : Nat) (version : String) : Prop :=
  ∃ i s, i ≤ k ∧ h.Finds i s ∧ s.Begins version

/-- That the pods and the repository are left alone: a pod that is listed runs an image that was
sent before, and of the image only the tag is edited. Both are done by others than the operator, so
they have to be asked of a history. -/
structure Undisturbed (h : History ref) : Prop where
  pods : ∀ k s, h.Finds k s → ∀ pod ∈ s.pods, ∀ image, pod.image = some image →
    ∃ j t, j < k ∧ h.Sends j t ∧ t.manifest.image = image
  repository : ∀ j k s t, h.Finds j s → h.Finds k t →
    s.spec.image.repository = t.spec.image.repository

/-- What a tag has to pass before it is sent. An installation is told from an upgrade by the version
on record, which is why the last clause asks that the first status was stored. -/
structure Gated (h : History ref) : Prop where
  /-- A tag that is sent is that of an installation or of an upgrade that has begun. -/
  admitted : ∀ k cluster manifest answer,
    ⟨.applyManifest cluster manifest, answer⟩ ∈ (h.pass k).trace →
      ∃ s, h.Finds k s ∧ manifest.image = s.spec.image.referenceFor s.tag ∧
        (h.Installed k s.tag ∨ h.Begun k s.tag)
  /-- A pass that finds no version sends what is declared, and no pass before it stored its
  status. -/
  installs : ∀ k s, h.Sends k s → (h.status k).version = none →
    s.tag = s.spec.image.tag ∧ ∀ j t, j < k → ¬ h.Stores j t
  /-- If the first pass that sends a manifest stores its status, every other tag that is sent is
  that of an upgrade. -/
  single : ∀ i t, h.Stores i t → h.Sends i t → (∀ j s, j < i → ¬ h.Sends j s) →
    ∀ k s, h.Sends k s → s.tag = t.tag ∨ h.Begun k s.tag

theorem Installed.mono (h' : h.Installed i tag) (hij : i ≤ j) : h.Installed j tag := by
  obtain ⟨n, s, hni, hs⟩ := h'
  exact ⟨n, s, hni.trans hij, hs⟩

theorem Begun.mono (h' : h.Begun i tag) (hij : i ≤ j) : h.Begun j tag := by
  obtain ⟨n, s, hni, hs⟩ := h'
  exact ⟨n, s, hni.trans hij, hs⟩

theorem Finds.begun (hs : h.Finds k s)
    (hstored : ∀ stored, (h.status k).upgrade = some stored → stored.phase.hasBegun = true →
      h.Begun k stored.targetVersion)
    (hrecord : s.upgrade? = some record) (hbegun : record.phase.hasBegun = true) :
    h.Begun k record.targetVersion := by
  rcases Situation.stored_or_begins hrecord hbegun with
    ⟨stored, hbefore, hphase, htarget⟩ | hbegins
  · rw [hs.status_eq] at hbefore
    rw [← htarget]
    exact hstored stored hbefore hphase
  · exact ⟨k, s, le_refl k, hs, hbegins⟩

theorem begun_of_stored (hfresh : h.start = none) (hrecord : (h.status k).upgrade = some record)
    (hbegun : record.phase.hasBegun = true) : h.Begun k record.targetVersion := by
  induction k generalizing record with
  | zero =>
    rw [status_zero hfresh] at hrecord
    cases hrecord
  | succ k ih =>
    refine Begun.mono ?_ (Nat.le_succ k)
    rcases h.step k with hretouched | ⟨s, hs, -⟩
    · rw [upgrade_succ_of_retouched hretouched] at hrecord
      exact ih hrecord hbegun
    · rw [hs.status_succ] at hrecord
      exact hs.1.begun (fun _ => ih) hrecord hbegun

theorem Finds.upgrade_eq_none (hfresh : h.start = none) (hs : h.Finds k s)
    (hversion : (h.status k).version = none) : s.status.upgrade = none := by
  rw [hs.status_eq]
  exact History.upgrade_eq_none hfresh k hversion

/-- A pass that finds no version and succeeds has sent its manifest. -/
theorem Stores.sends_of_new (hfresh : h.start = none) (hs : h.Stores k s)
    (hversion : (h.status k).version = none) (hok : ∃ requeue, (h.pass k).result = .ok requeue) :
    h.Sends k s := by
  have hnone : s.status.configuration.lastAppliedHash = none := by
    rw [hs.1.status_eq]
    exact congrArg _ (retouched_of_version_eq_none hfresh k hversion).configuration
  obtain ⟨requeue, hok⟩ := hok
  obtain ⟨cluster, hmem⟩ := hs.1.course.applied_of_ok (Situation.permitsApply_of_new hnone) hok
  exact ⟨hs.1, cluster, .ok (), hmem⟩

/-- **The version on record** is that of an installation or of an upgrade that has begun. -/
theorem admitted_of_version (hfresh : h.start = none) (hversion : (h.status k).version = some tag) :
    h.Installed k tag ∨ h.Begun k tag := by
  induction k generalizing tag with
  | zero =>
    rw [status_zero hfresh] at hversion
    cases hversion
  | succ k ih =>
    have hlater : k ≤ k + 1 := Nat.le_succ k
    rcases h.step k with hretouched | ⟨s, hs, hok⟩
    · rw [version_succ_of_retouched hretouched] at hversion
      exact (ih hversion).imp (·.mono hlater) (·.mono hlater)
    cases hbefore : (h.status k).version with
    | none =>
      have hnew : s.status.version = none := hs.1.status_eq ▸ hbefore
      rw [hs.status_succ] at hversion
      refine .inl ⟨k, s, hlater, hs.sends_of_new hfresh hbefore hok, hbefore, ?_⟩
      rw [← Situation.version_of_new hnew (hs.1.upgrade_eq_none hfresh hbefore)]
      exact Option.some.inj hversion
    | some version =>
      -- A version on record changes by a completed upgrade only, and that has begun.
      rcases h.version_kept_or_completed hbefore with hkept |
        ⟨_, next, _, _, hnext, _, hcompleted, htarget⟩
      · rw [hkept] at hversion
        cases hversion
        exact (ih hbefore).imp (·.mono hlater) (·.mono hlater)
      · rw [htarget] at hversion
        cases hversion
        refine .inr (begun_of_stored hfresh hnext ?_)
        rw [hcompleted]
        rfl

theorem Undisturbed.sends_of_runsTag (hleft : h.Undisturbed) (hs : h.Finds k s)
    (hruns : runsTag s.pods s.spec.image tag = true) :
    ∃ j t, j < k ∧ h.Sends j t ∧ t.tag = tag := by
  obtain ⟨pod, hpod, himage⟩ := List.any_eq_true.mp hruns
  obtain ⟨j, t, hjk, ht, hsame⟩ := hleft.pods k s hs pod hpod _ (eq_of_beq himage)
  refine ⟨j, t, hjk, ht, ?_⟩
  have hreference : t.spec.image.referenceFor t.tag = s.spec.image.referenceFor tag := hsame
  unfold ImageSpec.referenceFor at hreference
  rw [hleft.repository j k t s ht.1 hs] at hreference
  exact String.append_right_inj _ |>.mp hreference

/-- **Every tag that is sent** is that of an installation or of an upgrade that has begun. -/
theorem Undisturbed.admitted (hleft : h.Undisturbed) (hfresh : h.start = none) (hs : h.Sends k s) :
    h.Installed k s.tag ∨ h.Begun k s.tag := by
  -- A failed upgrade keeps its target if a pod runs it, and that image was sent by some pass
  -- before: hence the induction over all of them.
  induction k using Nat.strong_induction_on generalizing s with
  | h k ih =>
    by_cases hfollowed : ∃ record, s.Follows record
    · obtain ⟨record, hfollows⟩ := hfollowed
      rw [Situation.tag_of_follows hfollows]
      cases hphase : record.phase with
      | pending => exact absurd hphase hfollows.begun
      | failed =>
        obtain ⟨j, t, hjk, ht, htag⟩ := hleft.sends_of_runsTag hs.1 (hfollows.listed hphase)
        rw [← htag]
        exact (ih j hjk ht).imp (·.mono hjk.le) (·.mono hjk.le)
      | inProgress | paused | completed =>
        refine .inr (hs.1.begun (fun _ => begun_of_stored hfresh) hfollows.current ?_)
        rw [hphase]
        rfl
    · rw [Situation.tag_of_not_follows fun record hfollows => hfollowed ⟨record, hfollows⟩,
        hs.1.status_eq]
      cases hversion : (h.status k).version with
      | some version => exact admitted_of_version hfresh hversion
      | none => exact .inl ⟨k, s, le_refl k, hs, hversion, rfl⟩

theorem not_stores_of_new (hversion : (h.status k).version = none) (hjk : j < k) :
    ¬ h.Stores j t := by
  intro ht
  obtain ⟨later, hlater⟩ := h.exists_version_of_le (Nat.succ_le_of_lt hjk)
    (congrArg ClusterStatus.version ht.status_succ)
  cases hversion.symm.trans hlater

/-- **The gate.** No tag reaches a new cluster but by an installation or an upgrade that has begun.
It is assumed that pods run only images that were sent before, and that the repository is not
edited, because the version that runs is read off the images of the pods. -/
theorem gated_of_fresh (h : History ref) (hfresh : h.start = none) (hleft : h.Undisturbed) :
    h.Gated := by
  constructor
  case admitted =>
    intro k cluster manifest answer happlied
    obtain ⟨s, hs, rfl⟩ := finds_of_applied happlied
    exact ⟨s, hs, rfl, hleft.admitted hfresh ⟨hs, cluster, answer, happlied⟩⟩
  case installs =>
    intro k s hs hversion
    have hnew : s.status.version = none := hs.1.status_eq ▸ hversion
    exact ⟨Situation.tag_of_new hnew (hs.1.upgrade_eq_none hfresh hversion),
      fun j t hjk => not_stores_of_new hversion hjk⟩
  case single =>
    intro i t hstores hsends hfirst k s hs
    refine (hleft.admitted hfresh hs).imp_left ?_
    rintro ⟨j, u, hjk, hu, hversion, htag⟩
    -- An installation is not before the first manifest, and not after it was put on record.
    have hji : j = i := by
      refine le_antisymm (not_lt.mp fun hij => ?_) (not_lt.mp fun hji => hfirst j u hji hu)
      exact not_stores_of_new hversion hij hstores
    subst hji
    have hnew : t.status.version = none := hsends.1.status_eq ▸ hversion
    rw [← htag, ClusterOperator.Finds.unique hu.1 hsends.1,
      Situation.tag_of_new hnew (hsends.1.upgrade_eq_none hfresh hversion)]

end History

/-! ## A single server whose tag is edited -/

section
variable {tag : String} {status : Option ClusterStatus} {h : History ⟨"data", "db"⟩}

theorem soloAt_ne_installed {image : String} : soloAt tag none (some image) status ≠ installed := by
  intro heq
  cases congrArg Situation.pods heq

theorem undisturbed_of_installed (hsends : h.Sends 0 installed)
    (hfinds : ∀ k s, h.Finds k s → s ∈ [installed, soloAt tag none (some "neo4j:1") status]) :
    h.Undisturbed := by
  constructor
  case pods =>
    intro k s hs pod hpod image himage
    rcases List.mem_pair.mp (hfinds k s hs) with rfl | rfl
    · cases hpod
    · refine ⟨0, installed, Nat.pos_of_ne_zero fun hzero => ?_, hsends, ?_⟩
      · rw [hzero] at hs
        exact soloAt_ne_installed (hs.unique hsends.1)
      · rw [List.mem_singleton.mp hpod] at himage
        exact Option.some.inj himage
  case repository =>
    intro j k s t hs ht
    rcases List.mem_pair.mp (hfinds j s hs) with rfl | rfl <;>
      rcases List.mem_pair.mp (hfinds k t ht) with rfl | rfl <;> rfl

end

theorem begins_raised : raised.Begins "2" :=
  ⟨_, raisedRecord, openRecord?_raised, rfl, upgrade?_raised, phase_raisedRecord,
    versions_raisedRecord.1⟩

theorem tag_raised : raised.tag = "2" := by
  have hfollows : raised.Follows raisedRecord := by
    refine ⟨upgrade?_raised, ?_, fun hfailed => ?_⟩
    · rw [phase_raisedRecord]
      exact UpgradePhase.noConfusion
    · cases phase_raisedRecord.symm.trans hfailed
  rw [Situation.tag_of_follows hfollows]
  exact versions_raisedRecord.1

/-- The tag is edited while there is no version on record, although the first one runs. -/
def retagged : Situation := soloAt "2" none (some "neo4j:1") none

theorem valid_retagged : validateCluster (solo "2" none none) none =
    .ok ⟨.standalone, [.unrestricted]⟩ := by decide +kernel

namespace History

/-- After the installation is on record, the next tag waits for its upgrade. -/
theorem gated_of_fresh_raised : ∃ h : History ⟨"data", "db"⟩, h.start = none ∧ h.Undisturbed ∧
    h.Sends 0 installed ∧ h.Stores 0 installed ∧ h.Sends 1 raised ∧ raised.tag = "2" ∧
    raised.Begins "2" ∧ h.Gated := by
  obtain ⟨h, hstart, hcourse, hfinds⟩ := exists_history
    (show Succession ⟨"data", "db"⟩ none [installed, raised] from
      ⟨succession_givenUp.1, succession_givenUp.2.1, succession_givenUp.2.2.1, rfl, trivial⟩)
  obtain ⟨hinstalled, hstores⟩ := hcourse 0 installed rfl
  obtain ⟨hraised, hraises⟩ := hcourse 1 raised rfl
  have hsends : h.Sends 0 installed := ⟨hstores.1, _, _, hinstalled.applied rfl⟩
  have hleft : h.Undisturbed := undisturbed_of_installed hsends hfinds
  have hpermits : raised.permitsApply = true := (settled_soloAt applied_installed).1
  exact ⟨h, hstart, hleft, hsends, hstores, ⟨hraises.1, _, _, hraised.applied hpermits⟩, tag_raised,
    begins_raised, gated_of_fresh h hstart hleft⟩

/-- An installation whose status is lost, and one with another tag after it. -/
theorem exists_retagged : ∃ h : History ⟨"data", "db"⟩, h.start = none ∧ h.Undisturbed ∧
    h.Finds 0 installed ∧ Applied (h.pass 0).trace installed.manifest ∧
    h.Finds 1 retagged ∧ Applied (h.pass 1).trace retagged.manifest ∧
    ∀ k s, h.Finds k s → s ∈ [installed, retagged] := by
  have hinstalled : installed.Attainable ⟨"data", "db"⟩ := attainable_soloAt valid_install
  have hretagged : retagged.Attainable ⟨"data", "db"⟩ := attainable_soloAt valid_retagged
  obtain ⟨h, hstart, hlost, hkept, hfinds⟩ := exists_history_losing hinstalled hretagged rfl
  have hleft : h.Undisturbed :=
    undisturbed_of_installed ⟨hlost.finds, _, _, hlost.applied rfl⟩ hfinds
  exact ⟨h, hstart, hleft, hlost.finds, ⟨_, hlost.applied rfl⟩, hkept.finds,
    ⟨_, hkept.applied rfl⟩, hfinds⟩

/-- **A second tag comes without an upgrade**, after the status of the first pass was lost. -/
theorem second_tag_after_lost_write :
    ¬ ∀ h : History ⟨"data", "db"⟩, h.start = none → h.Undisturbed →
      ∀ i t, h.Finds i t → Applied (h.pass i).trace t.manifest →
        (∀ j manifest, j < i → ¬ Applied (h.pass j).trace manifest) →
        ∀ k s, h.Finds k s → Applied (h.pass k).trace s.manifest →
          s.tag = t.tag ∨ h.Begun k s.tag := by
  intro hall
  obtain ⟨h, hstart, hleft, hfirst, hfirstapplied, hsecond, hsecondapplied, hfinds⟩ :=
    exists_retagged
  have hno : ∀ j manifest, j < 0 → ¬ Applied (h.pass j).trace manifest :=
    fun j _ hj => absurd hj (Nat.not_lt_zero j)
  rcases hall h hstart hleft 0 installed hfirst hfirstapplied hno 1 retagged hsecond hsecondapplied
    with hsame | ⟨i, s, -, hs, record, -, hopen, -⟩
  · have htag : ("2" : String) = "1" := hsame
    revert htag
    decide
  · have hnone : s.openRecord? = none := by
      rcases List.mem_pair.mp (hfinds i s hs) with rfl | rfl <;>
        exact Situation.openRecord?_eq_none rfl rfl
    cases hnone.symm.trans hopen

end History

end ClusterOperator
