import Mathlib.Data.Nat.Init
import ClusterOperator.Proofs.Membership.Grace
import ClusterOperator.Proofs.Pass.History

/-!
# Repairs lie apart

After a repair the next one has to wait for the cooldown. What a pass knows of the last repair is
the text of a time in the status, and the status is written last, when the pods are already deleted.
So the waiting is as good as that write:

> **`cooldown_le_elapsed`** — if two passes of a history repair and the first of them stores its
> status, the whole cooldown lies between them.

Between the two there may be any number of passes, and each may fail wherever it likes. The status
carries the time of the last repair through all of them (`RepairedSince`): a pass that repairs
nothing copies it, and one that repairs may only raise it, since it has waited for the cooldown
itself.

That the first of the two stores its status cannot be left out. When its write is lost, so is the
repair, and the next pass may repair at once (`repair_after_lost_write`).
-/

set_option autoImplicit false

namespace ClusterOperator

open Instant Pass

/-! ## One pass -/

namespace Situation

variable {s : Situation}

/-- What the membership is classified by. -/
def detection (s : Situation) : DetectionInput :=
  { deployment := s.topology.deployment, pods := s.pods, views := s.views
    previous := s.status.membership, now := s.now, grace := s.tunables.splitBrainGrace }

theorem health_detection : s.detection.health = s.health := rfl

theorem condemned_repair {pods : List String} (h : s.repair = .restart pods) :
    s.condemned .repair = pods := by
  unfold condemned
  rw [h]

theorem repair_eq_of_condemned (h : s.condemned .repair ≠ []) :
    s.repair = .restart (s.condemned .repair) := by
  cases hrepair : s.repair with
  | restart pods => rw [condemned_repair hrepair]
  | notNeeded | upgradeActive | coolingDown =>
    unfold condemned at h
    rw [hrepair] at h
    exact absurd rfl h

/-- What a repair takes is enough for it. -/
theorem repair_eq_restart (hsplit : s.health = .split) (hholds : s.upgradeHolds = false)
    (hcool : cooldownLeft? s.status.membership s.now s.tunables.repairCooldown = none)
    (hminority : s.classification.minority ≠ []) :
    s.repair = .restart s.classification.minority := by
  have hholds : ¬ (s.upgrade?.any (·.phase.holdsPods)) = true := by
    unfold upgradeHolds at hholds
    rw [hholds]
    exact Bool.false_ne_true
  have hempty : ¬ s.classification.minority.isEmpty = true := by
    rwa [List.isEmpty_iff]
  have hsplit : ¬ s.classification.health ≠ .split := not_not.mpr hsplit
  unfold repair planRepair
  rw [if_neg hsplit, if_neg hholds, hcool]
  exact if_neg hempty

/-- A pass that repairs notes its time; any other copies the time of the last repair. -/
theorem lastRepairTime_membership :
    (∃ pods, s.repair = .restart pods ∧ s.membership.lastRepairTime = some s.now.toText) ∨
      s.membership.lastRepairTime = s.status.membership.lastRepairTime := by
  unfold membership
  cases s.repair with
  | restart pods => exact .inl ⟨pods, rfl, rfl⟩
  | notNeeded | upgradeActive | coolingDown => exact .inr rfl

end Situation

/-! ## All passes -/

/-- That a repair at some time, or one after it, is on record. The record holds only the last
repair, so this is what can be kept of an earlier one. -/
def RepairedSince (t : Instant) (membership : MembershipRecord) : Prop :=
  ∃ last : Instant, membership.lastRepairTime = some last.toText ∧ t.second ≤ last.second

theorem RepairedSince.elapsed_le {t now : Instant} {membership : MembershipRecord} {cooldown : Nat}
    (h : RepairedSince t membership) (hcool : cooldownLeft? membership now cooldown = none) :
    cooldown ≤ elapsed t now := by
  obtain ⟨last, htext, hle⟩ := h
  have hwaited := cooldownLeft?_eq_none hcool htext (parse?_toText last)
  unfold elapsed at hwaited ⊢
  omega

namespace History

variable {ref : ClusterRef} {h : History ref} {cooldown i j k : Nat} {s t : Situation} {u : Instant}

/-- That a pass repairs: it deletes pods, and they are those outside the majority. That the pass
decided on a repair would not be enough, since it may fail before it deletes anything. -/
structure Repairs (h : History ref) (k : Nat) (s : Situation) : Prop where
  finds : h.Finds k s
  some_deleted : deletedPods (h.pass k).trace ≠ []
  condemned : deletedPods (h.pass k).trace <+: s.condemned .repair

theorem repairs_of_carriesOut {pass : PassRun ref} {left : Option ClusterStatus}
    (hk : h.pass k = pass) (hpass : pass.CarriesOut s left) (hrepair : s.condemned .repair ≠ []) :
    h.Repairs k s := by
  subst hk
  refine ⟨hpass.finds, hpass.deletedPods_ne_nil hrepair, ?_⟩
  rw [← s.restarted_effects_of_condemned hrepair]
  exact Works.deleted (Finds.works hpass.finds)

theorem Repairs.condemned_ne_nil (hs : h.Repairs k s) : s.condemned .repair ≠ [] := fun hnil =>
  hs.some_deleted (List.prefix_nil.mp (hnil ▸ hs.condemned))

theorem Stores.repairedSince (hs : h.Stores k s) (hrepair : s.condemned .repair ≠ []) :
    RepairedSince s.now (h.status (k + 1)).membership := by
  rw [hs.status_succ]
  refine ⟨s.now, ?_, Int.le_refl _⟩
  show s.membership.lastRepairTime = _
  unfold Situation.membership
  rw [Situation.repair_eq_of_condemned hrepair]

/-- A repair stays on record. -/
theorem repairedSince_succ (hcooldown : ∀ k s, h.Finds k s → s.tunables.repairCooldown = cooldown)
    (hpos : 0 < cooldown) (hu : RepairedSince u (h.status k).membership) :
    RepairedSince u (h.status (k + 1)).membership := by
  rcases h.step k with hretouched | ⟨s, hs, -⟩
  · unfold status at hu ⊢
    rwa [hretouched.membership]
  · rw [← hs.1.status_eq] at hu
    rcases s.lastRepairTime_membership with ⟨pods, hrepair, htime⟩ | hsame
    · -- A later repair has waited for the cooldown, so its time is not before the recorded one.
      have hwaited := hu.elapsed_le (planRepair_eq_restart hrepair).2.2.1
      rw [hcooldown k s hs.1] at hwaited
      rw [hs.status_succ]
      refine ⟨s.now, htime, ?_⟩
      unfold elapsed at hwaited
      omega
    · obtain ⟨last, htext, hle⟩ := hu
      rw [hs.status_succ]
      exact ⟨last, hsame.trans htext, hle⟩

theorem repairedSince_of_le (hcooldown : ∀ k s, h.Finds k s → s.tunables.repairCooldown = cooldown)
    (hpos : 0 < cooldown) (hu : RepairedSince u (h.status i).membership) (hij : i ≤ j) :
    RepairedSince u (h.status j).membership := by
  induction j, hij using Nat.le_induction with
  | base => exact hu
  | succ k _ ih => exact repairedSince_succ hcooldown hpos ih

/-- **The whole cooldown lies between two repairs**, whatever fails in the passes between them, if
the first of the two stores its status. -/
theorem cooldown_le_elapsed (h : History ref)
    (hcooldown : ∀ k s, h.Finds k s → s.tunables.repairCooldown = cooldown) (hij : i < j)
    (hs : h.Repairs i s) (ht : h.Repairs j t) (hstored : h.stored (i + 1) = some s.nextStatus) :
    cooldown ≤ elapsed s.now t.now := by
  rcases Nat.eq_zero_or_pos cooldown with rfl | hpos
  · exact Nat.zero_le _
  -- The first repair is on record from its own pass on, and stays there until the second pass reads
  -- it.
  have hnoted := Stores.repairedSince ⟨hs.finds, hstored⟩ hs.condemned_ne_nil
  have hknown := repairedSince_of_le hcooldown hpos hnoted hij
  have hcool := (Situation.repair_of_condemned ht.condemned_ne_nil).2.2
  rw [ht.finds.status_eq, hcooldown j t ht.finds] at hcool
  exact hknown.elapsed_le hcool

end History

/-! ## Two servers that see only themselves -/

/-- A cluster of two servers, where a partition counts at once. -/
def pair (status : Option ClusterStatus) : Cluster :=
  { metadata :=
      { name := some "db", «namespace» := some "data", finalizers := some [finalizerName] }
    spec :=
      { servers := 2, image := { tag := "5" }, consistency := { splitBrainGraceSeconds := some 0 } }
    status }

/-- What a pass over that cluster finds while neither server sees the other. -/
def partedPair (status : Option ClusterStatus) (now : Instant) : Situation :=
  { cluster := pair status, ref := ⟨"data", "db"⟩, settings := {}, now
    topology := ⟨.cluster 2 2, [.unrestricted, .unrestricted]⟩
    pods := [{ name := "db-0", ordinal := 0 }, { name := "db-1", ordinal := 1 }]
    views := collectAnswers [("db-0", .answered ["db-0"]), ("db-1", .answered ["db-1"])] }

section
variable (status : Option ClusterStatus) (now : Instant)

theorem classes_partedPair :
    (partedPair status now).classification.classes = [["db-0"], ["db-1"]] := by
  have hclasses : (partedPair none .epoch).detection.classes = [["db-0"], ["db-1"]] :=
    equivalenceClasses_eq (by decide +kernel) (by decide) (by decide)
  -- The classes do not depend on what was known before, nor on the time.
  exact hclasses

theorem minority_partedPair : (partedPair status now).classification.minority = ["db-1"] := by
  unfold Classification.minority
  rw [classes_partedPair]
  rfl

theorem split_partedPair : (partedPair status now).health = .split := by
  rw [← Situation.health_detection, DetectionInput.health_eq_split_iff]
  refine ⟨⟨2, 2, rfl, Int32.le_refl _⟩, ?_, Nat.zero_le _⟩
  show 1 < (partedPair status now).classification.classes.length
  rw [classes_partedPair]
  decide

theorem attainable_partedPair
    (hversion : (status.getD {}).version = none ∨ (status.getD {}).version = some "5") :
    (partedPair status now).Attainable ⟨"data", "db"⟩ := by
  have hvalid : validateCluster (pair status) (status.getD {}).version =
      .ok ⟨.cluster 2 2, [.unrestricted, .unrestricted]⟩ := by
    have hsame : validateCluster (pair status) (status.getD {}).version =
        validateCluster (pair none) (status.getD {}).version := validateCluster_congr rfl rfl
    rw [hsame]
    rcases hversion with h | h
    · rw [h]
      rfl
    · rw [h]
      rfl
  exact ⟨rfl, ⟨rfl, rfl, hvalid⟩, rfl, nofun, ⟨_, rfl⟩, rfl⟩

variable {status now}

theorem repair_partedPair (hholds : (partedPair status now).upgradeHolds = false)
    (hcool : cooldownLeft? (partedPair status now).status.membership now 300 = none) :
    (partedPair status now).condemned .repair = ["db-1"] := by
  have hminority : (partedPair status now).classification.minority ≠ [] := by
    rw [minority_partedPair]
    exact List.cons_ne_nil _ _
  rw [Situation.condemned_repair
    (Situation.repair_eq_restart (split_partedPair status now) hholds hcool hminority),
    minority_partedPair]

end

/-- The first repair of the pair. -/
def firstParting : Situation := partedPair none .epoch

/-- The next one, a whole cooldown after the first was noted. -/
def secondParting : Situation :=
  partedPair (some firstParting.nextStatus) (Instant.epoch.addSeconds 300)

theorem repair_firstParting : firstParting.condemned .repair ≠ [] := by
  unfold firstParting
  rw [repair_partedPair (by decide) (by decide)]
  exact List.cons_ne_nil _ _

theorem lastRepairTime_firstParting :
    firstParting.nextStatus.membership.lastRepairTime = some firstParting.now.toText := by
  show firstParting.membership.lastRepairTime = _
  unfold Situation.membership
  rw [Situation.repair_eq_of_condemned repair_firstParting]

theorem repair_secondParting : secondParting.condemned .repair ≠ [] := by
  have hcool : cooldownLeft? secondParting.status.membership secondParting.now 300 = none := by
    show cooldownLeft? firstParting.nextStatus.membership secondParting.now 300 = none
    unfold cooldownLeft?
    rw [lastRepairTime_firstParting, Option.bind_some, parse?_toText, Option.bind_some]
    decide
  have hrepair : secondParting.condemned .repair = ["db-1"] := repair_partedPair (by decide) hcool
  rw [hrepair]
  exact List.cons_ne_nil _ _

namespace History

theorem succession_partings :
    Succession ⟨"data", "db"⟩ none [firstParting, secondParting] :=
  ⟨attainable_partedPair none .epoch (.inl rfl), rfl,
    attainable_partedPair (some firstParting.nextStatus) (Instant.epoch.addSeconds 300) (.inr rfl),
    rfl, trivial⟩

/-- The parted pair is repaired twice, the second time as soon as the first allows it. -/
theorem cooldown_le_elapsed_partings : ∃ h : History ⟨"data", "db"⟩,
    (∀ k s, h.Finds k s → s.tunables.repairCooldown = 300) ∧ h.Repairs 0 firstParting ∧
      h.Repairs 1 secondParting ∧ h.stored 1 = some firstParting.nextStatus ∧
      300 ≤ elapsed firstParting.now secondParting.now := by
  obtain ⟨h, -, hcourse, hfound⟩ := exists_history succession_partings
  obtain ⟨hfirst, hstores⟩ := hcourse 0 firstParting rfl
  obtain ⟨hsecond, -⟩ := hcourse 1 secondParting rfl
  have hcooldown : ∀ k s, h.Finds k s → s.tunables.repairCooldown = 300 := by
    intro k s hs
    rcases List.mem_pair.mp (hfound k s hs) with rfl | rfl
    · rfl
    · rfl
  have hs := repairs_of_carriesOut rfl hfirst repair_firstParting
  have ht := repairs_of_carriesOut rfl hsecond repair_secondParting
  exact ⟨h, hcooldown, hs, ht, hstores.2,
    cooldown_le_elapsed h hcooldown Nat.zero_lt_one hs ht hstores.2⟩

/-- A repair that was not noted, and the same again. -/
theorem exists_lost : ∃ h : History ⟨"data", "db"⟩, h.start = none ∧
    (∀ k s, h.Finds k s → s.tunables.repairCooldown = 300) ∧ h.Repairs 0 firstParting ∧
      h.Repairs 1 firstParting := by
  have hattainable : firstParting.Attainable ⟨"data", "db"⟩ :=
    attainable_partedPair none .epoch (.inl rfl)
  obtain ⟨h, hstart, hlost, hkept, hfinds⟩ := exists_history_losing hattainable hattainable rfl
  refine ⟨h, hstart, fun k s hs => ?_, repairs_of_carriesOut rfl hlost repair_firstParting,
    repairs_of_carriesOut rfl hkept repair_firstParting⟩
  rw [List.mem_pair.mp (hfinds k s hs) |>.elim id id]
  rfl

/-- Without a record of the first repair nothing holds up the second: a pass whose status write is
lost may be repeated at once. -/
theorem repair_after_lost_write :
    ¬ ∀ (h : History ⟨"data", "db"⟩) (cooldown : Nat), h.start = none →
      (∀ k s, h.Finds k s → s.tunables.repairCooldown = cooldown) →
      ∀ i j s t, i ≠ j → h.Repairs i s → h.Repairs j t → s.now.nanos ≤ t.now.nanos →
        cooldown ≤ elapsed s.now t.now := by
  intro hall
  obtain ⟨h, hstart, hcooldown, hs, ht⟩ := exists_lost
  have hwaited := hall h 300 hstart hcooldown 0 1 _ _ (by decide) hs ht (Int.le_refl _)
  rw [elapsed_self] at hwaited
  exact absurd hwaited (by decide)

end History

end ClusterOperator
