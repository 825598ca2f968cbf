import ClusterOperator.Pass.Effects
import ClusterOperator.Proofs.Configuration.Debounce
import ClusterOperator.Proofs.Upgrade.Restarts

/-!
# Why a pass deletes pods

Three decisions may each ask for pods to be deleted: the step of an upgrade, the repair of a split
and the rollout of a configuration. They are made side by side from one situation, and nothing in
the text of the pass says that they exclude each other. They do, because what warrants one is a fact
about the situation that rules out the others:

| cause   | membership | upgrade after the step |
|---------|------------|------------------------|
| upgrade | healthy    | holds the pods         |
| repair  | split      | does not               |
| rollout | not split  | does not               |

> **`condemned_eq_nil`** — if one cause asks for deletions, no other does.

The second half reads the same off the list of effects: its deletions are those that the causes ask
for (`restarted_effects`), and where the manifest is applied, it stands before all of them.
-/

set_option autoImplicit false

namespace ClusterOperator

open Instant

/-! ## The decisions -/

theorem cooldownLeft?_eq_none {membership : MembershipRecord} {now : Instant} {cooldown : Nat}
    (h : cooldownLeft? membership now cooldown = none) {text : String} {last : Instant}
    (htext : membership.lastRepairTime = some text) (hlast : parse? text = some last) :
    cooldown ≤ elapsed last now := by
  unfold cooldownLeft? at h
  rw [htext, Option.bind_some, hlast, Option.bind_some] at h
  by_contra hearly
  rw [if_pos (by omega)] at h
  cases h

/-- What a repair requires. -/
theorem planRepair_eq_restart {c : Classification} {membership : MembershipRecord}
    {upgrade : Option UpgradeRecord} {now : Instant} {cooldown : Nat} {pods : List String}
    (h : planRepair c membership upgrade now cooldown = .restart pods) :
    c.health = .split ∧ upgrade.any (·.phase.holdsPods) = false ∧
      cooldownLeft? membership now cooldown = none ∧ pods = c.minority := by
  unfold planRepair at h
  split at h
  · cases h
  · rename_i hsplit
    split at h
    · cases h
    · rename_i hholds
      split at h
      · cases h
      · rename_i hcool
        split at h
        · cases h
        · cases h
          exact ⟨not_not.mp hsplit, Bool.eq_false_iff.mpr hholds, hcool, rfl⟩

/-- What the restart of a pod for a configuration requires. -/
theorem nextConfigRestart_eq_some {pods : List ServerPod} {servers : Int32} {hash image : String}
    {pod : ServerPod} (h : nextConfigRestart pods servers hash image = some pod) :
    pod ∈ pods ∧ pod.configHash ≠ some hash ∧ pod.mayRun image := by
  unfold nextConfigRestart at h
  split at h
  · cases h
  · have hmem := List.mem_of_find?_eq_some h
    have hhash := List.find?_some h
    unfold restartable at hmem
    simp only [List.mem_filter, Bool.and_eq_true] at hmem
    exact ⟨hmem.1, by simpa using hhash, hmem.2.2⟩

theorem image_eq_of_mayRun {pod : ServerPod} {image other : String} (h : pod.mayRun image)
    (hother : pod.image = some other) : other = image := by
  unfold ServerPod.mayRun at h
  rw [hother] at h
  exact beq_iff_eq.mp h

namespace Situation

variable {s : Situation}

/-- What the step of the upgrade is decided by. -/
def observation (s : Situation) : UpgradeObservation :=
  { clusterName := s.ref.name, strategy := s.spec.upgradeStrategy, image := s.spec.image
    topology := s.topology, pods := s.pods, classification := s.classification, hosted := s.hosted
    tokens := s.tokens, configSettled := s.permitsApply, manifestApplied := s.permitsApply
    now := s.now }

theorem step?_eq : s.step? = s.openRecord?.map (·.advance s.observation) := rfl

/-- The pods that a cause asks to delete. The three lists are read off the decisions, not off the
effects, so that what the effects delete can be compared with them. -/
def condemned (s : Situation) : RestartCause → List String
  | .upgrade => (s.step?.map (·.restart)).getD []
  | .repair =>
    match s.repair with
    | .restart pods => pods
    | _ => []
  | .rollout => (s.rollout?.map (·.name)).toList

/-- What an upgrade step requires that restarts servers: the manifest is applied, the membership is
healthy, and the upgrade is in progress after the step. -/
theorem upgrade_of_condemned (h : s.condemned .upgrade ≠ []) :
    s.permitsApply ∧ s.health = .healthy ∧
      ∃ record, s.upgrade? = some record ∧ record.phase = .inProgress := by
  unfold condemned at h
  unfold upgrade?
  rw [step?_eq] at h ⊢
  cases hrecord : s.openRecord? with
  | none =>
    rw [hrecord] at h
    exact absurd rfl h
  | some record =>
    rw [hrecord] at h
    have h : (record.advance s.observation).restart ≠ [] := h
    have hstep := UpgradeRecord.advance_of_restart h
    rw [hstep] at h
    obtain ⟨-, -, happlied, hhealthy⟩ :=
      UpgradeRecord.mayRestart_iff.mp (UpgradeRecord.mayRestart_of_restart h)
    refine ⟨happlied, hhealthy, (record.advance s.observation).record, rfl, ?_⟩
    rw [hstep]
    exact (UpgradeRecord.phase_of_restart h).2

theorem repair_of_condemned (h : s.condemned .repair ≠ []) :
    s.health = .split ∧ s.upgradeHolds = false ∧
      cooldownLeft? s.status.membership s.now s.tunables.repairCooldown = none := by
  unfold condemned at h
  cases hrepair : s.repair with
  | restart pods =>
    obtain ⟨hsplit, hholds, hcool, -⟩ := planRepair_eq_restart hrepair
    exact ⟨hsplit, hholds, hcool⟩
  | _ =>
    rw [hrepair] at h
    exact absurd rfl h

theorem rollout_of_condemned (h : s.condemned .rollout ≠ []) :
    s.permitsApply ∧ s.health ≠ .split ∧ s.upgradeHolds = false ∧
      ∃ pod ∈ s.pods, s.condemned .rollout = [pod.name] ∧
        pod.configHash ≠ some s.manifest.configHash ∧ pod.mayRun s.manifest.image := by
  unfold condemned rollout? at h ⊢
  by_cases hmay : (s.permitsApply && !s.upgradeHolds && s.health != .split) = true
  · rw [if_pos hmay] at h ⊢
    simp only [Bool.and_eq_true, Bool.not_eq_true', bne_iff_ne] at hmay
    obtain ⟨⟨hpermits, hholds⟩, hsplit⟩ := hmay
    -- A pass that may apply has applied what it derives, so the pod is compared with this manifest
    -- and not with an older one.
    have happlied : s.configuration.lastAppliedHash = some s.manifest.configHash :=
      ConfigurationRecord.lastAppliedHash_of_permitsApply _ _ hpermits
    rw [happlied, Option.bind_some] at h ⊢
    cases hnext : nextConfigRestart s.pods s.topology.servers s.manifest.configHash
        s.manifest.image with
    | none =>
      rw [hnext] at h
      exact absurd rfl h
    | some pod =>
      obtain ⟨hmem, hhash, himage⟩ := nextConfigRestart_eq_some hnext
      exact ⟨hpermits, hsplit, hholds, pod, hmem, rfl, hhash, himage⟩
  · rw [if_neg hmay] at h
    exact absurd rfl h

theorem upgradeHolds_of_condemned (h : s.condemned .upgrade ≠ []) : s.upgradeHolds = true := by
  obtain ⟨-, -, record, hrecord, hphase⟩ := upgrade_of_condemned h
  unfold upgradeHolds
  rw [hrecord, Option.any_some, hphase]
  rfl

theorem phase_of_upgradeHolds (h : s.upgradeHolds = false) :
    ∀ record, s.upgrade? = some record → record.phase ≠ .inProgress ∧ record.phase ≠ .paused := by
  intro record hrecord
  unfold upgradeHolds at h
  rw [hrecord, Option.any_some] at h
  constructor
  · intro hphase
    rw [hphase] at h
    cases h
  · intro hphase
    rw [hphase] at h
    cases h

theorem tag_of_inProgress {record : UpgradeRecord} (hrecord : s.upgrade? = some record)
    (hphase : record.phase = .inProgress) : s.tag = record.targetVersion := by
  unfold tag effectiveTag
  simp only [hrecord, hphase]

/-- **At most one cause asks for deletions.** -/
theorem condemned_eq_nil {a b : RestartCause} (ha : s.condemned a ≠ []) (hne : b ≠ a) :
    s.condemned b = [] := by
  by_contra hb
  -- An upgrade that restarts servers holds the pods, the other two require that none does; and of
  -- those a repair requires a split, which a rollout rules out.
  have holds (h : s.condemned .upgrade ≠ []) (hfree : s.upgradeHolds = false) : False := by
    rw [upgradeHolds_of_condemned h] at hfree
    cases hfree
  have split (h : s.condemned .repair ≠ []) (h' : s.condemned .rollout ≠ []) : False :=
    (rollout_of_condemned h').2.1 (repair_of_condemned h).1
  cases a with
  | upgrade =>
    cases b with
    | upgrade => exact hne rfl
    | repair => exact holds ha (repair_of_condemned hb).2.1
    | rollout => exact holds ha (rollout_of_condemned hb).2.2.1
  | repair =>
    cases b with
    | upgrade => exact holds hb (repair_of_condemned ha).2.1
    | repair => exact hne rfl
    | rollout => exact split ha hb
  | rollout =>
    cases b with
    | upgrade => exact holds hb (rollout_of_condemned ha).2.2.1
    | repair => exact split hb ha
    | rollout => exact hne rfl

end Situation

/-! ## The effects -/

/-- The pod that an effect deletes. -/
def Effect.restarted? : Effect → Option String
  | restart _ pod => some pod
  | _ => none

def Effect.applied? : Effect → Option Manifest
  | apply manifest => some manifest
  | _ => none

/-- That what is looked for in effects is not found in those that only count or tell. The deletions
and the applied manifest are both looked for in this way, and one lemma about the whole list serves
both. -/
structure Effect.Substantial {β : Type} (p : Effect → Option β) : Prop where
  measure : ∀ measurement, p (.measure measurement) = none
  publish : ∀ event, p (.publish event) = none

namespace Situation

section
variable {β : Type} {p : Effect → Option β} (hp : Effect.Substantial p) (s : Situation)
include hp

theorem filterMap_driftEffects : s.driftEffects.filterMap p = [] := by
  unfold driftEffects
  split <;> simp [hp.measure, hp.publish]

theorem filterMap_requestEffects : s.requestEffects.filterMap p = [] := by
  unfold requestEffects
  split <;> simp [hp.publish]

theorem filterMap_upgradeEffects : s.upgradeEffects.filterMap p =
    (s.condemned .upgrade).filterMap fun pod => p (.restart .upgrade pod) := by
  unfold upgradeEffects condemned
  cases s.step? with
  | none => rfl
  | some step =>
    have hpublish : (step.events.map Effect.publish).filterMap p = [] := by
      rw [List.filterMap_map]
      exact List.filterMap_eq_nil_iff.mpr fun event _ => hp.publish event
    simp only [List.filterMap_append, hpublish, List.filterMap_map, List.append_nil]
    rfl

theorem filterMap_repairEffects : s.repairEffects.filterMap p =
    (s.condemned .repair).filterMap fun pod => p (.restart .repair pod) := by
  unfold repairEffects condemned splitWarning
  rw [List.filterMap_append]
  have hmeasure : (if s.newlySplit then [Effect.measure .splitBrain] else []).filterMap p = [] := by
    split <;> simp [hp.measure]
  rw [hmeasure, List.nil_append]
  cases s.repair with
  | restart pods =>
    simp only [List.filterMap_append, List.filterMap_cons, List.filterMap_nil, List.filterMap_map,
      hp.measure, hp.publish, List.append_nil]
    rfl
  | upgradeActive | coolingDown =>
    simp only
    split <;> simp [hp.publish]
  | notNeeded => rfl

theorem filterMap_rolloutEffects : s.rolloutEffects.filterMap p =
    (s.condemned .rollout).filterMap fun pod => p (.restart .rollout pod) := by
  unfold rolloutEffects condemned
  cases s.rollout? with
  | none => rfl
  | some pod => simp [List.filterMap_cons, hp.publish]

theorem filterMap_phaseEffects : s.phaseEffects.filterMap p = [] := by
  unfold phaseEffects
  split
  · split <;> simp [hp.publish]
  · rfl

theorem filterMap_gaugeEffects : s.gaugeEffects.filterMap p = [] := by
  unfold gaugeEffects
  simp [hp.measure]

/-- **The effects that do something** apply the manifest and delete what the causes ask for. -/
theorem filterMap_effects : s.effects.filterMap p = s.applyEffects.filterMap p ++
    (s.condemned .upgrade).filterMap (fun pod => p (.restart .upgrade pod)) ++
    (s.condemned .repair).filterMap (fun pod => p (.restart .repair pod)) ++
    (s.condemned .rollout).filterMap fun pod => p (.restart .rollout pod) := by
  unfold effects
  simp only [List.filterMap_append, filterMap_driftEffects hp, filterMap_requestEffects hp,
    filterMap_upgradeEffects hp, filterMap_repairEffects hp, filterMap_rolloutEffects hp,
    filterMap_phaseEffects hp, filterMap_gaugeEffects hp, List.nil_append, List.append_nil]

end

variable (s : Situation)

theorem substantial_restarted? : Effect.Substantial (·.restarted?) := ⟨fun _ => rfl, fun _ => rfl⟩

theorem substantial_applied? : Effect.Substantial (·.applied?) := ⟨fun _ => rfl, fun _ => rfl⟩

/-- The effects delete what the causes ask for. -/
theorem restarted_effects : s.effects.filterMap (·.restarted?) =
    s.condemned .upgrade ++ s.condemned .repair ++ s.condemned .rollout := by
  have hall : ∀ cause pods, List.filterMap (fun pod => (Effect.restart cause pod).restarted?) pods =
      pods := fun _ _ => List.filterMap_some
  have happly : s.applyEffects.filterMap (·.restarted?) = [] := by
    unfold applyEffects
    split <;> rfl
  rw [filterMap_effects substantial_restarted?, happly, hall, hall, hall, List.nil_append]

/-- **The effects apply the manifest once**, where that is permitted, and no other. -/
theorem applied_effects : s.effects.filterMap (·.applied?) =
    if s.permitsApply then [s.manifest] else [] := by
  have hnone : ∀ cause pods, List.filterMap (fun pod => (Effect.restart cause pod).applied?) pods =
      [] := fun _ pods => List.filterMap_eq_nil_iff.mpr fun _ _ => rfl
  rw [filterMap_effects substantial_applied?, hnone, hnone, hnone, List.append_nil, List.append_nil,
    List.append_nil]
  unfold applyEffects
  split <;> rfl

theorem restarted_effects_of_condemned {cause : RestartCause} (h : s.condemned cause ≠ []) :
    s.effects.filterMap (·.restarted?) = s.condemned cause := by
  rw [restarted_effects]
  cases cause with
  | upgrade =>
    rw [condemned_eq_nil h (b := .repair) (by decide),
      condemned_eq_nil h (b := .rollout) (by decide), List.append_nil, List.append_nil]
  | repair =>
    rw [condemned_eq_nil h (b := .upgrade) (by decide),
      condemned_eq_nil h (b := .rollout) (by decide), List.append_nil, List.nil_append]
  | rollout =>
    rw [condemned_eq_nil h (b := .upgrade) (by decide),
      condemned_eq_nil h (b := .repair) (by decide), List.append_nil, List.nil_append]

/-- Where the manifest is applied, nothing is deleted before it. -/
theorem exists_effects_eq (h : s.permitsApply) : ∃ told rest,
    s.effects = told ++ .apply s.manifest :: rest ∧ told.filterMap (·.restarted?) = [] := by
  refine ⟨s.driftEffects ++ s.requestEffects, s.upgradeEffects ++ s.repairEffects ++
    s.rolloutEffects ++ s.phaseEffects ++ s.gaugeEffects, ?_, ?_⟩
  · unfold effects applyEffects
    rw [if_pos h]
    simp only [List.append_assoc, List.cons_append, List.nil_append]
  · rw [List.filterMap_append, filterMap_driftEffects substantial_restarted?,
      filterMap_requestEffects substantial_restarted?]
    rfl

end Situation

end ClusterOperator
