import ClusterOperator.Proofs.Upgrade.Lifecycle

/-!
# The hash on record

What is done about the configuration is decided at the start of a pass, the manifest is applied in
the middle of it, and the record is written at the end. Between any two of these a call may fail,
and the next pass decides from whatever was written. If the record were ever ahead of the cluster, a
change would be taken for applied and never be applied.

> **`recorded_of_fresh`** — at every time the hash on record is one of which a manifest has been
> applied; after a pass that applies and succeeds it is that of the manifest applied last; and a
> pass that makes the configuration wait applies nothing and restarts no server for it or for an
> upgrade.

The invariant is `Backed`. It holds at every turn and not only between passes, because a pass has
applied its manifest before it writes the status (`stored_of_prefix`), and a pass that did not come
that far writes no hash of its own.
-/

set_option autoImplicit false

namespace ClusterOperator

open Pass

namespace ConfigurationRecord

variable {s : ConfigurationRecord} {hash : String}

/-- A configuration that waits leaves the applied hash as it was. -/
theorem lastAppliedHash_of_waits (now : Instant) (window : Nat)
    (h : (s.evaluate hash now window).1.permitsApply = false) :
    (s.evaluate hash now window).2.lastAppliedHash = s.lastAppliedHash := by
  cases hlast : s.lastAppliedHash with
  | none =>
    rw [evaluate_new now window hlast] at h
    cases h
  | some last =>
    -- Of the cases that are left the last two can wait, and both keep the applied hash.
    by_cases hsame : last = hash
    · rw [hsame] at hlast
      rw [evaluate_applied now window hlast] at h
      cases h
    · cases hsince : s.waitingSince? hash with
      | none =>
        rw [evaluate_changed now window hlast hsame hsince] at h ⊢
        split at h
        · cases h
        · rw [if_neg ‹_›]
          exact hlast
      | some since =>
        rw [evaluate_waiting now window hlast hsame hsince] at h ⊢
        split at h
        · cases h
        · rw [if_neg ‹_›]
          exact hlast

end ConfigurationRecord

/-! ## What a trace has applied -/

section
variable {s t trace : Trace} {manifest : Manifest}

/-- That a manifest was applied with success. -/
def Applied (trace : Trace) (manifest : Manifest) : Prop :=
  ∃ cluster, ⟨.applyManifest cluster manifest, .ok ()⟩ ∈ trace

theorem Applied.mono (h : Applied s manifest) (hsub : s ⊆ t) : Applied t manifest := by
  obtain ⟨cluster, hmem⟩ := h
  exact ⟨cluster, hsub hmem⟩

/-- The manifest that is applied after a turn. -/
def Turn.appliedAfter (applied : Option Manifest) (turn : Turn Call.Answer) : Option Manifest :=
  match turn with
  | ⟨.applyManifest _ manifest, .ok ()⟩ => some manifest
  | _ => applied

/-- The manifest that a trace has applied last. -/
def lastApplied (trace : Trace) : Option Manifest := trace.foldl Turn.appliedAfter none

theorem appliedAfter_cases (turn : Turn Call.Answer) :
    (∃ cluster manifest, turn = ⟨.applyManifest cluster manifest, .ok ()⟩) ∨
      ∀ applied, turn.appliedAfter applied = applied := by
  obtain ⟨question, answer⟩ := turn
  cases question with
  | applyManifest cluster manifest =>
    match answer with
    | .ok () => exact .inl ⟨cluster, manifest, rfl⟩
    | .error f => exact .inr fun _ => rfl
  | _ => exact .inr fun _ => rfl

theorem foldl_appliedAfter {applied : Option Manifest}
    (honly : ∀ other, Applied trace other → other = manifest)
    (h : applied = some manifest ∨ Applied trace manifest) :
    trace.foldl Turn.appliedAfter applied = some manifest := by
  induction trace generalizing applied with
  | nil =>
    rcases h with h | ⟨cluster, hmem⟩
    · exact h
    · cases hmem
  | cons turn rest ih =>
    have hrest : ∀ other, Applied rest other → other = manifest := fun other hother =>
      honly other (hother.mono (List.subset_cons_self turn rest))
    rw [List.foldl_cons]
    refine ih hrest ?_
    rcases appliedAfter_cases turn with ⟨cluster, other, rfl⟩ | hkept
    · rw [← honly other ⟨cluster, List.mem_cons_self⟩]
      exact .inl rfl
    · rw [hkept]
      refine h.imp id ?_
      rintro ⟨cluster, hmem⟩
      rcases List.mem_cons.mp hmem with rfl | hmem
      · cases hkept none
      · exact ⟨cluster, hmem⟩

/-- The only manifest that the second of two traces applies is the last that both have applied. -/
theorem lastApplied_append (h : Applied t manifest)
    (honly : ∀ other, Applied t other → other = manifest) :
    lastApplied (s ++ t) = some manifest := by
  unfold lastApplied
  rw [List.foldl_append]
  exact foldl_appliedAfter honly (.inr h)

end

/-! ## One pass -/

section
variable {ref : ClusterRef} {s : Situation} {trace before : Trace}
  {result : Except Failure Requeue} {stored : Option ClusterStatus}

theorem applied_of_runs_performAll {cluster : Cluster} {done : Trace}
    (hpermits : s.permitsApply = true)
    (h : (performAll cluster ref s.effects).Runs done (.ok ())) : Applied done s.manifest := by
  obtain ⟨told, rest, heffects, -⟩ := s.exists_effects_eq hpermits
  have hcall : Call.applyManifest cluster s.manifest ∈ done.map (·.question) := by
    rw [(calls_performAll h).2 rfl, heffects]
    simp [Effect.call]
  obtain ⟨turn, hturn, hquestion⟩ := List.mem_map.mp hcall
  refine ⟨cluster, ?_⟩
  rw [← eq_applied hquestion (performAll_endsOnFailure.calm h turn hturn)]
  exact hturn

/-- **A pass has applied its manifest before it writes its status.** -/
theorem Course.stored_of_prefix (h : Course ref s trace result)
    (hreads : ReadsStored stored trace) (hbefore : before <+: trace) :
    storedAfter stored before = stored ∨
      (storedAfter stored before = some s.nextStatus ∧
        (s.permitsApply = true → Applied before s.manifest)) := by
  cases h with
  | @stopped seen done counted f hseen hdone hcounted =>
    have hkeeps : ∀ turn ∈ opening ref s.cluster s.now ++ (seen ++ (done ++ counted)),
        turn.question.KeepsStatus := by
      simp only [List.forall_mem_append]
      exact ⟨fun turn hturn => (isPassive_opening turn hturn).1, fun turn hturn =>
        (hseen turn hturn).1, keepsStatus_of_runs_performAll hdone, fun turn hturn =>
        (hcounted turn hturn).1⟩
    exact .inl (storedAfter_of_keepsStatus fun turn hturn => hkeeps turn (hbefore.mem hturn))
  | @through seen done written counted answer hseen hdone hwritten hcounted =>
    have hkeeps : ∀ turn ∈ opening ref s.cluster s.now ++ seen ++ done,
        turn.question.KeepsStatus := by
      simp only [List.forall_mem_append]
      exact ⟨⟨fun turn hturn => (isPassive_opening turn hturn).1, fun turn hturn =>
        (hseen turn hturn).1⟩, keepsStatus_of_runs_performAll hdone⟩
    have hcountedkeeps : ∀ turn ∈ counted, turn.question.KeepsStatus := fun turn hturn =>
      (hcounted turn hturn).1
    simp only [← List.append_assoc] at hreads hbefore
    rw [List.append_assoc _ written] at hreads hbefore
    -- Up to the effects nothing is stored, and after them the status is, by one write at most.
    rcases prefix_append_cases hbefore with hfirst | ⟨u, hu, rfl⟩
    · exact .inl (storedAfter_of_keepsStatus fun turn hturn => hkeeps turn (hfirst.mem hturn))
    have hrest := (readsStored_append.mp hreads).2
    rw [storedAfter_of_keepsStatus hkeeps] at hrest
    obtain ⟨hwrite, -⟩ := readsStored_append.mp hrest
    rw [storedAfter_append, storedAfter_of_keepsStatus hkeeps]
    rcases hwritten.storesOnce.append_right hcountedkeeps stored u hu with hsame | hafter
    · exact .inl hsame
    rw [storedAfter_append, storedAfter_of_keepsStatus hcountedkeeps] at hafter
    rw [hafter]
    rcases outcome_of_attempts hwritten hwrite with ⟨hstored, -⟩ | ⟨hsame, -⟩
    · refine .inr ⟨hstored, fun hpermits => ?_⟩
      refine (applied_of_runs_performAll hpermits hdone).mono ?_
      exact fun turn hturn => List.mem_append_left _ (List.mem_append_right _ hturn)
    · exact .inl hsame

theorem Course.applied_of_ok (h : Course ref s trace result) (hpermits : s.permitsApply = true)
    {requeue : Requeue} (hok : result = .ok requeue) : Applied trace s.manifest := by
  cases h with
  | stopped => cases hok
  | through hseen hdone hwritten hcounted =>
    refine (applied_of_runs_performAll hpermits hdone).mono fun turn hturn => ?_
    simp [hturn]

namespace Situation

theorem lastAppliedHash_of_permitsApply (h : s.permitsApply = true) :
    s.nextStatus.configuration.lastAppliedHash = some s.manifest.configHash :=
  ConfigurationRecord.lastAppliedHash_of_permitsApply _ _ h

theorem lastAppliedHash_of_waits (h : s.permitsApply = false) :
    s.nextStatus.configuration.lastAppliedHash = s.status.configuration.lastAppliedHash :=
  ConfigurationRecord.lastAppliedHash_of_waits _ _ h

/-- A configuration that waits holds up every restart but a repair. -/
theorem condemned_of_waits (h : s.permitsApply = false) :
    s.condemned .upgrade = [] ∧ s.condemned .rollout = [] := by
  constructor
  · by_contra hcondemned
    cases h.symm.trans (upgrade_of_condemned hcondemned).1
  · by_contra hcondemned
    cases h.symm.trans (rollout_of_condemned hcondemned).1

end Situation

end

/-! ## All passes -/

/-- That the hash in a status, if there is one, is that of a manifest which has been applied. It is
said of everything asked so far, over all passes, because a status is kept by passes that apply
nothing. -/
def Backed (happened : Trace) (stored : Option ClusterStatus) : Prop :=
  ∀ hash, (stored.getD {}).configuration.lastAppliedHash = some hash →
    ∃ manifest, Applied happened manifest ∧ manifest.configHash = hash

theorem Backed.of_same {happened more : Trace} {stored later : Option ClusterStatus}
    (h : Backed happened stored) (hsub : happened ⊆ more)
    (hsame : (later.getD {}).configuration.lastAppliedHash =
      (stored.getD {}).configuration.lastAppliedHash) : Backed more later := by
  intro hash hhash
  rw [hsame] at hhash
  obtain ⟨manifest, happlied, hmanifest⟩ := h hash hhash
  exact ⟨manifest, happlied.mono hsub, hmanifest⟩

namespace History

variable {ref : ClusterRef} {h : History ref} {k : Nat} {s : Situation} {before : Trace}

/-- Everything that was asked before a pass. -/
def happened (h : History ref) : Nat → Trace
  | 0 => []
  | k + 1 => h.happened k ++ (h.pass k).trace

theorem Finds.course (hs : h.Finds k s) : Course ref s (h.pass k).trace (h.pass k).result :=
  course_of_finds (h.pass k).runs hs

/-- **What is on record stays backed**, turn by turn. -/
theorem backed_step (h : History ref) (hbacked : Backed (h.happened k) (h.stored k))
    (hbefore : before <+: (h.pass k).trace) :
    Backed (h.happened k ++ before) (storedAfter (h.stored k) before) := by
  have hsub : h.happened k ⊆ h.happened k ++ before := List.subset_append_left _ _
  have hreads : ReadsStored (h.stored k) (h.pass k).trace := h.reads k
  by_cases hfinds : ∃ s, h.Finds k s
  · obtain ⟨s, hs⟩ := hfinds
    rcases hs.course.stored_of_prefix hreads hbefore with hsame | ⟨hnext, happlied⟩
    · exact hbacked.of_same hsub (by rw [hsame])
    rw [hnext]
    -- A pass that may apply has done so before it writes, and one that may not keeps the hash that
    -- was there.
    cases hpermits : s.permitsApply with
    | false =>
      refine hbacked.of_same hsub ?_
      rw [Option.getD_some, Situation.lastAppliedHash_of_waits hpermits, hs.status_eq]
      rfl
    | true =>
      intro hash hhash
      rw [Option.getD_some, Situation.lastAppliedHash_of_permitsApply hpermits] at hhash
      refine ⟨s.manifest, (happlied hpermits).mono ?_, Option.some.inj hhash⟩
      exact List.subset_append_right _ _
  · have hnone : ∀ s, ¬ h.Finds k s := fun s hs => hfinds ⟨s, hs⟩
    have hquiet := quiet_of_not_finds (h.pass k).runs hreads hnone
    refine hbacked.of_same hsub ?_
    rw [(hquiet.status before hbefore).configuration]

theorem backed (hfresh : h.start = none) (k : Nat) : Backed (h.happened k) (h.stored k) := by
  induction k with
  | zero =>
    intro hash hhash
    have hnone : h.status 0 = {} := status_zero hfresh
    unfold status at hnone
    rw [hnone] at hhash
    cases hhash
  | succ k ih => exact h.backed_step ih List.prefix_rfl

/-- What the record of the configuration says about the cluster. The record is what the next pass
goes by, so it may lag behind the cluster, which costs an application too many, but never run ahead
of it. -/
structure Recorded (h : History ref) : Prop where
  /-- At every time of a pass, the hash on record is that of a manifest which has been applied by
  then. -/
  backed : ∀ k before, before <+: (h.pass k).trace → ∀ hash,
    ((storedAfter (h.stored k) before).getD {}).configuration.lastAppliedHash = some hash →
      ∃ manifest, Applied (h.happened k ++ before) manifest ∧ manifest.configHash = hash
  /-- After a pass that permits to apply and succeeds, unless it found its cluster gone, the hash on
  record is that of the manifest applied last. -/
  current : ∀ k s requeue, h.Finds k s → s.permitsApply = true →
    (h.pass k).result = .ok requeue → ⟨.getCluster ref, .ok none⟩ ∉ (h.pass k).trace →
      ∃ manifest, lastApplied (h.happened (k + 1)) = some manifest ∧
        (h.status (k + 1)).configuration.lastAppliedHash = some manifest.configHash
  /-- A pass that makes the configuration wait applies no manifest, and restarts servers for a
  repair at most. -/
  waiting : ∀ k s, h.Finds k s → s.permitsApply = false →
    (∀ cluster manifest answer,
      (⟨.applyManifest cluster manifest, answer⟩ : Turn Call.Answer) ∉ (h.pass k).trace) ∧
    s.condemned .upgrade = [] ∧ s.condemned .rollout = [] ∧
    deletedPods (h.pass k).trace <+: s.condemned .repair

theorem current_of_permitsApply (hs : h.Finds k s) (hpermits : s.permitsApply = true)
    {requeue : Requeue} (hok : (h.pass k).result = .ok requeue)
    (hthere : ⟨.getCluster ref, .ok none⟩ ∉ (h.pass k).trace) :
    ∃ manifest, lastApplied (h.happened (k + 1)) = some manifest ∧
      (h.status (k + 1)).configuration.lastAppliedHash = some manifest.configHash := by
  have honly : ∀ other, Applied (h.pass k).trace other → other = s.manifest := by
    rintro other ⟨cluster, hmem⟩
    exact (hs.works.applied _ _ _ hmem).2
  have hstored : h.stored (k + 1) = some s.nextStatus := by
    rcases hs.works.outcome with ⟨hstored, -⟩ | ⟨-, ⟨f, hfailed⟩ | hgone⟩
    · exact hstored
    · cases hok.symm.trans hfailed
    · exact absurd hgone hthere
  refine ⟨s.manifest, lastApplied_append (hs.course.applied_of_ok hpermits hok) honly, ?_⟩
  rw [Stores.status_succ ⟨hs, hstored⟩]
  exact Situation.lastAppliedHash_of_permitsApply hpermits

theorem waiting_of_not_permitsApply (hs : h.Finds k s) (hwaits : s.permitsApply = false) :
    (∀ cluster manifest answer,
      (⟨.applyManifest cluster manifest, answer⟩ : Turn Call.Answer) ∉ (h.pass k).trace) ∧
    s.condemned .upgrade = [] ∧ s.condemned .rollout = [] ∧
    deletedPods (h.pass k).trace <+: s.condemned .repair := by
  obtain ⟨hupgrade, hrollout⟩ := Situation.condemned_of_waits hwaits
  have hdeleted := hs.works.deleted
  rw [s.restarted_effects, hupgrade, hrollout, List.nil_append, List.append_nil] at hdeleted
  refine ⟨fun cluster manifest answer hmem => ?_, hupgrade, hrollout, hdeleted⟩
  cases hwaits.symm.trans (hs.works.applied _ _ _ hmem).1

/-- **The hash on record never runs ahead of the cluster.** This is shown turn by turn and not only
between passes, since a pass may break off anywhere and the next one goes by what it has stored by
then. -/
theorem recorded_of_fresh (h : History ref) (hfresh : h.start = none) : h.Recorded where
  backed k _ hbefore hash hhash := h.backed_step (backed hfresh k) hbefore hash hhash
  current _ _ _ hs hpermits hok hthere := current_of_permitsApply hs hpermits hok hthere
  waiting _ _ hs hwaits := waiting_of_not_permitsApply hs hwaits

end History

/-! ## A setting is edited -/

/-- The single server with a setting of its user. -/
def tuned (status : Option ClusterStatus) : Cluster :=
  { solo "1" none status with
    spec :=
      { (solo "1" none none).spec with config := .ofList [("db.tx_log.rotation.size", "64M")] } }

/-- The setting is made after the installation. -/
def edited : Situation := { installed with cluster := tuned (some installed.nextStatus) }

theorem derived_edited : edited.derived.hash ≠ installed.derived.hash := by decide +kernel

theorem attainable_edited : edited.Attainable ⟨"data", "db"⟩ := by
  have hvalid : validateCluster (tuned none) (some "1") = .ok ⟨.standalone, [.unrestricted]⟩ :=
    rfl
  have hsame : validateCluster edited.cluster (some "1") =
      validateCluster (tuned none) (some "1") := validateCluster_congr rfl rfl
  exact ⟨rfl, ⟨rfl, rfl, hsame.trans hvalid⟩, rfl, fun _ => rfl, ⟨[], rfl⟩, rfl⟩

theorem waits_edited : edited.permitsApply = false := by
  have hlast : edited.status.configuration.lastAppliedHash = some installed.derived.hash :=
    applied_installed
  have hsince : edited.status.configuration.waitingSince? edited.derived.hash = none := by rfl
  have heq := ConfigurationRecord.evaluate_changed edited.now edited.tunables.configDebounce hlast
    derived_edited.symm hsince
  unfold Situation.permitsApply Situation.drift Situation.evaluated
  rw [heq, if_neg (by decide)]
  rfl

namespace History

theorem succession_edited : Succession ⟨"data", "db"⟩ none [installed, edited] :=
  ⟨attainable_soloAt valid_install, rfl, attainable_edited, rfl, trivial⟩

/-- The installation puts its hash on record, and the edited setting waits. -/
theorem recorded_of_fresh_edited : ∃ h : History ⟨"data", "db"⟩, h.start = none ∧
    (h.status 1).configuration.lastAppliedHash = some installed.derived.hash ∧
    h.Finds 1 edited ∧ edited.permitsApply = false ∧
    edited.derived.hash ≠ installed.derived.hash ∧ h.Recorded := by
  obtain ⟨h, hstart, hcourse, -⟩ := exists_history succession_edited
  obtain ⟨-, hstores⟩ := hcourse 0 installed rfl
  obtain ⟨-, hedited⟩ := hcourse 1 edited rfl
  refine ⟨h, hstart, ?_, hedited.1, waits_edited, derived_edited, recorded_of_fresh h hstart⟩
  rw [hstores.status_succ]
  exact applied_installed

end History

end ClusterOperator
