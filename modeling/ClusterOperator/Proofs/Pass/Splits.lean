import ClusterOperator.Proofs.Configuration.Rollout
import ClusterOperator.Proofs.Membership.Cooldown
import ClusterOperator.Proofs.Membership.Minority
import ClusterOperator.Proofs.Pass.Conditions
import ClusterOperator.Proofs.Pass.Rejecting

/-!
# A split is told

That the membership is split is found out by the classification; what is told of it goes by what is
done about it. The condition holds unless the repair is not needed, and the warning is published
with one of the three other decisions. So nothing would be told of a split that needs no repair.

> **`tellsSplit_of_calm`** — after a pass in which nothing fails, the condition that is stored holds
> exactly if the membership is split, and a split that is new is warned of once, whether it is
> repaired, cools down or waits for an upgrade.

There is no split without a repair (`repair_eq_notNeeded_iff`): detection finds one only in two or
more classes, and no class is empty, so there is somebody outside the first.
-/

set_option autoImplicit false

namespace ClusterOperator

open Pass

/-! ## The decision -/

namespace Situation

variable {s : Situation}

theorem minority_ne_nil (h : s.health = .split) : s.classification.minority ≠ [] :=
  (DetectionInput.safe_minority (i := s.detection) h).ne_nil

/-- **A split is always a matter of repair**, also when that has to wait. -/
theorem repair_eq_notNeeded_iff : s.repair = .notNeeded ↔ s.health ≠ .split := by
  constructor
  · intro hnone hsplit
    have hdetected : ¬ s.classification.health ≠ .split := not_not.mpr hsplit
    have hsome : ¬ s.classification.minority.isEmpty = true := by
      rw [List.isEmpty_iff]
      exact minority_ne_nil hsplit
    unfold repair planRepair at hnone
    rw [if_neg hdetected, if_neg hsome] at hnone
    split at hnone
    · cases hnone
    · split at hnone
      · cases hnone
      · cases hnone
  · intro hwhole
    exact if_pos hwhole

/-! ## The condition -/

/-- What is found out about a split. The finding is about one kind of condition whatever is done
about the split, so it takes its place among the others unseen. -/
theorem exists_splitFinding (s : Situation) : ∃ f : Finding, f.kind = .splitBrainDetected ∧
    (f.holds = true ↔ s.health = .split) ∧ ∀ u, s.setSplitCondition u = u.put f := by
  have hneeded := s.repair_eq_notNeeded_iff
  unfold setSplitCondition
  cases hrepair : s.repair with
  | notNeeded =>
    have hwhole := hneeded.mp hrepair
    exact ⟨⟨_, false, _, _⟩, rfl, by simpa using hwhole, fun _ => rfl⟩
  | restart | upgradeActive | coolingDown =>
    have hsplit : s.health = .split := by
      by_contra hwhole
      rw [hneeded.mpr hwhole] at hrepair
      cases hrepair
    exact ⟨⟨_, true, _, _⟩, rfl, by simpa using hsplit, fun _ => rfl⟩

/-- **The condition about a split holds exactly if there is one.** -/
theorem exists_splitCondition (s : Situation) : ∃ c,
    findCondition? s.nextStatus.conditions .splitBrainDetected = some c ∧
      (c.status = "True" ↔ s.health = .split) := by
  obtain ⟨f, hkind, hholds, htells⟩ := s.exists_splitFinding
  obtain ⟨others, hkinds, hannounce⟩ := exists_findings_of_split hkind htells
  have hshown : f.Shown s.cluster.metadata.generation s.conditions := by
    rw [conditions_eq, hannounce]
    -- The conditions set after it are of other kinds, so it is still the first of its own.
    refine ConditionUpdate.shown_tell (hkinds ▸ nodup_kinds) ?_
    exact List.mem_append_right _ List.mem_cons_self
  obtain ⟨time, hfound⟩ := hshown
  rw [hkind] at hfound
  refine ⟨_, hfound, ?_⟩
  rw [← hholds]
  show (if f.holds then "True" else "False") = "True" ↔ f.holds = true
  cases f.holds with
  | true => simp
  | false => simp

end Situation

/-! ## Warnings -/

/-- The reason by which a warning of a split is known. -/
def splitReason : String := "SplitBrainDetected"

/-- The event by which an effect tells of a split. -/
def Effect.splitWarning? : Effect → Option Event
  | publish event => if event.reason = splitReason then some event else none
  | _ => none

/-- The events by which a trace tells of a split. -/
def splitWarnings (trace : Trace) : List Event :=
  (publishedEvents trace).filter (·.reason = splitReason)

theorem Effect.splitWarning?_publish {event : Event} (h : event.reason = splitReason) :
    (publish event).splitWarning? = some event := if_pos h

section
variable {s t trace : Trace} {cluster : Cluster} {ref : ClusterRef} {effects : List Effect}

theorem splitWarnings_append : splitWarnings (s ++ t) = splitWarnings s ++ splitWarnings t := by
  unfold splitWarnings publishedEvents
  rw [List.filterMap_append, List.filter_append]

theorem splitWarnings_eq_nil (h : ∀ turn ∈ trace, turn.question.published? = none) :
    splitWarnings trace = [] := by
  have hnone : publishedEvents trace = [] := List.filterMap_eq_nil_iff.mpr h
  unfold splitWarnings
  rw [hnone, List.filter_nil]

theorem published?_of_isReading : ∀ c : Call, c.IsReading → c.published? = none := by
  intro c h
  cases c <;> first | rfl | exact h.elim

theorem published?_of_mayAsk (ref : ClusterRef) :
    ∀ c : Call, WriteTarget.status.MayAsk ref c → c.published? = none := by
  intro c h
  cases c <;> first | rfl | exact h.elim

theorem splitWarnings_performAll (h : (performAll cluster ref effects).Runs trace (.ok ())) :
    splitWarnings trace = effects.filterMap (·.splitWarning?) := by
  have hcalls := (calls_performAll h).2 rfl
  have hpublished : publishedEvents trace =
      (trace.map (·.question)).filterMap Call.published? := by
    rw [List.filterMap_map]
    rfl
  unfold splitWarnings
  rw [hpublished, hcalls, List.filterMap_map, List.filter_filterMap]
  refine List.filterMap_congr ?_
  intro effect _
  cases effect with
  | publish event => simp [Effect.call, Call.published?, Effect.splitWarning?, Option.filter]
  | measure | apply | restart => rfl

end

/-! ## Effects that tell of something else -/

theorem applyMove_reason_ne (o : UpgradeObservation) (plan : List PlannedServer) (m : UpgradeMove)
    (record : UpgradeRecord) : (applyMove o plan m record).2.reason ≠ splitReason := by
  unfold applyMove
  cases m.event with
  | stepTimedOut | healthGateFailed =>
    dsimp only [Event.warn]
    split
    · simp [splitReason]
    · simp [splitReason]
  | preChecksPassed | allServersUpgraded | resumed | aborted =>
    simp [Event.normal, Event.warn, splitReason]

theorem UpgradeRecord.reason_ne_of_mem_step {record : UpgradeRecord} {o : UpgradeObservation} :
    ∀ event ∈ (record.step o).events, event.reason ≠ splitReason := by
  unfold step
  dsimp only
  -- Which move is made does not matter: no move is told of as a split.
  generalize ((record.observed o).phase.event? _).bind _ = move
  refine List.forall_mem_append.mpr ⟨?_, ?_⟩
  · cases move with
    | some m =>
      refine List.forall_mem_singleton.mpr ?_
      exact applyMove_reason_ne o _ m _
    | none =>
      by_cases hpending : (record.observed o).phase = .pending
      · simp only [if_pos hpending]
        split
        · simp
        · simp [Event.warn, splitReason]
      · simp only [if_neg hpending]
        exact List.forall_mem_nil _
  · simp [Event.normal, splitReason]

theorem UpgradeRecord.reason_ne_of_mem_events {record : UpgradeRecord} {o : UpgradeObservation} :
    ∀ event ∈ (record.advance o).events, event.reason ≠ splitReason := by
  unfold advance
  split
  · simp
  · exact reason_ne_of_mem_step

namespace Situation

variable {s : Situation}

theorem splitWarning?_driftEffects : s.driftEffects.filterMap (·.splitWarning?) = [] := by
  unfold driftEffects
  split <;> simp [Effect.splitWarning?, Event.normal, splitReason]

theorem splitWarning?_requestEffects : s.requestEffects.filterMap (·.splitWarning?) = [] := by
  unfold requestEffects
  split <;> simp [Effect.splitWarning?, Event.normal, splitReason]

theorem splitWarning?_applyEffects : s.applyEffects.filterMap (·.splitWarning?) = [] := by
  unfold applyEffects
  split <;> simp [Effect.splitWarning?]

theorem splitWarning?_restarts (cause : RestartCause) (pods : List String) :
    (pods.map (Effect.restart cause)).filterMap (·.splitWarning?) = [] := by
  rw [List.filterMap_map]
  exact List.filterMap_eq_nil_iff.mpr fun _ _ => rfl

theorem splitWarning?_upgradeEffects : s.upgradeEffects.filterMap (·.splitWarning?) = [] := by
  unfold upgradeEffects
  rw [step?_eq]
  cases s.openRecord? with
  | none => rfl
  | some record =>
    show List.filterMap _ (_ ++ _) = []
    rw [List.filterMap_append, splitWarning?_restarts, List.nil_append, List.filterMap_map]
    refine List.filterMap_eq_nil_iff.mpr ?_
    intro event hevent
    exact if_neg (UpgradeRecord.reason_ne_of_mem_events event hevent)

theorem splitWarning?_rolloutEffects : s.rolloutEffects.filterMap (·.splitWarning?) = [] := by
  unfold rolloutEffects
  split <;> simp [Effect.splitWarning?, Event.normal, splitReason]

theorem splitWarning?_phaseEffects : s.phaseEffects.filterMap (·.splitWarning?) = [] := by
  unfold phaseEffects
  split
  · split <;> simp [Effect.splitWarning?, Event.normal, Event.warn, splitReason]
  · rfl

theorem splitWarning?_gaugeEffects : s.gaugeEffects.filterMap (·.splitWarning?) = [] := rfl

/-- What is told of a split is told with its repair. -/
theorem splitWarning?_effects : s.effects.filterMap (·.splitWarning?) =
    s.repairEffects.filterMap (·.splitWarning?) := by
  unfold effects
  simp only [List.filterMap_append, splitWarning?_driftEffects, splitWarning?_requestEffects,
    splitWarning?_applyEffects, splitWarning?_upgradeEffects, splitWarning?_rolloutEffects,
    splitWarning?_phaseEffects, splitWarning?_gaugeEffects, List.nil_append, List.append_nil]

/-! ## The warning of a split -/

theorem newlySplit_iff : s.newlySplit = true ↔
    s.health = .split ∧ s.status.membership.health ≠ .split := by
  simp [newlySplit]

theorem newlySplit_of_whole (hwhole : s.health ≠ .split) : s.newlySplit = false := by
  rw [← Bool.not_eq_true, newlySplit_iff]
  intro hnew
  exact hwhole hnew.1

/-- Whether a split is warned of: it is new, or it is repaired. -/
def warnsOfSplit (s : Situation) : Bool :=
  s.newlySplit || match s.repair with
    | .restart _ => true
    | _ => false

theorem splitWarning?_splitWarning (s : Situation) (rest : String) : ∃ note,
    (s.splitWarning rest).splitWarning? = some (.warn splitReason "Detect" note) := by
  unfold splitWarning
  exact ⟨_, Effect.splitWarning?_publish rfl⟩

/-- A split that has to wait for its repair is warned of while it is new. -/
theorem splitWarning?_whenNew (s : Situation) (rest : String) : ∃ note,
    (if s.newlySplit then [s.splitWarning rest] else []).filterMap (·.splitWarning?) =
      if s.newlySplit then [.warn splitReason "Detect" note] else [] := by
  obtain ⟨note, hwarning⟩ := s.splitWarning?_splitWarning rest
  refine ⟨note, ?_⟩
  split
  · exact List.filterMap_cons_some hwarning
  · rfl

/-- **A pass warns of a split once, or not at all.** -/
theorem exists_splitWarning (s : Situation) : ∃ note,
    s.effects.filterMap (·.splitWarning?) =
      if s.warnsOfSplit then [.warn splitReason "Detect" note] else [] := by
  have hmeasure : (if s.newlySplit then [Effect.measure .splitBrain] else []).filterMap
      (·.splitWarning?) = [] := by
    split <;> rfl
  rw [splitWarning?_effects]
  unfold repairEffects warnsOfSplit
  rw [List.filterMap_append, hmeasure, List.nil_append]
  -- A repair is warned of at any time, one that has to wait only while the split is new.
  cases hrepair : s.repair with
  | restart pods =>
    obtain ⟨note, hwarning⟩ := s.splitWarning?_splitWarning ""
    refine ⟨note, ?_⟩
    simp only [List.cons_append, List.filterMap_cons_some hwarning, List.filterMap_append,
      splitWarning?_restarts, Bool.or_true, if_true]
    simp [Effect.splitWarning?, Event.normal, splitReason]
  | upgradeActive | coolingDown =>
    simp only [Bool.or_false]
    exact s.splitWarning?_whenNew _
  | notNeeded =>
    refine ⟨"", ?_⟩
    rw [newlySplit_of_whole (repair_eq_notNeeded_iff.mp hrepair)]
    rfl

theorem warnsOfSplit_of_new (hsplit : s.health = .split)
    (hnew : s.status.membership.health ≠ .split) : s.warnsOfSplit = true := by
  unfold warnsOfSplit
  rw [newlySplit_iff.mpr ⟨hsplit, hnew⟩, Bool.true_or]

theorem warnsOfSplit_of_whole (hwhole : s.health ≠ .split) : s.warnsOfSplit = false := by
  unfold warnsOfSplit
  rw [newlySplit_of_whole hwhole, repair_eq_notNeeded_iff.mpr hwhole]
  rfl

end Situation

/-! ## The pass -/

/-- That a trace tells of a split what there is to tell: by a condition that is stored, unless the
cluster is gone, and by a warning when the split is new. The condition says both ways what is the
case, so one that lingers after a split counts against it; warnings may repeat when a repair is
made, but never within one pass. -/
structure TellsSplit (ref : ClusterRef) (s : Situation) (stored : Option ClusterStatus)
    (trace : Trace) : Prop where
  condition : ⟨.getCluster ref, .ok none⟩ ∈ trace ∨
    ∃ status c, storedAfter stored trace = some status ∧
      findCondition? status.conditions .splitBrainDetected = some c ∧
      (c.status = "True" ↔ s.health = .split)
  warned : s.health = .split → s.status.membership.health ≠ .split →
    ∃ note, splitWarnings trace = [.warn splitReason "Detect" note]
  once : (splitWarnings trace).length ≤ 1
  silent : s.health ≠ .split → splitWarnings trace = []

section
variable {settings : Settings} {cluster : Cluster} {ref : ClusterRef} {topology : Topology}
  {now : Instant} {stored : Option ClusterStatus} {trace : Trace} {result : Except Failure Nat}

/-- The events about a split in a pass that goes as far as its status are those of its effects. -/
theorem splitWarnings_through {seen done written : Trace} {s : Situation} {policy : RetryPolicy}
    {left : Nat} {r : Except Failure (Option Cluster)}
    (hseen : (observe settings cluster ref topology now).Runs seen (.ok s))
    (hdone : (performAll cluster ref s.effects).Runs done (.ok ()))
    (hwritten : Attempts ref .status policy (setStatus s.nextStatus) left 1 written r) :
    ∃ note, splitWarnings (seen ++ (done ++ written)) =
      if s.warnsOfSplit then [.warn splitReason "Detect" note] else [] := by
  have hquiet : splitWarnings seen = [] := splitWarnings_eq_nil fun turn hturn =>
    published?_of_isReading _ (isReading_observe _ _ hseen turn hturn)
  have hlast : splitWarnings written = [] := splitWarnings_eq_nil fun turn hturn =>
    published?_of_mayAsk ref _ (hwritten.mayAsk turn hturn)
  obtain ⟨note, hwarned⟩ := s.exists_splitWarning
  refine ⟨note, ?_⟩
  rw [splitWarnings_append, splitWarnings_append, hquiet, hlast, splitWarnings_performAll hdone,
    List.nil_append, List.append_nil, hwarned]

theorem tellsSplit_through {seen done written : Trace} {s : Situation} {policy : RetryPolicy}
    {left : Nat} {c : Option Cluster}
    (hseen : (observe settings cluster ref topology now).Runs seen (.ok s))
    (hdone : (performAll cluster ref s.effects).Runs done (.ok ()))
    (hwritten : Attempts ref .status policy (setStatus s.nextStatus) left 1 written (.ok c))
    (hreads : ReadsStored stored (seen ++ (done ++ written))) :
    TellsSplit ref s stored (seen ++ (done ++ written)) := by
  -- Neither the observation nor the effects write the status, so the pass reads at its end what was
  -- stored at its start.
  have hseenkept : ∀ stored, storedAfter stored seen = stored := fun stored =>
    storedAfter_of_keepsStatus fun turn hturn =>
      (skipsStatus_of_isReading _ (isReading_observe _ _ hseen turn hturn)).keepsStatus
  have hdonekept : ∀ stored, storedAfter stored done = stored := fun stored =>
    storedAfter_of_keepsStatus (keepsStatus_of_runs_performAll hdone)
  simp only [readsStored_append, hseenkept, hdonekept] at hreads
  obtain ⟨note, hwarned⟩ := splitWarnings_through hseen hdone hwritten
  constructor
  case condition =>
    simp only [storedAfter_append, hseenkept, hdonekept]
    rcases outcome_of_attempts hwritten hreads.2.2 with ⟨hstored, -⟩ | ⟨-, ⟨f, hfailed⟩ | hgone⟩
    · obtain ⟨c, hfound, htells⟩ := s.exists_splitCondition
      exact .inr ⟨s.nextStatus, c, hstored, hfound, htells⟩
    · cases hfailed
    · exact .inl (List.mem_append_right _ (List.mem_append_right _ hgone))
  case warned =>
    intro hsplit hnew
    rw [hwarned, s.warnsOfSplit_of_new hsplit hnew]
    exact ⟨note, rfl⟩
  case once =>
    rw [hwarned]
    split
    · exact le_refl 1
    · exact Nat.zero_le 1
  case silent =>
    intro hwhole
    rw [hwarned, s.warnsOfSplit_of_whole hwhole]
    rfl

/-- **A split is never silent**: a pass in which nothing fails stores what it found out about a
split and warns of a new one once, whatever is done about it. -/
theorem tellsSplit_of_calm
    (hrun : (workingPass settings cluster ref topology now).Runs trace result)
    (hcalm : Calm trace) (hreads : ReadsStored stored trace) :
    ∃ seen s, seen <+: trace ∧ (observe settings cluster ref topology now).Runs seen (.ok s) ∧
      Observed settings cluster ref topology now trace s ∧ result = .ok s.requeue ∧
      TellsSplit ref s stored trace := by
  cases runs_workingPass.mp hrun with
  -- A pass that ends before its status has failed, and a failure is in the trace.
  | blind hseen =>
    obtain ⟨_, hok⟩ := observe_endsOnFailure.ok_of_calm hseen hcalm
    cases hok
  | stopped hseen hdone =>
    obtain ⟨_, hok⟩ := performAll_endsOnFailure.ok_of_calm hdone (calm_append.mp hcalm).2
    cases hok
  | @through seen done written s stored hseen hdone hwritten =>
    simp only [calm_append] at hcalm
    obtain ⟨left, hleft⟩ := tries_eq settings.retryPolicy
    rw [hleft] at hwritten
    obtain ⟨c, rfl⟩ := hwritten.ok_of_calm hcalm.2.2
    exact ⟨seen, s, List.prefix_append _ _, hseen, (observed_observe hseen).append _, rfl,
      tellsSplit_through hseen hdone hwritten hreads⟩

end

/-- In an attainable situation a pass may go through without a failure. -/
theorem exists_calm_workingPass {ref : ClusterRef} {s : Situation} (hs : s.Attainable ref) :
    ∃ (seen rest : Trace) (result : Except Failure Nat),
      (observe s.settings s.cluster ref s.topology s.now).Runs seen (.ok s) ∧
      (workingPass s.settings s.cluster ref s.topology s.now).Runs (seen ++ rest) result ∧
      Calm (seen ++ rest) ∧ ReadsStored s.cluster.status (seen ++ rest) := by
  obtain ⟨pass, seen, done, written, counted, hpass, hparts, hcalm, -⟩ := exists_pass_storing hs
  have hsettings : pass.operator.settings = s.settings :=
    (congrArg Situation.settings (observed_observe hparts.seen).given).symm
  have hseen := hparts.seen
  rw [hsettings] at hseen
  obtain ⟨r, hwritten⟩ := hparts.written
  refine ⟨seen, done ++ written, _, hseen,
    runs_workingPass.mpr (.through hseen hparts.done hwritten), ?_, ?_⟩
  · rw [calm_append, calm_append]
    exact ⟨observe_endsOnFailure.calm hseen, performAll_endsOnFailure.calm hparts.done, hcalm⟩
  · have hreads := hpass.reads
    rw [hparts.trace_eq, readsStored_append] at hreads
    have hwork : ReadsStored s.cluster.status (seen ++ (done ++ (written ++ counted))) := hreads.2
    rw [← List.append_assoc done, ← List.append_assoc seen, readsStored_append] at hwork
    exact hwork.1

/-- The two servers that see only themselves are told of when they part. -/
theorem tellsSplit_firstParting : ∃ (trace : Trace) (result : Except Failure Nat),
    (workingPass {} (pair none) ⟨"data", "db"⟩ firstParting.topology .epoch).Runs trace result ∧
      Calm trace ∧ ReadsStored none trace ∧ firstParting.health = .split ∧
      (∃ note, splitWarnings trace = [.warn splitReason "Detect" note]) ∧
      TellsSplit ⟨"data", "db"⟩ firstParting none trace := by
  have hattainable : firstParting.Attainable ⟨"data", "db"⟩ :=
    attainable_partedPair none .epoch (.inl rfl)
  obtain ⟨seen, rest, result, hseen, hrun, hcalm, hreads⟩ := exists_calm_workingPass hattainable
  obtain ⟨seen', s, ⟨rest', heq⟩, hseen', -, -, htells⟩ := tellsSplit_of_calm hrun hcalm hreads
  -- The answers determine what is found.
  obtain ⟨-, hsame⟩ := Program.Runs.unique hseen hseen' heq.symm
  cases hsame
  have hsplit : firstParting.health = .split := split_partedPair none .epoch
  have hnew : firstParting.status.membership.health ≠ .split := by
    intro h
    cases h
  exact ⟨seen ++ rest, result, hrun, hcalm, hreads, hsplit, htells.warned hsplit hnew, htells⟩

end ClusterOperator
