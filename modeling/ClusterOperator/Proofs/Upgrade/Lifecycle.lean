import Mathlib.Data.Nat.Init
import ClusterOperator.Proofs.Pass.History

/-!
# The life of an upgrade record

A record is shaped three times in a pass: the declared tag decides whether it stays, goes or is
followed by another, an event is chosen by what was observed, and a table says where the event
leads. Over a history that comes to a law with four clauses:

> **`lawful_of_fresh`** — an upgrade that holds the pods keeps its versions; one that is over stays
> as it is until a pass starts the next; a record moves along the table and no other way; and the
> version of the cluster changes when an upgrade completes, to its target, and at no other time.

The law is about the records that are stored, so a pass that fails counts for nothing, and one that
starts an upgrade and moves it at once leaves a record that was never stored as pending. Hence
`Continues`: it relates a record to what one step makes of it, and a new record continues the one
that `starting` gives.
-/

set_option autoImplicit false

namespace ClusterOperator

/-! ## Moves -/

namespace UpgradePhase

variable {phase : UpgradePhase} {event : UpgradeEvent} {c : UpgradeContext} {m : UpgradeMove}

theorem holdsPods_of_isTerminal (h : phase.isTerminal) : phase.holdsPods = false := by
  cases phase with
  | completed | failed => rfl
  | pending | inProgress | paused => cases h

theorem open_of_holdsPods (h : phase.holdsPods) : phase.isTerminal = false := by
  cases phase with
  | inProgress | paused => rfl
  | pending | completed | failed => cases h

theorem holdsPods_of_open (hopen : phase.isTerminal = false) (h : phase ≠ .pending) :
    phase.holdsPods := by
  cases phase with
  | inProgress | paused => rfl
  | pending => exact absurd rfl h
  | completed | failed => cases hopen

theorem move?_eq_some (h : phase.move? event c = some m) :
    m ∈ upgradeMoves ∧ m.source = phase ∧ m.event = event := by
  obtain ⟨hmem, hfrom⟩ := List.mem_filter.mp (List.mem_of_find?_eq_some h)
  exact ⟨hmem, by simpa using hfrom⟩

theorem isSome_move?_aborted (hphase : phase.isTerminal = false) :
    (phase.move? .aborted c).isSome := by
  cases phase with
  | completed | failed => cases hphase
  | pending | inProgress | paused => rfl

/-- Of the two moves that a fault may make, the switch to pause allows one. -/
theorem isSome_move?_fault (h : event = .stepTimedOut ∨ event = .healthGateFailed) :
    (inProgress.move? event c).isSome := by
  rcases h with rfl | rfl
  · cases hpause : c.autoPause <;> simp [move?, upgradeMoves, UpgradeMove.allowed, hpause]
  · cases hpause : c.autoPause <;> simp [move?, upgradeMoves, UpgradeMove.allowed, hpause]

/-- **An event that is observed is accepted.** -/
theorem isSome_move? (h : phase.event? c = some event) : (phase.move? event c).isSome := by
  unfold event? at h
  split at h
  · cases h
  rename_i hterminal
  split at h
  · cases h
    exact isSome_move?_aborted (by simpa using hterminal)
  -- The events of each phase are looked for in the order in which they are observed; the table is
  -- asked about the one that is found.
  cases phase with
  | completed | failed => cases h
  | pending =>
    dsimp only at h
    split at h
    · rename_i hpre
      cases h
      simp [move?, upgradeMoves, UpgradeMove.allowed, hpre]
    · cases h
  | inProgress =>
    dsimp only at h
    split at h
    · cases h
      exact isSome_move?_fault (.inl rfl)
    split at h
    · cases h
      exact isSome_move?_fault (.inr rfl)
    split at h
    · rename_i hall
      cases h
      simp [move?, upgradeMoves, UpgradeMove.allowed, hall]
    · cases h
  | paused =>
    dsimp only at h
    split at h
    · cases h
      rfl
    · cases h

end UpgradePhase

/-! ## One step -/

@[simp] theorem targetVersion_applyMove (o : UpgradeObservation) (plan : List PlannedServer)
    (m : UpgradeMove) (record : UpgradeRecord) :
    (applyMove o plan m record).1.targetVersion = record.targetVersion := by
  unfold applyMove
  split <;> rfl

@[simp] theorem previousVersion_applyMove (o : UpgradeObservation) (plan : List PlannedServer)
    (m : UpgradeMove) (record : UpgradeRecord) :
    (applyMove o plan m record).1.previousVersion = record.previousVersion := by
  unfold applyMove
  split <;> rfl

/-- That one record is what a step makes of another. Everything else about a record may change in a
step; these are what it is known by from one pass to the next, and they compose no further, since
two moves in a row need not be one of the table. -/
structure UpgradeRecord.Continues (record next : UpgradeRecord) : Prop where
  targetVersion : next.targetVersion = record.targetVersion
  previousVersion : next.previousVersion = record.previousVersion
  phase : next.phase = record.phase ∨
    ∃ m ∈ upgradeMoves, m.source = record.phase ∧ m.target = next.phase
  ended : record.phase.isTerminal → next = record

namespace UpgradeRecord

variable {record : UpgradeRecord} {o : UpgradeObservation} {m : UpgradeMove}

theorem Continues.refl (record : UpgradeRecord) : record.Continues record :=
  ⟨rfl, rfl, .inl rfl, fun _ => rfl⟩

theorem versions_step : (record.step o).record.targetVersion = record.targetVersion ∧
    (record.step o).record.previousVersion = record.previousVersion := by
  unfold step
  simp only
  generalize ((record.observed o).phase.event? _).bind _ = move
  cases move with
  | some m => simp [observed]
  | none =>
    by_cases hpending : (record.observed o).phase = .pending
    · simp only [if_pos hpending]
      exact ⟨rfl, rfl⟩
    · simp only [if_neg hpending]
      exact ⟨rfl, rfl⟩

theorem move_step (h : (record.step o).move = some m) :
    m ∈ upgradeMoves ∧ m.source = record.phase := by
  obtain ⟨event, -, hmove⟩ := Option.bind_eq_some_iff.mp h
  obtain ⟨hmem, hsource, -⟩ := UpgradePhase.move?_eq_some hmove
  exact ⟨hmem, hsource⟩

theorem continues_advance (record : UpgradeRecord) (o : UpgradeObservation) :
    record.Continues (record.advance o).record := by
  unfold advance
  by_cases hover : record.phase.isTerminal
  · rw [if_pos hover]
    exact .refl record
  · rw [if_neg hover]
    refine ⟨versions_step.1, versions_step.2, ?_, fun h => absurd h hover⟩
    rw [phase_step]
    cases hmove : (record.step o).move with
    | none => exact .inl rfl
    | some m =>
      obtain ⟨hmem, hsource⟩ := move_step hmove
      exact .inr ⟨m, hmem, hsource, rfl⟩

theorem completes_advance (h : (record.advance o).completes) :
    record.phase = .inProgress ∧ (record.advance o).record.phase = .completed := by
  unfold advance at h ⊢
  by_cases hover : record.phase.isTerminal
  · rw [if_pos hover] at h
    cases h
  · rw [if_neg hover] at h ⊢
    unfold UpgradeStep.completes at h
    rw [phase_step]
    cases hmove : (record.step o).move with
    | none =>
      rw [hmove] at h
      cases h
    | some m =>
      rw [hmove] at h
      have htarget : m.target = .completed := by simpa using h
      obtain ⟨hmem, hsource⟩ := move_step hmove
      have honly : ∀ m ∈ upgradeMoves, m.target = .completed → m.source = .inProgress := by decide
      exact ⟨hsource.symm.trans (honly m hmem htarget), htarget⟩

/-- An upgrade that is not complete before a step and is after it completes in it. -/
theorem completes_of_phase_advance (hbefore : record.phase ≠ .completed)
    (hafter : (record.advance o).record.phase = .completed) : (record.advance o).completes := by
  unfold advance at hafter ⊢
  by_cases hover : record.phase.isTerminal
  · rw [if_pos hover] at hafter
    exact absurd hafter hbefore
  · rw [if_neg hover] at hafter ⊢
    rw [phase_step] at hafter
    unfold UpgradeStep.completes
    cases hmove : (record.step o).move with
    | none =>
      rw [hmove] at hafter
      exact absurd hafter hbefore
    | some m =>
      rw [hmove] at hafter
      simpa using hafter

/-- An upgrade that waits for nothing is begun. -/
theorem phase_advance_of_pending (hpending : record.phase = .pending)
    (habort : isNewToken o.tokens.abort record.handledAbortToken = false)
    (hsettled : o.configSettled = true) (hgate : o.strategy.preUpgradeHealthCheck = false) :
    (record.advance o).record.phase = .inProgress := by
  have hpassed : ((record.observed o).context o (record.serverStates o)).preGatePassed = true := by
    show (o.configSettled && (!o.strategy.preUpgradeHealthCheck || _)) = true
    rw [hsettled, hgate]
    rfl
  have hmove : (record.step o).move = some
      ⟨.pending, .inProgress, .preChecksPassed,
        "Pre-upgrade gate passed, begin restarting servers"⟩ := by
    show ((record.observed o).phase.event? _).bind _ = _
    have hphase : (record.observed o).phase = .pending := hpending
    have hnone : ((record.observed o).context o (record.serverStates o)).abortRequested = false :=
      habort
    rw [hphase]
    unfold UpgradePhase.event?
    simp [hnone, hpassed, UpgradePhase.isTerminal, UpgradePhase.move?, upgradeMoves,
      UpgradeMove.allowed]
  unfold advance
  rw [hpending, if_neg (by decide), phase_step, hmove]
  rfl

/-- An upgrade that is not over is given up when that is asked for. -/
theorem phase_advance_of_aborted (hopen : record.phase.isTerminal = false)
    (habort : isNewToken o.tokens.abort record.handledAbortToken = true) :
    (record.advance o).record.phase = .failed := by
  have hevent : (record.observed o).phase.event?
      ((record.observed o).context o (record.serverStates o)) = some .aborted := by
    have hphase : (record.observed o).phase = record.phase := rfl
    have hasked : ((record.observed o).context o (record.serverStates o)).abortRequested = true :=
      habort
    unfold UpgradePhase.event?
    rw [hphase, hopen, hasked]
    rfl
  have hmove : (record.step o).move = record.phase.move? .aborted
      ((record.observed o).context o (record.serverStates o)) := by
    show ((record.observed o).phase.event? _).bind _ = _
    rw [hevent]
    rfl
  unfold advance
  rw [hopen, if_neg (by decide), phase_step, hmove]
  cases hphase : record.phase with
  | pending | inProgress | paused => rfl
  | completed | failed => rw [hphase] at hopen; cases hopen

theorem handledAbortToken_advance (record : UpgradeRecord) (o : UpgradeObservation) :
    (record.advance o).record.handledAbortToken = record.handledAbortToken ∨
      (record.advance o).record.handledAbortToken = o.tokens.abort := by
  unfold advance
  by_cases hover : record.phase.isTerminal
  · rw [if_pos hover]
    exact .inl rfl
  · rw [if_neg hover]
    unfold step
    simp only
    -- Only the event of the move matters, not how it was come by.
    generalize ((record.observed o).phase.event? _).bind _ = move
    cases move with
    | some m =>
      cases hevent : m.event with
      | aborted => exact .inr (by simp [applyMove, hevent])
      | _ => exact .inl (by simp [applyMove, hevent, observed])
    | none =>
      by_cases hpending : (record.observed o).phase = .pending
      · simp only [if_pos hpending]
        exact .inl rfl
      · simp only [if_neg hpending]
        exact .inl rfl

end UpgradeRecord

/-! ## One pass -/

namespace Situation

variable {s : Situation} {record next : UpgradeRecord}

/-- What a situation makes of the record that is stored. A new record is not stored as it starts but
after its first step, so the last case speaks of the record that was made as well as of the one that
is left. -/
inductive Evolves (s : Situation) : Option UpgradeRecord → Option UpgradeRecord → Prop
  | idle : Evolves s none none
  | dropped (record : UpgradeRecord) (hphase : record.phase = .pending) :
    Evolves s (some record) none
  | continued (record next : UpgradeRecord) (hopen : s.openRecord? = some record)
    (h : record.Continues next) : Evolves s (some record) (some next)
  | started (current : Option UpgradeRecord) (version : String) (next : UpgradeRecord)
    (hopen : s.openRecord? = some (.starting version s.spec.image.tag s.tokens))
    (hversion : s.status.version = some version) (hdeclared : s.spec.image.tag ≠ version)
    (hcurrent : ∀ record, current = some record →
      s.spec.image.tag ≠ record.targetVersion ∧ record.phase.holdsPods = false)
    (h : (UpgradeRecord.starting version s.spec.image.tag s.tokens).Continues next) :
    Evolves s current (some next)

theorem upgrade?_eq : s.upgrade? = s.openRecord?.map fun record =>
    (record.advance s.observation).record := by
  unfold upgrade?
  rw [step?_eq, Option.map_map]
  rfl

theorem evolves_of_openRecord? {current : Option UpgradeRecord} (h : s.openRecord? = current)
    (hcurrent : s.status.upgrade = current) : s.Evolves current s.upgrade? := by
  rw [upgrade?_eq, h]
  cases current with
  | none => exact .idle
  | some record => exact .continued _ _ h (record.continues_advance _)

theorem evolves_of_start {current : Option UpgradeRecord} {version : String}
    (h : s.openRecord? = some (.starting version s.spec.image.tag s.tokens))
    (hversion : s.status.version = some version) (hdeclared : s.spec.image.tag ≠ version)
    (hcurrent : ∀ record, current = some record →
      s.spec.image.tag ≠ record.targetVersion ∧ record.phase.holdsPods = false) :
    s.Evolves current s.upgrade? := by
  rw [upgrade?_eq, h]
  exact .started _ version _ h hversion hdeclared hcurrent (UpgradeRecord.continues_advance _ _)

/-- **What a pass makes of the record** is one of four things. -/
theorem evolves_upgrade? : s.Evolves s.status.upgrade s.upgrade? := by
  have hopen := openRecord?.eq_def s
  unfold request resolveRequest at hopen
  -- Along the text of the request, which looks at the version first and then at the record.
  cases hversion : s.status.version with
  | none =>
    cases hcurrent : s.status.upgrade with
    | none =>
      rw [hversion, hcurrent] at hopen
      exact evolves_of_openRecord? hopen hcurrent
    | some record =>
      rw [hversion, hcurrent] at hopen
      exact evolves_of_openRecord? hopen hcurrent
  | some version =>
    cases hcurrent : s.status.upgrade with
    | none =>
      rw [hversion, hcurrent] at hopen
      by_cases hsame : version = s.spec.image.tag
      · simp only [if_pos hsame] at hopen
        exact evolves_of_openRecord? hopen hcurrent
      · simp only [if_neg hsame] at hopen
        refine evolves_of_start hopen hversion (Ne.symm hsame) fun record hrecord => ?_
        cases hrecord
    | some record =>
      rw [hversion, hcurrent] at hopen
      by_cases htarget : record.targetVersion = s.spec.image.tag
      · simp only [if_pos htarget] at hopen
        exact evolves_of_openRecord? hopen hcurrent
      by_cases hholds : record.phase.holdsPods
      · simp only [if_neg htarget, if_pos hholds] at hopen
        exact evolves_of_openRecord? hopen hcurrent
      by_cases hsame : version = s.spec.image.tag
      · by_cases hpending : record.phase = .pending
        · simp only [if_neg htarget, if_neg hholds, if_pos hsame, if_pos hpending] at hopen
          rw [upgrade?_eq, hopen]
          exact .dropped record hpending
        · simp only [if_neg htarget, if_neg hholds, if_pos hsame, if_neg hpending] at hopen
          exact evolves_of_openRecord? hopen hcurrent
      · simp only [if_neg htarget, if_neg hholds, if_neg hsame] at hopen
        refine evolves_of_start hopen hversion (Ne.symm hsame) fun other hother => ?_
        cases hother
        exact ⟨Ne.symm htarget, by simpa using hholds⟩

theorem openRecord?_of_declared (hcurrent : s.status.upgrade = some record)
    (htarget : record.targetVersion = s.spec.image.tag) : s.openRecord? = some record := by
  unfold openRecord? request resolveRequest
  rw [hcurrent]
  cases s.status.version with
  | none => rfl
  | some version => simp only [if_pos htarget]

/-- When an upgrade is over, another declared tag starts the next. -/
theorem openRecord?_of_ended {version : String} (hcurrent : s.status.upgrade = some record)
    (hversion : s.status.version = some version) (hended : record.phase.isTerminal)
    (htarget : s.spec.image.tag ≠ record.targetVersion) (hdeclared : s.spec.image.tag ≠ version) :
    s.openRecord? = some (.starting version s.spec.image.tag s.tokens) := by
  have hholds : ¬ record.phase.holdsPods = true := by
    rw [UpgradePhase.holdsPods_of_isTerminal hended]
    exact Bool.false_ne_true
  unfold openRecord? request resolveRequest
  simp only [hversion, hcurrent, if_neg htarget.symm, if_neg hholds, if_neg hdeclared.symm]

/-- The version of a running cluster changes only when an upgrade completes. -/
theorem version_of_running {version : String} (hversion : s.status.version = some version) :
    s.version = version ∨ ∃ record next, s.status.upgrade = some record ∧
      record.phase = .inProgress ∧ s.upgrade? = some next ∧ record.Continues next ∧
      next.phase = .completed ∧ s.version = next.targetVersion := by
  have hkept : s.status.version.getD s.spec.image.tag = version := by rw [hversion]; rfl
  cases hopen : s.openRecord? with
  | none =>
    left
    unfold Situation.version
    rw [step?_eq, hopen]
    exact hkept
  | some record =>
    have hstep : s.step? = some (record.advance s.observation) := by rw [step?_eq, hopen]; rfl
    by_cases hcompletes : (record.advance s.observation).completes
    · right
      obtain ⟨hbefore, hafter⟩ := UpgradeRecord.completes_advance hcompletes
      have hnext : s.upgrade? = some (record.advance s.observation).record := by
        rw [upgrade?_eq, hopen]
        rfl
      have hversion : s.version = (record.advance s.observation).record.targetVersion := by
        unfold Situation.version
        rw [hstep]
        exact if_pos hcompletes
      have hevolves := s.evolves_upgrade?
      rw [hnext] at hevolves
      generalize hcurrent : s.status.upgrade = current at hevolves
      cases hevolves with
      | continued stored _ hopen' hcontinues =>
        cases hopen.symm.trans hopen'
        exact ⟨record, _, rfl, hbefore, hnext, hcontinues, hafter, hversion⟩
      | started _ _ _ hopen' =>
        -- An upgrade that starts in this pass is pending, so it cannot complete.
        cases hopen.symm.trans hopen'
        cases hbefore
    · left
      unfold Situation.version
      rw [hstep]
      simp only [hcompletes]
      exact hkept

theorem version_of_completed (hnext : s.upgrade? = some next) (hafter : next.phase = .completed) :
    s.status.upgrade = some next ∨ s.version = next.targetVersion := by
  have hevolves := s.evolves_upgrade?
  rw [hnext] at hevolves
  rw [upgrade?_eq] at hnext
  obtain ⟨record, hopen, rfl⟩ := Option.map_eq_some_iff.mp hnext
  by_cases hbefore : record.phase = .completed
  · left
    have hended : record.phase.isTerminal := by rw [hbefore]; rfl
    have hsame := (record.continues_advance s.observation).ended hended
    generalize s.status.upgrade = current at hevolves
    cases hevolves with
    | continued stored _ hopen' =>
      cases hopen.symm.trans hopen'
      exact congrArg some hsame.symm
    | started _ _ _ hopen' =>
      -- A new upgrade is pending, so it is not the one that was open and complete.
      cases hopen.symm.trans hopen'
      cases hbefore
  · right
    unfold Situation.version
    rw [step?_eq, hopen]
    exact if_pos (UpgradeRecord.completes_of_phase_advance hbefore hafter)

end Situation

/-! ## All passes -/

namespace History

variable {ref : ClusterRef} {h : History ref} {k : Nat} {s : Situation} {version : String}
  {record next : UpgradeRecord}

/-- That a pass succeeds and starts a new upgrade, from the version that is running to the declared
one. It follows only on an upgrade that does not hold the pods and had another target. -/
structure StartsUpgrade (h : History ref) (k : Nat) (s : Situation) (version : String)
    (next : UpgradeRecord) : Prop where
  stores : h.Stores k s
  succeeds : ∃ requeue, (h.pass k).result = .ok requeue
  running : (h.status k).version = some version
  declared : s.spec.image.tag ≠ version
  follows : ∀ record, (h.status k).upgrade = some record →
    s.spec.image.tag ≠ record.targetVersion ∧ record.phase.holdsPods = false
  stored : (h.status (k + 1)).upgrade = some next
  continues : (UpgradeRecord.starting version s.spec.image.tag s.tokens).Continues next

/-- The law that the stored upgrade records of a history obey. Each clause compares what is stored
before and after one pass, so it covers passes that fail, are overtaken or store nothing as well as
those that succeed. -/
structure Lawful (h : History ref) : Prop where
  /-- An upgrade that holds the pods keeps its versions, whatever is declared. -/
  held : ∀ k record, (h.status k).upgrade = some record → record.phase.holdsPods →
    ∃ next, (h.status (k + 1)).upgrade = some next ∧
      next.targetVersion = record.targetVersion ∧ next.previousVersion = record.previousVersion
  /-- An upgrade that is over stays as it is until a pass starts the next. -/
  ended : ∀ k record, (h.status k).upgrade = some record → record.phase.isTerminal →
    (h.status (k + 1)).upgrade = some record ∨ ∃ s version next, h.StartsUpgrade k s version next
  /-- A pass does so if it succeeds, the cluster is there to be written, and the declared tag is
  neither the target of the upgrade nor the version that is running. -/
  succeeded : ∀ k record s, (h.status k).upgrade = some record → record.phase.isTerminal →
    h.Finds k s → (∃ requeue, (h.pass k).result = .ok requeue) →
    ⟨.getCluster ref, .ok none⟩ ∉ (h.pass k).trace →
    s.spec.image.tag ≠ record.targetVersion → (h.status k).version ≠ some s.spec.image.tag →
    ∃ version next, h.StartsUpgrade k s version next
  /-- A record that is stored continues the one before it, or is that of a new upgrade. -/
  moves : ∀ k next, (h.status (k + 1)).upgrade = some next →
    (∃ record, (h.status k).upgrade = some record ∧ record.Continues next) ∨
      ∃ s version, h.StartsUpgrade k s version next
  /-- The version changes only when an upgrade completes, and to the target of that. -/
  version : ∀ k version, (h.status k).version = some version →
    (h.status (k + 1)).version = some version ∨ ∃ record next,
      (h.status k).upgrade = some record ∧ record.phase = .inProgress ∧
      (h.status (k + 1)).upgrade = some next ∧ record.Continues next ∧ next.phase = .completed ∧
      (h.status (k + 1)).version = some next.targetVersion
  /-- And when an upgrade completes, the version becomes its target: a completed record that is
  stored was stored before, or is stored with that version. -/
  completed : ∀ k next, (h.status (k + 1)).upgrade = some next → next.phase = .completed →
    (h.status k).upgrade = some next ∨ (h.status (k + 1)).version = some next.targetVersion

theorem upgrade_succ_of_retouched (hretouched : Retouched (h.stored k) (h.stored (k + 1))) :
    (h.status (k + 1)).upgrade = (h.status k).upgrade := hretouched.upgrade

theorem version_succ_of_retouched (hretouched : Retouched (h.stored k) (h.stored (k + 1))) :
    (h.status (k + 1)).version = (h.status k).version := hretouched.version

theorem Stores.evolves (hs : h.Stores k s) :
    s.Evolves (h.status k).upgrade (h.status (k + 1)).upgrade := by
  rw [hs.status_succ, ← hs.1.status_eq]
  exact s.evolves_upgrade?

/-- **What a pass makes of the stored record**: it continues it, starts the next, or drops it before
it has begun. -/
theorem upgrade_step (h : History ref) (k : Nat) :
    (h.status (k + 1)).upgrade = (h.status k).upgrade ∨
      (∃ record, (h.status k).upgrade = some record ∧ record.phase = .pending ∧
        (h.status (k + 1)).upgrade = none) ∨
      (∃ record next, (h.status k).upgrade = some record ∧
        (h.status (k + 1)).upgrade = some next ∧ record.Continues next) ∨
      ∃ s version next, h.StartsUpgrade k s version next := by
  rcases h.step k with hretouched | ⟨s, hs, hok⟩
  · exact .inl (upgrade_succ_of_retouched hretouched)
  · have hevolves := hs.evolves
    -- Both records become variables, so that the cases of `Evolves` can be told apart by what is
    -- stored.
    generalize hbefore : (h.status k).upgrade = before at hevolves ⊢
    generalize hafter : (h.status (k + 1)).upgrade = after at hevolves
    cases hevolves with
    | idle => exact .inl rfl
    | dropped record hphase => exact .inr (.inl ⟨record, rfl, hphase, rfl⟩)
    | continued record next _ hcontinues =>
      exact .inr (.inr (.inl ⟨record, next, rfl, rfl, hcontinues⟩))
    | started current version next _ hversion hdeclared hcurrent hcontinues =>
      rw [hs.1.status_eq] at hversion
      rw [← hbefore] at hcurrent
      exact .inr (.inr (.inr ⟨s, version, next,
        ⟨hs, hok, hversion, hdeclared, hcurrent, hafter, hcontinues⟩⟩))

theorem held (h : History ref) (hrecord : (h.status k).upgrade = some record)
    (hholds : record.phase.holdsPods) :
    ∃ next, (h.status (k + 1)).upgrade = some next ∧
      next.targetVersion = record.targetVersion ∧
        next.previousVersion = record.previousVersion := by
  rcases h.upgrade_step k with hsame | ⟨stored, hstored, hphase, -⟩ |
    ⟨stored, next, hstored, hnext, hcontinues⟩ | ⟨s, version, next, hstarts⟩
  · exact ⟨record, hsame.trans hrecord, rfl, rfl⟩
  · cases hrecord.symm.trans hstored
    rw [hphase] at hholds
    cases hholds
  · cases hrecord.symm.trans hstored
    exact ⟨next, hnext, hcontinues.targetVersion, hcontinues.previousVersion⟩
  · rw [(hstarts.follows record hrecord).2] at hholds
    cases hholds

theorem kept_or_followed (h : History ref) (hrecord : (h.status k).upgrade = some record)
    (hended : record.phase.isTerminal) :
    (h.status (k + 1)).upgrade = some record ∨
      ∃ s version next, h.StartsUpgrade k s version next := by
  rcases h.upgrade_step k with hsame | ⟨stored, hstored, hphase, -⟩ |
    ⟨stored, next, hstored, hnext, hcontinues⟩ | hstarts
  · exact .inl (hsame.trans hrecord)
  · cases hrecord.symm.trans hstored
    rw [hphase] at hended
    cases hended
  · cases hrecord.symm.trans hstored
    rw [hcontinues.ended hended] at hnext
    exact .inl hnext
  · exact .inr hstarts

theorem continues_or_starts (h : History ref) (hnext : (h.status (k + 1)).upgrade = some next) :
    (∃ record, (h.status k).upgrade = some record ∧ record.Continues next) ∨
      ∃ s version, h.StartsUpgrade k s version next := by
  rcases h.upgrade_step k with hsame | ⟨stored, -, -, hnone⟩ |
    ⟨stored, after, hstored, hafter, hcontinues⟩ | ⟨s, version, after, hstarts⟩
  · exact .inl ⟨next, hsame.symm.trans hnext, .refl next⟩
  · cases hnone.symm.trans hnext
  · cases hafter.symm.trans hnext
    exact .inl ⟨stored, hstored, hcontinues⟩
  · cases hstarts.stored.symm.trans hnext
    exact .inr ⟨s, version, hstarts⟩

theorem version_kept_or_completed (h : History ref)
    (hversion : (h.status k).version = some version) :
    (h.status (k + 1)).version = some version ∨ ∃ record next,
      (h.status k).upgrade = some record ∧ record.phase = .inProgress ∧
      (h.status (k + 1)).upgrade = some next ∧ record.Continues next ∧ next.phase = .completed ∧
      (h.status (k + 1)).version = some next.targetVersion := by
  rcases h.step k with hretouched | ⟨s, hs, -⟩
  · exact .inl ((version_succ_of_retouched hretouched).trans hversion)
  · rw [← hs.1.status_eq] at hversion ⊢
    rw [hs.status_succ]
    rcases s.version_of_running hversion with hsame |
      ⟨record, next, hrecord, hbefore, hnext, hcontinues, hafter, htarget⟩
    · exact .inl (congrArg some hsame)
    · exact .inr ⟨record, next, hrecord, hbefore, hnext, hcontinues, hafter, congrArg some htarget⟩

theorem version_of_completed (h : History ref) (hnext : (h.status (k + 1)).upgrade = some next)
    (hafter : next.phase = .completed) :
    (h.status k).upgrade = some next ∨ (h.status (k + 1)).version = some next.targetVersion := by
  rcases h.step k with hretouched | ⟨s, hs, -⟩
  · exact .inl ((upgrade_succ_of_retouched hretouched).symm.trans hnext)
  · rw [hs.status_succ] at hnext ⊢
    rw [← hs.1.status_eq]
    exact (s.version_of_completed hnext hafter).imp_right fun hversion => congrArg some hversion

theorem status_zero (hfresh : h.start = none) : h.status 0 = {} := by
  show h.start.getD {} = {}
  rw [hfresh]
  rfl

/-- A cluster that has a version keeps having one. -/
theorem exists_version_of_le (h : History ref) {j : Nat} (hkj : k ≤ j)
    (hversion : (h.status k).version = some version) :
    ∃ later, (h.status j).version = some later := by
  induction j, hkj using Nat.le_induction with
  | base => exact ⟨version, hversion⟩
  | succ j _ ih =>
    obtain ⟨later, hlater⟩ := ih
    rcases h.version_kept_or_completed hlater with hkept | ⟨_, next, _, _, _, _, _, hcompleted⟩
    · exact ⟨later, hkept⟩
    · exact ⟨next.targetVersion, hcompleted⟩

/-- As long as a cluster that was new once has no version, no pass has stored what it decided. -/
theorem retouched_of_version_eq_none (hfresh : h.start = none) (k : Nat)
    (hversion : (h.status k).version = none) : Retouched none (h.stored k) := by
  induction k with
  | zero => exact .inl hfresh
  | succ k ih =>
    rcases h.step k with hretouched | ⟨s, hs, -⟩
    · rw [version_succ_of_retouched hretouched] at hversion
      exact (ih hversion).trans hretouched
    · rw [hs.status_succ] at hversion
      cases hversion

theorem upgrade_eq_none (hfresh : h.start = none) (k : Nat)
    (hversion : (h.status k).version = none) : (h.status k).upgrade = none :=
  (retouched_of_version_eq_none hfresh k hversion).upgrade

theorem starts_of_declared (hfresh : h.start = none)
    (hrecord : (h.status k).upgrade = some record) (hended : record.phase.isTerminal)
    (hfinds : h.Finds k s) (hok : ∃ requeue, (h.pass k).result = .ok requeue)
    (hthere : ⟨.getCluster ref, .ok none⟩ ∉ (h.pass k).trace)
    (htarget : s.spec.image.tag ≠ record.targetVersion)
    (hdeclared : (h.status k).version ≠ some s.spec.image.tag) :
    ∃ version next, h.StartsUpgrade k s version next := by
  have hstores : h.Stores k s := by
    -- A pass that succeeds has stored its status, or the cluster was not there to store it in.
    rcases hfinds.works.outcome with ⟨hstored, -⟩ | ⟨-, ⟨f, hfailed⟩ | hgone⟩
    · exact ⟨hfinds, hstored⟩
    · obtain ⟨requeue, hok⟩ := hok
      cases hok.symm.trans hfailed
    · exact absurd hgone hthere
  cases hversion : (h.status k).version with
  | none => cases hrecord.symm.trans (upgrade_eq_none hfresh k hversion)
  | some version =>
    have hother : s.spec.image.tag ≠ version := fun heq => hdeclared (by rw [hversion, heq])
    have hstatus := hfinds.status_eq
    have hopen : s.openRecord? = some (.starting version s.spec.image.tag s.tokens) := by
      rw [← hstatus] at hrecord hversion
      exact Situation.openRecord?_of_ended hrecord hversion hended htarget hother
    have hnext : (h.status (k + 1)).upgrade = some ((UpgradeRecord.starting version
        s.spec.image.tag s.tokens).advance s.observation).record := by
      rw [hstores.status_succ]
      exact s.upgrade?_eq.trans (by rw [hopen]; rfl)
    refine ⟨version, _, hstores, hok, hversion, hother, fun other hsame => ?_, hnext,
      UpgradeRecord.continues_advance _ _⟩
    cases hrecord.symm.trans hsame
    exact ⟨htarget, UpgradePhase.holdsPods_of_isTerminal hended⟩

/-- **The stored upgrade records of a new cluster obey the law**, and every event that is observed
in a phase is one that the table accepts there. That the cluster was new is needed for the versions:
a stored record of unknown origin may name any. -/
theorem lawful_of_fresh (h : History ref) (hfresh : h.start = none) :
    h.Lawful ∧ ∀ (phase : UpgradePhase) (event : UpgradeEvent) (c : UpgradeContext),
      phase.event? c = some event → (phase.move? event c).isSome := by
  refine ⟨?_, fun phase event c hevent => UpgradePhase.isSome_move? hevent⟩
  constructor
  case held => exact fun k record hrecord hholds => h.held hrecord hholds
  case ended => exact fun k record hrecord hended => h.kept_or_followed hrecord hended
  case succeeded =>
    intro k record s hrecord hended hfinds hok hthere htarget hdeclared
    exact starts_of_declared hfresh hrecord hended hfinds hok hthere htarget hdeclared
  case moves => exact fun k next hnext => h.continues_or_starts hnext
  case version => exact fun k version hversion => h.version_kept_or_completed hversion
  case completed => exact fun k next hnext hafter => h.version_of_completed hnext hafter

end History

/-! ## An upgrade that is given up -/

/-- A cluster of one server, which is upgraded whatever its health. -/
def solo (tag : String) (abort : Option String) (status : Option ClusterStatus) : Cluster :=
  { metadata :=
      { name := some "db", «namespace» := some "data", finalizers := some [finalizerName]
        annotations := abort.map fun token => SortedMap.empty.insert abortAnnotation token }
    spec :=
      { servers := 1, image := { tag }, upgradeStrategy := { preUpgradeHealthCheck := false } }
    status }

/-- What a pass over that cluster finds, given the image of the server if its pod is listed. -/
def soloAt (tag : String) (abort image : Option String) (status : Option ClusterStatus) :
    Situation :=
  { cluster := solo tag abort status, ref := ⟨"data", "db"⟩, settings := {}, now := .epoch
    topology := ⟨.standalone, [.unrestricted]⟩
    pods := image.toList.map fun image => { name := "db-0", ordinal := 0, image := some image }
    views := .empty }

def installed : Situation := soloAt "1" none none none

def raised : Situation := soloAt "2" none (some "neo4j:1") (some installed.nextStatus)

def givenUp : Situation := soloAt "2" (some "stop") (some "neo4j:2") (some raised.nextStatus)

section
variable {tag : String} {abort image : Option String} {status : Option ClusterStatus}

theorem derived_soloAt : (soloAt tag abort image status).derived = installed.derived := by
  have hrestart : (solo tag abort status).annotation? restartAnnotation = none := by
    cases abort with
    | none => rfl
    | some token => rfl
  unfold Situation.derived
  rw [show (soloAt tag abort image status).cluster = solo tag abort status from rfl, hrestart]
  rfl

theorem attainable_soloAt (hvalid : validateCluster (solo tag none none)
      (status.getD {}).version = .ok ⟨.standalone, [.unrestricted]⟩) :
    (soloAt tag abort image status).Attainable ⟨"data", "db"⟩ := by
  have hsame : validateCluster (solo tag abort status) (status.getD {}).version =
      validateCluster (solo tag none none) (status.getD {}).version := validateCluster_congr rfl rfl
  exact ⟨rfl, ⟨rfl, rfl, hsame.trans hvalid⟩, rfl, fun _ => rfl, ⟨[], rfl⟩, rfl⟩

theorem valid_install : validateCluster (solo "1" none none) none =
    .ok ⟨.standalone, [.unrestricted]⟩ := by decide +kernel

theorem valid_raise : validateCluster (solo "2" none none) (some "1") =
    .ok ⟨.standalone, [.unrestricted]⟩ := by decide +kernel

theorem settled_soloAt {last : ClusterStatus}
    (hlast : last.configuration.lastAppliedHash = some installed.derived.hash) :
    (soloAt tag abort image (some last)).permitsApply = true ∧
      (soloAt tag abort image (some last)).configuration.lastAppliedHash =
        some installed.derived.hash := by
  have hpermits : (soloAt tag abort image (some last)).permitsApply = true := by
    have hsettled : (soloAt tag abort image (some last)).status.configuration.lastAppliedHash =
        some (soloAt tag abort image (some last)).derived.hash := by
      rw [derived_soloAt]
      exact hlast
    unfold Situation.permitsApply Situation.drift Situation.evaluated
    rw [ConfigurationRecord.evaluate_applied _ _ hsettled]
    rfl
  refine ⟨hpermits, ?_⟩
  rw [← derived_soloAt]
  exact ConfigurationRecord.lastAppliedHash_of_permitsApply _ _ hpermits

end

theorem applied_installed :
    installed.nextStatus.configuration.lastAppliedHash = some installed.derived.hash := rfl

theorem openRecord?_raised : raised.openRecord? = some (.starting "1" "2" {}) := rfl

def raisedRecord : UpgradeRecord :=
  ((UpgradeRecord.starting "1" "2" {}).advance raised.observation).record

def givenUpRecord : UpgradeRecord := (raisedRecord.advance givenUp.observation).record

theorem upgrade?_raised : raised.upgrade? = some raisedRecord := by
  rw [Situation.upgrade?_eq, openRecord?_raised]
  rfl

theorem versions_raisedRecord :
    raisedRecord.targetVersion = "2" ∧ raisedRecord.previousVersion = some "1" :=
  have h := (UpgradeRecord.starting "1" "2" {}).continues_advance raised.observation
  ⟨h.targetVersion, h.previousVersion⟩

theorem phase_raisedRecord : raisedRecord.phase = .inProgress :=
  UpgradeRecord.phase_advance_of_pending rfl rfl (settled_soloAt applied_installed).1 rfl

theorem version_raised : raised.version = "1" := by
  have hversion : raised.status.version = some "1" := rfl
  rcases Situation.version_of_running hversion with hsame | ⟨record, _, hrecord, -⟩
  · exact hsame
  · cases hrecord

theorem upgrade?_givenUp : givenUp.upgrade? = some givenUpRecord := by
  have hcurrent : givenUp.status.upgrade = some raisedRecord := upgrade?_raised
  rw [Situation.upgrade?_eq, Situation.openRecord?_of_declared hcurrent versions_raisedRecord.1,
    Option.map_some, givenUpRecord]

theorem phase_givenUpRecord : givenUpRecord.phase = .failed := by
  have hopen : raisedRecord.phase.isTerminal = false := by
    rw [phase_raisedRecord]
    rfl
  have hhandled : raisedRecord.handledAbortToken = none := by
    unfold raisedRecord
    rcases (UpgradeRecord.starting "1" "2" {}).handledAbortToken_advance raised.observation with
      h | h
    · exact h
    · exact h
  have hasked : givenUp.observation.tokens.abort = some "stop" := rfl
  have habort :
      isNewToken givenUp.observation.tokens.abort raisedRecord.handledAbortToken = true := by
    rw [hhandled, hasked]
    decide
  rw [givenUpRecord]
  exact UpgradeRecord.phase_advance_of_aborted hopen habort

theorem version_givenUp : givenUp.version = "1" := by
  have hversion : givenUp.status.version = some "1" := congrArg some version_raised
  rcases Situation.version_of_running hversion with hsame |
    ⟨_, next, _, _, hnext, _, hcompleted, -⟩
  · exact hsame
  · rw [upgrade?_givenUp] at hnext
    cases hnext
    cases phase_givenUpRecord.symm.trans hcompleted

namespace History

theorem succession_givenUp : Succession ⟨"data", "db"⟩ none [installed, raised, givenUp] := by
  have hraised : (raised.nextStatus).version = some "1" := congrArg some version_raised
  refine ⟨attainable_soloAt valid_install, rfl, attainable_soloAt valid_raise, rfl,
    attainable_soloAt ?_, rfl, trivial⟩
  show validateCluster (solo "2" none none) (some raised.version) = _
  rw [version_raised]
  exact valid_raise

/-- An upgrade that is begun and then given up. -/
theorem lawful_of_fresh_givenUp : ∃ h : History ⟨"data", "db"⟩, h.start = none ∧
    (h.status 2).upgrade = some raisedRecord ∧ raisedRecord.phase = .inProgress ∧
    (h.status 3).upgrade = some givenUpRecord ∧ givenUpRecord.phase = .failed ∧
    h.Lawful ∧ ∀ (phase : UpgradePhase) (event : UpgradeEvent) (c : UpgradeContext),
      phase.event? c = some event → (phase.move? event c).isSome := by
  obtain ⟨h, hstart, hcourse, -⟩ := exists_history succession_givenUp
  have hraised : (h.status 2).upgrade = some raisedRecord := by
    rw [(hcourse 1 raised rfl).2.status_succ]
    exact upgrade?_raised
  have hgivenUp : (h.status 3).upgrade = some givenUpRecord := by
    rw [(hcourse 2 givenUp rfl).2.status_succ]
    exact upgrade?_givenUp
  exact ⟨h, hstart, hraised, phase_raisedRecord, hgivenUp, phase_givenUpRecord,
    lawful_of_fresh h hstart⟩

end History

end ClusterOperator
