import Mathlib.Data.Finset.Card
import ClusterOperator.Proofs.Membership.Agreement
import ClusterOperator.Proofs.Pass.Phases

/-!
# How many clusters are in a phase

The number of clusters in each phase is derived from the phase that was told last of each of them.
It is shared by all clusters, and their passes run at the same time, so what it is after any number
of calls depends on how these are interleaved; but a pass tells only of its own cluster, so what is
told of a cluster depends on its own passes alone.

> **`countsPhases_of_interleaves`** — from a pass on that has given a cluster its phase, and for as
> long as no pass loses its status, the cluster is counted under the phase that is stored, unless
> its deletion is recorded. A cluster that was found to be gone, or that was released, is not
> counted.

The recording of a deletion is the exception: it is stored and not told. Until the finalizer is
released the cluster stays counted under the phase that it had before, and if a hook keeps failing,
that is forever (`not_follows_neglected`).
-/

set_option autoImplicit false

namespace ClusterOperator

open Pass

/-! ## Series -/

namespace Series

variable {α : Type} {s : Series α} {ref other : ClusterRef} {v w : α}

theorem find?_cons {first : ClusterRef × α} :
    find? (first :: s) ref = if first.1 = ref then some first.2 else s.find? ref := by
  unfold find?
  rw [List.lookup_cons]
  by_cases hsame : first.1 = ref
  · simp [hsame]
  · rw [if_neg hsame, beq_eq_false_iff_ne.mpr (Ne.symm hsame)]

theorem find?_set : (s.set ref v).find? other = if ref = other then some v else s.find? other := by
  induction s with
  | nil => exact find?_cons
  | cons first rest ih =>
    unfold set
    by_cases hfirst : first.1 = ref
    · rw [if_pos hfirst, find?_cons, find?_cons, hfirst]
      split <;> rfl
    · rw [if_neg hfirst, find?_cons, find?_cons, ih]
      by_cases hother : first.1 = other
      · simp only [hother, if_true, if_neg fun h => hfirst (hother.trans (Eq.symm h))]
      · simp only [if_neg hother]

theorem find?_erase : (s.erase ref).find? other = if ref = other then none else s.find? other := by
  induction s with
  | nil => exact (ite_self none).symm
  | cons first rest ih =>
    unfold erase at ih ⊢
    by_cases hfirst : first.1 = ref
    · rw [List.filter_cons_of_neg (by simpa using hfirst), ih, find?_cons, hfirst]
      split <;> rfl
    · rw [List.filter_cons_of_pos (by simpa using hfirst), find?_cons, find?_cons, ih]
      by_cases hother : first.1 = other
      · simp only [hother, if_true, if_neg fun h => hfirst (hother.trans (Eq.symm h))]
      · simp only [if_neg hother]

/-- The clusters that have a value. -/
def refs (s : Series α) : List ClusterRef := s.map (·.1)

theorem mem_refs_set : other ∈ (s.set ref v).refs ↔ other = ref ∨ other ∈ s.refs := by
  unfold refs
  induction s with
  | nil => simp [set]
  | cons first rest ih =>
    unfold set
    by_cases hfirst : first.1 = ref
    · simp [hfirst]
    · rw [if_neg hfirst, List.map_cons, List.mem_cons, ih, List.map_cons, List.mem_cons]
      tauto

theorem nodup_set (h : s.refs.Nodup) : (s.set ref v).refs.Nodup := by
  induction s with
  | nil => simp [set, refs]
  | cons first rest ih =>
    obtain ⟨hfirst, hrest⟩ := List.nodup_cons.mp h
    unfold set
    by_cases hsame : first.1 = ref
    · rw [if_pos hsame]
      exact List.nodup_cons.mpr ⟨hsame ▸ hfirst, hrest⟩
    · rw [if_neg hsame]
      refine List.nodup_cons.mpr ⟨fun hmem => ?_, ih hrest⟩
      exact (mem_refs_set.mp hmem).elim hsame hfirst

theorem nodup_erase (h : s.refs.Nodup) : (s.erase ref).refs.Nodup :=
  (List.filter_sublist.map _).nodup h

theorem mem_iff_find? (h : s.refs.Nodup) : (ref, v) ∈ s ↔ s.find? ref = some v := by
  induction s with
  | nil => exact iff_of_false List.not_mem_nil (by simp [find?])
  | cons first rest ih =>
    obtain ⟨hfirst, hrest⟩ := List.nodup_cons.mp h
    rw [find?_cons, List.mem_cons, ih hrest]
    by_cases hsame : first.1 = ref
    · subst hsame
      have hnone : find? rest first.1 ≠ some v := fun hfound =>
        hfirst (List.mem_map.mpr ⟨_, (ih hrest).mpr hfound, rfl⟩)
      rw [if_pos rfl, Option.some.injEq, or_iff_left hnone]
      exact ⟨fun heq => by rw [← heq], fun heq => by rw [← heq]⟩
    · rw [if_neg hsame, or_iff_right fun heq => hsame (congrArg Prod.fst heq).symm]

/-- The clusters that have a certain value. -/
def holders [BEq α] (s : Series α) (v : α) : Finset ClusterRef :=
  (refs (s.filter (·.2 == v))).toFinset

theorem mem_holders [BEq α] [LawfulBEq α] (h : s.refs.Nodup) :
    ref ∈ s.holders v ↔ s.find? ref = some v := by
  rw [← mem_iff_find? h, holders, List.mem_toFinset]
  simp [refs]

theorem card_holders [BEq α] (h : s.refs.Nodup) : (s.holders v).card = s.countP (·.2 == v) := by
  rw [holders, refs, List.toFinset_card_of_nodup ((List.filter_sublist.map _).nodup h),
    List.countP_eq_length_filter]
  exact List.length_map _

end Series

/-! ## Totals -/

namespace Metrics

variable {m : Metrics} {label : String} {n : Nat}

theorem nodup_phaseTotals : (m.phaseTotals.map (·.1)).Nodup := by
  unfold phaseTotals
  rw [List.map_map]
  simpa [Function.comp_def] using nodup_eraseDups (m.phases.map (·.2))

/-- **A label has a sample if clusters are counted under it**, and its value is their number. -/
theorem mem_phaseTotals_iff (h : m.phases.refs.Nodup) : (label, n) ∈ m.phaseTotals ↔
    0 < n ∧ ∃ refs : Finset ClusterRef,
      (∀ ref, ref ∈ refs ↔ m.phases.find? ref = some label) ∧ refs.card = n := by
  -- Only one set of clusters can be meant, so the number does not depend on how the set is given.
  have honly : ∀ refs : Finset ClusterRef,
      (∀ ref, ref ∈ refs ↔ m.phases.find? ref = some label) → refs = m.phases.holders label := by
    intro refs hrefs
    ext ref
    rw [hrefs, Series.mem_holders h]
  have hlabel : label ∈ m.phases.map (·.2) ↔ 0 < (m.phases.holders label).card := by
    rw [Series.card_holders h, List.countP_pos_iff, List.mem_map]
    simp only [beq_iff_eq]
  unfold phaseTotals
  simp only [List.mem_map, List.mem_eraseDups, Prod.mk.injEq, ← Series.card_holders h]
  constructor
  · rintro ⟨_, hmem, rfl, rfl⟩
    exact ⟨hlabel.mp (List.mem_map.mpr hmem), _, fun ref => Series.mem_holders h, rfl⟩
  · rintro ⟨hpos, refs, hrefs, rfl⟩
    rw [honly refs hrefs] at hpos ⊢
    exact ⟨label, List.mem_map.mp (hlabel.mpr hpos), rfl, rfl⟩

end Metrics

/-! ## What is counted of the phases -/

/-- The measurements after a turn. -/
def Metrics.after (m : Metrics) (turn : Turn Call.Answer) : Metrics :=
  match turn.question with
  | .measure ref measurement => m.record ref measurement
  | _ => m

/-- The phase that a cluster is counted under after a trace, given the one before: the last that was
told of it. -/
def countedAfter (ref : ClusterRef) (counted : Option String) (trace : Trace) : Option String :=
  (phasesTold trace).foldl (fun counted told => if told.1 = ref then told.2 else counted) counted

section
variable {ref : ClusterRef} {counted : Option String} {s t trace : Trace} {m : Metrics}
  {turn : Turn Call.Answer}

theorem countedAfter_append :
    countedAfter ref counted (s ++ t) = countedAfter ref (countedAfter ref counted s) t := by
  unfold countedAfter
  rw [phasesTold_append, List.foldl_append]

theorem countedAfter_of_told {name : Option String} (h : phasesTold trace = [(ref, name)]) :
    countedAfter ref counted trace = name := by
  unfold countedAfter
  rw [h]
  exact if_pos rfl

theorem countedAfter_of_untold (h : phasesTold trace = []) :
    countedAfter ref counted trace = counted := by
  unfold countedAfter
  rw [h]
  rfl

theorem countedAfter_of_others (h : ∀ told ∈ phasesTold trace, told.1 ≠ ref) :
    countedAfter ref counted trace = counted := by
  unfold countedAfter
  generalize phasesTold trace = told at h
  induction told with
  | nil => rfl
  | cons first rest ih =>
    obtain ⟨hfirst, hrest⟩ := List.forall_mem_cons.mp h
    rw [List.foldl_cons, if_neg hfirst]
    exact ih hrest

/-- A turn changes what a cluster is counted under only by telling its phase. -/
theorem find?_phases_after :
    (m.after turn).phases.find? ref = countedAfter ref (m.phases.find? ref) [turn] := by
  obtain ⟨question, answer⟩ := turn
  cases question with
  | measure other measurement =>
    cases measurement with
    | phase name =>
      cases name with
      | some name => exact Series.find?_set
      | none => exact Series.find?_erase
    | _ => rfl
  | _ => rfl

theorem nodup_phases_after (h : m.phases.refs.Nodup) : (m.after turn).phases.refs.Nodup := by
  obtain ⟨question, answer⟩ := turn
  cases question with
  | measure other measurement =>
    cases measurement with
    | phase name =>
      cases name with
      | some name => exact Series.nodup_set h
      | none => exact Series.nodup_erase h
    | _ => exact h
  | _ => exact h

end

/-! ## Logs -/

/-- The turns of passes in the order they are taken, each with the cluster whose pass it is a turn
of. Passes over different clusters run at the same time, so between two turns of one pass there may
be any number of others. -/
abbrev Log := List (ClusterRef × Turn Call.Answer)

namespace Log

variable {log rest : Log} {ref : ClusterRef} {entry : ClusterRef × Turn Call.Answer}

/-- What is counted by the end of a log. At its start nothing is. -/
def metrics (log : Log) : Metrics := log.foldl (fun m entry => m.after entry.2) {}

/-- The phase that a cluster is counted under. -/
def phase? (log : Log) (ref : ClusterRef) : Option String := log.metrics.phases.find? ref

/-- The turns of the passes over one cluster. -/
def turnsOf (log : Log) (ref : ClusterRef) : Trace := (log.filter (·.1 = ref)).map (·.2)

theorem metrics_concat : (log ++ [entry]).metrics = log.metrics.after entry.2 := by
  unfold metrics
  rw [List.foldl_append]
  rfl

theorem turnsOf_append : (log ++ rest).turnsOf ref = log.turnsOf ref ++ rest.turnsOf ref := by
  unfold turnsOf
  rw [List.filter_append, List.map_append]

/-- The log of some turns of one cluster with no other in between. -/
def single (ref : ClusterRef) (trace : Trace) : Log := trace.map fun turn => (ref, turn)

theorem turnsOf_single {trace : Trace} {other : ClusterRef} :
    (single ref trace).turnsOf other = if ref = other then trace else [] := by
  unfold single turnsOf
  rw [List.filter_map, List.map_map]
  by_cases hsame : ref = other
  · simp [Function.comp_def, hsame]
  · simp [Function.comp_def, hsame]

theorem mem_turnsOf {turn : Turn Call.Answer} : turn ∈ log.turnsOf ref ↔ (ref, turn) ∈ log := by
  simp [turnsOf]

theorem nodup_phases (log : Log) : log.metrics.phases.refs.Nodup := by
  induction log using List.reverseRecOn with
  | nil => exact List.nodup_nil
  | append_singleton log entry ih =>
    rw [metrics_concat]
    exact nodup_phases_after ih

/-- **What a cluster is counted under depends on its own passes alone**, if every pass tells only of
its own cluster. -/
theorem phase?_eq (h : ∀ entry ∈ log, ∀ told, entry.2.question.toldPhase? = some told →
    told.1 = entry.1) : log.phase? ref = countedAfter ref none (log.turnsOf ref) := by
  induction log using List.reverseRecOn with
  | nil => rfl
  | append_singleton log entry ih =>
    obtain ⟨hearlier, hlast⟩ := List.forall_mem_append.mp h
    unfold phase? at ih ⊢
    rw [metrics_concat, find?_phases_after, ih hearlier, turnsOf_append, countedAfter_append]
    by_cases hsame : entry.1 = ref
    · rw [show Log.turnsOf [entry] ref = [entry.2] by simp [turnsOf, hsame]]
    · rw [show Log.turnsOf [entry] ref = [] by simp [turnsOf, hsame]]
      refine countedAfter_of_others fun told htold hother => ?_
      obtain ⟨turn, hturn, htells⟩ := List.mem_filterMap.mp htold
      rw [List.mem_singleton.mp hturn] at htells
      exact hsame ((hlast entry (List.mem_singleton_self entry) told htells).symm.trans hother)

end Log

/-! ## One pass -/

namespace PassRun

variable {ref : ClusterRef}

/-- That a pass gives the cluster a phase, which it does before it writes the status. -/
def ComesToPhase (pass : PassRun ref) : Prop :=
  ∃ written, PhaseRun pass.operator ref pass.trace pass.result (some written)

/-- That a pass gives the cluster a phase and stores it. -/
def GivesPhase (pass : PassRun ref) : Prop :=
  ∃ cluster, PhaseRun pass.operator ref pass.trace pass.result (some (.ok (some cluster)))

/-- That all the writes of the status in a pass succeed: there is one, or there is none. -/
def LosesNothing (pass : PassRun ref) : Prop :=
  pass.GivesPhase ∨ PhaseRun pass.operator ref pass.trace pass.result none

/-- That a pass finds the cluster gone, or releases it at the end of its deletion. -/
def Leaves (pass : PassRun ref) : Prop :=
  pass.trace.head? = some ⟨.getCluster ref, .ok none⟩ ∨
    ∃ cluster requeue, pass.trace.head? = some ⟨.getCluster ref, .ok (some cluster)⟩ ∧
      cluster.metadata.deletionTimestamp.isSome ∧ cluster.hasFinalizer = true ∧
        pass.result = .ok requeue

/-- That a pass reads a cluster of the name that it asks for. -/
def ReadsNamed (pass : PassRun ref) : Prop :=
  ∀ cluster, pass.trace.head? = some ⟨.getCluster ref, .ok (some cluster)⟩ → cluster.ownRef = ref

variable {pass : PassRun ref} {stored : Option ClusterStatus}

/-- **A cluster that a pass leaves is told to be gone.** -/
theorem told_of_leaves (h : pass.Leaves) : phasesTold pass.trace = [(ref, none)] := by
  obtain ⟨_, hcourse⟩ := phaseRun_of_runs pass.runs
  -- Of the courses that a pass can take, only those remain that read the same first answer.
  rcases h with hgone | ⟨cluster, requeue, hfound, hdeleted, hclaimed, hok⟩
  · cases hcourse with
    | idle hread =>
      obtain ⟨_, heq, -⟩ := hread _ hgone
      cases heq
    | absent _ _ htold => exact htold
    | worked hfinds => cases hgone.symm.trans hfinds.head?_eq
    | refused hread | marked hread | cleaned hread => cases hgone.symm.trans hread
  · cases hcourse with
    | idle hread =>
      obtain ⟨_, heq, hunclaimed⟩ := hread _ hfound
      cases heq
      cases hclaimed.symm.trans (hunclaimed hdeleted)
    | absent hread => cases hfound.symm.trans hread
    | worked hfinds =>
      have hkept := hfinds.workable.kept
      cases hfound.symm.trans hfinds.head?_eq
      rw [hkept] at hdeleted
      cases hdeleted
    | refused hread hrefused =>
      cases hfound.symm.trans hread
      rw [hrefused.kept] at hdeleted
      cases hdeleted
    | marked _ _ _ _ _ htold | cleaned _ _ _ _ _ htold =>
      rcases htold with ⟨htold, -⟩ | ⟨-, f, hfailed⟩
      · exact htold
      · cases hok.symm.trans hfailed

/-- A pass that does not come to the phase of a cluster, and does not leave it, tells nothing and
writes nothing. -/
theorem silent_of_idle (hstays : ¬ pass.Leaves)
    (h : PhaseRun pass.operator ref pass.trace pass.result none) : Silent pass.trace := by
  cases h with
  | idle _ hsilent => exact hsilent
  | absent hread => exact absurd (.inl hread) hstays
  | cleaned hread hdeleted hclaimed _ hkept htold =>
    rcases htold with ⟨-, requeue, hok⟩ | ⟨huntold, -⟩
    · exact absurd (.inr ⟨_, requeue, hread, hdeleted, hclaimed, hok⟩) hstays
    · exact silent_iff.mpr ⟨hkept, huntold⟩

/-- **A pass that gives a cluster its phase has told the one that it stores**, unless it records the
deletion. -/
theorem told_of_givesPhase (hreads : ReadsStored stored pass.trace) (hnamed : pass.ReadsNamed)
    (h : pass.GivesPhase) :
    phasesTold pass.trace = [(ref, some ((storedAfter stored pass.trace).getD {}).phase.name)] ∨
      ((storedAfter stored pass.trace).getD {}).phase = .deleting := by
  obtain ⟨cluster, hcourse⟩ := h
  -- Each course stores its phase with the write that it tells of, except that a deletion is stored
  -- and not told.
  cases hcourse with
  | worked _ hwrites htold =>
    obtain ⟨latest, hstored⟩ := hwrites.exists_stored hreads setStatus_of_unchanged
    rw [hstored, status_setStatus]
    exact .inl htold
  | refused hread _ hwrites htold =>
    obtain ⟨latest, hstored⟩ := hwrites.exists_stored hreads fun _ h => setStatus_of_unchanged _ h
    rw [hnamed _ hread] at htold
    rw [hstored, phase_refusal]
    exact .inl htold
  | marked _ _ _ _ hwrites =>
    obtain ⟨latest, hstored⟩ := hwrites.exists_stored hreads setDeleting_of_unchanged
    rw [hstored]
    exact .inr (phase_setDeleting latest)

theorem eq_of_told (hnamed : pass.ReadsNamed) : ∀ told ∈ phasesTold pass.trace, told.1 = ref := by
  obtain ⟨_, hcourse⟩ := phaseRun_of_runs pass.runs
  cases hcourse with
  | idle _ hsilent => simp [hsilent.untold]
  | absent _ _ htold | worked _ _ htold => simp [htold]
  | refused hread _ _ htold => simp [htold, hnamed _ hread]
  | marked _ _ _ _ _ htold | cleaned _ _ _ _ _ htold =>
    rcases htold with ⟨htold, -⟩ | ⟨htold, -⟩ <;> simp [htold]

end PassRun

/-! ## The passes over what has one name -/

/-- The passes over the clusters of one name, one after another. Before each of them the cluster may
have been created anew, and then it has no status. Passes over one name do not overlap, whatever
passes over other names do. -/
structure Passes (ref : ClusterRef) where
  pass : Nat → PassRun ref
  stored : Nat → Option ClusterStatus
  reads : ∀ k, ReadsStored (stored k) (pass k).trace
  next : ∀ k, stored (k + 1) = storedAfter (stored k) (pass k).trace ∨ stored (k + 1) = none
  named : ∀ k, (pass k).ReadsNamed

namespace Passes

variable {ref : ClusterRef} (p : Passes ref) {j k : Nat}

/-- The status that is stored at the end of a pass. -/
def left (k : Nat) : Option ClusterStatus := storedAfter (p.stored k) (p.pass k).trace

/-- The phase that is stored at the end of a pass. -/
def phaseLeft (k : Nat) : ClusterPhase := ((p.left k).getD {}).phase

/-- The turns of the first passes. -/
def turns : Nat → Trace
  | 0 => []
  | k + 1 => turns k ++ (p.pass k).trace

/-- That the cluster is there, and nothing of it is lost, from a pass that gives it a phase to the
end of another. A pass that does not come to a phase in between changes neither the count nor the
status. -/
structure Keeps (j k : Nat) : Prop where
  le : j ≤ k
  gives : (p.pass j).GivesPhase
  losesNothing : ∀ i, j < i → i ≤ k → (p.pass i).LosesNothing
  stays : ∀ i, j ≤ i → i ≤ k → ¬ (p.pass i).Leaves
  same : ∀ i, j ≤ i → i < k → p.stored (i + 1) = p.left i

/-- That of a cluster no pass has given a phase since one has left it, or since the start. -/
def IsGone (k : Nat) : Prop :=
  ∀ j < k, (p.pass j).ComesToPhase → ∃ i < k, j ≤ i ∧ (p.pass i).Leaves

variable {p}

theorem Keeps.earlier {i : Nat} (h : p.Keeps j k) (hj : j ≤ i) (hk : i ≤ k) : p.Keeps j i where
  le := hj
  gives := h.gives
  losesNothing l hl hle := h.losesNothing l hl (hle.trans hk)
  stays l hl hle := h.stays l hl (hle.trans hk)
  same l hl hlt := h.same l hl (hlt.trans_le hk)

theorem counted_succ (counted : Option String) : countedAfter ref counted (p.turns (k + 1)) =
    countedAfter ref (countedAfter ref counted (p.turns k)) (p.pass k).trace := countedAfter_append

theorem exists_of_mem_turns {turn : Turn Call.Answer} (h : turn ∈ p.turns k) :
    ∃ i, turn ∈ (p.pass i).trace := by
  induction k with
  | zero => cases h
  | succ k ih => exact (List.mem_append.mp h).elim ih fun hlast => ⟨k, hlast⟩

/-- A pass that gives the cluster a phase has told the one that it stores, unless that is that the
cluster is being deleted. -/
theorem counted_of_givesPhase (h : (p.pass k).GivesPhase) : p.phaseLeft k = .deleting ∨
    countedAfter ref none (p.turns (k + 1)) = some (p.phaseLeft k).name := by
  rw [counted_succ]
  rcases PassRun.told_of_givesPhase (p.reads k) (p.named k) h with htold | hdeleting
  · exact .inr (countedAfter_of_told htold)
  · exact .inl hdeleting

/-- **At the end of a pass a cluster is counted under the phase that is stored**, unless its
deletion is recorded. -/
theorem counted_of_keeps (h : p.Keeps j k) : p.phaseLeft k = .deleting ∨
    countedAfter ref none (p.turns (k + 1)) = some (p.phaseLeft k).name := by
  have hle := h.le
  induction k, hle using Nat.le_induction with
  | base => exact counted_of_givesPhase h.gives
  | succ k hle ih =>
    rcases h.losesNothing (k + 1) (Nat.lt_succ_of_le hle) le_rfl with hgives | hidle
    · exact counted_of_givesPhase hgives
    · -- A pass that does not come to the phase leaves what is stored and what is counted.
      have hsilent := PassRun.silent_of_idle (h.stays (k + 1) (Nat.le_succ_of_le hle) le_rfl) hidle
      have hsame : p.left (k + 1) = p.left k := by
        unfold left
        rw [storedAfter_of_keepsStatus hsilent.kept]
        exact h.same k hle (Nat.lt_succ_self k)
      rw [counted_succ, countedAfter_of_untold hsilent.untold]
      unfold phaseLeft at ih ⊢
      rw [hsame]
      exact ih (h.earlier hle (Nat.le_succ k))

/-- **A cluster that is gone is not counted.** -/
theorem counted_of_isGone (h : p.IsGone k) : countedAfter ref none (p.turns k) = none := by
  induction k with
  | zero => rfl
  | succ k ih =>
    rw [counted_succ]
    -- A pass that leaves the cluster says so; any other comes to no phase, or a later one would
    -- have had to leave it.
    by_cases hleaves : (p.pass k).Leaves
    · exact countedAfter_of_told (PassRun.told_of_leaves hleaves)
    · have hidle : ¬ (p.pass k).ComesToPhase := by
        intro hcomes
        obtain ⟨i, hlt, hle, hgone⟩ := h k (Nat.lt_succ_self k) hcomes
        exact hleaves (Nat.le_antisymm hle (Nat.le_of_lt_succ hlt) ▸ hgone)
      have hearlier : p.IsGone k := by
        intro j hj hcomes
        obtain ⟨i, hlt, hle, hgone⟩ := h j (Nat.lt_succ_of_lt hj) hcomes
        refine ⟨i, Nat.lt_of_le_of_ne (Nat.le_of_lt_succ hlt) fun heq => ?_, hle, hgone⟩
        exact hleaves (heq ▸ hgone)
      obtain ⟨write, hcourse⟩ := phaseRun_of_runs (p.pass k).runs
      cases write with
      | none =>
        rw [countedAfter_of_untold (PassRun.silent_of_idle hleaves hcourse).untold]
        exact ih hearlier
      | some written => exact absurd ⟨written, hcourse⟩ hidle

end Passes

/-! ## Any number of clusters -/

/-- The passes over the clusters of every name. -/
abbrev Clusters := ∀ ref : ClusterRef, Passes ref

namespace Log

variable {log : Log} {clusters : Clusters} {ref : ClusterRef} {j k : Nat}

/-- That a log interleaves the passes of all clusters: of every cluster it has some passes to their
end and a part of the next. -/
def Interleaves (log : Log) (clusters : Clusters) : Prop :=
  ∀ ref, ∃ k current, log.turnsOf ref = (clusters ref).turns k ++ current ∧
    current <+: ((clusters ref).pass k).trace

/-- That a number of passes over a cluster have come to their end, and no other has begun. -/
def Ended (log : Log) (clusters : Clusters) (ref : ClusterRef) (k : Nat) : Prop :=
  log.turnsOf ref = (clusters ref).turns k

/-- That the phases are counted right. The metric is global while a pass knows one cluster only; the
first two clauses are about each cluster by itself, and the last one about what is written out for
all of them. -/
structure CountsPhases (log : Log) (clusters : Clusters) : Prop where
  /-- A cluster that is there is counted under the phase that is stored at the end of its pass. -/
  follows : ∀ ref j k, log.Ended clusters ref (k + 1) → (clusters ref).Keeps j k →
    (clusters ref).phaseLeft k ≠ .deleting → log.phase? ref = some ((clusters ref).phaseLeft k).name
  /-- A cluster that is gone, or was given no phase yet, is not counted. -/
  gone : ∀ ref k, log.Ended clusters ref k → (clusters ref).IsGone k → log.phase? ref = none
  /-- Under a label there is the number of the clusters that are counted under it, and no label
  without clusters. -/
  totals : ∀ label n, (label, n) ∈ log.metrics.phaseTotals ↔
    0 < n ∧ ∃ refs : Finset ClusterRef,
      (∀ ref, ref ∈ refs ↔ log.phase? ref = some label) ∧ refs.card = n
  labels : (log.metrics.phaseTotals.map (·.1)).Nodup

theorem interleaves_of_ended (h : ∀ ref, ∃ k, log.Ended clusters ref k) :
    log.Interleaves clusters := by
  intro ref
  obtain ⟨k, hended⟩ := h ref
  exact ⟨k, [], by rw [List.append_nil]; exact hended, List.nil_prefix⟩

theorem tellsOwn_of_interleaves (h : log.Interleaves clusters) :
    ∀ entry ∈ log, ∀ told, entry.2.question.toldPhase? = some told → told.1 = entry.1 := by
  rintro ⟨ref, turn⟩ hmem told htold
  obtain ⟨k, current, hturns, hcurrent⟩ := h ref
  have hturn : turn ∈ (clusters ref).turns k ++ current := hturns ▸ mem_turnsOf.mpr hmem
  obtain ⟨i, hi⟩ : ∃ i, turn ∈ ((clusters ref).pass i).trace := by
    rcases List.mem_append.mp hturn with hdone | hnow
    · exact Passes.exists_of_mem_turns hdone
    · exact ⟨k, hcurrent.mem hnow⟩
  exact PassRun.eq_of_told ((clusters ref).named i) told (List.mem_filterMap.mpr ⟨turn, hi, htold⟩)

/-- **However the passes over the clusters are interleaved, their phases are counted right.** A pass
tells phases of its own cluster only, so what is counted for one cluster depends on its passes
alone. -/
theorem countsPhases_of_interleaves (h : log.Interleaves clusters) : log.CountsPhases clusters := by
  have hown (ref : ClusterRef) : log.phase? ref = countedAfter ref none (log.turnsOf ref) :=
    log.phase?_eq (tellsOwn_of_interleaves h)
  constructor
  case follows =>
    intro ref j k hended hkeeps hkept
    rw [hown, hended]
    exact (Passes.counted_of_keeps hkeeps).resolve_left hkept
  case gone =>
    intro ref k hended hgone
    rw [hown, hended]
    exact Passes.counted_of_isGone hgone
  case totals => exact fun label n => Metrics.mem_phaseTotals_iff log.nodup_phases
  case labels => exact Metrics.nodup_phaseTotals

end Log

/-! ## Clusters of which few are read -/

namespace Passes

variable {ref other : ClusterRef}

/-- The passes of a history in which every pass reads the cluster that it asks for. -/
def ofHistory (h : History ref) (hnamed : ∀ k, (h.pass k).ReadsNamed) : Passes ref where
  pass := h.pass
  stored := h.stored
  reads := h.reads
  next _ := .inl rfl
  named := hnamed

theorem readsNamed_unreadPass : (unreadPass ref).ReadsNamed := by
  intro cluster hread
  cases Option.some.inj hread

/-- Passes that never read a cluster. -/
def unread (ref : ClusterRef) : Passes ref where
  pass _ := unreadPass ref
  stored _ := none
  reads _ := ⟨trivial, trivial⟩
  next _ := .inl rfl
  named _ := readsNamed_unreadPass

/-- Clusters of which only those of two names are read. -/
def beside (p : Passes ref) (q : Passes other) : Clusters :=
  Function.update (Function.update unread other q) ref p

variable {p : Passes ref} {q : Passes other} {log : Log} {k l : Nat}

theorem beside_left : p.beside q ref = p := Function.update_self ..

theorem beside_right (hne : other ≠ ref) : p.beside q other = q := by
  unfold beside
  rw [Function.update_of_ne hne, Function.update_self]

theorem ended_left (h : log.turnsOf ref = p.turns k) : log.Ended (p.beside q) ref k := by
  unfold Log.Ended
  rw [h, beside_left]

theorem ended_right (hne : other ≠ ref) (h : log.turnsOf other = q.turns l) :
    log.Ended (p.beside q) other l := by
  unfold Log.Ended
  rw [h, beside_right hne]

/-- A log of passes over the two clusters, all at their end, has nothing to do with a third. -/
theorem interleaves_beside (hne : other ≠ ref) (hp : log.turnsOf ref = p.turns k)
    (hq : log.turnsOf other = q.turns l)
    (hthird : ∀ third, third ≠ ref → third ≠ other → log.turnsOf third = []) :
    log.Interleaves (p.beside q) := by
  refine Log.interleaves_of_ended fun third => ?_
  by_cases hleft : third = ref
  · subst hleft
    exact ⟨k, ended_left hp⟩
  by_cases hright : third = other
  · subst hright
    exact ⟨l, ended_right hne hq⟩
  · refine ⟨0, ?_⟩
    unfold Log.Ended beside
    rw [Function.update_of_ne hleft, Function.update_of_ne hright]
    exact hthird third hleft hright

end Passes

/-! ## A cluster whose deletion gets stuck, and one that goes -/

/-- The cluster without servers, in any namespace. -/
def emptied (space : String) : Cluster :=
  { serverless "5.26.0" with
    metadata := { (serverless "5.26.0").metadata with «namespace» := some space } }

theorem refused_emptied (space : String) :
    Refused (emptied space) (.validation serverlessFaults) where
  kept := rfl
  claimed := refused_serverless.claimed
  invalid := (validateCluster_congr rfl rfl).trans refused_serverless.invalid

/-- The cluster without servers, with the faults recorded. -/
def faulty (space : String) : Cluster :=
  (refusal (emptied space) serverlessFaults .epoch (emptied space)).2

/-- A pass that records the faults. -/
def refusingPass (space : String) : PassRun ⟨space, "db"⟩ where
  operator := impatient
  trace := opening ⟨space, "db"⟩ (emptied space) .epoch ++
    telling (emptied space) serverlessFaults ++
    [⟨.getCluster ⟨space, "db"⟩, .ok (some (emptied space))⟩,
      ⟨.replaceStatus (faulty space), .ok (faulty space)⟩]
  result := .error (.validation serverlessFaults)
  runs := by
    refine runs_bind.mpr (.inl ⟨_, rfl, runs_reconcileCluster.mpr (.inr ⟨_, _, rfl, ?_⟩)⟩)
    rw [goOn_of_refused (refused_emptied space)]
    exact runs_call_bind.mpr ⟨_, _, rfl, .ask _ (.ask _ (.ask _ (.ask _ (.done _))))⟩

/-- A cluster with its faults recorded, after its deletion is requested. -/
def doomed : Cluster :=
  { faulty "data" with
    metadata := { (faulty "data").metadata with deletionTimestamp := some .epoch } }

/-- A pass that records the deletion and then fails at a hook. -/
def stuckPass : PassRun ⟨"data", "db"⟩ where
  operator := { settings := impatient.settings, hooks := ["snapshots"] }
  trace := [⟨.getCluster ⟨"data", "db"⟩, .ok (some doomed)⟩,
    ⟨.getCluster ⟨"data", "db"⟩, .ok (some doomed)⟩,
    ⟨.replaceStatus (setDeleting doomed).2, .ok doomed⟩,
    ⟨.runHook 0 doomed, .error .serialization⟩,
    ⟨.publishEvent doomed (cleanupFailed "snapshots" .serialization), ()⟩]
  result := .error .serialization
  runs := by
    refine runs_bind.mpr (.inl ⟨_, rfl, runs_reconcileCluster.mpr (.inr ⟨_, _, rfl, ?_⟩)⟩)
    exact .ask _ (.ask _ (.ask _ (.ask _ (.done _))))

/-- A pass that finds a cluster gone. -/
def gonePass : PassRun ⟨"spare", "db"⟩ where
  operator := impatient
  trace := [⟨.getCluster ⟨"spare", "db"⟩, .ok none⟩,
    ⟨.measure ⟨"spare", "db"⟩ (.phase none), ()⟩, ⟨.stopwatch, 0⟩,
    ⟨.measure ⟨"spare", "db"⟩ (.reconcile 0), ()⟩, ⟨.now, .epoch⟩, ⟨.markReconciled 0, ()⟩]
  result := .ok none
  runs := .ask _ (.ask _ (.ask _ (.ask _ (.ask _ (.ask _ (.done _))))))

theorem chained_neglected :
    Chained (emptied "data").status [refusingPass "data", stuckPass] :=
  ⟨⟨rfl, trivial, trivial, trivial, rfl, trivial, trivial⟩,
    ⟨rfl, rfl, trivial, trivial, trivial, trivial⟩, trivial⟩

theorem chained_departed : Chained (emptied "spare").status [refusingPass "spare", gonePass] :=
  ⟨⟨rfl, trivial, trivial, trivial, rfl, trivial, trivial⟩,
    ⟨trivial, trivial, trivial, trivial, trivial, trivial, trivial⟩, trivial⟩

/-- The passes over a cluster up to the failing hook. -/
def neglected : Passes ⟨"data", "db"⟩ :=
  .ofHistory (.ofChained chained_neglected) fun k => by
    match k with
    | 0 | 1 =>
      intro cluster hread
      cases Option.some.inj hread
      rfl
    | k + 2 => exact Passes.readsNamed_unreadPass

/-- The passes over a cluster that is gone after the first. -/
def departed : Passes ⟨"spare", "db"⟩ :=
  .ofHistory (.ofChained chained_departed) fun k => by
    match k with
    | 0 =>
      intro cluster hread
      cases Option.some.inj hread
      rfl
    | 1 =>
      intro cluster hread
      cases Option.some.inj hread
    | k + 2 => exact Passes.readsNamed_unreadPass

theorem givesPhase_refusingPass (space : String) : (refusingPass space).GivesPhase := by
  have hwrites : WritesStatus ⟨space, "db"⟩ (refusingPass space).operator.settings.retryPolicy
      (refusal (emptied space) serverlessFaults .epoch) (refusingPass space).trace
      (.ok (some (faulty space))) := by
    refine ⟨opening ⟨space, "db"⟩ (emptied space) .epoch ++
      telling (emptied space) serverlessFaults, _, [], rfl, ?_, by simp,
      .written 0 1 (emptied space) (faulty space) rfl⟩
    exact forall_telling trivial trivial trivial trivial
  exact ⟨faulty space, .refused rfl (refused_emptied space) hwrites rfl⟩

theorem givesPhase_stuckPass : stuckPass.GivesPhase := by
  refine ⟨doomed, .marked rfl rfl rfl (by decide) ?_ (.inr ⟨rfl, _, rfl⟩)⟩
  refine ⟨[⟨.getCluster ⟨"data", "db"⟩, .ok (some doomed)⟩], _,
    [⟨.runHook 0 doomed, .error .serialization⟩,
      ⟨.publishEvent doomed (cleanupFailed "snapshots" .serialization), ()⟩], rfl, ?_, ?_,
    .written 0 1 doomed doomed rfl⟩
  · rw [List.forall_mem_singleton]
    trivial
  · simp [Call.KeepsStatus]

/-- A pass that has found a cluster and fails does not leave it. -/
theorem PassRun.stays_of_error {ref : ClusterRef} {pass : PassRun ref} {cluster : Cluster}
    {f : Failure} (hread : pass.trace.head? = some ⟨.getCluster ref, .ok (some cluster)⟩)
    (hfailed : pass.result = .error f) : ¬ pass.Leaves := by
  rintro (hgone | ⟨_, _, -, -, -, hok⟩)
  · cases hread.symm.trans hgone
  · cases hfailed.symm.trans hok

theorem stays_refusingPass (space : String) : ¬ (refusingPass space).Leaves :=
  PassRun.stays_of_error rfl rfl

theorem stays_stuckPass : ¬ stuckPass.Leaves := PassRun.stays_of_error rfl rfl

theorem Passes.keeps_self {ref : ClusterRef} {p : Passes ref} {k : Nat}
    (hgives : (p.pass k).GivesPhase) (hstays : ¬ (p.pass k).Leaves) : p.Keeps k k where
  le := le_rfl
  gives := hgives
  losesNothing i hlt hle := absurd hlt (Nat.not_lt.mpr hle)
  stays i hle hge := by
    rw [Nat.le_antisymm hge hle]
    exact hstays
  same i hle hlt := absurd hlt (Nat.not_lt.mpr hle)

theorem keeps_stuckPass : neglected.Keeps 0 1 where
  le := Nat.zero_le 1
  gives := givesPhase_refusingPass "data"
  losesNothing i hlt hle := by
    rw [Nat.le_antisymm hle hlt]
    exact .inl givesPhase_stuckPass
  stays i _ hle := by
    rcases Nat.le_one_iff_eq_zero_or_eq_one.mp hle with rfl | rfl
    · exact stays_refusingPass "data"
    · exact stays_stuckPass
  same i _ _ := rfl

theorem isGone_departed : departed.IsGone 2 := fun _ hj _ =>
  ⟨1, Nat.one_lt_two, Nat.le_of_lt_succ hj, .inl rfl⟩

namespace Log

/-- The log of two clusters that are refused at the same time: each pass is cut in two by the
other. -/
def crossing : Log :=
  single ⟨"data", "db"⟩ ((refusingPass "data").trace.take 3) ++
    single ⟨"spare", "db"⟩ ((refusingPass "spare").trace.take 2) ++
    single ⟨"data", "db"⟩ ((refusingPass "data").trace.drop 3) ++
    single ⟨"spare", "db"⟩ ((refusingPass "spare").trace.drop 2)

/-- The log when one of them has then been found to be gone. -/
def crossed : Log := crossing ++ single ⟨"spare", "db"⟩ gonePass.trace

theorem turnsOf_crossing {ref : ClusterRef} (hdata : ref ≠ ⟨"data", "db"⟩)
    (hspare : ref ≠ ⟨"spare", "db"⟩) : crossing.turnsOf ref = [] := by
  unfold crossing
  simp only [turnsOf_append, turnsOf_single, if_neg hdata.symm, if_neg hspare.symm, List.append_nil]

theorem turnsOf_crossed {ref : ClusterRef} (hdata : ref ≠ ⟨"data", "db"⟩)
    (hspare : ref ≠ ⟨"spare", "db"⟩) : crossed.turnsOf ref = [] := by
  unfold crossed
  rw [turnsOf_append, turnsOf_crossing hdata hspare, turnsOf_single, if_neg hspare.symm]
  rfl

/-- Two clusters are counted as failed while the faults of both are recorded, and one when the other
is found to be gone. -/
theorem countsPhases_crossing :
    (crossing.Interleaves (neglected.beside departed) ∧
      crossing.CountsPhases (neglected.beside departed) ∧
      (∀ ref ∈ [⟨"data", "db"⟩, ⟨"spare", "db"⟩], crossing.Ended (neglected.beside departed) ref 1 ∧
        (neglected.beside departed ref).Keeps 0 0 ∧
        (neglected.beside departed ref).phaseLeft 0 = .failed) ∧
      crossing.metrics.phaseTotals = [("Failed", 2)]) ∧
    crossed.Interleaves (neglected.beside departed) ∧
      crossed.CountsPhases (neglected.beside departed) ∧
      crossed.Ended (neglected.beside departed) ⟨"spare", "db"⟩ 2 ∧
      (neglected.beside departed ⟨"spare", "db"⟩).IsGone 2 ∧
      crossed.metrics.phaseTotals = [("Failed", 1)] := by
  have hne : (⟨"spare", "db"⟩ : ClusterRef) ≠ ⟨"data", "db"⟩ := by decide
  -- Neither log depends on what the passes over other names do, which is why all the others may be
  -- left unread.
  have hcrossing : crossing.Interleaves (neglected.beside departed) :=
    Passes.interleaves_beside (k := 1) (l := 1) hne rfl rfl fun _ => turnsOf_crossing
  have hcrossed : crossed.Interleaves (neglected.beside departed) :=
    Passes.interleaves_beside (k := 1) (l := 2) hne rfl rfl fun _ => turnsOf_crossed
  refine ⟨⟨hcrossing, countsPhases_of_interleaves hcrossing, ?_, by decide⟩,
    hcrossed, countsPhases_of_interleaves hcrossed, Passes.ended_right hne rfl, ?_, by decide⟩
  · intro ref href
    rcases List.mem_pair.mp href with rfl | rfl
    · refine ⟨Passes.ended_left rfl, ?_⟩
      rw [Passes.beside_left]
      exact ⟨Passes.keeps_self (givesPhase_refusingPass "data") (stays_refusingPass "data"), rfl⟩
    · refine ⟨Passes.ended_right hne rfl, ?_⟩
      rw [Passes.beside_right hne]
      exact ⟨Passes.keeps_self (givesPhase_refusingPass "spare") (stays_refusingPass "spare"), rfl⟩
  · rw [Passes.beside_right hne]
    exact isGone_departed

/-- **A cluster whose deletion is recorded is not counted under the phase that is stored**: after a
hook has failed, it is still counted under the one before. -/
theorem not_follows_neglected :
    ¬ ∀ (log : Log) (clusters : Clusters), log.Interleaves clusters →
      ∀ ref j k, log.Ended clusters ref (k + 1) → (clusters ref).Keeps j k →
        log.phase? ref = some ((clusters ref).phaseLeft k).name := by
  intro hall
  let log := single ⟨"data", "db"⟩ (neglected.turns 2)
  have hinterleaves : log.Interleaves (neglected.beside departed) :=
    Passes.interleaves_beside (k := 2) (l := 0) (by decide) rfl rfl fun _ hne _ =>
      turnsOf_single.trans (if_neg hne.symm)
  have hself : neglected.beside departed ⟨"data", "db"⟩ = neglected := Passes.beside_left
  have hcounted := hall log _ hinterleaves ⟨"data", "db"⟩ 0 1 (Passes.ended_left rfl)
    (hself ▸ keeps_stuckPass)
  rw [hself] at hcounted
  revert hcounted
  decide

end Log

end ClusterOperator
