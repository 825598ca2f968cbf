import ClusterOperator.Proofs.Upgrade.Order

/-!
# What the progress of an upgrade says

The counters of a record are written in every pass that takes a step, from the states of the planned
servers as the pass leaves them: a server that it restarts counts as under way. No counter is read.

> **`counts_progress_step`** — in each class, the counters are numbers of planned servers, upgraded
> are those that the pass sees upgraded, and upgraded, under way and pending add up to the total.

A counter has 32 bits and stops at the largest number. Up to there nothing is lost, and that the
rest that is pending is not negative is due to a server never being both upgraded and under way,
neither as it is found (`unavailable_stateOf`) nor after the choice of restarts
(`mem_states_chooseRestarts`).
-/

set_option autoImplicit false

namespace ClusterOperator

section
variable {α : Type} {a b c : Int32}

theorem toInt_countOf (l : List α) : (countOf l).toInt = min l.length 2147483647 := by
  unfold countOf
  rw [Int32.toInt_ofNat_of_lt (by omega)]

theorem toInt_sub_of_nonneg (ha : 0 ≤ a.toInt) (hb : 0 ≤ b.toInt) :
    (a - b).toInt = a.toInt - b.toInt := by
  have hbelow := Int32.toInt_lt a
  have hbelow' := Int32.toInt_lt b
  rw [Int32.toInt_sub, Int.bmod_eq_of_le (by omega) (by omega)]

theorem toInt_sub_sub_of_nonneg (hb : 0 ≤ b.toInt) (hc : 0 ≤ c.toInt) (hle : b.toInt ≤ a.toInt) :
    (a - b - c).toInt = a.toInt - b.toInt - c.toInt := by
  have hfirst := toInt_sub_of_nonneg (Int.le_trans hb hle) hb
  rw [toInt_sub_of_nonneg (by omega) hc, hfirst]

end

/-! ## States after the choice of restarts -/

theorem planned_chooseRestarts (budget : Nat) (states : List ServerState) :
    (chooseRestarts budget states).1.map (·.planned) = states.map (·.planned) := by
  induction states generalizing budget with
  | nil => simp [chooseRestarts]
  | cons s rest ih =>
    cases budget with
    | zero => simp [chooseRestarts]
    | succ budget =>
      by_cases hs : !s.upgraded && !s.unavailable
      · simp [chooseRestarts, hs, ih budget]
      · simp [chooseRestarts, hs, ih (budget + 1)]

/-- The choice of restarts leaves a state as it is, or marks a server that was not upgraded. -/
theorem mem_states_chooseRestarts {budget : Nat} {states : List ServerState} {s : ServerState}
    (h : s ∈ (chooseRestarts budget states).1) :
    s ∈ states ∨ ∃ t ∈ states, t.upgraded = false ∧ s = { t with unavailable := true } := by
  induction states generalizing budget with
  | nil =>
    simp [chooseRestarts] at h
  | cons t rest ih =>
    -- What the rest of the list gives holds of the whole list, whichever budget is left for it.
    have hrest {budget : Nat} (h : s ∈ (chooseRestarts budget rest).1) :
        s ∈ t :: rest ∨
          ∃ t' ∈ t :: rest, t'.upgraded = false ∧ s = { t' with unavailable := true } := by
      rcases ih h with hmem | ⟨t', ht', hmarked⟩
      · exact .inl (List.mem_cons_of_mem _ hmem)
      · exact .inr ⟨t', List.mem_cons_of_mem _ ht', hmarked⟩
    cases budget with
    | zero =>
      rw [chooseRestarts] at h
      · exact .inl h
      · exact List.cons_ne_nil _ _
    | succ budget =>
      unfold chooseRestarts at h
      by_cases ht : !t.upgraded && !t.unavailable
      · rw [if_pos ht] at h
        rcases List.mem_cons.mp h with rfl | h
        · simp only [Bool.and_eq_true, Bool.not_eq_true'] at ht
          exact .inr ⟨t, List.mem_cons_self, ht.1, rfl⟩
        · exact hrest h
      · rw [if_neg ht] at h
        rcases List.mem_cons.mp h with rfl | h
        · exact .inl List.mem_cons_self
        · exact hrest h

/-! ## The counters of a class -/

/-- What the counters of a class say of its servers. The counters stop at the largest number, so
each is compared with the number of servers up to there; the pending ones, which are a difference,
are sure not to be negative only below it. -/
structure ClassProgress.Counts (c : ClassProgress) (members : List PlannedServer)
    (isUpgraded : PlannedServer → Bool) : Prop where
  total : c.total.toInt = min members.length 2147483647
  upgraded : c.upgraded.toInt = min (members.countP isUpgraded) 2147483647
  sum : c.total.toInt = c.upgraded.toInt + c.inProgress.toInt + c.pending.toInt
  nonneg : 0 ≤ c.total.toInt ∧ 0 ≤ c.upgraded.toInt ∧ 0 ≤ c.inProgress.toInt
  pending_nonneg : members.length ≤ 2147483647 → 0 ≤ c.pending.toInt

/-- What the counters of an upgrade say of the servers in its order. -/
structure UpgradeProgress.Counts (progress : UpgradeProgress) (plan : List PlannedServer)
    (isUpgraded : PlannedServer → Bool) : Prop where
  primaries : progress.primaries.Counts (plan.filter (·.serverClass == .primary)) isUpgraded
  secondaries : progress.secondaries.Counts (plan.filter (·.serverClass == .secondary)) isUpgraded
  total : plan.length ≤ 2147483647 →
    progress.primaries.total.toInt + progress.secondaries.total.toInt = plan.length

/-- That states tell which servers are upgraded, and none of these is under way. A step changes
states by marking the servers it restarts, and this is what survives that. -/
def Tell (states : List ServerState) (isUpgraded : PlannedServer → Bool) : Prop :=
  ∀ s ∈ states, s.upgraded = isUpgraded s.planned ∧ (s.upgraded = true → s.unavailable = false)

section
variable {states : List ServerState} {isUpgraded : PlannedServer → Bool}

theorem Tell.chooseRestarts (h : Tell states isUpgraded) (budget : Nat) :
    Tell (chooseRestarts budget states).1 isUpgraded := by
  intro s hs
  rcases mem_states_chooseRestarts hs with hs | ⟨t, ht, hnot, rfl⟩
  · exact h s hs
  · refine ⟨(h t ht).1, ?_⟩
    intro hupgraded
    exact absurd (hnot.symm.trans hupgraded) Bool.false_ne_true

theorem Tell.disjoint (h : Tell states isUpgraded) :
    states.countP (·.upgraded) + states.countP (·.unavailable) ≤ states.length := by
  have hle : states.countP (·.unavailable) ≤ states.countP fun s => !s.upgraded := by
    refine List.countP_mono_left ?_
    intro s hs hdown
    rw [Bool.not_eq_true']
    by_contra hupgraded
    rw [(h s hs).2 (Bool.of_not_eq_false hupgraded)] at hdown
    exact Bool.false_ne_true hdown
  have hsplit := List.length_eq_countP_add_countP (l := states) (·.upgraded)
  simp only [Bool.not_eq_true, Bool.decide_eq_false] at hsplit
  omega

theorem counts_classProgress (h : Tell states isUpgraded) (serverClass : ServerClass) :
    (classProgress states serverClass).Counts
      ((states.map (·.planned)).filter (·.serverClass == serverClass)) isUpgraded := by
  obtain ⟨members, hmembers⟩ : ∃ members, members =
      states.filter (·.planned.serverClass == serverClass) := ⟨_, rfl⟩
  have htell : Tell members isUpgraded := by
    intro s hs
    rw [hmembers] at hs
    exact h s (List.mem_of_mem_filter hs)
  have hplanned : (states.map (·.planned)).filter (·.serverClass == serverClass) =
      members.map (·.planned) := by
    rw [hmembers, List.filter_map]
    rfl
  have hupgraded : (members.map (·.planned)).countP isUpgraded = members.countP (·.upgraded) := by
    rw [List.countP_map]
    refine List.countP_congr ?_
    intro s hs
    rw [Function.comp_apply, (htell s hs).1]
  have hdisjoint := htell.disjoint
  rw [hplanned]
  unfold classProgress
  dsimp only
  rw [← hmembers]
  have htotal := toInt_countOf members
  have hdone := toInt_countOf (members.filter (·.upgraded))
  have hmoving := toInt_countOf (members.filter (·.unavailable))
  rw [← List.countP_eq_length_filter] at hdone hmoving
  -- The difference cannot fall below zero, because no server is counted in both of the numbers that
  -- are taken away.
  have hpending := toInt_sub_sub_of_nonneg (a := countOf members)
    (b := countOf (members.filter (·.upgraded))) (c := countOf (members.filter (·.unavailable)))
    (by omega) (by omega) (by omega)
  constructor
  case total => rw [List.length_map]; exact htotal
  case upgraded => rw [hupgraded]; exact hdone
  case sum =>
    dsimp only
    omega
  case nonneg =>
    dsimp only
    omega
  case pending_nonneg =>
    intro hshort
    rw [List.length_map] at hshort
    dsimp only
    omega

theorem counts_upgradeProgress (h : Tell states isUpgraded) :
    (upgradeProgress states).Counts (states.map (·.planned)) isUpgraded := by
  have hprimaries := counts_classProgress h .primary
  have hsecondaries := counts_classProgress h .secondary
  refine ⟨hprimaries, hsecondaries, ?_⟩
  intro hshort
  have hsplit := List.length_eq_length_filter_add (l := states.map (·.planned))
    (·.serverClass == .primary)
  have hother : (states.map (·.planned)).filter (fun p => !p.serverClass == .primary) =
      (states.map (·.planned)).filter (·.serverClass == .secondary) := by
    refine List.filter_congr ?_
    intro p _
    cases p.serverClass <;> rfl
  rw [hother] at hsplit
  have htotal : (upgradeProgress states).primaries.total.toInt = _ := hprimaries.total
  have htotal' : (upgradeProgress states).secondaries.total.toInt = _ := hsecondaries.total
  omega

end

/-! ## The counters of a record -/

namespace UpgradeRecord

variable {record : UpgradeRecord} {o : UpgradeObservation}

/-- The states of the planned servers as a step leaves them. -/
def statesLeft (record : UpgradeRecord) (o : UpgradeObservation) : List ServerState :=
  if mayRestart o record.phase (record.step o).move then
    (chooseRestarts (restartBudget o.strategy (record.serverStates o)) (record.serverStates o)).1
  else record.serverStates o

theorem progress_step :
    (record.step o).record.progress = upgradeProgress (record.statesLeft o) := by
  unfold statesLeft
  by_cases hmay : mayRestart o record.phase (record.step o).move
  · rw [if_pos hmay]
    unfold step at hmay ⊢
    simp only at hmay ⊢
    rw [if_pos hmay]
  · rw [if_neg hmay]
    unfold step at hmay ⊢
    simp only at hmay ⊢
    rw [if_neg hmay]

theorem planned_serverStates : (record.serverStates o).map (·.planned) = record.planUsed o := by
  rw [serverStates_eq, List.map_map]
  exact List.map_id _

theorem planned_statesLeft : (record.statesLeft o).map (·.planned) = record.planUsed o := by
  unfold statesLeft
  split
  · rw [planned_chooseRestarts, planned_serverStates]
  · exact planned_serverStates

theorem unavailable_stateOf {p : PlannedServer} (h : (record.stateOf o p).upgraded = true) :
    (record.stateOf o p).unavailable = false := by
  show (!(record.stateOf o p).upgraded && _) = false
  rw [h]
  rfl

theorem tell_statesLeft : Tell (record.statesLeft o) (record.isUpgraded o) := by
  have hstates : Tell (record.serverStates o) (record.isUpgraded o) := by
    intro s hs
    obtain ⟨p, -, rfl⟩ := List.mem_map.mp hs
    exact ⟨rfl, unavailable_stateOf⟩
  unfold statesLeft
  split
  · exact hstates.chooseRestarts _
  · exact hstates

/-- **The progress is counted afresh in every step.** -/
theorem counts_progress_step :
    (record.step o).record.progress.Counts (record.planUsed o) (record.isUpgraded o) := by
  rw [progress_step, ← planned_statesLeft]
  exact counts_upgradeProgress tell_statesLeft

end UpgradeRecord

end ClusterOperator
