import ClusterOperator.Pass.Report

/-!
# Conditions that are told again

Every pass tells seven findings, one of each kind, whether or not there is news. A finding is put
over the condition of its kind, and the time of that condition is kept if its status is the same.
What matters is then what a list *shows*: that its first condition of a kind says what a finding
says, since whenever.

> **`Situation.announce_announce`** — telling the findings of a situation once more changes nothing,
> at whatever time.

A list may hold several conditions of one type, or conditions of other types: nothing is assumed of
the one that the first telling starts from.
-/

set_option autoImplicit false

namespace ClusterOperator

theorem ConditionKind.name_injective {a b : ConditionKind} (h : a.name = b.name) : a = b := by
  cases a <;> cases b <;> first | rfl | exact absurd h (by decide)

/-- What a pass finds out about one condition. It has neither a time nor a generation: these come
with the pass that sets it, and only what is found can be found again. -/
structure Finding where
  kind : ConditionKind
  holds : Bool
  reason : String
  message : String

namespace Finding

def condition (f : Finding) (generation : Option Int64) (time : String) : Condition :=
  .of f.kind f.holds f.reason f.message generation time

/-- That the first condition of its kind says what a finding says. The time is left open, since it
is that of the last change and not of this pass. -/
def Shown (f : Finding) (generation : Option Int64) (conditions : List Condition) : Prop :=
  ∃ time, findCondition? conditions f.kind = some (f.condition generation time)

variable {f g : Finding} {generation : Option Int64} {conditions : List Condition} {time : String}

theorem findCondition?_cons_of_eq {first : Condition} {kind : ConditionKind}
    (h : first.type = kind.name) : findCondition? (first :: conditions) kind = some first :=
  List.find?_cons_of_pos (by simpa using h)

theorem findCondition?_cons_of_ne {first : Condition} {kind : ConditionKind}
    (h : first.type ≠ kind.name) :
    findCondition? (first :: conditions) kind = findCondition? conditions kind :=
  List.find?_cons_of_neg (by simpa using h)

theorem replacing_condition (f : Finding) (generation : Option Int64) (time : String)
    (old : Condition) : ∃ since,
      (f.condition generation time).replacing old = f.condition generation since := by
  unfold Condition.replacing
  split
  · exact ⟨old.lastTransitionTime, rfl⟩
  · exact ⟨time, rfl⟩

theorem shown_put : f.Shown generation ((f.condition generation time).put conditions) := by
  induction conditions with
  | nil => exact ⟨time, findCondition?_cons_of_eq rfl⟩
  | cons first rest ih =>
    unfold Condition.put
    by_cases hsame : first.type = (f.condition generation time).type
    · obtain ⟨since, hreplaced⟩ := f.replacing_condition generation time first
      rw [if_pos hsame, hreplaced]
      exact ⟨since, findCondition?_cons_of_eq rfl⟩
    · rw [if_neg hsame]
      obtain ⟨since, hshown⟩ := ih
      exact ⟨since, (findCondition?_cons_of_ne hsame).trans hshown⟩

/-- A finding of one kind leaves the conditions of the others. -/
theorem findCondition?_put_of_ne {kind : ConditionKind} (hne : kind ≠ g.kind) :
    findCondition? ((g.condition generation time).put conditions) kind =
      findCondition? conditions kind := by
  have hother : ∀ since, (g.condition generation since).type ≠ kind.name := fun _ hsame =>
    hne (ConditionKind.name_injective hsame).symm
  -- A condition is put at the first place of its type, so the list is looked through in step with
  -- the search for the other kind.
  induction conditions with
  | nil => exact findCondition?_cons_of_ne (hother time)
  | cons first rest ih =>
    unfold Condition.put
    by_cases hsame : first.type = (g.condition generation time).type
    · obtain ⟨since, hreplaced⟩ := g.replacing_condition generation time first
      rw [if_pos hsame, hreplaced, findCondition?_cons_of_ne (hother since),
        findCondition?_cons_of_ne (hsame ▸ hother time)]
    · rw [if_neg hsame]
      by_cases hfirst : first.type = kind.name
      · rw [findCondition?_cons_of_eq hfirst, findCondition?_cons_of_eq hfirst]
      · rw [findCondition?_cons_of_ne hfirst, findCondition?_cons_of_ne hfirst, ih]

/-- **A finding that is shown already changes nothing**, not even the time. -/
theorem put_of_shown (h : f.Shown generation conditions) :
    (f.condition generation time).put conditions = conditions := by
  obtain ⟨since, h⟩ := h
  induction conditions with
  | nil => cases h
  | cons first rest ih =>
    unfold Condition.put
    by_cases hsame : first.type = (f.condition generation time).type
    · rw [findCondition?_cons_of_eq hsame] at h
      cases h
      have hkept : (f.condition generation time).replacing (f.condition generation since) =
          f.condition generation since := if_pos rfl
      rw [if_pos hsame, hkept]
    · rw [findCondition?_cons_of_ne hsame] at h
      rw [if_neg hsame, ih h]

end Finding

/-! ## Several findings -/

namespace ConditionUpdate

def put (u : ConditionUpdate) (f : Finding) : ConditionUpdate :=
  u.set f.kind f.holds f.reason f.message

/-- Sets the condition of each finding. -/
def tell (u : ConditionUpdate) (findings : List Finding) : ConditionUpdate := findings.foldl put u

variable {u : ConditionUpdate} {findings : List Finding} {f : Finding}

theorem conditions_put : (u.put f).conditions =
    (f.condition u.generation u.now.toText).put u.conditions := rfl

theorem put_of_shown (h : f.Shown u.generation u.conditions) : u.put f = u := by
  have hsame : (u.put f).conditions = u.conditions := conditions_put.trans (Finding.put_of_shown h)
  show { u with conditions := (u.put f).conditions } = u
  rw [hsame]

theorem generation_tell (u : ConditionUpdate) : (u.tell findings).generation = u.generation := by
  induction findings generalizing u with
  | nil => rfl
  | cons first rest ih => exact ih (u.put first)

theorem shown_tell_of_shown (hother : f.kind ∉ findings.map (·.kind))
    (h : f.Shown u.generation u.conditions) :
    f.Shown u.generation (u.tell findings).conditions := by
  induction findings generalizing u with
  | nil => exact h
  | cons first rest ih =>
    rw [List.map_cons, List.mem_cons, not_or] at hother
    refine ih (u := u.put first) hother.2 ?_
    obtain ⟨since, h⟩ := h
    exact ⟨since, (Finding.findCondition?_put_of_ne hother.1).trans h⟩

theorem shown_tell (hkinds : (findings.map (·.kind)).Nodup) (hf : f ∈ findings) :
    f.Shown u.generation (u.tell findings).conditions := by
  induction findings generalizing u with
  | nil => cases hf
  | cons first rest ih =>
    obtain ⟨hfirst, hrest⟩ := List.nodup_cons.mp hkinds
    rcases List.mem_cons.mp hf with rfl | hf
    · exact shown_tell_of_shown (u := u.put f) hfirst Finding.shown_put
    · exact ih (u := u.put first) hrest hf

theorem tell_of_shown (h : ∀ f ∈ findings, f.Shown u.generation u.conditions) :
    u.tell findings = u := by
  induction findings with
  | nil => rfl
  | cons first rest ih =>
    obtain ⟨hfirst, hrest⟩ := List.forall_mem_cons.mp h
    rw [tell, List.foldl_cons, put_of_shown hfirst]
    exact ih hrest

/-- **Findings that are told again change nothing**, if they are of different kinds. -/
theorem tell_tell (hkinds : (findings.map (·.kind)).Nodup) (now : Instant) :
    ({ u.tell findings with now } : ConditionUpdate).tell findings =
      { u.tell findings with now } := by
  refine tell_of_shown fun f hf => ?_
  show f.Shown (u.tell findings).generation (u.tell findings).conditions
  rw [u.generation_tell]
  exact shown_tell hkinds hf

end ConditionUpdate

/-! ## The findings of a situation -/

namespace Situation

variable {s : Situation}

/-- What is found out about the phase. -/
def phaseFindings (s : Situation) : List Finding :=
  [⟨.ready, s.phase == .running, s.phase.name, s.serversReady ++ ", membership " ++ s.health.name⟩,
    ⟨.progressing, s.progressing, s.phase.name, s.serversReady⟩,
    ⟨.degraded, s.phase == .degraded || s.phase == .splitBrain, s.phase.name, s.serversReady⟩]

/-- Sets every condition as a situation asks for. -/
def announce (s : Situation) (u : ConditionUpdate) : ConditionUpdate :=
  s.setSkewCondition (s.setUpgradeCondition (s.setConfigurationCondition
    (s.setSplitCondition (u.tell s.phaseFindings))))

theorem conditions_eq (s : Situation) : s.conditions =
    (s.announce ⟨s.status.conditions, s.cluster.metadata.generation, s.now⟩).conditions := rfl

/-- That a change sets one finding of a kind, whatever it is applied to. The conditions are set by
functions that branch on the situation; this names what all branches have in common. -/
def Tells (kind : ConditionKind) (change : ConditionUpdate → ConditionUpdate) : Prop :=
  ∃ f : Finding, f.kind = kind ∧ ∀ u, change u = u.put f

theorem tells_set (kind : ConditionKind) (holds : Bool) (reason message : String) :
    Tells kind fun u => u.set kind holds reason message :=
  ⟨⟨kind, holds, reason, message⟩, rfl, fun _ => rfl⟩

theorem tells_setSplitCondition : Tells .splitBrainDetected s.setSplitCondition := by
  unfold setSplitCondition
  cases s.repair with
  | restart | upgradeActive | coolingDown | notNeeded => exact tells_set ..

theorem tells_setConfigurationCondition :
    Tells .configurationPending s.setConfigurationCondition := by
  unfold setConfigurationCondition
  cases s.drift with
  | noOp | apply | debounce => exact tells_set ..

theorem tells_setUpgradeCondition : Tells .upgradeBlocked s.setUpgradeCondition := by
  unfold setUpgradeCondition
  cases s.step?.bind (·.blocked) with
  | none | some => exact tells_set ..

theorem tells_setSkewCondition : Tells .versionSkew s.setSkewCondition := by
  unfold setSkewCondition
  cases s.skewed.isEmpty with
  | true | false => exact tells_set ..

/-- What is announced are findings, one of each kind: those about the phase first, then the one
about a split. -/
theorem exists_findings_of_split {split : Finding} (hsplit : split.kind = .splitBrainDetected)
    (htellsSplit : ∀ u, s.setSplitCondition u = u.put split) : ∃ others : List Finding,
      (s.phaseFindings ++ split :: others).map (·.kind) = ConditionKind.all ∧
        ∀ u, s.announce u = u.tell (s.phaseFindings ++ split :: others) := by
  obtain ⟨drift, hdrift, htellsDrift⟩ := s.tells_setConfigurationCondition
  obtain ⟨gate, hgate, htellsGate⟩ := s.tells_setUpgradeCondition
  obtain ⟨skew, hskew, htellsSkew⟩ := s.tells_setSkewCondition
  -- The list is in the order of the kinds, which is why no kind is set twice.
  refine ⟨[drift, gate, skew], ?_, fun u => ?_⟩
  · rw [List.map_append]
    simp only [List.map_cons, List.map_nil, hsplit, hdrift, hgate, hskew]
    rfl
  · unfold announce ConditionUpdate.tell
    rw [htellsSkew, htellsGate, htellsDrift, htellsSplit, List.foldl_append]
    rfl

theorem exists_findings (s : Situation) : ∃ others : List Finding,
    (s.phaseFindings ++ others).map (·.kind) = ConditionKind.all ∧
      ∀ u, s.announce u = u.tell (s.phaseFindings ++ others) := by
  obtain ⟨split, hsplit, htellsSplit⟩ := s.tells_setSplitCondition
  obtain ⟨others, hkinds, hannounce⟩ := exists_findings_of_split hsplit htellsSplit
  exact ⟨split :: others, hkinds, hannounce⟩

theorem nodup_kinds : ConditionKind.all.Nodup := by decide

/-- **What a situation announces once more changes nothing.** -/
theorem announce_announce (s : Situation) (u : ConditionUpdate) (now : Instant) :
    s.announce { s.announce u with now } = { s.announce u with now } := by
  obtain ⟨others, hkinds, hannounce⟩ := s.exists_findings
  rw [hannounce, hannounce]
  exact ConditionUpdate.tell_tell (hkinds ▸ nodup_kinds) now

theorem generation_announce (s : Situation) (u : ConditionUpdate) :
    (s.announce u).generation = u.generation := by
  obtain ⟨others, -, hannounce⟩ := s.exists_findings
  rw [hannounce]
  exact u.generation_tell

/-- **What is found out about the phase is shown**, whatever the list was before. -/
theorem shown_of_mem_phaseFindings {f : Finding} (hf : f ∈ s.phaseFindings) :
    f.Shown s.cluster.metadata.generation s.conditions := by
  obtain ⟨others, hkinds, hannounce⟩ := s.exists_findings
  rw [conditions_eq, hannounce]
  exact ConditionUpdate.shown_tell (hkinds ▸ nodup_kinds) (List.mem_append_left _ hf)

end Situation

end ClusterOperator
