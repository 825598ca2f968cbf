import ClusterOperator.Proofs.Pass.History

/-!
# The application of a pass

A pass that may apply applies one manifest, once. Everything else that it does stands before or
after that, and a pass may break off right there: the application fails, and the pass ends with what
it has told by then.

> **`PassRun.Parts.exists_around`** — a pass that carries out what it decides applies its manifest
> once.

> **`exists_pass_breaking`** — in a situation that permits to apply, the application may fail in any
> way, and then it is the last that the pass does.
-/

set_option autoImplicit false

namespace ClusterOperator

open Pass

def Call.applied? : Call → Option (Cluster × Manifest)
  | applyManifest cluster manifest => some (cluster, manifest)
  | _ => none

theorem applied?_call (cluster : Cluster) (ref : ClusterRef) (effect : Effect) :
    (effect.call cluster ref).applied? = effect.applied?.map (cluster, ·) := by
  cases effect <;> rfl

/-! ## One application -/

namespace Situation

variable (s : Situation)

/-- The effects before and after the application. -/
theorem exists_effects_around (h : s.permitsApply = true) : ∃ told rest,
    s.effects = told ++ .apply s.manifest :: rest ∧ (∀ effect ∈ told, effect.applied? = none) ∧
      ∀ effect ∈ rest, effect.applied? = none := by
  have honly := s.applied_effects
  rw [if_pos h] at honly
  obtain ⟨told, effect, rest, heffects, htold, heffect, hrest⟩ :=
    List.filterMap_eq_cons_iff.mp honly
  refine ⟨told, rest, ?_, htold, fun e he => List.filterMap_eq_nil_iff.mp hrest e he⟩
  cases effect with
  | apply manifest =>
    cases heffect
    exact heffects
  | measure | publish | restart => cases heffect

end Situation

section
variable {ref : ClusterRef} {s : Situation} {cluster : Cluster} {told rest : List Effect}
  {done : Trace} {manifest : Manifest}

/-- What is asked to carry out effects of which none applies a manifest. -/
theorem applied?_of_calls {calls : Trace} {effects : List Effect}
    (heq : calls.map (·.question) = effects.map (·.call cluster ref))
    (hnone : ∀ effect ∈ effects, effect.applied? = none) :
    ∀ turn ∈ calls, turn.question.applied? = none := by
  intro turn hturn
  have hmem : turn.question ∈ effects.map (·.call cluster ref) := heq ▸ List.mem_map_of_mem hturn
  obtain ⟨effect, heffect, hcall⟩ := List.mem_map.mp hmem
  rw [← hcall, applied?_call, hnone effect heffect]
  rfl

theorem applied?_of_isReading : ∀ c : Call, c.IsReading → c.applied? = none := by
  intro c h
  cases c <;> first | rfl | exact h.elim

theorem applied?_of_isCounting : ∀ c : Call, c.IsCounting → c.applied? = none := by
  intro c h
  cases c <;> first | rfl | exact h.elim

theorem applied?_of_mayAsk : ∀ c : Call, WriteTarget.status.MayAsk ref c → c.applied? = none := by
  intro c h
  cases c <;> first | rfl | exact h.elim

theorem applied?_opening {now : Instant} :
    ∀ turn ∈ opening ref cluster now, turn.question.applied? = none := by
  intro turn hturn
  rcases List.mem_pair.mp hturn with rfl | rfl <;> rfl

/-- **A pass that carries out what it decides applies its manifest once.** -/
theorem PassRun.Parts.exists_around {pass : PassRun ref} {seen written counted : Trace}
    (h : pass.Parts s seen done written counted) (hpermits : s.permitsApply = true) :
    ∃ before after, pass.trace = before ++ ⟨.applyManifest s.cluster s.manifest, .ok ()⟩ :: after ∧
      (∀ turn ∈ before, turn.question.applied? = none) ∧
      ∀ turn ∈ after, turn.question.applied? = none := by
  obtain ⟨told, rest, heffects, htold, hrest⟩ := s.exists_effects_around hpermits
  obtain ⟨r, hattempts⟩ := h.written
  have hcalls := (calls_performAll h.done).2 rfl
  -- All effects were carried out, so their calls can be split as the list is, around the one that
  -- applies.
  rw [heffects, List.map_append, List.map_cons] at hcalls
  obtain ⟨before, later, rfl, hbefore, hlater⟩ := List.map_eq_append_iff.mp hcalls
  obtain ⟨turn, after, rfl, hturn, hafter⟩ := List.map_eq_cons_iff.mp hlater
  have hok : turn = ⟨.applyManifest s.cluster s.manifest, .ok ()⟩ :=
    eq_applied hturn (performAll_endsOnFailure.calm h.done turn (by simp))
  refine ⟨opening ref s.cluster s.now ++ (seen ++ before), after ++ (written ++ counted),
    ?_, ?_, ?_⟩
  · rw [h.trace_eq, hok]
    simp only [List.append_assoc, List.cons_append]
  · simp only [List.forall_mem_append]
    exact ⟨applied?_opening, fun turn hturn =>
      applied?_of_isReading _ (isReading_observe _ _ h.seen turn hturn),
      applied?_of_calls hbefore htold⟩
  · simp only [List.forall_mem_append]
    exact ⟨applied?_of_calls hafter hrest, fun turn hturn =>
      applied?_of_mayAsk _ (hattempts.mayAsk turn hturn), fun turn hturn =>
      applied?_of_isCounting _ (h.counted turn hturn)⟩

/-! ## A pass that breaks off -/

/-- Effects up to an application may be carried out, and the application fail. -/
theorem exists_run_performAll_breaking (cluster : Cluster) (ref : ClusterRef)
    (told rest : List Effect) (manifest : Manifest) (f : Failure) :
    ∃ done, (performAll cluster ref (told ++ .apply manifest :: rest)).Runs
        (done ++ [⟨.applyManifest cluster manifest, .error f⟩]) (.error f) ∧
      done.map (·.question) = told.map (·.call cluster ref) := by
  induction told with
  | nil => exact ⟨[], runs_bind.mpr (.inl ⟨f, rfl, runs_applyManifest.mpr rfl⟩), rfl⟩
  | cons effect told ih =>
    obtain ⟨done, hdone, hcalls⟩ := ih
    obtain ⟨first, hfirst⟩ := exists_run_performAll cluster ref [effect]
    rcases runs_bind.mp hfirst with ⟨_, hfailed, -⟩ | ⟨turns, _, after, rfl, heffect, hnothing⟩
    · cases hfailed
    obtain ⟨turn, rfl, hturn⟩ := call_perform heffect
    refine ⟨turn :: done, runs_bind.mpr (.inr ⟨[turn], (), _, rfl, heffect, hdone⟩), ?_⟩
    rw [List.map_cons, List.map_cons, hturn, hcalls]

/-- **An application may fail in any way, and then it is the last that the pass does.** -/
theorem exists_pass_breaking (hs : s.Attainable ref) (hpermits : s.permitsApply = true)
    (f : Failure) : ∃ (pass : PassRun ref) (before after : Trace),
      pass.trace = before ++ ⟨.applyManifest s.cluster s.manifest, .error f⟩ :: after ∧
      (∀ turn ∈ before, turn.question.applied? = none) ∧
      (∀ turn ∈ after, turn.question.applied? = none) ∧
      ReadsStored s.cluster.status pass.trace ∧
      storedAfter s.cluster.status pass.trace = s.cluster.status := by
  obtain ⟨seen, hseen⟩ := exists_run_observe hs.auth hs.single hs.views hs.hosted
  rw [hs.ref_eq] at hseen
  obtain ⟨told, rest, heffects, htold, -⟩ := s.exists_effects_around hpermits
  obtain ⟨done, hdone, hcalls⟩ :=
    exists_run_performAll_breaking s.cluster ref told rest s.manifest f
  rw [← heffects] at hdone
  -- The pass is given up with the failed application, and only counted after it.
  let operator : Operator := { settings := s.settings }
  let last : Turn Call.Answer := ⟨.applyManifest s.cluster s.manifest, .error f⟩
  obtain ⟨counted, hrun, hcounted⟩ :
      ∃ counted, (reconcile operator ref).Runs (opening ref s.cluster s.now ++
          ((seen ++ (done ++ [last])) ++ counted)) _ ∧ ∀ turn ∈ counted, turn.question.IsCounting :=
    exists_run_of_workable hs.workable (runs_workingPass.mpr (.stopped hseen hdone))
  have hreading := isReading_observe _ _ hseen
  have hskips : ∀ turn ∈ (seen ++ (done ++ [last])) ++ counted, turn.question.SkipsStatus := by
    simp only [List.forall_mem_append, List.mem_singleton]
    refine ⟨⟨fun turn hturn => skipsStatus_of_isReading _ (hreading turn hturn), ?_, ?_⟩,
      fun turn hturn => skipsStatus_of_isCounting _ (hcounted turn hturn)⟩
    · have hall : ∀ turn ∈ done ++ [last], turn.question.SkipsStatus :=
        asksOnly_performAll (fun effect _ => by cases effect <;> trivial) _ _ hdone
      exact fun turn hturn => hall turn (List.mem_append_left _ hturn)
    · rintro turn rfl
      trivial
  refine ⟨⟨operator, _, _, hrun⟩, opening ref s.cluster s.now ++ (seen ++ done), counted, ?_, ?_,
    fun turn hturn => applied?_of_isCounting _ (hcounted turn hturn), ?_, ?_⟩
  · simp only [List.append_assoc, List.cons_append, List.nil_append]
    rfl
  · simp only [List.forall_mem_append]
    exact ⟨applied?_opening, fun turn hturn => applied?_of_isReading _ (hreading turn hturn),
      applied?_of_calls hcalls htold⟩
  · exact readsStored_append.mpr ⟨⟨rfl, trivial, trivial⟩, readsStored_of_skipsStatus hskips⟩
  · rw [storedAfter_append]
    exact storedAfter_of_keepsStatus fun turn hturn => (hskips turn hturn).keepsStatus

end

end ClusterOperator
