import ClusterOperator.Pass.Working
import ClusterOperator.Proofs.Pass.Writing

/-!
# Runs of a working pass

A working pass observes, carries out its effects and writes the status, and each part is reached
only if the one before it went through. `WorkingRun` has one constructor for each place where the
pass may end, and `runs_workingPass` says that it may end nowhere else.

What a run did is then known from what was decided: the situation is tied to the answers that it was
made from (`Observed`), and the calls between observation and status are the effects of the
situation, from the first on (`calls_performAll`).

> **`failsOnlyLast_workingPass`** — once a call of a working pass has failed, the pass asks nothing
> more; only a status write that was overtaken is tried again.
-/

set_option autoImplicit false

namespace ClusterOperator

open Pass

/-! ## Observation -/

section
variable {settings : Settings} {cluster : Cluster} {ref : ClusterRef} {topology : Topology}
  {now : Instant} {trace : Trace}

/-- A call that changes nothing in the store. -/
def Call.IsReading : Call → Prop
  | .listServerPods _ | .readSecret _ _ _ | .askViews _ _ | .askDatabases _ _ => True
  | _ => False

/-- That a situation is what a pass was given and answered. What the servers said of each other is
known only up to how the answers are collected; a single server is not asked, and has no views. -/
structure Observed (settings : Settings) (cluster : Cluster) (ref : ClusterRef)
    (topology : Topology) (now : Instant) (trace : Trace) (s : Situation) : Prop where
  given : s =
    { cluster, ref, topology, settings, now, pods := s.pods, views := s.views, hosted := s.hosted }
  pods : ⟨.listServerPods cluster, .ok s.pods⟩ ∈ trace
  views : (topology.deployment = .standalone ∧ s.views = .empty) ∨
    ∃ targets limits outcomes, (⟨.askViews targets limits, outcomes⟩ : Turn Call.Answer) ∈ trace ∧
      s.views = collectAnswers outcomes

theorem Observed.append {s : Situation} (h : Observed settings cluster ref topology now trace s)
    (more : Trace) : Observed settings cluster ref topology now (trace ++ more) s := by
  refine ⟨h.given, List.mem_append_left _ h.pods, h.views.imp_right ?_⟩
  rintro ⟨targets, limits, outcomes, hmem, hviews⟩
  exact ⟨targets, limits, outcomes, List.mem_append_left _ hmem, hviews⟩

theorem readCredentials_endsOnFailure : EndsOnFailure (readCredentials cluster ref) := by
  unfold readCredentials
  split
  · exact .pure none
  · exact .bind (.readSecret _ _ _) fun value => .pure _

theorem askViews_endsOnFailure {deployment : Deployment} {targets : List ProbeTarget} :
    EndsOnFailure (askViews settings deployment targets) := by
  unfold askViews
  split
  · exact .pure _
  · exact .bind (.call fun _ => rfl) fun outcomes => .pure _

theorem observe_endsOnFailure : EndsOnFailure (observe settings cluster ref topology now) := by
  unfold observe
  refine .bind (.listServerPods cluster) fun pods => ?_
  refine .bind readCredentials_endsOnFailure fun credentials => ?_
  refine .bind askViews_endsOnFailure fun views => ?_
  dsimp only
  split
  · exact .bind (.call fun _ => rfl) fun outcomes => .pure _
  · exact .pure _

theorem isReading_readCredentials : AsksOnly Call.IsReading (readCredentials cluster ref) := by
  unfold readCredentials
  split
  · exact .pure none
  · exact .bind (.readSecret trivial) fun value => .pure _

theorem isReading_askViews {deployment : Deployment} {targets : List ProbeTarget} :
    AsksOnly Call.IsReading (askViews settings deployment targets) := by
  unfold askViews
  split
  · exact .pure _
  · exact .bind (.call trivial) fun outcomes => .pure _

theorem isReading_observe :
    AsksOnly Call.IsReading (observe settings cluster ref topology now) := by
  unfold observe
  refine .bind (.listServerPods trivial) fun pods => ?_
  refine .bind isReading_readCredentials fun credentials => ?_
  refine .bind isReading_askViews fun views => ?_
  dsimp only
  split
  · exact .bind (.call trivial) fun outcomes => .pure _
  · exact .pure _

theorem views_askViews {deployment : Deployment} {targets : List ProbeTarget} {views : Views}
    (h : (askViews settings deployment targets).Runs trace (.ok views)) :
    (deployment = .standalone ∧ views = .empty) ∨
      ∃ targets limits outcomes,
        (⟨.askViews targets limits, outcomes⟩ : Turn Call.Answer) ∈ trace ∧
          views = collectAnswers outcomes := by
  cases deployment with
  | standalone => exact .inl ⟨rfl, Except.ok.inj (runs_pure.mp h).2⟩
  | cluster servers quorum =>
    rcases runs_bind.mp h with ⟨_, hfailed, -⟩ | ⟨_, outcomes, _, rfl, hcall, hreturn⟩
    · cases hfailed
    · obtain ⟨outcomes, rfl, heq⟩ := runs_call.mp hcall
      cases heq
      obtain ⟨rfl, heq⟩ := runs_pure.mp hreturn
      exact .inr ⟨_, _, outcomes, List.mem_cons_self, Except.ok.inj heq⟩

/-- **A situation is what the pass was given and answered.** -/
theorem observed_observe {s : Situation}
    (h : (observe settings cluster ref topology now).Runs trace (.ok s)) :
    Observed settings cluster ref topology now trace s := by
  -- The observation went through, so each of its parts did.
  rcases runs_bind.mp h with ⟨_, hfailed, -⟩ | ⟨_, pods, _, rfl, hpods, h⟩
  · cases hfailed
  rcases runs_bind.mp h with ⟨_, hfailed, -⟩ | ⟨_, credentials, _, rfl, -, h⟩
  · cases hfailed
  rcases runs_bind.mp h with ⟨_, hfailed, -⟩ | ⟨_, views, _, rfl, hviews, h⟩
  · cases hfailed
  have hs : s = { cluster, ref, topology, settings, now, pods, views, hosted := s.hosted } := by
    dsimp only at h
    split at h
    · rcases runs_bind.mp h with ⟨_, hfailed, -⟩ | ⟨_, outcomes, _, rfl, -, hreturn⟩
      · cases hfailed
      · rw [Except.ok.inj (runs_pure.mp hreturn).2]
    · rw [Except.ok.inj (runs_pure.mp h).2]
  rw [runs_listServerPods.mp hpods, hs]
  refine ⟨rfl, List.mem_cons_self, (views_askViews hviews).imp_right ?_⟩
  rintro ⟨targets, limits, outcomes, hmem, hviews⟩
  refine ⟨targets, limits, outcomes, ?_, hviews⟩
  exact List.mem_append_right _ (List.mem_append_right _ (List.mem_append_left _ hmem))

theorem exists_run_askViews {deployment : Deployment} {targets : List ProbeTarget} {views : Views}
    (hsingle : deployment = .standalone → views = .empty)
    (hviews : ∃ outcomes, views = collectAnswers outcomes) :
    ∃ asked, (askViews settings deployment targets).Runs asked (.ok views) := by
  cases deployment with
  | standalone =>
    rw [hsingle rfl]
    exact ⟨[], runs_pure.mpr ⟨rfl, rfl⟩⟩
  | cluster =>
    obtain ⟨outcomes, rfl⟩ := hviews
    exact exists_run_call_bind outcomes ⟨[], runs_pure.mpr ⟨rfl, rfl⟩⟩

/-- **Every situation is found by some pass**, here without credentials and hosted databases. -/
theorem exists_run_observe {s : Situation} (hauth : s.spec.auth = none)
    (hsingle : s.topology.deployment = .standalone → s.views = .empty)
    (hviews : ∃ outcomes, s.views = collectAnswers outcomes) (hhosted : s.hosted = .empty) :
    ∃ seen, (observe s.settings s.cluster s.ref s.topology s.now).Runs seen (.ok s) := by
  obtain ⟨cluster, ref, topology, settings, now, pods, views, hosted⟩ := s
  cases hhosted
  -- No credentials are declared, so none are read, and the servers are asked without any.
  have hcredentials : (readCredentials cluster ref).Runs [] (.ok none) := by
    have hnone : cluster.spec.auth = none := hauth
    unfold readCredentials
    rw [hnone]
    exact runs_pure.mpr ⟨rfl, rfl⟩
  let s : Situation := { cluster, ref, topology, settings, now, pods, views }
  let targets := probeTargets pods none
  obtain ⟨asked, hasked⟩ :
      ∃ asked, (askViews settings topology.deployment targets).Runs asked (.ok views) :=
    exists_run_askViews hsingle hviews
  have hlast : ∃ rest, (if s.needsHosted then do
      let outcomes ← Pass.call (.askDatabases targets settings.probeLimits)
      return { s with hosted := collectAnswers outcomes }
      else return s : Pass Situation).Runs rest (.ok s) := by
    split
    · exact exists_run_call_bind [] ⟨[], runs_pure.mpr ⟨rfl, rfl⟩⟩
    · exact ⟨[], runs_pure.mpr ⟨rfl, rfl⟩⟩
  obtain ⟨rest, hrest⟩ := hlast
  refine ⟨[⟨.listServerPods cluster, .ok pods⟩] ++ ([] ++ (asked ++ rest)), ?_⟩
  refine runs_bind.mpr (.inr ⟨_, pods, _, rfl, runs_listServerPods.mpr rfl, ?_⟩)
  refine runs_bind.mpr (.inr ⟨[], none, _, rfl, hcredentials, ?_⟩)
  exact runs_bind.mpr (.inr ⟨asked, views, rest, rfl, hasked, hrest⟩)

end

/-! ## Effects -/

section
variable {cluster : Cluster} {ref : ClusterRef} {effects : List Effect} {trace : Trace}

/-- The call that carries out an effect. -/
def Effect.call (cluster : Cluster) (ref : ClusterRef) : Effect → Call
  | .measure measurement => .measure ref measurement
  | .publish event => .publishEvent cluster event
  | .apply manifest => .applyManifest cluster manifest
  | .restart _ pod => .deletePod ref.namespace pod

theorem perform_endsOnFailure (effect : Effect) : EndsOnFailure (effect.perform cluster ref) := by
  cases effect with
  | measure | publish => exact .call fun _ => rfl
  | apply => exact .applyManifest _ _
  | restart => exact .deletePod _ _

theorem call_perform {effect : Effect} {result : Except Failure Unit}
    (h : (effect.perform cluster ref).Runs trace result) :
    ∃ turn, trace = [turn] ∧ turn.question = effect.call cluster ref := by
  cases effect with
  | measure | publish =>
    obtain ⟨answer, rfl, -⟩ := runs_call.mp h
    exact ⟨_, rfl, rfl⟩
  | apply => exact ⟨_, runs_applyManifest.mp h, rfl⟩
  | restart => exact ⟨_, runs_deletePod.mp h, rfl⟩

theorem performAll_endsOnFailure : EndsOnFailure (performAll cluster ref effects) := by
  induction effects with
  | nil => exact .pure ()
  | cons effect rest ih => exact .bind (perform_endsOnFailure effect) fun _ => ih

/-- **Effects are carried out in their order**, all of them unless one fails. -/
theorem calls_performAll {result : Except Failure Unit}
    (h : (performAll cluster ref effects).Runs trace result) :
    trace.map (·.question) <+: effects.map (·.call cluster ref) ∧
      (result = .ok () → trace.map (·.question) = effects.map (·.call cluster ref)) := by
  induction effects generalizing trace with
  | nil =>
    obtain ⟨rfl, -⟩ := runs_pure.mp h
    exact ⟨List.nil_prefix, fun _ => rfl⟩
  | cons effect rest ih =>
    rcases runs_bind.mp h with ⟨f, rfl, hfirst⟩ | ⟨_, _, after, rfl, hfirst, hrest⟩
    · obtain ⟨turn, rfl, hturn⟩ := call_perform hfirst
      refine ⟨?_, fun hok => by cases hok⟩
      rw [List.map_singleton, hturn, List.map_cons]
      exact List.prefix_cons_inj _ |>.mpr List.nil_prefix
    · obtain ⟨turn, rfl, hturn⟩ := call_perform hfirst
      obtain ⟨hcalls, hall⟩ := ih hrest
      rw [List.singleton_append, List.map_cons, List.map_cons, hturn]
      exact ⟨(List.prefix_cons_inj _).mpr hcalls, fun hok => by rw [hall hok]⟩

/-- What is asked to carry out effects is what each of them asks. -/
theorem asksOnly_performAll {P : Call → Prop}
    (h : ∀ effect ∈ effects, P (effect.call cluster ref)) :
    AsksOnly P (performAll cluster ref effects) := by
  intro trace result hrun turn hturn
  have hmem := (calls_performAll hrun).1.mem (List.mem_map_of_mem hturn)
  obtain ⟨effect, heffect, hcall⟩ := List.mem_map.mp hmem
  rw [← hcall]
  exact h effect heffect

theorem exists_run_performAll (cluster : Cluster) (ref : ClusterRef) (effects : List Effect) :
    ∃ done, (performAll cluster ref effects).Runs done (.ok ()) := by
  induction effects with
  | nil => exact ⟨[], runs_pure.mpr ⟨rfl, rfl⟩⟩
  | cons effect rest ih =>
    obtain ⟨done, hdone⟩ := ih
    have hfirst : ∃ turn, (effect.perform cluster ref).Runs [turn] (.ok ()) := by
      cases effect with
      | measure measurement => exact ⟨_, runs_call.mpr ⟨(), rfl, rfl⟩⟩
      | publish event => exact ⟨_, runs_call.mpr ⟨(), rfl, rfl⟩⟩
      | apply manifest => exact ⟨_, runs_applyManifest.mpr rfl⟩
      | restart cause pod => exact ⟨_, runs_deletePod.mpr rfl⟩
    obtain ⟨turn, hturn⟩ := hfirst
    exact ⟨[turn] ++ done, runs_bind.mpr (.inr ⟨_, (), _, rfl, hturn, hdone⟩)⟩

end

/-! ## The pass -/

section
variable {settings : Settings} {cluster : Cluster} {ref : ClusterRef} {topology : Topology}
  {now : Instant} {trace : Trace} {result : Except Failure Nat}

/-- The courses that a working pass may take. A pass that fails while it observes has done nothing,
and one that fails at an effect has not written the status: so a status that is stored tells that
all effects were carried out. -/
inductive WorkingRun (settings : Settings) (cluster : Cluster) (ref : ClusterRef)
    (topology : Topology) (now : Instant) : Trace → Except Failure Nat → Prop
  | blind {seen : Trace} {f : Failure}
    (hseen : (observe settings cluster ref topology now).Runs seen (.error f)) :
    WorkingRun settings cluster ref topology now seen (.error f)
  | stopped {seen done : Trace} {s : Situation} {f : Failure}
    (hseen : (observe settings cluster ref topology now).Runs seen (.ok s))
    (hdone : (performAll cluster ref s.effects).Runs done (.error f)) :
    WorkingRun settings cluster ref topology now (seen ++ done) (.error f)
  | through {seen done written : Trace} {s : Situation} {stored : Except Failure (Option Cluster)}
    (hseen : (observe settings cluster ref topology now).Runs seen (.ok s))
    (hdone : (performAll cluster ref s.effects).Runs done (.ok ()))
    (hwritten : Attempts ref .status settings.retryPolicy (setStatus s.nextStatus)
      settings.retryPolicy.tries 1 written stored) :
    WorkingRun settings cluster ref topology now (seen ++ (done ++ written))
      (stored.map fun _ => s.requeue)

theorem runs_workingPass : (workingPass settings cluster ref topology now).Runs trace result ↔
    WorkingRun settings cluster ref topology now trace result := by
  constructor
  · intro h
    -- Part by part: each of them fails, and with it the pass, or gives way to the next.
    rcases runs_bind.mp h with ⟨f, rfl, hseen⟩ | ⟨seen, s, _, rfl, hseen, h⟩
    · exact .blind hseen
    rcases runs_bind.mp h with ⟨f, rfl, hdone⟩ | ⟨done, _, _, rfl, hdone, h⟩
    · exact .stopped hseen hdone
    rcases runs_bind.mp h with ⟨f, rfl, hwritten⟩ | ⟨written, stored, _, rfl, hwritten, h⟩
    · exact .through hseen hdone (runs_modifyWithRetry.mp hwritten)
    · obtain ⟨rfl, rfl⟩ := runs_pure.mp h
      rw [List.append_nil]
      exact .through hseen hdone (runs_modifyWithRetry.mp hwritten)
  · intro h
    cases h with
    | blind hseen => exact runs_bind.mpr (.inl ⟨_, rfl, hseen⟩)
    | stopped hseen hdone =>
      exact runs_bind.mpr (.inr ⟨_, _, _, rfl, hseen, runs_bind.mpr (.inl ⟨_, rfl, hdone⟩)⟩)
    | @through seen done written s stored hseen hdone hwritten =>
      refine runs_bind.mpr (.inr ⟨_, _, _, rfl, hseen, ?_⟩)
      refine runs_bind.mpr (.inr ⟨_, _, _, rfl, hdone, ?_⟩)
      have hwritten := runs_modifyWithRetry.mpr hwritten
      cases stored with
      | error f => exact runs_bind.mpr (.inl ⟨f, rfl, hwritten⟩)
      | ok stored =>
        exact runs_bind.mpr (.inr ⟨written, stored, [], (List.append_nil _).symm, hwritten,
          runs_pure.mpr ⟨rfl, rfl⟩⟩)

/-- **Once a call of a working pass has failed, the pass asks nothing more**, unless the call was a
status write that was overtaken. -/
theorem failsOnlyLast_workingPass
    (h : (workingPass settings cluster ref topology now).Runs trace result) :
    FailsOnlyLast WriteTarget.status.Overtaken trace := by
  cases runs_workingPass.mp h with
  | blind hseen => exact observe_endsOnFailure.failsOnlyLast hseen
  | stopped hseen hdone =>
    exact (performAll_endsOnFailure.failsOnlyLast hdone).append (observe_endsOnFailure.calm hseen)
  | through hseen hdone hwritten =>
    exact (hwritten.failsOnlyLast.append (performAll_endsOnFailure.calm hdone)).append
      (observe_endsOnFailure.calm hseen)

end

end ClusterOperator
