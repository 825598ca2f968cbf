import ClusterOperator.Proofs.Configuration.Recorded

/-!
# A rollout ends

A configuration that was applied reaches the servers one restart at a time, one a pass. Whether a
server still needs its restart is read off its pod: the pod carries the hash that it was created
with. So that a rollout ends, the hash that is looked for, the one that is applied in the same pass
and the one that pods are then created with have to be the same; if any two of them differed, a
server would be restarted in every pass, or never.

> **`rolled_of_steady`** — while no call to the platform fails and the hash on record stays as it
> is, a pass deletes at most one pod for the configuration, and each pod at most once; and where a
> pass could delete one and deletes none, every declared pod carries the hash or is reported to run
> another image.

The pods are a part of the run (`Fleet`). They become ready or not, terminate and go as they like;
what they cannot do is change the hash that they were created with, and a new one has that of the
manifest applied last. What a deletion leaves is then kept to the end of the run
(`Fleet.Settled.runs`): wherever there is a pod of that name, it is on its way out or has the hash.
-/

set_option autoImplicit false

namespace ClusterOperator

open Pass

/-! ## The pods -/

/-- The pods of a cluster, and the manifest that was applied last, which they are created from. A
pod is known by its name: a new pod of the same name takes the place of one that is gone. -/
structure Fleet where
  template : Option Manifest
  pods : List ServerPod

namespace ServerPod

/-- That a pod has come of another: it may have become ready or not, and it may terminate now. What
it was created with does not change, nor is a termination taken back. -/
structure Becomes (p q : ServerPod) : Prop where
  name : q.name = p.name
  configHash : q.configHash = p.configHash
  image : q.image = p.image
  terminating : p.terminating = true → q.terminating = true

/-- That a pod carries what it gets when it is created from a manifest. -/
structure CreatedFrom (q : ServerPod) (manifest : Manifest) : Prop where
  configHash : q.configHash = some manifest.configHash
  image : q.image = some manifest.image

variable {p q r : ServerPod} {manifest : Manifest}

theorem Becomes.refl (p : ServerPod) : p.Becomes p := ⟨rfl, rfl, rfl, id⟩

theorem Becomes.trans (hpq : p.Becomes q) (hqr : q.Becomes r) : p.Becomes r where
  name := hqr.name.trans hpq.name
  configHash := hqr.configHash.trans hpq.configHash
  image := hqr.image.trans hpq.image
  terminating h := hqr.terminating (hpq.terminating h)

theorem CreatedFrom.becomes (hq : q.CreatedFrom manifest) (hqr : q.Becomes r) :
    r.CreatedFrom manifest where
  configHash := hqr.configHash.trans hq.configHash
  image := hqr.image.trans hq.image

end ServerPod

/-- A call that neither looks at pods nor changes anything about them. -/
def Call.LeavesFleet : Call → Prop
  | .listServerPods _ | .deletePod _ _ | .applyManifest _ _ => False
  | _ => True

namespace Fleet

variable {f g k : Fleet} {s t trace : Trace} {turn : Turn Call.Answer} {hash name : String}

/-- What may become of the pods by itself. Pods may go at any time and new ones appear, but each
that is there is an old one or comes from the applied manifest. -/
structure Moves (f g : Fleet) : Prop where
  template : g.template = f.template
  pods : ∀ q ∈ g.pods,
    (∃ p ∈ f.pods, p.Becomes q) ∨ ∃ manifest, f.template = some manifest ∧ q.CreatedFrom manifest

/-- What a call does that succeeds. A list shows some of the pods and may leave others out; a
deletion is taken on but need not be over, so the pod may still be listed as terminating. -/
inductive Takes : Turn Call.Answer → Fleet → Fleet → Prop
  | listed {f : Fleet} {cluster : Cluster} {pods : List ServerPod} (h : pods ⊆ f.pods) :
    Takes ⟨.listServerPods cluster, .ok pods⟩ f f
  | applied {f : Fleet} {cluster : Cluster} {manifest : Manifest} :
    Takes ⟨.applyManifest cluster manifest, .ok ()⟩ f { f with template := some manifest }
  | deleted {f g : Fleet} {«namespace» name : String} (htemplate : g.template = f.template)
    (hpods : ∀ q ∈ g.pods, ∃ p ∈ f.pods, p.Becomes q ∧ (q.name = name → q.terminating = true)) :
    Takes ⟨.deletePod «namespace» name, .ok ()⟩ f g
  | other {f : Fleet} {turn : Turn Call.Answer} (h : turn.question.LeavesFleet) : Takes turn f f

/-- What may become of the pods in the course of some calls. -/
inductive Runs : Fleet → Trace → Fleet → Prop
  | idle {f g : Fleet} (h : f.Moves g) : Runs f [] g
  | turn {f g g' k : Fleet} {turn : Turn Call.Answer} {trace : Trace} (hmoves : f.Moves g)
    (htakes : Takes turn g g') (hrest : Runs g' trace k) : Runs f (turn :: trace) k

theorem Moves.refl (f : Fleet) : f.Moves f := ⟨rfl, fun q hq => .inl ⟨q, hq, .refl q⟩⟩

theorem Moves.trans (hfg : f.Moves g) (hgk : g.Moves k) : f.Moves k where
  template := hgk.template.trans hfg.template
  pods r hr := by
    rcases hgk.pods r hr with ⟨q, hq, hqr⟩ | ⟨manifest, hmanifest, hr⟩
    · rcases hfg.pods q hq with ⟨p, hp, hpq⟩ | ⟨manifest, hmanifest, hq⟩
      · exact .inl ⟨p, hp, hpq.trans hqr⟩
      · exact .inr ⟨manifest, hmanifest, hq.becomes hqr⟩
    · exact .inr ⟨manifest, hfg.template ▸ hmanifest, hr⟩

theorem Runs.after_moves (hmoves : f.Moves g) (h : Runs g trace k) : Runs f trace k := by
  cases h with
  | idle hidle => exact .idle (hmoves.trans hidle)
  | turn hfirst htakes hrest => exact .turn (hmoves.trans hfirst) htakes hrest

theorem runs_append : Runs f (s ++ t) k ↔ ∃ g, Runs f s g ∧ Runs g t k := by
  induction s generalizing f with
  | nil =>
    constructor
    · exact fun h => ⟨f, .idle (.refl f), h⟩
    · rintro ⟨g, ⟨hidle⟩, h⟩
      exact h.after_moves hidle
  | cons turn s ih =>
    constructor
    · rintro (_ | ⟨hmoves, htakes, hrest⟩)
      obtain ⟨g, hs, ht⟩ := ih.mp hrest
      exact ⟨g, .turn hmoves htakes hs, ht⟩
    · rintro ⟨g, _ | ⟨hmoves, htakes, hrest⟩, ht⟩
      exact .turn hmoves htakes (ih.mpr ⟨g, hrest, ht⟩)

theorem runs_cons : Runs f (turn :: trace) k ↔
    ∃ g g', f.Moves g ∧ Takes turn g g' ∧ Runs g' trace k := by
  constructor
  · rintro (_ | ⟨hmoves, htakes, hrest⟩)
    exact ⟨_, _, hmoves, htakes, hrest⟩
  · rintro ⟨g, g', hmoves, htakes, hrest⟩
    exact .turn hmoves htakes hrest

/-- **What moves and calls preserve is preserved by a run.** -/
theorem Runs.preserves {P : Fleet → Prop} (h : Runs f trace k)
    (hmoves : ∀ g g', P g → g.Moves g' → P g')
    (htakes : ∀ turn ∈ trace, ∀ g g', P g → Takes turn g g' → P g') (hf : P f) : P k := by
  induction h with
  | idle hidle => exact hmoves _ _ hf hidle
  | turn hfirst hturn hrest ih =>
    refine ih (fun turn hmem => htakes turn (List.mem_cons_of_mem _ hmem)) ?_
    exact htakes _ List.mem_cons_self _ _ (hmoves _ _ hf hfirst) hturn

/-! ## Pods of a name -/

/-- That pods are created with a hash. -/
def Creates (f : Fleet) (hash : String) : Prop :=
  ∀ manifest, f.template = some manifest → manifest.configHash = hash

/-- That every pod of a name terminates or carries a hash, and that pods are created with it. Once
this holds nothing but another manifest ends it, which is why no pod is deleted twice for one
hash. -/
structure Settled (f : Fleet) (hash name : String) : Prop where
  creates : f.Creates hash
  pods : ∀ q ∈ f.pods, q.name = name → q.terminating = true ∨ q.configHash = some hash

theorem Creates.moves (hf : f.Creates hash) (h : f.Moves g) : g.Creates hash := by
  intro manifest hmanifest
  exact hf manifest (h.template ▸ hmanifest)

theorem Creates.takes (hf : f.Creates hash) (h : Takes turn f g)
    (happlied : ∀ cluster manifest, turn = ⟨.applyManifest cluster manifest, .ok ()⟩ →
      manifest.configHash = hash) : g.Creates hash := by
  cases h with
  | listed | other => exact hf
  | deleted htemplate =>
    intro manifest hmanifest
    exact hf manifest (htemplate ▸ hmanifest)
  | applied =>
    rintro manifest ⟨⟩
    exact happlied _ _ rfl

theorem Settled.moves (hf : f.Settled hash name) (h : f.Moves g) : g.Settled hash name where
  creates := hf.creates.moves h
  pods q hq hname := by
    rcases h.pods q hq with ⟨p, hp, hbecomes⟩ | ⟨manifest, hmanifest, hcreated⟩
    · refine (hf.pods p hp (hbecomes.name ▸ hname)).imp hbecomes.terminating fun hhash => ?_
      rw [hbecomes.configHash, hhash]
    · right
      rw [hcreated.configHash, hf.creates manifest hmanifest]

theorem Settled.takes (hf : f.Settled hash name) (h : Takes turn f g)
    (happlied : ∀ cluster manifest, turn = ⟨.applyManifest cluster manifest, .ok ()⟩ →
      manifest.configHash = hash) : g.Settled hash name := by
  refine ⟨hf.creates.takes h happlied, fun q hq hname => ?_⟩
  cases h with
  | listed | other | applied => exact hf.pods q hq hname
  | deleted htemplate hpods =>
    obtain ⟨p, hp, hbecomes, -⟩ := hpods q hq
    refine (hf.pods p hp (hbecomes.name ▸ hname)).imp hbecomes.terminating fun hhash => ?_
    rw [hbecomes.configHash, hhash]

theorem Creates.runs (hf : f.Creates hash) (h : Runs f trace k)
    (happlied : ∀ manifest, Applied trace manifest → manifest.configHash = hash) :
    k.Creates hash := by
  refine h.preserves (P := fun g => g.Creates hash) (fun _ _ hg hmoves => hg.moves hmoves) ?_ hf
  intro turn hturn g g' hg htakes
  exact hg.takes htakes fun cluster manifest heq => happlied manifest ⟨cluster, heq ▸ hturn⟩

/-- **What a deletion leaves is kept.** -/
theorem Settled.runs (hf : f.Settled hash name) (h : Runs f trace k)
    (happlied : ∀ manifest, Applied trace manifest → manifest.configHash = hash) :
    k.Settled hash name := by
  refine h.preserves (P := fun g => g.Settled hash name) (fun _ _ hg hmoves => hg.moves hmoves)
    ?_ hf
  intro turn hturn g g' hg htakes
  exact hg.takes htakes fun cluster manifest heq => happlied manifest ⟨cluster, heq ▸ hturn⟩

theorem Creates.settled {«namespace» : String} (hf : f.Creates hash)
    (h : Takes ⟨.deletePod «namespace» name, .ok ()⟩ f g) : g.Settled hash name := by
  cases h with
  | other hleaves => exact hleaves.elim
  | deleted htemplate hpods =>
    refine ⟨fun manifest hmanifest => hf manifest (htemplate ▸ hmanifest), fun q hq hname => ?_⟩
    obtain ⟨p, -, -, hterminating⟩ := hpods q hq
    exact .inl (hterminating hname)

theorem Takes.creates {cluster : Cluster} {manifest : Manifest}
    (h : Takes ⟨.applyManifest cluster manifest, .ok ()⟩ f g) : g.Creates manifest.configHash := by
  cases h with
  | other hleaves => exact hleaves.elim
  | applied =>
    rintro other ⟨⟩
    rfl

theorem Takes.subset {cluster : Cluster} {pods : List ServerPod}
    (h : Takes ⟨.listServerPods cluster, .ok pods⟩ f g) : pods ⊆ g.pods := by
  cases h with
  | other hleaves => exact hleaves.elim
  | listed h => exact h

end Fleet

/-! ## Which pod is next -/

section
variable {pods : List ServerPod} {servers : Int32} {hash image : String} {pod : ServerPod}

theorem serving_of_nextConfigRestart (h : nextConfigRestart pods servers hash image = some pod) :
    ∀ p ∈ pods, p.isServing = true := by
  unfold nextConfigRestart at h
  split at h
  · cases h
  · rename_i hguard
    simp only [Bool.or_eq_true, List.any_eq_true, not_or, not_exists, not_and] at hguard
    intro p hp
    simpa using hguard.2 p hp

theorem nextConfigRestart_eq_none (h : ∀ p ∈ pods, p.configHash = some hash) :
    nextConfigRestart pods servers hash image = none := by
  unfold nextConfigRestart
  split
  · rfl
  · refine List.find?_eq_none.mpr fun p hp => ?_
    simp [h p (List.mem_of_mem_filter hp)]

/-- **Where no pod is next although one could be, every declared pod has the hash**, or runs another
image. -/
theorem carries_of_nextConfigRestart_none (h : nextConfigRestart pods servers hash image = none)
    (henough : servers.toInt ≤ pods.length) (hserving : ∀ p ∈ pods, p.isServing = true) :
    ∀ p ∈ pods, p.ordinal < servers →
      p.configHash = some hash ∨ p.name ∈ versionSkew pods servers image := by
  have hguard : ¬ (pods.length < servers.toInt.toNat || pods.any (!·.isServing)) = true := by
    simp only [Bool.or_eq_true, decide_eq_true_eq, List.any_eq_true, not_or, not_exists, not_and]
    refine ⟨by omega, fun p hp => ?_⟩
    simp [hserving p hp]
  unfold nextConfigRestart at h
  rw [if_neg hguard, List.find?_eq_none] at h
  intro p hp hdeclared
  by_cases hmay : p.mayRun image = true
  · left
    have hnot := h p (List.mem_filter.mpr ⟨hp, by simp [hdeclared, hmay]⟩)
    simpa using hnot
  · right
    exact List.mem_map_of_mem (List.mem_filter.mpr ⟨hp, by simp [hdeclared, hmay]⟩)

end

namespace Situation

variable {s : Situation}

theorem skewed_of_not_upgradeHolds (h : s.upgradeHolds = false) :
    s.skewed = versionSkew s.pods s.servers s.manifest.image := by
  unfold skewed
  rw [h]
  rfl

theorem rollout?_eq (hpermits : s.permitsApply = true) (hholds : s.upgradeHolds = false)
    (hsplit : s.health ≠ .split) : s.rollout? =
      nextConfigRestart s.pods s.servers s.manifest.configHash s.manifest.image := by
  have happlied : s.configuration.lastAppliedHash = some s.manifest.configHash :=
    lastAppliedHash_of_permitsApply hpermits
  unfold rollout?
  rw [hpermits, hholds, happlied, Option.bind_some, if_pos (by simp [hsplit])]
  rfl

/-- A rollout deletes one pod, while all are serving. -/
theorem serving_of_rollout (h : s.condemned .rollout ≠ []) : ∀ p ∈ s.pods, p.isServing = true := by
  obtain ⟨hpermits, hsplit, hholds, -⟩ := rollout_of_condemned h
  unfold condemned at h
  rw [rollout?_eq hpermits hholds hsplit] at h
  cases hnext : nextConfigRestart s.pods s.servers s.manifest.configHash s.manifest.image with
  | none =>
    rw [hnext] at h
    exact absurd rfl h
  | some pod => exact serving_of_nextConfigRestart hnext

theorem carries_of_rollout_nil (hpermits : s.permitsApply = true) (hholds : s.upgradeHolds = false)
    (hsplit : s.health ≠ .split) (henough : s.servers.toInt ≤ s.pods.length)
    (hserving : ∀ p ∈ s.pods, p.isServing = true) (h : s.condemned .rollout = []) :
    ∀ p ∈ s.pods, p.ordinal < s.servers →
      p.configHash = some s.manifest.configHash ∨ p.name ∈ s.skewed := by
  rw [skewed_of_not_upgradeHolds hholds]
  refine carries_of_nextConfigRestart_none ?_ henough hserving
  rw [← rollout?_eq hpermits hholds hsplit]
  unfold condemned at h
  simpa using h

end Situation

/-! ## One pass -/

/-- A call that runs a cleanup hook. All others that may fail are calls to the platform. -/
def Call.IsHook : Call → Prop
  | .runHook _ _ => True
  | _ => False

/-- No call to the platform failed. -/
def Undisturbed (trace : Trace) : Prop :=
  ∀ turn ∈ trace, ¬ turn.question.IsHook → turn.failure? = none

section
variable {ref : ClusterRef} {s : Situation} {trace : Trace} {result : Except Failure Requeue}

theorem undisturbed_append {t : Trace} :
    Undisturbed (trace ++ t) ↔ Undisturbed trace ∧ Undisturbed t := List.forall_mem_append

theorem undisturbed_of_calm (h : Calm trace) : Undisturbed trace := fun turn hturn _ => h turn hturn

theorem Undisturbed.calm (h : Undisturbed trace)
    (hnone : ∀ turn ∈ trace, ¬ turn.question.IsHook) : Calm trace :=
  fun turn hturn => h turn hturn (hnone turn hturn)

theorem not_isHook_of_mayAsk : ∀ c : Call, WriteTarget.status.MayAsk ref c → ¬ c.IsHook := by
  intro c h
  cases c <;> first | exact id | exact h.elim

theorem not_isHook_call (cluster : Cluster) (effect : Effect) :
    ¬ (effect.call cluster ref).IsHook := by
  cases effect <;> exact id

theorem Pass.EndsOnFailure.ok_of_calm {α : Type} {p : Pass α} {r : Except Failure α}
    (hp : EndsOnFailure p) (h : p.Runs trace r) (hcalm : Calm trace) : ∃ a, r = .ok a := by
  rcases hp _ _ h with ⟨a, hok, -⟩ | ⟨f, -, before, turn, rfl, -, hfailed⟩
  · exact ⟨a, hok⟩
  · have hnone := hcalm turn (List.mem_append_right _ List.mem_cons_self)
    rw [hnone] at hfailed
    cases hfailed

theorem Attempts.ok_of_calm {policy : RetryPolicy} {mutate : Mutation} {left attempt : Nat}
    {written : Trace} {r : Except Failure (Option Cluster)}
    (h : Attempts ref .status policy mutate (left + 1) attempt written r) (hcalm : Calm written) :
    ∃ c, r = .ok c := by
  cases h with
  | absent | unchanged | written => exact ⟨_, rfl⟩
  | unread => cases hcalm _ List.mem_cons_self
  | refused | overtaken => cases hcalm _ (List.mem_cons_of_mem _ List.mem_cons_self)

theorem AppliedFirst.within {cluster : Cluster} {manifest : Manifest} {first last : Trace}
    (h : AppliedFirst cluster manifest trace)
    (hfirst : ∀ turn ∈ first, turn.question.deleted? = none)
    (hlast : ∀ turn ∈ last, turn.question.deleted? = none) :
    AppliedFirst cluster manifest (first ++ (trace ++ last)) := by
  intro before ns name answer after heq
  have hnot : ∀ {turns : Trace}, (∀ turn ∈ turns, turn.question.deleted? = none) →
      (⟨.deletePod ns name, answer⟩ : Turn Call.Answer) ∉ turns := by
    intro turns hturns hmem
    cases hturns _ hmem
  obtain ⟨mid, rfl, hmid⟩ := exists_eq_append_of_not_mem heq (hnot hfirst)
  obtain ⟨rest, hrest⟩ := exists_eq_append_cons_of_not_mem hmid (hnot hlast)
  exact List.mem_append_right _ (h _ _ _ _ _ hrest)

theorem Course.ok_of_undisturbed (h : Course ref s trace result) (hcalm : Undisturbed trace) :
    ∃ requeue, result = .ok requeue := by
  cases h with
  | stopped hseen hdone hcounted =>
    simp only [undisturbed_append] at hcalm
    have hnone := asksOnly_performAll (P := fun call => ¬ call.IsHook)
      (fun effect _ => not_isHook_call s.cluster effect) _ _ hdone
    have hcalm := hcalm.2.2.1.calm hnone
    obtain ⟨_, hok⟩ := performAll_endsOnFailure.ok_of_calm hdone hcalm
    cases hok
  | through hseen hdone hwritten hcounted =>
    simp only [undisturbed_append] at hcalm
    obtain ⟨left, hleft⟩ := tries_eq s.settings.retryPolicy
    rw [hleft] at hwritten
    have hcalm := hcalm.2.2.2.1.calm fun turn hturn =>
      not_isHook_of_mayAsk _ (hwritten.mayAsk turn hturn)
    obtain ⟨c, rfl⟩ := hwritten.ok_of_calm hcalm
    exact ⟨_, rfl⟩

/-- A pass that may apply applies before it deletes. -/
theorem Course.appliedFirst (h : Course ref s trace result) (hpermits : s.permitsApply = true) :
    AppliedFirst s.cluster s.manifest trace := by
  have hspares : ∀ {turns : Trace}, (∀ turn ∈ turns, turn.question.IsPassive) →
      ∀ turn ∈ turns, turn.question.deleted? = none := fun hturns turn hturn =>
    deleted?_of_isPassive _ (hturns turn hturn)
  cases h with
  | stopped hseen hdone hcounted =>
    rw [← List.append_assoc]
    refine (appliedFirst_performAll hpermits hdone).within ?_ (hspares hcounted)
    exact List.forall_mem_append.mpr ⟨hspares isPassive_opening, hspares hseen⟩
  | through hseen hdone hwritten hcounted =>
    rw [← List.append_assoc]
    refine (appliedFirst_performAll hpermits hdone).within ?_ ?_
    · exact List.forall_mem_append.mpr ⟨hspares isPassive_opening, hspares hseen⟩
    · refine List.forall_mem_append.mpr ⟨fun turn hturn => ?_, hspares hcounted⟩
      exact deleted?_of_mayAsk ref _ (hwritten.mayAsk turn hturn)

theorem Course.deletedPods_of_ok (h : Course ref s trace result) {requeue : Requeue}
    (hok : result = .ok requeue) : deletedPods trace = s.effects.filterMap (·.restarted?) := by
  have hnone : ∀ {turns : Trace}, (∀ turn ∈ turns, turn.question.IsPassive) →
      deletedPods turns = [] := fun hturns => deletedPods_eq_nil hturns deleted?_of_isPassive
  cases h with
  | stopped => cases hok
  | through hseen hdone hwritten hcounted =>
    simp only [deletedPods_append, hnone isPassive_opening, hnone hseen, hnone hcounted,
      deletedPods_eq_nil hwritten.mayAsk (deleted?_of_mayAsk ref), List.nil_append, List.append_nil]
    rw [deletedPods_eq, (calls_performAll hdone).2 rfl, deleted_map_call]

end

/-! ## A run of passes -/

namespace History

variable {ref : ClusterRef} {h : History ref} {hash : String} {fleet : Nat → Fleet} {n i j k : Nat}
  {name : String} {s : Situation}

/-- That a pass deletes a pod for the configuration. -/
def RollsOut (h : History ref) (k : Nat) (name : String) : Prop :=
  ∃ s, h.Finds k s ∧ name ∈ s.condemned .rollout ∧ name ∈ deletedPods (h.pass k).trace

/-- That in the first passes no call to the platform fails and the cluster is there, with the same
hash on record before and after each of them, while its pods are those of a fleet. The same hash
throughout is what makes it one rollout. -/
structure Steady (h : History ref) (hash : String) (fleet : Nat → Fleet) (n : Nat) : Prop where
  undisturbed : ∀ k < n, Undisturbed (h.pass k).trace
  there : ∀ k < n, ⟨.getCluster ref, .ok none⟩ ∉ (h.pass k).trace
  recorded : ∀ k ≤ n, (h.status k).configuration.lastAppliedHash = some hash
  runs : ∀ k < n, (fleet k).Runs (h.pass k).trace (fleet (k + 1))

/-- What a rollout does in the first passes. It may end early, so the last clause says when: a pass
that could go on and does not has nothing left to do but what it reports. -/
structure Rolled (h : History ref) (hash : String) (n : Nat) : Prop where
  /-- A pass that deletes a pod for the configuration deletes no other, and this one once. -/
  single : ∀ k < n, ∀ name, h.RollsOut k name → deletedPods (h.pass k).trace = [name]
  /-- No two passes delete the same pod for the configuration. -/
  once : ∀ i < n, ∀ j < n, ∀ name, h.RollsOut i name → h.RollsOut j name → i = j
  /-- A pass that could delete a pod for the configuration and deletes none leaves no declared pod
  without the hash, except those that it reports to run another image. -/
  honest : ∀ k < n, ∀ s, h.Finds k s → s.permitsApply = true → s.upgradeHolds = false →
    s.health ≠ .split → s.servers.toInt ≤ s.pods.length → (∀ p ∈ s.pods, p.isServing = true) →
    (∀ name, ¬ h.RollsOut k name) →
      ∀ p ∈ s.pods, p.ordinal < s.servers → p.configHash = some hash ∨ p.name ∈ s.skewed

theorem Finds.listed (hs : h.Finds k s) :
    ∃ cluster, ⟨.listServerPods cluster, .ok s.pods⟩ ∈ (h.pass k).trace := by
  obtain ⟨cluster, topology, now, seen, rest, -, hseen, htrace⟩ := hs
  refine ⟨cluster, ?_⟩
  rw [htrace]
  exact List.mem_append_right _ (List.mem_append_left _ (observed_observe hseen).pods)

theorem RollsOut.deleted_eq (hs : h.Finds k s) (hname : name ∈ s.condemned .rollout)
    (hdeleted : name ∈ deletedPods (h.pass k).trace) : deletedPods (h.pass k).trace = [name] := by
  have hcondemned : s.condemned .rollout ≠ [] := List.ne_nil_of_mem hname
  obtain ⟨-, -, -, pod, -, heq, -⟩ := Situation.rollout_of_condemned hcondemned
  have hprefix := hs.works.deleted
  rw [s.restarted_effects_of_condemned hcondemned, heq] at hprefix
  rw [heq, List.mem_singleton] at hname
  rcases List.prefix_cons_iff.mp hprefix with hnil | ⟨rest, hrest, hempty⟩
  · rw [hnil] at hdeleted
    cases hdeleted
  · rw [hrest, List.prefix_nil.mp hempty, hname]

namespace Steady

/-- **What a pass applies has the hash on record.** -/
theorem configHash_of_permitsApply (hsteady : h.Steady hash fleet n) (hk : k < n)
    (hs : h.Finds k s) (hpermits : s.permitsApply = true) : s.manifest.configHash = hash := by
  obtain ⟨requeue, hok⟩ := hs.course.ok_of_undisturbed (hsteady.undisturbed k hk)
  have hstored : h.stored (k + 1) = some s.nextStatus := by
    rcases hs.works.outcome with ⟨hstored, -⟩ | ⟨-, ⟨f, hfailed⟩ | hgone⟩
    · exact hstored
    · cases hok.symm.trans hfailed
    · exact absurd hgone (hsteady.there k hk)
  have hrecorded := hsteady.recorded (k + 1) hk
  rw [Stores.status_succ ⟨hs, hstored⟩,
    Situation.lastAppliedHash_of_permitsApply hpermits] at hrecorded
  exact Option.some.inj hrecorded

theorem applied_configHash (hsteady : h.Steady hash fleet n) (hk : k < n) :
    ∀ manifest, Applied (h.pass k).trace manifest → manifest.configHash = hash := by
  rintro manifest ⟨cluster, hmem⟩
  by_cases hfinds : ∃ s, h.Finds k s
  · obtain ⟨s, hs⟩ := hfinds
    obtain ⟨hpermits, rfl⟩ := hs.works.applied _ _ _ hmem
    exact hsteady.configHash_of_permitsApply hk hs hpermits
  · have hquiet := quiet_of_not_finds (h.pass k).runs (h.reads k) fun s hs => hfinds ⟨s, hs⟩
    exact (hquiet.servers _ hmem).elim

/-- **After a rollout has deleted a pod, there is none of its name without the hash** that does not
terminate. -/
theorem settled_of_rollsOut (hsteady : h.Steady hash fleet n) (hk : k < n)
    (hrolls : h.RollsOut k name) : (fleet (k + 1)).Settled hash name := by
  obtain ⟨s, hs, hname, hdeleted⟩ := hrolls
  obtain ⟨hpermits, -⟩ := Situation.rollout_of_condemned (List.ne_nil_of_mem hname)
  have honly := hsteady.applied_configHash hk
  obtain ⟨⟨question, answer⟩, hturn, hquestion⟩ := List.mem_filterMap.mp hdeleted
  obtain ⟨ns, rfl⟩ : ∃ ns, question = .deletePod ns name := by
    cases question with
    | deletePod ns other =>
      cases hquestion
      exact ⟨ns, rfl⟩
    | _ => cases hquestion
  have hok : answer = .ok () := by
    have hcalm := hsteady.undisturbed k hk _ hturn id
    match answer with
    | .ok () => rfl
    | .error f => cases hcalm
  subst hok
  -- The manifest was applied before the pod was deleted, and what follows keeps what they leave.
  obtain ⟨before, after, htrace⟩ := List.append_of_mem hturn
  have hfirst := hs.course.appliedFirst hpermits _ _ _ _ _ htrace
  obtain ⟨told, between, rfl⟩ := List.append_of_mem hfirst
  have hrun := hsteady.runs k hk
  rw [htrace] at hrun honly
  obtain ⟨f, hbefore, hlater⟩ := Fleet.runs_append.mp hrun
  obtain ⟨f', -, happly⟩ := Fleet.runs_append.mp hbefore
  obtain ⟨g, g', -, htakes, hbetween⟩ := Fleet.runs_cons.mp happly
  obtain ⟨k, k', hmoves, hdelete, hafter⟩ := Fleet.runs_cons.mp hlater
  have hcreates : g'.Creates hash := by
    rw [← hsteady.configHash_of_permitsApply ‹_› hs hpermits]
    exact htakes.creates
  have hbetween := hcreates.runs hbetween fun manifest happlied =>
    honly manifest (happlied.mono fun turn hturn => by simp [hturn])
  exact ((hbetween.moves hmoves).settled hdelete).runs hafter fun manifest happlied =>
    honly manifest (happlied.mono fun turn hturn => by simp [hturn])

theorem settled_of_lt (hsteady : h.Steady hash fleet n) (hij : i < j) (hj : j ≤ n)
    (hrolls : h.RollsOut i name) : (fleet j).Settled hash name := by
  induction j, hij using Nat.le_induction with
  | base => exact hsteady.settled_of_rollsOut hj hrolls
  | succ k hik ih =>
    exact (ih (Nat.le_of_succ_le hj)).runs (hsteady.runs k hj) (hsteady.applied_configHash hj)

/-- A pod that a pass deletes for the configuration serves and does not have the hash. -/
theorem not_settled_of_rollsOut (hsteady : h.Steady hash fleet n) (hk : k < n)
    (hrolls : h.RollsOut k name) : ¬ (fleet k).Settled hash name := by
  intro hsettled
  obtain ⟨s, hs, hname, -⟩ := hrolls
  have hcondemned : s.condemned .rollout ≠ [] := List.ne_nil_of_mem hname
  obtain ⟨hpermits, -, -, pod, hpod, heq, hhash, -⟩ := Situation.rollout_of_condemned hcondemned
  rw [heq, List.mem_singleton] at hname
  -- The pod was listed in this pass, so it is one of the fleet at that time.
  obtain ⟨cluster, hlisted⟩ := hs.listed
  obtain ⟨before, after, htrace⟩ := List.append_of_mem hlisted
  have honly := hsteady.applied_configHash hk
  have hrun := hsteady.runs k hk
  rw [htrace] at hrun honly
  obtain ⟨f, hbefore, hlater⟩ := Fleet.runs_append.mp hrun
  obtain ⟨g, g', hmoves, htakes, -⟩ := Fleet.runs_cons.mp hlater
  have hthen : g'.Settled hash name := by
    have hkept := hsettled.runs hbefore fun manifest happlied =>
      honly manifest (happlied.mono (List.subset_append_left _ _))
    refine (hkept.moves hmoves).takes htakes fun _ _ heq => ?_
    cases congrArg Turn.question heq
  rcases hthen.pods pod (htakes.subset hpod) hname.symm with hterminating | hcarries
  · have hserving := Situation.serving_of_rollout hcondemned pod hpod
    unfold ServerPod.isServing at hserving
    rw [hterminating, Bool.not_true, Bool.and_false] at hserving
    cases hserving
  · rw [hsteady.configHash_of_permitsApply hk hs hpermits] at hhash
    exact hhash hcarries

end Steady

/-- **A rollout deletes each pod at most once and one in a pass, and stops only when there is
nothing left to do.** A pod that was deleted is settled from then on, because the one that takes its
place is created with the hash. -/
theorem rolled_of_steady (h : History ref) (hsteady : h.Steady hash fleet n) : h.Rolled hash n where
  single k hk name := by
    rintro ⟨s, hs, hname, hdeleted⟩
    exact RollsOut.deleted_eq hs hname hdeleted
  once i hi j hj name hrolls hrolls' := by
    -- Whichever of two passes comes first settles the pod, and the other one would delete a pod
    -- that is settled.
    rcases Nat.lt_trichotomy i j with hlt | heq | hgt
    · exact absurd (hsteady.settled_of_lt hlt (Nat.le_of_lt hj) hrolls)
        (hsteady.not_settled_of_rollsOut hj hrolls')
    · exact heq
    · exact absurd (hsteady.settled_of_lt hgt (Nat.le_of_lt hi) hrolls')
        (hsteady.not_settled_of_rollsOut hi hrolls)
  honest k hk s hs hpermits hholds hsplit henough hserving hnone := by
    rw [← hsteady.configHash_of_permitsApply hk hs hpermits]
    refine Situation.carries_of_rollout_nil hpermits hholds hsplit henough hserving ?_
    by_contra hcondemned
    obtain ⟨name, hname⟩ := List.exists_mem_of_ne_nil _ hcondemned
    obtain ⟨requeue, hok⟩ := hs.course.ok_of_undisturbed (hsteady.undisturbed k hk)
    refine hnone name ⟨s, hs, hname, ?_⟩
    rw [hs.course.deletedPods_of_ok hok, s.restarted_effects_of_condemned hcondemned]
    exact hname

end History

/-! ## A single server that is behind -/

section
variable {ref : ClusterRef} {s : Situation}

theorem leavesFleet_readCredentials {cluster : Cluster} :
    AsksOnly Call.LeavesFleet (readCredentials cluster ref) := by
  unfold readCredentials
  split
  · exact .pure none
  · exact .bind (.readSecret trivial) fun value => .pure _

theorem leavesFleet_askViews {settings : Settings} {deployment : Deployment}
    {targets : List ProbeTarget} :
    AsksOnly Call.LeavesFleet (askViews settings deployment targets) := by
  unfold askViews
  split
  · exact .pure _
  · exact .bind (.call trivial) fun outcomes => .pure _

/-- A pass that observes lists the pods once, before anything else. -/
theorem exists_asked_of_observe {settings : Settings} {cluster : Cluster} {topology : Topology}
    {now : Instant} {seen : Trace}
    (h : (observe settings cluster ref topology now).Runs seen (.ok s)) :
    ∃ asked, seen = ⟨.listServerPods cluster, .ok s.pods⟩ :: asked ∧
      ∀ turn ∈ asked, turn.question.LeavesFleet := by
  have hpods := (observed_observe h).pods
  rcases runs_bind.mp h with ⟨_, hfailed, -⟩ | ⟨_, pods, asked, rfl, hlisted, hasked⟩
  · cases hfailed
  rw [runs_listServerPods.mp hlisted] at hpods ⊢
  have hleaves : ∀ turn ∈ asked, turn.question.LeavesFleet := by
    refine AsksOnly.bind leavesFleet_readCredentials (fun credentials => ?_) _ _ hasked
    refine .bind leavesFleet_askViews fun views => ?_
    dsimp only
    split
    · exact .bind (.call trivial) fun outcomes => .pure _
    · exact .pure _
  rcases List.mem_cons.mp hpods with heq | hmem
  · exact ⟨asked, by rw [heq]; rfl, hleaves⟩
  · exact (hleaves _ hmem).elim

/-- A call that does not look at pods. -/
def Call.ListsNone : Call → Prop
  | .listServerPods _ => False
  | _ => True

namespace Fleet

variable {f : Fleet} {trace : Trace}

/-- Calls that do not look at pods may go in any way. -/
theorem exists_runs (f : Fleet) (hcalm : Calm trace)
    (hnone : ∀ turn ∈ trace, turn.question.ListsNone) :
    ∃ g, f.Runs trace g ∧ g.template = trace.foldl Turn.appliedAfter f.template := by
  induction trace generalizing f with
  | nil => exact ⟨f, .idle (.refl f), rfl⟩
  | cons turn rest ih =>
    obtain ⟨hturn, hrest⟩ := List.forall_mem_cons.mp hcalm
    obtain ⟨hfirst, hlater⟩ := List.forall_mem_cons.mp hnone
    obtain ⟨g, htakes, htemplate⟩ : ∃ g, Takes turn f g ∧
        g.template = turn.appliedAfter f.template := by
      obtain ⟨question, answer⟩ := turn
      cases question with
      | listServerPods => exact hfirst.elim
      | applyManifest cluster manifest =>
        match answer with
        | .ok () => exact ⟨_, .applied, rfl⟩
        | .error f => cases hturn
      | deletePod ns name =>
        match answer with
        | .ok () => exact ⟨⟨f.template, []⟩, .deleted rfl (by simp), rfl⟩
        | .error f => cases hturn
      | _ => exact ⟨f, .other trivial, rfl⟩
    obtain ⟨k, hk, hlast⟩ := ih g hrest hlater
    refine ⟨k, .turn (.refl f) htakes hk, ?_⟩
    rw [hlast, htemplate]
    rfl

end Fleet

namespace PassRun.Parts

variable {pass : PassRun ref} {seen done written counted : Trace}

theorem calm (h : pass.Parts s seen done written counted) (hwritten : Calm written) :
    Calm pass.trace := by
  have hopening : Calm (opening ref s.cluster s.now) := by
    intro turn hturn
    rcases List.mem_pair.mp hturn with rfl | rfl <;> rfl
  have hcounted : Calm counted := by
    rintro ⟨question, answer⟩ hturn
    have hcounting := h.counted _ hturn
    cases question <;> first | rfl | exact hcounting.elim
  simp only [h.trace_eq, calm_append]
  exact ⟨hopening, observe_endsOnFailure.calm h.seen, performAll_endsOnFailure.calm h.done,
    hwritten, hcounted⟩

theorem there (h : pass.Parts s seen done written counted)
    (hwritten : ⟨.getCluster ref, .ok none⟩ ∉ written) :
    ⟨.getCluster ref, .ok none⟩ ∉ pass.trace := by
  rw [h.trace_eq]
  simp only [List.mem_append, not_or]
  refine ⟨by simp [opening], fun hmem => ?_, fun hmem => ?_, hwritten, fun hmem => ?_⟩
  · exact isReading_observe _ _ h.seen _ hmem
  · have hcall := (calls_performAll h.done).1.mem (List.mem_map_of_mem hmem)
    obtain ⟨effect, -, heq⟩ := List.mem_map.mp hcall
    cases effect <;> cases heq
  · exact h.counted _ hmem

/-- The pods that a pass lists may be those of the fleet that it runs over. -/
theorem exists_runs (h : pass.Parts s seen done written counted) (hcalm : Calm pass.trace)
    (template : Option Manifest) : ∃ g : Fleet, Fleet.Runs ⟨template, s.pods⟩ pass.trace g ∧
      ∃ before after, pass.trace = before ++ after ∧
        g.template = after.foldl Turn.appliedAfter template ∧ done ⊆ after := by
  obtain ⟨asked, hasked, hleaves⟩ := exists_asked_of_observe h.seen
  obtain ⟨r, hattempts⟩ := h.written
  have heq : pass.trace =
      (opening ref s.cluster s.now ++ [⟨.listServerPods s.cluster, .ok s.pods⟩]) ++
        (asked ++ (done ++ (written ++ counted))) := by
    rw [h.trace_eq, hasked]
    simp only [List.append_assoc, List.cons_append, List.nil_append]
  have hnone : ∀ turn ∈ asked ++ (done ++ (written ++ counted)), turn.question.ListsNone := by
    have hlists : ∀ {P : Call → Prop}, (∀ cluster, ¬ P (.listServerPods cluster)) →
        ∀ {turns : Trace}, (∀ turn ∈ turns, P turn.question) →
          ∀ turn ∈ turns, turn.question.ListsNone := by
      rintro P hP turns hturns ⟨question, answer⟩ hturn
      cases question with
      | listServerPods cluster => exact hP cluster (hturns _ hturn)
      | _ => trivial
    simp only [List.forall_mem_append]
    refine ⟨hlists (fun _ => id) hleaves, ?_, hlists (fun _ => id) hattempts.mayAsk,
      hlists (fun _ => id) h.counted⟩
    exact asksOnly_performAll (fun effect _ => by cases effect <;> trivial) _ _ h.done
  rw [heq, calm_append] at hcalm
  obtain ⟨g, hruns, htemplate⟩ := Fleet.exists_runs ⟨template, s.pods⟩ hcalm.2 hnone
  refine ⟨g, ?_, _, _, heq, htemplate, fun turn hturn => by simp [hturn]⟩
  rw [heq, Fleet.runs_append]
  refine ⟨_, ?_, hruns⟩
  refine .turn (.refl _) (.other trivial) (.turn (.refl _) (.other trivial) ?_)
  exact .turn (.refl _) (.listed (List.Subset.refl _)) (.idle (.refl _))

end PassRun.Parts

/-- In an attainable situation a pass may go without a failure, over the pods that it lists. -/
theorem exists_pass_tending (hs : s.Attainable ref) : ∃ pass : PassRun ref,
    pass.CarriesOut s (some s.nextStatus) ∧ Calm pass.trace ∧
    ⟨.getCluster ref, .ok none⟩ ∉ pass.trace ∧
    ∀ template, ∃ g : Fleet, Fleet.Runs ⟨template, s.pods⟩ pass.trace g ∧
      (s.permitsApply = true → g.template = some s.manifest) := by
  obtain ⟨pass, seen, done, written, counted, hcarries, hparts, hcalm, hthere⟩ :=
    exists_pass_storing hs
  have hcalm := hparts.calm hcalm
  refine ⟨pass, hcarries, hcalm, hparts.there hthere, fun template => ?_⟩
  obtain ⟨g, hruns, before, after, heq, htemplate, hsub⟩ := hparts.exists_runs hcalm template
  refine ⟨g, hruns, fun hpermits => ?_⟩
  rw [htemplate]
  refine foldl_appliedAfter ?_ (.inr ((applied_of_runs_performAll hpermits hparts.done).mono hsub))
  rintro other ⟨cluster, hmem⟩
  have hworks := works_of_finds pass.runs hcarries.reads hcarries.finds
  refine (hworks.applied cluster other (.ok ()) ?_).2
  rw [heq]
  exact List.mem_append_right _ hmem

end

/-- The single server was created without a hash. -/
def behind : Situation := soloAt "1" none (some "neo4j:1") (some installed.nextStatus)

/-- The single server has been created from its manifest. -/
def caughtUp (status : Option ClusterStatus) : Situation :=
  { soloAt "1" none none status with
    pods :=
      [{ name := "db-0", ordinal := 0, image := some "neo4j:1"
         configHash := some installed.derived.hash }] }

theorem attainable_behind : behind.Attainable ⟨"data", "db"⟩ := attainable_soloAt rfl

theorem permits_behind : behind.permitsApply = true := (settled_soloAt applied_installed).1

theorem configHash_behind : behind.manifest.configHash = installed.derived.hash :=
  congrArg DerivedConfig.hash derived_soloAt

theorem applied_behind :
    behind.nextStatus.configuration.lastAppliedHash = some installed.derived.hash := by
  rw [Situation.lastAppliedHash_of_permitsApply permits_behind, configHash_behind]

section
variable {status : Option ClusterStatus} {last : ClusterStatus}

theorem attainable_caughtUp (hvalid : validateCluster (solo "1" none none)
      (status.getD {}).version = .ok ⟨.standalone, [.unrestricted]⟩) :
    (caughtUp status).Attainable ⟨"data", "db"⟩ := by
  have hsolo : (soloAt "1" none none status).Attainable ⟨"data", "db"⟩ := attainable_soloAt hvalid
  exact ⟨hsolo.ref_eq, hsolo.workable, hsolo.auth, hsolo.single, hsolo.views, hsolo.hosted⟩

theorem permits_caughtUp
    (hlast : last.configuration.lastAppliedHash = some installed.derived.hash) :
    (caughtUp (some last)).permitsApply = true := by
  have hsolo : (soloAt "1" none none (some last)).permitsApply = true := (settled_soloAt hlast).1
  exact hsolo

theorem configHash_caughtUp : (caughtUp status).manifest.configHash = installed.derived.hash := by
  have hsolo : (soloAt "1" none none status).derived = installed.derived := derived_soloAt
  exact congrArg DerivedConfig.hash hsolo

theorem applied_caughtUp
    (hlast : last.configuration.lastAppliedHash = some installed.derived.hash) :
    (caughtUp (some last)).nextStatus.configuration.lastAppliedHash =
      some installed.derived.hash := by
  rw [Situation.lastAppliedHash_of_permitsApply (permits_caughtUp hlast), configHash_caughtUp]

end

theorem condemned_behind : behind.condemned .rollout = ["db-0"] := by
  unfold Situation.condemned
  rw [Situation.rollout?_eq permits_behind (by decide) (by decide)]
  rfl

namespace History

/-- The pod without the hash is deleted in the first pass, and the new one is kept in the second. -/
theorem rolled_of_steady_behind : ∃ (h : History ⟨"data", "db"⟩) (fleet : Nat → Fleet),
    h.Steady installed.derived.hash fleet 2 ∧ h.RollsOut 0 "db-0" ∧ ¬ h.RollsOut 1 "db-0" ∧
      h.Rolled installed.derived.hash 2 := by
  obtain ⟨first, hfirst, hcalm, hthere, htends⟩ := exists_pass_tending attainable_behind
  have hattainable : (caughtUp (some behind.nextStatus)).Attainable ⟨"data", "db"⟩ :=
    attainable_caughtUp rfl
  obtain ⟨second, hsecond, hcalm', hthere', htends'⟩ := exists_pass_tending hattainable
  have hchained : Chained (some installed.nextStatus) [first, second] := by
    refine ⟨hfirst.reads, ?_, trivial⟩
    rw [show storedAfter (some installed.nextStatus) first.trace = _ from hfirst.stored]
    exact hsecond.reads
  let h := History.ofChained hchained
  have hstored : h.stored 1 = some behind.nextStatus := hfirst.stored
  have hstored' : h.stored 2 = some (caughtUp (some behind.nextStatus)).nextStatus := by
    show storedAfter (h.stored 1) second.trace = _
    rw [hstored]
    exact hsecond.stored
  -- Between the passes the old pod goes, and the new one is created from what was applied.
  obtain ⟨left, hruns, happlied⟩ := htends none
  obtain ⟨last, hruns', -⟩ := htends' (some behind.manifest)
  let fleet : Nat → Fleet := fun k =>
    [⟨none, behind.pods⟩,
      ⟨some behind.manifest, (caughtUp (some behind.nextStatus)).pods⟩].getD k last
  have hmoves : left.Moves (fleet 1) := by
    refine ⟨(happlied permits_behind).symm, fun q hq => .inr ⟨_, happlied permits_behind, ?_⟩⟩
    rw [List.mem_singleton.mp hq]
    exact ⟨congrArg some configHash_behind.symm, rfl⟩
  have hsteady : h.Steady installed.derived.hash fleet 2 := by
    have hpasses : ∀ {k}, k < 2 → k = 0 ∨ k = 1 := by omega
    constructor
    case undisturbed =>
      intro k hk
      rcases hpasses hk with rfl | rfl
      · exact undisturbed_of_calm hcalm
      · exact undisturbed_of_calm hcalm'
    case there =>
      intro k hk
      rcases hpasses hk with rfl | rfl
      · exact hthere
      · exact hthere'
    case recorded =>
      intro k hk
      have htimes : k = 0 ∨ k = 1 ∨ k = 2 := by omega
      unfold status
      rcases htimes with rfl | rfl | rfl
      · exact applied_installed
      · rw [hstored]
        exact applied_behind
      · rw [hstored']
        exact applied_caughtUp applied_behind
    case runs =>
      intro k hk
      rcases hpasses hk with rfl | rfl
      · rw [← List.append_nil (h.pass 0).trace, Fleet.runs_append]
        exact ⟨left, hruns, .idle hmoves⟩
      · exact hruns'
  have hrolls : h.RollsOut 0 "db-0" := by
    have hname : "db-0" ∈ behind.condemned .rollout := by
      rw [condemned_behind]
      exact List.mem_singleton_self _
    refine ⟨behind, hfirst.finds, hname, ?_⟩
    rw [← behind.restarted_effects_of_condemned (List.ne_nil_of_mem hname)] at hname
    obtain ⟨effect, heffect, hrestarted⟩ := List.mem_filterMap.mp hname
    cases effect with
    | restart cause pod =>
      cases hrestarted
      exact hfirst.mem_deletedPods heffect
    | measure | publish | apply => cases hrestarted
  have hrolled := rolled_of_steady h hsteady
  exact ⟨h, fleet, hsteady, hrolls, fun hagain =>
    absurd (hrolled.once 0 (by decide) 1 (by decide) _ hrolls hagain) (by decide), hrolled⟩

end History

end ClusterOperator
