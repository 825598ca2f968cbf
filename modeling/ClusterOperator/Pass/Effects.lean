import ClusterOperator.Pass.Report

/-!
# What a pass does

The decisions of a pass become one list of effects, which is carried out in order: what is about to
happen is told first, then the manifest is applied, then pods are deleted, each for one cause. An
effect that fails ends the pass, so what stands after it in the list does not happen.
-/

set_option autoImplicit false

namespace ClusterOperator

/-- Why a pod is deleted. The platform is asked the same in every case; the cause tells apart what
the three decisions may and may not do. -/
inductive RestartCause
  /-- It is next in the order of the upgrade. -/
  | upgrade
  /-- It is outside the majority of a split membership. -/
  | repair
  /-- It runs an older configuration. -/
  | rollout
  deriving DecidableEq, Repr

/-- Something that a pass does. The list of them is fixed before the first is carried out, so what a
pass would do can be read off its observation. -/
inductive Effect
  | measure (measurement : Measurement)
  | publish (event : Event)
  | apply (manifest : Manifest)
  | restart (cause : RestartCause) (pod : String)

def Effect.perform (cluster : Cluster) (ref : ClusterRef) : Effect → Pass Unit
  | measure measurement => Pass.measure ref measurement
  | publish event => Pass.publish cluster event
  | apply manifest => Pass.applyManifest cluster manifest
  | restart _ pod => Pass.deletePod ref.namespace pod

def performAll (cluster : Cluster) (ref : ClusterRef) : List Effect → Pass Unit
  | [] => pure ()
  | effect :: rest => do
    effect.perform cluster ref
    performAll cluster ref rest

namespace Situation

/-- Tells what is done about the configuration. -/
def driftEffects (s : Situation) : List Effect :=
  match s.drift with
  | .debounce hash remaining true =>
    -- Told when the window is opened, not in every pass that waits for it.
    [.measure .configDebounce,
      .publish (.normal "ConfigurationDriftDetected" "Debounce"
        ("Configuration " ++ shortHash hash ++ " will be applied in " ++ toString remaining ++
          "s unless it changes again"))]
  | .apply hash =>
    [.measure .configApply,
      .publish (.normal "ConfigurationApplied" "Apply"
        ("Applied configuration " ++ shortHash hash))]
  | _ => []

/-- Tells that an upgrade is dropped before it started. -/
def requestEffects (s : Situation) : List Effect :=
  match s.request with
  | .cancel =>
    [.publish (.normal "UpgradeCancelled" "Upgrade"
      "Declared version reverted to the running version")]
  | _ => []

/-- Applies the manifest, unless the configuration has to wait. -/
def applyEffects (s : Situation) : List Effect :=
  if s.permitsApply then [.apply s.manifest] else []

/-- Restarts the servers whose turn it is in the upgrade. What the step tells comes after the
restarts, so a restart that fails leaves its event untold. -/
def upgradeEffects (s : Situation) : List Effect :=
  match s.step? with
  | some step => step.restart.map (.restart .upgrade) ++ step.events.map .publish
  | none => []

def splitWarning (s : Situation) (rest : String) : Effect :=
  .publish (.warn "SplitBrainDetected" "Detect"
    ("Membership disagrees: " ++ s.classification.snapshot ++ rest))

/-- Restarts the servers outside the majority, or tells why not. A repair is told of in every pass
that makes one; what is put off is told once for each split. -/
def repairEffects (s : Situation) : List Effect :=
  (if s.newlySplit then [.measure .splitBrain] else []) ++
  match s.repair with
  | .restart pods =>
    s.splitWarning "" :: pods.map (.restart .repair) ++
      [.measure .repair,
        .publish (.normal "SplitBrainRepaired" "Repair"
          ("Restarted " ++ ",".intercalate pods ++ " to rejoin the majority"))]
  | .upgradeActive =>
    if s.newlySplit then [s.splitWarning "; repair deferred while an upgrade holds the servers"]
    else []
  | .coolingDown remaining =>
    if s.newlySplit then [s.splitWarning ("; next repair in " ++ toString remaining ++ "s")]
    else []
  | .notNeeded => []

/-- Restarts the next server that runs an older configuration. -/
def rolloutEffects (s : Situation) : List Effect :=
  match s.rollout? with
  | some pod =>
    [.restart .rollout pod.name,
      .publish (.normal "ConfigurationRollout" "Restart"
        ("Restarted " ++ pod.name ++ " to apply configuration"))]
  | none => []

/-- Tells that the cluster reached a phase worth telling. -/
def phaseEffects (s : Situation) : List Effect :=
  match s.phaseCheck with
  | .listed move =>
    match move.target with
    | .running =>
      [.publish (.normal "ClusterReady" "Reconciling"
        ("All " ++ toString s.servers.toInt ++ " servers ready and in agreement"))]
    | .degraded => [.publish (.warn "ClusterDegraded" "Reconciling" s.serversReady)]
    | _ => []
  | _ => []

def gaugeEffects (s : Situation) : List Effect :=
  [.measure (.phase (some s.phase.name)), .measure (.servers s.servers.toInt s.ready.toInt)]

/-- Everything that the pass does before it writes the status. The manifest stands before every
restart, since a pod that is deleted comes back from the template that is applied by then. -/
def effects (s : Situation) : List Effect :=
  s.driftEffects ++ s.requestEffects ++ s.applyEffects ++ s.upgradeEffects ++ s.repairEffects ++
    s.rolloutEffects ++ s.phaseEffects ++ s.gaugeEffects

end Situation

end ClusterOperator
