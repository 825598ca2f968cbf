import ClusterOperator.Pod
import ClusterOperator.Time.Parser

/-!
# Drift

A changed configuration is not applied at once: it has to stay the same for a window, so that a
series of edits restarts the servers once. The window is kept in the status and survives the
operator. A new cluster does not wait, and a change that is taken back inside its window is
forgotten.
-/

set_option autoImplicit false

namespace ClusterOperator

/-- What a pass does about the derived configuration. The hash is carried along so that what is told
of the decision names the configuration it is about. -/
inductive DriftDecision
  /-- It is already applied. -/
  | noOp
  /-- It is applied now. -/
  | apply (hash : String)
  /-- It waits; `opened` says whether this pass started the window. -/
  | debounce (hash : String) (remaining : Nat) (opened : Bool)
  deriving DecidableEq, Repr

/-- Whether resources may be written in this pass. -/
def DriftDecision.permitsApply : DriftDecision → Bool
  | debounce _ _ _ => false
  | _ => true

namespace ConfigurationRecord

def applied (state : ConfigurationRecord) (hash : String) (now : Instant) : ConfigurationRecord :=
  { state with
    lastAppliedHash := some hash
    pendingHash := none
    pendingSince := none
    lastAppliedAt := some now.toText }

def settled (state : ConfigurationRecord) : ConfigurationRecord :=
  { state with pendingHash := none, pendingSince := none }

/-- Since when a hash has been waiting. -/
def waitingSince? (state : ConfigurationRecord) (hash : String) : Option Instant :=
  if state.pendingHash = some hash then state.pendingSince.bind Instant.parse? else none

/-- What is done about a derived hash, and the record after it, given the window in seconds. The
record is returned with the decision because a window exists only by being recorded. -/
def evaluate (state : ConfigurationRecord) (hash : String) (now : Instant) (window : Nat) :
    DriftDecision × ConfigurationRecord :=
  match state.lastAppliedHash with
  -- Nothing was ever applied: a new cluster does not wait.
  | none => (.apply hash, state.applied hash now)
  | some last =>
    if last = hash then (.noOp, state.settled)
    else
      match state.waitingSince? hash with
      | some since =>
        let waited := Instant.elapsed since now
        if waited ≥ window then (.apply hash, state.applied hash now)
        else (.debounce hash (window - waited) false, state)
      | none =>
        -- The hash is new, another one was waiting, or its time cannot be read: the window starts
        -- over, unless it is empty.
        if window = 0 then (.apply hash, state.applied hash now)
        else
          (.debounce hash window true,
            { state with pendingHash := some hash, pendingSince := some now.toText })

end ConfigurationRecord

/-! ## Rollout -/

/-- The declared pods that an applied configuration may restart: those whose image is the
template's, because a restart of any other would change its version. -/
def restartable (pods : List ServerPod) (servers : Int32) (image : String) : List ServerPod :=
  pods.filter fun p => p.ordinal < servers && p.mayRun image

/-- The next pod to restart so that it takes up the applied configuration. There is one only while
every declared server has a pod and every pod serves, so a rollout takes one pod at a time. -/
def nextConfigRestart (pods : List ServerPod) (servers : Int32) (hash image : String) :
    Option ServerPod :=
  -- The pods are only counted, and those above the declared number count along.
  if pods.length < servers.toInt.toNat || pods.any (!·.isServing) then none
  else (restartable pods servers image).find? fun p => p.configHash != some hash

/-- The declared servers whose pod runs an image other than the template's. -/
def versionSkew (pods : List ServerPod) (servers : Int32) (image : String) : List String :=
  (pods.filter fun p => p.ordinal < servers && !p.mayRun image).map (·.name)

end ClusterOperator
