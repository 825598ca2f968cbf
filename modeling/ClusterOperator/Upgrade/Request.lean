import ClusterOperator.Pod

/-!
# Which upgrade is wanted

An upgrade is wanted when the declared tag differs from the version that the servers run. One
upgrade at a time: while one holds the pods, a change of the declared tag waits. An upgrade that
has not touched a pod is forgotten when the tag is taken back.

Two annotations carry requests of the user: to resume a paused upgrade and to abort an active one.
Any value that is new is a new request, so values that were there before are remembered with the
record.
-/

set_option autoImplicit false

namespace ClusterOperator

/-- The values of the two annotations. A token is any text but the one that was handled last, which
the record remembers, so an annotation that stays in place asks once. -/
structure UpgradeTokens where
  resume : Option String := none
  abort : Option String := none
  deriving DecidableEq, Repr, Inhabited

/-- Whether a token is a request that was not handled yet. -/
def isNewToken (token handled : Option String) : Bool :=
  match token with
  | some t => !t.isEmpty && handled != some t
  | none => false

/-- What becomes of the upgrade record. It is settled before the record is advanced, so a step never
has to ask whether the upgrade is still the one that is wanted. -/
inductive UpgradeRequest
  /-- There is none. -/
  | idle
  /-- A new upgrade starts. -/
  | start (record : UpgradeRecord)
  /-- The record stays; `deferred` says that the declared tag waits for it to end. -/
  | proceed (record : UpgradeRecord) (deferred : Bool)
  /-- The record is dropped. -/
  | cancel
  deriving DecidableEq, Repr

/-- The record of an upgrade that starts. Tokens that are already there count as handled: they were
meant for an earlier upgrade. -/
def UpgradeRecord.starting (running target : String) (tokens : UpgradeTokens) : UpgradeRecord :=
  { previousVersion := some running, targetVersion := target
    handledResumeToken := tokens.resume, handledAbortToken := tokens.abort }

/-- What becomes of the record, given the declared tag and the version that the servers run. Before
anything runs, the declared tag is rolled out without an upgrade. -/
def resolveRequest (declared : String) (running : Option String) (current : Option UpgradeRecord)
    (tokens : UpgradeTokens) : UpgradeRequest :=
  match running, current with
  | none, none => .idle
  | none, some u => .proceed u false
  | some version, none =>
    if version = declared then .idle else .start (.starting version declared tokens)
  | some version, some u =>
    if u.targetVersion = declared then .proceed u false
    -- The other declared tag waits: two upgrades at once would leave the servers on three versions.
    else if u.phase.holdsPods then .proceed u true
    -- What is left is pending or over. A pending upgrade that is no longer wanted has moved nothing
    -- and goes; one that is over stays as a report.
    else if version = declared then if u.phase = .pending then .cancel else .proceed u false
    else .start (.starting version declared tokens)

/-- Whether a pod is seen to run the image of a tag. -/
def runsTag (pods : List ServerPod) (image : ImageSpec) (tag : String) : Bool :=
  pods.any fun p => p.image == some (image.referenceFor tag)

/-- The tag that pods are created with. An upgrade that has started sets it, and one that failed
after it moved a server keeps it, so that no server goes back to an older version. -/
def effectiveTag (declared : String) (running : Option String) (upgrade : Option UpgradeRecord)
    (image : ImageSpec) (pods : List ServerPod) : String :=
  match upgrade with
  | some u =>
    match u.phase with
    | .inProgress | .paused | .completed => u.targetVersion
    | .failed =>
      if runsTag pods image u.targetVersion then u.targetVersion else running.getD declared
    | .pending => running.getD declared
  | none => running.getD declared

end ClusterOperator
