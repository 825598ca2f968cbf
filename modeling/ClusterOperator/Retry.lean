import ClusterOperator.Pass.Call
import ClusterOperator.Settings

/-!
# Writing a cluster

Every write of a cluster is read, changed and written back. A write that was overtaken by another is
tried again on what the other left, after a pause that doubles from one attempt to the next; it
gives up only when all its attempts were overtaken. A change that changes nothing is not written.
-/

set_option autoImplicit false

namespace ClusterOperator

/-- How often a write is tried, and how long the pauses are. Neither is remembered between writes:
each write starts with the first pause. -/
structure RetryPolicy where
  attempts : UInt32 := 5
  /-- The first pause. -/
  baseMillis : Nat := 100
  /-- The longest pause. -/
  maxMillis : Nat := 2000
  deriving DecidableEq, Repr

namespace RetryPolicy

/-- How many first pauses a pause takes, held below 2^32. -/
def factor (attempt : Nat) : Nat :=
  if attempt - 1 < 32 then Nat.pow 2 (attempt - 1) else 4294967295

/-- The longest span of time, which is 2^64 seconds less a nanosecond, in whole milliseconds. -/
def longestMillis : Nat := 18446744073709551615999

/-- The pause after an attempt, counted from one. The first pause is prolonged no further than to
the longest span of time. -/
def backoff (p : RetryPolicy) (attempt : Nat) : Nat :=
  min (min (p.baseMillis * factor attempt) longestMillis) p.maxMillis

/-- How often a write is tried, which is once at least. -/
def tries (p : RetryPolicy) : Nat := max p.attempts.toNat 1

end RetryPolicy

def Settings.retryPolicy (s : Settings) : RetryPolicy :=
  { attempts := UInt32.ofNat s.conflictRetryAttempts, baseMillis := s.conflictRetryBaseDelayMillis }

/-- Which part of a cluster a write is about. The platform keeps the two apart: a write of one part
leaves the other as it is stored, whatever the document says of it. -/
inductive WriteTarget
  /-- Everything but the status. -/
  | object
  | status
  deriving DecidableEq, Repr

def WriteTarget.write (target : WriteTarget) (cluster : Cluster) :
    Program Call Call.Answer (Except Failure Cluster) :=
  match target with
  | object => Program.query (Call.replaceCluster cluster)
  | status => Program.query (Call.replaceStatus cluster)

/-- A change of a cluster, and whether it changed anything. It is made on the latest state at every
attempt, so what another wrote in between is kept wherever the change does not reach. -/
abbrev Mutation := Cluster → Bool × Cluster

def setStatus (next : ClusterStatus) : Mutation := fun latest =>
  if latest.status = some next then (false, latest) else (true, { latest with status := some next })

/-- One attempt and those after it, given how many attempts are left and the number of the first. -/
def modifyFrom (ref : ClusterRef) (target : WriteTarget) (policy : RetryPolicy)
    (mutate : Mutation) :
    Nat → Nat → Program Call Call.Answer (Except Failure (Option Cluster))
  | 0, _ => .done (.error (.retriesExhausted ref.path (UInt32.ofNat policy.tries)))
  | left + 1, attempt =>
    .ask (.getCluster ref) fun
      | .error failure => .done (.error failure)
      | .ok none => .done (.ok none)
      | .ok (some latest) =>
        -- What the last attempt made of an older state is dropped here, not merged.
        let (changed, next) := mutate latest
        if !changed then .done (.ok (some next))
        else
          (target.write next).bind fun
            | .ok stored => .done (.ok (some stored))
            | .error failure =>
              if !failure.isConflict then .done (.error failure)
              -- After the last attempt there is nothing to pause for; the call below gives up.
              else if left = 0 then modifyFrom ref target policy mutate left (attempt + 1)
              else
                .ask (.pause (policy.backoff attempt)) fun _ =>
                  modifyFrom ref target policy mutate left (attempt + 1)

/-- Changes the latest state of a cluster and writes it. The result is the cluster as it is stored
after that, absent if it does not exist any more. -/
def modifyWithRetry (ref : ClusterRef) (target : WriteTarget) (policy : RetryPolicy)
    (mutate : Mutation) : Pass (Option Cluster) :=
  .attempt (modifyFrom ref target policy mutate policy.tries 1)

end ClusterOperator
