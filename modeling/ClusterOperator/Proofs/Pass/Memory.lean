import ClusterOperator.Pass.Deletion
import ClusterOperator.Pass.Rejection
import ClusterOperator.Proofs.Pass.Working

/-!
# The status between two writes

The status is the operator's only memory. Nobody else writes it, so what a pass reads of it is what
the last write that went through has left; everything else that a pass reads may have been changed
by anybody in the meantime. That is all that is assumed of the world here (`ReadsStored`): pods,
views, clocks, the declaration and the annotations are whatever the answers say, and any call may
fail, which then has changed nothing.

> **`Attempts.storedAfter_status`** — a write of the status leaves what was stored, or what it was
> asked to write; and if it reports a stored cluster, the latter.
-/

set_option autoImplicit false

namespace ClusterOperator

open Pass

theorem prefix_append_cases {α : Type} {s t u : List α} (h : u <+: s ++ t) :
    u <+: s ∨ ∃ v, v <+: t ∧ u = s ++ v := by
  rcases List.prefix_or_prefix_of_prefix h (List.prefix_append s t) with hfirst | ⟨v, rfl⟩
  · exact .inl hfirst
  · exact .inr ⟨v, (List.prefix_append_right_inj s).mp h, rfl⟩

/-! ## What is stored -/

/-- The status that is stored after a turn: what it wrote if it wrote one, else what was stored. -/
def Turn.statusAfter (stored : Option ClusterStatus) (turn : Turn Call.Answer) :
    Option ClusterStatus :=
  match turn with
  | ⟨.replaceStatus cluster, .ok _⟩ => cluster.status
  | _ => stored

/-- That a turn finds the stored status if it reads the cluster. -/
def Turn.FindsStatus (stored : Option ClusterStatus) (turn : Turn Call.Answer) : Prop :=
  match turn with
  | ⟨.getCluster _, .ok (some cluster)⟩ => cluster.status = stored
  | _ => True

/-- The status that is stored after a trace. -/
def storedAfter (stored : Option ClusterStatus) (trace : Trace) : Option ClusterStatus :=
  trace.foldl Turn.statusAfter stored

/-- That whoever reads the cluster in a trace finds the status that is stored by then. This is the
only condition that is put on answers, and it is put on the status alone: the declaration that is
read with it may be another one in every read. -/
def ReadsStored : Option ClusterStatus → Trace → Prop
  | _, [] => True
  | stored, turn :: rest => turn.FindsStatus stored ∧ ReadsStored (turn.statusAfter stored) rest

section
variable {stored : Option ClusterStatus} {s t trace : Trace} {turn : Turn Call.Answer}
  {ref : ClusterRef} {cluster written : Cluster} {f : Failure}

@[simp] theorem storedAfter_nil : storedAfter stored [] = stored := rfl

@[simp] theorem storedAfter_cons :
    storedAfter stored (turn :: trace) = storedAfter (turn.statusAfter stored) trace := rfl

@[simp] theorem storedAfter_append :
    storedAfter stored (s ++ t) = storedAfter (storedAfter stored s) t := List.foldl_append

@[simp] theorem readsStored_nil : ReadsStored stored [] := trivial

@[simp] theorem readsStored_cons : ReadsStored stored (turn :: trace) ↔
    turn.FindsStatus stored ∧ ReadsStored (turn.statusAfter stored) trace := Iff.rfl

@[simp] theorem readsStored_append :
    ReadsStored stored (s ++ t) ↔ ReadsStored stored s ∧ ReadsStored (storedAfter stored s) t := by
  induction s generalizing stored with
  | nil => simp
  | cons turn s ih => simp [ih, and_assoc]

@[simp] theorem findsStatus_getCluster :
    (⟨.getCluster ref, .ok (some cluster)⟩ : Turn Call.Answer).FindsStatus stored ↔
      cluster.status = stored := Iff.rfl

@[simp] theorem statusAfter_getCluster {answer : Except Failure (Option Cluster)} :
    (⟨.getCluster ref, answer⟩ : Turn Call.Answer).statusAfter stored = stored := rfl

@[simp] theorem statusAfter_status_ok :
    (WriteTarget.status.turn cluster (.ok written)).statusAfter stored = cluster.status := rfl

@[simp] theorem statusAfter_status_error :
    (WriteTarget.status.turn cluster (.error f)).statusAfter stored = stored := rfl

/-- A call that does not write the status. -/
def Call.KeepsStatus : Call → Prop
  | .replaceStatus _ => False
  | _ => True

theorem statusAfter_of_keepsStatus (h : turn.question.KeepsStatus) :
    turn.statusAfter stored = stored := by
  obtain ⟨question, answer⟩ := turn
  cases question with
  | replaceStatus => exact h.elim
  | _ => rfl

theorem storedAfter_of_keepsStatus (h : ∀ turn ∈ trace, turn.question.KeepsStatus) :
    storedAfter stored trace = stored := by
  induction trace with
  | nil => rfl
  | cons turn trace ih =>
    obtain ⟨hturn, hrest⟩ := List.forall_mem_cons.mp h
    rw [storedAfter_cons, statusAfter_of_keepsStatus hturn, ih hrest]

/-- That a trace stores one status at most: at any time in it the status is the one from before the
trace or the one from after it. So nothing half done is ever stored. -/
def StoresOnce (trace : Trace) : Prop :=
  ∀ stored before, before <+: trace →
    storedAfter stored before = stored ∨ storedAfter stored before = storedAfter stored trace

namespace StoresOnce

theorem of_keepsStatus (h : ∀ turn ∈ trace, turn.question.KeepsStatus) : StoresOnce trace := by
  intro stored before hbefore
  exact .inl (storedAfter_of_keepsStatus fun turn hturn => h turn (hbefore.mem hturn))

theorem singleton (turn : Turn Call.Answer) : StoresOnce [turn] := by
  intro stored before hbefore
  rcases List.prefix_cons_iff.mp hbefore with rfl | ⟨rest, rfl, hrest⟩
  · exact .inl rfl
  · rw [List.prefix_nil.mp hrest]
    exact .inr rfl

theorem cons (hturn : ∀ stored, turn.statusAfter stored = stored) (h : StoresOnce trace) :
    StoresOnce (turn :: trace) := by
  intro stored before hbefore
  rcases List.prefix_cons_iff.mp hbefore with rfl | ⟨rest, rfl, hrest⟩
  · exact .inl rfl
  · rw [storedAfter_cons, storedAfter_cons, hturn]
    exact h stored rest hrest

theorem append_left (hs : ∀ turn ∈ s, turn.question.KeepsStatus) (ht : StoresOnce t) :
    StoresOnce (s ++ t) := by
  induction s with
  | nil => exact ht
  | cons turn s ih =>
    obtain ⟨hturn, hrest⟩ := List.forall_mem_cons.mp hs
    exact .cons (fun _ => statusAfter_of_keepsStatus hturn) (ih hrest)

theorem append_right (hs : StoresOnce s) (ht : ∀ turn ∈ t, turn.question.KeepsStatus) :
    StoresOnce (s ++ t) := by
  intro stored before hbefore
  rw [storedAfter_append, storedAfter_of_keepsStatus ht]
  rcases prefix_append_cases hbefore with hfirst | ⟨u, hu, rfl⟩
  · exact hs stored before hfirst
  · rw [storedAfter_append, storedAfter_of_keepsStatus fun turn hturn => ht turn (hu.mem hturn)]
    exact .inr rfl

end StoresOnce

/-- A call that neither reads the cluster nor writes its status. -/
def Call.SkipsStatus : Call → Prop
  | .getCluster _ | .replaceStatus _ => False
  | _ => True

theorem Call.SkipsStatus.keepsStatus : ∀ {c : Call}, c.SkipsStatus → c.KeepsStatus := by
  intro c h
  cases c with
  | replaceStatus => exact h.elim
  | _ => trivial

theorem findsStatus_of_skipsStatus (h : turn.question.SkipsStatus) : turn.FindsStatus stored := by
  obtain ⟨question, answer⟩ := turn
  cases question with
  | getCluster => exact h.elim
  | _ => trivial

theorem readsStored_of_skipsStatus (h : ∀ turn ∈ trace, turn.question.SkipsStatus) :
    ReadsStored stored trace := by
  induction trace with
  | nil => trivial
  | cons turn trace ih =>
    obtain ⟨hturn, hrest⟩ := List.forall_mem_cons.mp h
    refine readsStored_cons.mpr ⟨findsStatus_of_skipsStatus hturn, ?_⟩
    rw [statusAfter_of_keepsStatus hturn.keepsStatus]
    exact ih hrest

end

/-! ## Writes -/

section
variable {ref : ClusterRef} {policy : RetryPolicy} {mutate : Mutation} {left attempt : Nat}
  {trace : Trace} {result : Except Failure (Option Cluster)} {stored : Option ClusterStatus}

theorem keepsStatus_of_mayAsk_object :
    ∀ c : Call, WriteTarget.object.MayAsk ref c → c.KeepsStatus := by
  intro c h
  cases c with
  | replaceStatus => cases h
  | _ => trivial

theorem storedAfter_pauseTurns : storedAfter stored (pauseTurns policy left attempt) = stored :=
  storedAfter_of_keepsStatus fun turn hturn => by
    rw [mem_pauseTurns hturn]
    trivial

theorem Attempts.storesOnce (h : Attempts ref .status policy mutate left attempt trace result) :
    StoresOnce trace := by
  induction h with
  | exhausted => exact .of_keepsStatus (by simp)
  | unread | absent | unchanged => exact .singleton _
  | written | refused => exact .cons (fun _ => rfl) (.singleton _)
  | overtaken _ _ _ _ _ _ _ ih =>
    refine .cons (fun _ => rfl) (.cons (fun _ => rfl) (.append_left (fun turn hturn => ?_) ih))
    rw [mem_pauseTurns hturn]
    trivial

/-- **What a write of the status leaves**: what was stored, or what the change makes of a cluster
with the stored status. It leaves the latter whenever it reports a stored cluster, unless there was
nothing to change. -/
theorem Attempts.storedAfter_status
    (h : Attempts ref .status policy mutate left attempt trace result)
    (hreads : ReadsStored stored trace) :
    (storedAfter stored trace = stored ∧ ∀ c, result = .ok (some c) →
        ∃ latest : Cluster, latest.status = stored ∧ (mutate latest).1 = false) ∨
      ∃ latest c : Cluster, latest.status = stored ∧ (mutate latest).1 = true ∧
        storedAfter stored trace = (mutate latest).2.status ∧ result = .ok (some c) := by
  induction h with
  | exhausted | unread | absent => exact .inl ⟨rfl, fun c hc => by cases hc⟩
  | unchanged left attempt latest h =>
    rw [readsStored_cons, findsStatus_getCluster] at hreads
    exact .inl ⟨rfl, fun c _ => ⟨latest, hreads.1, h⟩⟩
  | written left attempt latest c h =>
    rw [readsStored_cons, findsStatus_getCluster] at hreads
    exact .inr ⟨latest, c, hreads.1, h, rfl, rfl⟩
  | refused => exact .inl ⟨rfl, fun c hc => by cases hc⟩
  | overtaken left attempt latest f h hf rest ih =>
    -- The attempt that was overtaken stored nothing, and neither did the pause after it.
    simp only [readsStored_cons, readsStored_append, storedAfter_cons, storedAfter_append,
      statusAfter_getCluster, statusAfter_status_error, storedAfter_pauseTurns] at hreads ⊢
    exact ih hreads.2.2.2

end

end ClusterOperator
