import ClusterOperator.Proofs.Pass.Memory
import ClusterOperator.Reconcile

/-!
# Passes that touch nothing

A pass does not always come as far as deciding anything: the cluster is gone, being deleted, not
claimed yet, invalid, or cannot be observed. What such a pass leaves is all but what it found. It
touches no pod and no resource, and of the status at most the phase, the conditions and the
generation; the version, the upgrade and the membership are as they were.

> **`IsQuiet.bind`** — a sequence is quiet if its parts are.

The property goes along the text of a pass for the same reason as the others do, with one
difference: it is about the status too, so the second part has to be quiet on whatever the first has
left.
-/

set_option autoImplicit false

namespace ClusterOperator

open Pass

/-! ## Statuses that differ in little -/

/-- That at most the phase, the conditions and the generation of a status were changed. A status
that was missing counts as the default one, which is what the operator takes it for. -/
def Retouched (before after : Option ClusterStatus) : Prop :=
  after = before ∨ ∃ phase conditions generation, after =
    some { before.getD {} with phase, conditions, observedGeneration := generation }

namespace Retouched

variable {a b c : Option ClusterStatus}

theorem refl (a : Option ClusterStatus) : Retouched a a := .inl rfl

theorem trans (hab : Retouched a b) (hbc : Retouched b c) : Retouched a c := by
  rcases hbc with rfl | ⟨phase, conditions, generation, rfl⟩
  · exact hab
  · rcases hab with rfl | ⟨_, _, _, rfl⟩
    · exact .inr ⟨phase, conditions, generation, rfl⟩
    · exact .inr ⟨phase, conditions, generation, rfl⟩

theorem version (h : Retouched a b) : (b.getD {}).version = (a.getD {}).version := by
  rcases h with rfl | ⟨_, _, _, rfl⟩ <;> rfl

theorem upgrade (h : Retouched a b) : (b.getD {}).upgrade = (a.getD {}).upgrade := by
  rcases h with rfl | ⟨_, _, _, rfl⟩ <;> rfl

theorem configuration (h : Retouched a b) :
    (b.getD {}).configuration = (a.getD {}).configuration := by
  rcases h with rfl | ⟨_, _, _, rfl⟩ <;> rfl

theorem membership (h : Retouched a b) : (b.getD {}).membership = (a.getD {}).membership := by
  rcases h with rfl | ⟨_, _, _, rfl⟩ <;> rfl

end Retouched

/-! ## Quiet parts of a pass -/

/-- A call that neither deletes a pod nor applies resources. -/
def Call.SparesServers : Call → Prop
  | .deletePod _ _ | .applyManifest _ _ => False
  | _ => True

/-- A call that neither changes the servers nor asks them anything. -/
def Call.LeavesServers : Call → Prop
  | .deletePod _ _ | .applyManifest _ _ | .askViews _ _ | .askDatabases _ _ => False
  | _ => True

def Call.IsPassive (c : Call) : Prop := c.KeepsStatus ∧ c.SparesServers

theorem isPassive_of_isReading : ∀ c : Call, c.IsReading → c.IsPassive := by
  intro c h
  cases c <;> first | exact ⟨trivial, trivial⟩ | exact h.elim

theorem sparesServers_of_mayAsk {target : WriteTarget} {ref : ClusterRef} :
    ∀ c : Call, target.MayAsk ref c → c.SparesServers := by
  intro c h
  cases c with
  | applyManifest | deletePod => exact h.elim
  | _ => trivial

theorem leavesServers_of_mayAsk {target : WriteTarget} {ref : ClusterRef} :
    ∀ c : Call, target.MayAsk ref c → c.LeavesServers := by
  intro c h
  cases c with
  | applyManifest | deletePod | askViews | askDatabases => exact h.elim
  | _ => trivial

/-- That a trace touches no pod and no resource, and at no time more of the status than may be
retouched. At no time, and not only at its end: a pass may be cut off anywhere, and what it has
stored by then is what the next one reads. -/
structure Quiet (stored : Option ClusterStatus) (trace : Trace) : Prop where
  status : ∀ before, before <+: trace → Retouched stored (storedAfter stored before)
  servers : ∀ turn ∈ trace, turn.question.SparesServers

namespace Quiet

variable {stored : Option ClusterStatus} {s t trace : Trace}

theorem append (hs : Quiet stored s) (ht : Quiet (storedAfter stored s) t) :
    Quiet stored (s ++ t) where
  status before hbefore := by
    rcases prefix_append_cases hbefore with hfirst | ⟨u, hu, rfl⟩
    · exact hs.status before hfirst
    · rw [storedAfter_append]
      exact (hs.status s List.prefix_rfl).trans (ht.status u hu)
  servers := List.forall_mem_append.mpr ⟨hs.servers, ht.servers⟩

theorem of_passive (h : ∀ turn ∈ trace, turn.question.IsPassive) : Quiet stored trace where
  status before hbefore := by
    rw [storedAfter_of_keepsStatus fun turn hturn => (h turn (hbefore.mem hturn)).1]
    exact .refl _
  servers turn hturn := (h turn hturn).2

end Quiet

namespace Pass

variable {α β : Type}

/-- A part of a pass whose runs are quiet. -/
def IsQuiet (p : Pass α) : Prop :=
  ∀ (stored : Option ClusterStatus) (trace : Trace) (result : Except Failure α),
    p.Runs trace result → ReadsStored stored trace → Quiet stored trace

namespace IsQuiet

theorem of_asksOnly {p : Pass α} (h : AsksOnly Call.IsPassive p) : IsQuiet p :=
  fun _ _ _ hrun _ => .of_passive (h _ _ hrun)

theorem pure (a : α) : IsQuiet (Pure.pure a : Pass α) := of_asksOnly (.pure a)

theorem call {c : Call} (h : c.IsPassive) : IsQuiet (Pass.call c) := of_asksOnly (.call h)

theorem throw (f : Failure) : IsQuiet (throw f : Pass α) := by
  intro stored trace result hrun _
  rw [(runs_throw.mp hrun).1]
  exact .of_passive (by simp)

theorem bind {p : Pass α} {f : α → Pass β} (hp : IsQuiet p) (hf : ∀ a, IsQuiet (f a)) :
    IsQuiet (p >>= f) := by
  intro stored trace result hrun hreads
  rcases runs_bind.mp hrun with ⟨_, -, first⟩ | ⟨before, a, after, rfl, first, second⟩
  · exact hp _ _ _ first hreads
  · rw [readsStored_append] at hreads
    exact (hp _ _ _ first hreads.1).append (hf a _ _ _ second hreads.2)

theorem tryCatch {p : Pass α} {handle : Failure → Pass α} (hp : IsQuiet p)
    (hhandle : ∀ f, IsQuiet (handle f)) : IsQuiet (tryCatch p handle) := by
  intro stored trace result hrun hreads
  rcases runs_tryCatch hrun with ⟨_, -, first⟩ | ⟨before, f, after, rfl, first, second⟩
  · exact hp _ _ _ first hreads
  · rw [readsStored_append] at hreads
    exact (hp _ _ _ first hreads.1).append (hhandle f _ _ _ second hreads.2)

theorem modify_object {ref : ClusterRef} {policy : RetryPolicy} {mutate : Mutation} :
    IsQuiet (modifyWithRetry ref .object policy mutate) := by
  intro stored trace result hrun _
  have hmay := (runs_modifyWithRetry.mp hrun).mayAsk
  exact .of_passive fun turn hturn =>
    ⟨keepsStatus_of_mayAsk_object _ (hmay turn hturn), sparesServers_of_mayAsk _ (hmay turn hturn)⟩

/-- A write of the status is quiet if its change only retouches the status. -/
theorem modify_status {ref : ClusterRef} {policy : RetryPolicy} {mutate : Mutation}
    (h : ∀ latest, Retouched latest.status (mutate latest).2.status) :
    IsQuiet (modifyWithRetry ref .status policy mutate) := by
  intro stored trace result hrun hreads
  have hattempts := runs_modifyWithRetry.mp hrun
  refine ⟨fun before hbefore => ?_, fun turn hturn =>
    sparesServers_of_mayAsk _ (hattempts.mayAsk turn hturn)⟩
  rcases hattempts.storesOnce stored before hbefore with heq | hafter
  · rw [heq]
    exact .refl _
  rw [hafter]
  rcases hattempts.storedAfter_status hreads with ⟨heq, -⟩ | ⟨latest, _, hlatest, -, heq, -⟩
  · rw [heq]
    exact .refl _
  · rw [heq, ← hlatest]
    exact h latest

end IsQuiet

/-! ## Passes over clusters that are not worked on -/

theorem isQuiet_runHooks (cluster : Cluster) (names : List String) (index : Nat) :
    IsQuiet (runHooks cluster index names) := by
  induction names generalizing index with
  | nil => exact .pure ()
  | cons name rest ih =>
    refine .bind (.tryCatch ?_ fun f => ?_) fun _ => ih (index + 1)
    · exact .of_asksOnly (.of_single (.runHook index cluster) ⟨trivial, trivial⟩ fun _ _ h =>
        ⟨_, Program.runs_query.mp h⟩)
    · exact .bind (.call ⟨trivial, trivial⟩) fun _ => .throw f

theorem retouched_setDeleting (latest : Cluster) :
    Retouched latest.status (setDeleting latest).2.status := by
  unfold setDeleting
  dsimp only
  split
  · exact .refl _
  · exact .inr ⟨_, _, _, rfl⟩

theorem retouched_setRejection (conditions : List Condition) (generation : Option Int64)
    (latest : Cluster) :
    Retouched latest.status (setRejection conditions generation latest).2.status := by
  unfold setRejection setStatus
  dsimp only
  split
  · exact .refl _
  · exact .inr ⟨_, _, _, rfl⟩

theorem isQuiet_deletionPass (settings : Settings) (hooks : List String) (cluster : Cluster)
    (ref : ClusterRef) : IsQuiet (deletionPass settings hooks cluster ref) := by
  have hclean : IsQuiet (do
      runHooks cluster 0 hooks
      publish cluster (.normal "Deleted" "Deleting" "Cleanup complete, releasing finalizer")
      let _ ← modifyWithRetry ref .object settings.retryPolicy Cluster.removeFinalizer
      measure ref (.phase none)) := by
    refine .bind (isQuiet_runHooks cluster hooks 0) fun _ => ?_
    refine .bind (.call ⟨trivial, trivial⟩) fun _ => ?_
    exact .bind .modify_object fun _ => .call ⟨trivial, trivial⟩
  unfold deletionPass
  split
  · exact .pure ()
  · dsimp only
    split
    · exact .bind (.modify_status retouched_setDeleting) fun _ => hclean
    · exact hclean

theorem isQuiet_rejectionPass (settings : Settings) (cluster : Cluster) (violations : List String)
    (now : Instant) : IsQuiet (rejectionPass settings cluster violations now : Pass α) := by
  have hrecord (ref : ClusterRef) (conditions : List Condition) : IsQuiet (do
      measure ref (.phase (some ClusterPhase.failed.name))
      let _ ← modifyWithRetry ref .status settings.retryPolicy
        (setRejection conditions cluster.metadata.generation)
      throw (.validation violations) : Pass α) := by
    refine .bind (.call ⟨trivial, trivial⟩) fun _ => ?_
    exact .bind (.modify_status (retouched_setRejection _ _)) fun _ => .throw _
  unfold rejectionPass
  dsimp only
  split
  · exact .bind (.call ⟨trivial, trivial⟩) fun _ => hrecord _ _
  · exact hrecord _ _

end Pass

end ClusterOperator
