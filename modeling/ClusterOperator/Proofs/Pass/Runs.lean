import ClusterOperator.Pass.Call
import ClusterOperator.Proofs.Program.Runs

/-!
# Runs of passes

A part of a pass ends with a result or with a failure, and a sequence of two goes on only after a
result. So a run of a sequence has two forms (`runs_bind`): both parts ran, or the first one failed
and the second was never reached.

> **`EndsOnFailure.bind`** — if the parts of a sequence ask nothing more once a call has failed,
> then neither does the sequence.

Every call that may fail ends its part this way, and what cannot fail has nothing to end it; so the
property holds of a pass by going through its text. Only what handles a failure itself needs a proof
of its own, and the property does not hold of it.
-/

set_option autoImplicit false

namespace ClusterOperator

/-- What a pass asked, and what it was answered. -/
abbrev Trace := List (Turn Call.Answer)

/-- The failure of an answer. -/
def failureOf? {α : Type} : Except Failure α → Option Failure
  | .error f => some f
  | .ok _ => none

/-- The failure that a call is answered with. The type of an answer depends on its call, so this
goes call by call. -/
def Call.failure? : (c : Call) → c.Answer → Option Failure
  | getCluster _, answer => @failureOf? (Option Cluster) answer
  | replaceCluster _, answer => @failureOf? Cluster answer
  | replaceStatus _, answer => @failureOf? Cluster answer
  | applyManifest _ _, answer => @failureOf? Unit answer
  | deletePod _ _, answer => @failureOf? Unit answer
  | runHook _ _, answer => @failureOf? Unit answer
  | listServerPods _, answer => @failureOf? (List ServerPod) answer
  | readSecret _ _ _, answer => @failureOf? (Option String) answer
  | _, _ => none

/-- The failure that a turn ended with. -/
def Turn.failure? (turn : Turn Call.Answer) : Option Failure := turn.question.failure? turn.answer

namespace Pass

variable {α β : Type} {trace : Trace}

/-- That a part of a pass asks and is answered in a certain way, and ends in a certain way. -/
def Runs (p : Pass α) (trace : Trace) (result : Except Failure α) : Prop :=
  Program.Runs p.run trace result

theorem runs_pure {a : α} {r : Except Failure α} :
    (pure a : Pass α).Runs trace r ↔ trace = [] ∧ r = .ok a := Program.runs_done

theorem runs_throw {f : Failure} {r : Except Failure α} :
    (throw f : Pass α).Runs trace r ↔ trace = [] ∧ r = .error f := Program.runs_done

/-- **A run of a sequence either fails in its first part or is a run of both.** -/
theorem runs_bind {p : Pass α} {f : α → Pass β} {r : Except Failure β} :
    (p >>= f).Runs trace r ↔
      (∃ e, r = .error e ∧ p.Runs trace (.error e)) ∨
        ∃ before a after, trace = before ++ after ∧ p.Runs before (.ok a) ∧ (f a).Runs after r :=
  Program.runs_bind_except

theorem runs_tryCatch {p : Pass α} {handle : Failure → Pass α} {r : Except Failure α}
    (h : (tryCatch p handle).Runs trace r) :
    (∃ a, r = .ok a ∧ p.Runs trace (.ok a)) ∨
      ∃ before f after, trace = before ++ after ∧ p.Runs before (.error f) ∧
        (handle f).Runs after r := by
  obtain ⟨before, result, after, rfl, first, second⟩ := Program.runs_bind.mp h
  cases result with
  | ok a =>
    obtain ⟨rfl, rfl⟩ := Program.runs_done.mp second
    rw [List.append_nil]
    exact .inl ⟨a, rfl, first⟩
  | error f => exact .inr ⟨before, f, after, rfl, first, second⟩

theorem runs_call {c : Call} {r : Except Failure c.Answer} :
    (call c).Runs trace r ↔ ∃ answer, trace = [⟨c, answer⟩] ∧ r = .ok answer := by
  refine Program.runs_bind.trans ⟨?_, ?_⟩
  · rintro ⟨before, answer, after, rfl, first, second⟩
    obtain ⟨rfl, rfl⟩ := Program.runs_done.mp second
    exact ⟨answer, by rw [Program.runs_query.mp first, List.append_nil], rfl⟩
  · rintro ⟨answer, rfl, rfl⟩
    exact ⟨_, answer, [], (List.append_nil _).symm, Program.runs_query.mpr rfl, .done _⟩

/-- A call that cannot fail is followed by what comes after it. -/
theorem runs_call_bind {c : Call} {f : c.Answer → Pass β} {r : Except Failure β} :
    (call c >>= f).Runs trace r ↔
      ∃ answer rest, trace = ⟨c, answer⟩ :: rest ∧ (f answer).Runs rest r := by
  rw [runs_bind]
  constructor
  · rintro (⟨_, -, hcall⟩ | ⟨_, answer, rest, rfl, hcall, hrest⟩)
    · obtain ⟨_, -, heq⟩ := runs_call.mp hcall
      cases heq
    · obtain ⟨_, rfl, heq⟩ := runs_call.mp hcall
      cases heq
      exact ⟨answer, rest, rfl, hrest⟩
  · rintro ⟨answer, rest, rfl, hrest⟩
    exact .inr ⟨[_], answer, rest, rfl, runs_call.mpr ⟨answer, rfl, rfl⟩, hrest⟩

theorem exists_run_call_bind {c : Call} {f : c.Answer → Pass β} {r : Except Failure β}
    (answer : c.Answer) (h : ∃ rest, (f answer).Runs rest r) :
    ∃ trace, (call c >>= f).Runs trace r :=
  h.elim fun rest hrest => ⟨_, runs_call_bind.mpr ⟨answer, rest, rfl, hrest⟩⟩

theorem runs_applyManifest {cluster : Cluster} {manifest : Manifest} {r : Except Failure Unit} :
    (applyManifest cluster manifest).Runs trace r ↔
      trace = [⟨.applyManifest cluster manifest, r⟩] := Program.runs_query

theorem runs_deletePod {«namespace» name : String} {r : Except Failure Unit} :
    (deletePod «namespace» name).Runs trace r ↔ trace = [⟨.deletePod «namespace» name, r⟩] :=
  Program.runs_query

theorem runs_listServerPods {cluster : Cluster} {r : Except Failure (List ServerPod)} :
    (listServerPods cluster).Runs trace r ↔ trace = [⟨.listServerPods cluster, r⟩] :=
  Program.runs_query

theorem runs_readSecret {«namespace» name key : String} {r : Except Failure (Option String)} :
    (readSecret «namespace» name key).Runs trace r ↔
      trace = [⟨.readSecret «namespace» name key, r⟩] := Program.runs_query

/-! ## Failures -/

def Calm (trace : Trace) : Prop := ∀ turn ∈ trace, turn.failure? = none

@[simp] theorem calm_nil : Calm [] := by simp [Calm]

@[simp] theorem calm_append {s t : Trace} : Calm (s ++ t) ↔ Calm s ∧ Calm t :=
  List.forall_mem_append

def FailsLast (trace : Trace) (f : Failure) : Prop :=
  ∃ before turn, trace = before ++ [turn] ∧ Calm before ∧ turn.failure? = some f

theorem FailsLast.append {s t : Trace} {f : Failure} (ht : FailsLast t f) (hs : Calm s) :
    FailsLast (s ++ t) f := by
  obtain ⟨before, turn, rfl, hbefore, hfailed⟩ := ht
  exact ⟨s ++ before, turn, (List.append_assoc ..).symm, calm_append.mpr ⟨hs, hbefore⟩, hfailed⟩

/-- No call fails before the last, but for turns of a certain kind. There is one such kind in a
pass: a write that was overtaken, which is made again. -/
def FailsOnlyLast (tolerated : Turn Call.Answer → Prop) (trace : Trace) : Prop :=
  ∀ before turn after, trace = before ++ turn :: after →
    turn.failure? ≠ none → after = [] ∨ tolerated turn

section
variable {tolerated : Turn Call.Answer → Prop}

theorem Calm.failsOnlyLast (h : Calm trace) : FailsOnlyLast tolerated trace := by
  rintro before turn after rfl hfailed
  exact absurd (h turn (List.mem_append_right _ List.mem_cons_self)) hfailed

theorem FailsOnlyLast.singleton (turn : Turn Call.Answer) : FailsOnlyLast tolerated [turn] := by
  intro before other after heq _
  left
  cases before with
  | nil => exact (List.cons.inj heq).2.symm
  | cons _ _ => exact absurd (List.cons.inj heq).2 (by simp)

theorem FailsOnlyLast.cons {turn : Turn Call.Answer}
    (hturn : turn.failure? = none ∨ tolerated turn) (h : FailsOnlyLast tolerated trace) :
    FailsOnlyLast tolerated (turn :: trace) := by
  intro before other after heq hfailed
  cases before with
  | nil =>
    obtain ⟨rfl, rfl⟩ := List.cons.inj heq
    exact .inr (hturn.resolve_left hfailed)
  | cons _ before => exact h before other after (List.cons.inj heq).2 hfailed

theorem FailsOnlyLast.append {s t : Trace} (ht : FailsOnlyLast tolerated t) (hs : Calm s) :
    FailsOnlyLast tolerated (s ++ t) := by
  induction s with
  | nil => exact ht
  | cons turn s ih =>
    obtain ⟨hturn, hrest⟩ := List.forall_mem_cons.mp hs
    exact .cons (.inl hturn) (ih hrest)

theorem FailsLast.failsOnlyLast {f : Failure} (h : FailsLast trace f) :
    FailsOnlyLast tolerated trace := by
  obtain ⟨before, turn, rfl, hbefore, -⟩ := h
  exact (FailsOnlyLast.singleton turn).append hbefore

end

/-- A part of a pass that asks nothing more once a call has failed, and ends with that failure. It
is stronger than `FailsOnlyLast`, which says nothing of the result, and unlike that it goes through
sequences (`EndsOnFailure.bind`). -/
def EndsOnFailure (p : Pass α) : Prop :=
  ∀ trace result, p.Runs trace result →
    (∃ a, result = .ok a ∧ Calm trace) ∨ ∃ f, result = .error f ∧ FailsLast trace f

namespace EndsOnFailure

theorem calm {p : Pass α} {a : α} (hp : EndsOnFailure p) (h : p.Runs trace (.ok a)) :
    Calm trace := by
  rcases hp _ _ h with ⟨_, -, hcalm⟩ | ⟨_, heq, -⟩
  · exact hcalm
  · cases heq

theorem failsOnlyLast {p : Pass α} {r : Except Failure α} {tolerated : Turn Call.Answer → Prop}
    (hp : EndsOnFailure p) (h : p.Runs trace r) : FailsOnlyLast tolerated trace := by
  rcases hp _ _ h with ⟨_, -, hcalm⟩ | ⟨_, -, hlast⟩
  · exact hcalm.failsOnlyLast
  · exact hlast.failsOnlyLast

theorem pure (a : α) : EndsOnFailure (Pure.pure a : Pass α) := by
  intro trace result h
  obtain ⟨rfl, rfl⟩ := runs_pure.mp h
  exact .inl ⟨a, rfl, calm_nil⟩

/-- **A sequence ends on a failure if its parts do.** -/
theorem bind {p : Pass α} {f : α → Pass β} (hp : EndsOnFailure p)
    (hf : ∀ a, EndsOnFailure (f a)) : EndsOnFailure (p >>= f) := by
  intro trace result h
  rcases runs_bind.mp h with ⟨e, rfl, first⟩ | ⟨before, a, after, rfl, first, second⟩
  · rcases hp _ _ first with ⟨a, heq, -⟩ | ⟨e', heq, hlast⟩
    · cases heq
    · cases heq
      exact .inr ⟨e, rfl, hlast⟩
  · have hcalm := hp.calm first
    rcases hf a _ _ second with ⟨b, rfl, hrest⟩ | ⟨e, rfl, hlast⟩
    · exact .inl ⟨b, rfl, calm_append.mpr ⟨hcalm, hrest⟩⟩
    · exact .inr ⟨e, rfl, hlast.append hcalm⟩

theorem call {c : Call} (h : ∀ answer, c.failure? answer = none) : EndsOnFailure (Pass.call c) := by
  intro trace result hrun
  obtain ⟨answer, rfl, rfl⟩ := runs_call.mp hrun
  refine .inl ⟨answer, rfl, fun turn hturn => ?_⟩
  rw [List.mem_singleton.mp hturn]
  exact h answer

/-- A part that is a single call ends on its failure. -/
theorem of_single {p : Pass α} (h : ∀ trace result, p.Runs trace result →
    ∃ turn : Turn Call.Answer, trace = [turn] ∧ turn.failure? = failureOf? result) :
    EndsOnFailure p := by
  intro trace result hrun
  obtain ⟨turn, rfl, hfailure⟩ := h trace result hrun
  cases result with
  | ok a =>
    refine .inl ⟨a, rfl, fun other hother => ?_⟩
    rw [List.mem_singleton.mp hother]
    exact hfailure
  | error f => exact .inr ⟨f, rfl, [], turn, rfl, calm_nil, hfailure⟩

theorem applyManifest (cluster : Cluster) (manifest : Manifest) :
    EndsOnFailure (Pass.applyManifest cluster manifest) :=
  of_single fun _ _ h => ⟨_, runs_applyManifest.mp h, rfl⟩

theorem deletePod («namespace» name : String) : EndsOnFailure (Pass.deletePod «namespace» name) :=
  of_single fun _ _ h => ⟨_, runs_deletePod.mp h, rfl⟩

theorem listServerPods (cluster : Cluster) : EndsOnFailure (Pass.listServerPods cluster) :=
  of_single fun _ _ h => ⟨_, runs_listServerPods.mp h, rfl⟩

theorem readSecret («namespace» name key : String) :
    EndsOnFailure (Pass.readSecret «namespace» name key) :=
  of_single fun _ _ h => ⟨_, runs_readSecret.mp h, rfl⟩

end EndsOnFailure

/-! ## Calls -/

/-- A part of a pass that makes only calls of a certain kind, however it is answered. Most of what a
pass never does is said in this way. -/
def AsksOnly (P : Call → Prop) (p : Pass α) : Prop :=
  ∀ trace result, p.Runs trace result → ∀ turn ∈ trace, P turn.question

namespace AsksOnly

variable {P : Call → Prop}

theorem pure (a : α) : AsksOnly P (Pure.pure a : Pass α) := by
  intro trace result h
  rw [(runs_pure.mp h).1]
  simp

theorem bind {p : Pass α} {f : α → Pass β} (hp : AsksOnly P p) (hf : ∀ a, AsksOnly P (f a)) :
    AsksOnly P (p >>= f) := by
  intro trace result h
  rcases runs_bind.mp h with ⟨_, -, first⟩ | ⟨before, a, after, rfl, first, second⟩
  · exact hp _ _ first
  · exact List.forall_mem_append.mpr ⟨hp _ _ first, hf a _ _ second⟩

/-- A part that is a single call makes calls of its kind. -/
theorem of_single {p : Pass α} (c : Call) (hc : P c)
    (h : ∀ trace result, p.Runs trace result → ∃ answer, trace = [⟨c, answer⟩]) :
    AsksOnly P p := by
  intro trace result hrun
  obtain ⟨answer, rfl⟩ := h trace result hrun
  intro turn hturn
  rw [List.mem_singleton.mp hturn]
  exact hc

theorem call {c : Call} (hc : P c) : AsksOnly P (Pass.call c) :=
  of_single c hc fun _ _ h => (runs_call.mp h).imp fun _ h => h.1

theorem listServerPods {cluster : Cluster} (hc : P (.listServerPods cluster)) :
    AsksOnly P (Pass.listServerPods cluster) :=
  of_single _ hc fun _ _ h => ⟨_, runs_listServerPods.mp h⟩

theorem readSecret {«namespace» name key : String} (hc : P (.readSecret «namespace» name key)) :
    AsksOnly P (Pass.readSecret «namespace» name key) :=
  of_single _ hc fun _ _ h => ⟨_, runs_readSecret.mp h⟩

end AsksOnly

end Pass

end ClusterOperator
