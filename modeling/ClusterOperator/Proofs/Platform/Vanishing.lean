import ClusterOperator.Proofs.Pass.Writing
import ClusterOperator.Proofs.Platform.Applying

/-!
# A cluster that vanishes while it is written

A write reads the cluster, changes it and writes it back, perhaps more than once. The cluster may be
deleted meanwhile, and from then on the platform answers every request for it that there is no such
object. What the write makes of that depends on the call that meets it:

> **`meetsDeletion_of_runs`** — a write that goes on to read finds nothing, and that is its result;
> a write that has just read fails, because only a read takes a missing object for an absent one.

A write that was accepted before the deletion, or that lost all its attempts to others before it,
does not notice.
-/

set_option autoImplicit false

namespace ClusterOperator

theorem Failure.isConflict_of_isNotFound {f : Failure} (h : f.isNotFound = true) :
    f.isConflict = false := by
  unfold isNotFound at h
  split at h
  · rename_i code
    rw [beq_iff_eq] at h
    subst h
    rfl
  · cases h

namespace Platform

/-! ## Replies that there is no such object -/

/-- That a reply says that there is no such object. -/
def Reply.Missing (reply : Reply) : Prop :=
  ∃ status body statusWord message reason, reply = .response status body ∧
    Http.isError status = true ∧
      refusalOf status body = .refused statusWord message reason 404

theorem Reply.body_of_isError {status : Nat} (body : String) (deadline : Deadline)
    (herror : Http.isError status = true) :
    (Reply.response status body).body deadline =
      match refusalOf status body with
      | .refused _ _ _ 409 => .error (.conflict deadline.operation)
      | refusal => .error (.platform refusal) := if_pos herror

theorem Reply.Missing.body {reply : Reply} (h : reply.Missing) (deadline : Deadline) :
    ∃ f, reply.body deadline = .error f ∧ f.isNotFound = true := by
  obtain ⟨status, body, statusWord, message, reason, rfl, herror, hrefusal⟩ := h
  refine ⟨.platform (.refused statusWord message reason 404), ?_, rfl⟩
  rw [Reply.body_of_isError body deadline herror, hrefusal]
  rfl

section
variable {α : Type} {collection : Collection} {name : String} {deadline : Deadline}
  {read : Json → Option α} {request : String → Request} {sent : Request} {reply : Reply}

theorem runs_send {trace : List (Turn fun _ : Request => Reply)} {asked : Request}
    {answer : Except Failure α} :
    (send deadline read asked).Runs trace answer ↔
      ∃ reply, trace = [⟨asked, reply⟩] ∧ answer = (reply.body deadline >>= decodeBody read) := by
  refine Program.runs_bind.trans ⟨?_, ?_⟩
  · rintro ⟨_, reply, after, rfl, hquery, hdone⟩
    rw [Program.runs_query.mp hquery]
    obtain ⟨rfl, rfl⟩ := Program.runs_done.mp hdone
    exact ⟨reply, rfl, rfl⟩
  · rintro ⟨reply, rfl, rfl⟩
    exact ⟨_, reply, [], rfl, Program.runs_query.mpr rfl, .done _⟩

/-- A call that takes a request for one object fails if there is no such object. -/
theorem missing_of_runs_item {answer : Except Failure α}
    (h : Exchange.Runs (collection.item name >>= fun path => send deadline read (request path))
      [⟨sent, reply⟩] answer) (hmissing : reply.Missing) :
    ∃ f, answer = .error f ∧ f.isNotFound = true := by
  unfold Collection.item at h
  split at h
  · obtain ⟨hnone, -⟩ := Program.runs_done.mp h
    cases hnone
  · rw [pure_bind] at h
    obtain ⟨_, heq, rfl⟩ := runs_send.mp h
    cases heq
    obtain ⟨f, hf, hnotFound⟩ := hmissing.body deadline
    exact ⟨f, by rw [hf]; rfl, hnotFound⟩

/-- An answer that takes a missing object for an absent one. -/
def absentIfMissing : Except Failure α → Except Failure (Option α)
  | .ok a => .ok (some a)
  | .error f => if f.isNotFound then .ok none else .error f

theorem orAbsent_eq (exchange : Exchange α) :
    (orAbsent exchange).run = exchange.run.bind fun answer => .done (absentIfMissing answer) := by
  refine (Program.bind_assoc ..).trans (congrArg exchange.run.bind (funext fun answer => ?_))
  cases answer with
  | ok a => rfl
  | error f =>
    change ExceptT.run (if f.isNotFound then pure none else throw f) = _
    simp only [absentIfMissing]
    cases f.isNotFound <;> rfl

end

/-! ## Calls -/

section
variable {millis : Nat} {ref : ClusterRef} {target : WriteTarget} {cluster : Cluster}
  {sent : Request} {reply : Reply}

/-- **A read that meets a missing cluster finds none.** -/
theorem read_missing {answer : Except Failure (Option Cluster)}
    (hrun : (getCluster millis ref).Runs [⟨sent, reply⟩] answer) (hmissing : reply.Missing) :
    answer = .ok none := by
  unfold getCluster Exchange.Runs at hrun
  rw [orAbsent_eq] at hrun
  obtain ⟨before, inner, after, heq, hinner, hdone⟩ := Program.runs_bind.mp hrun
  obtain ⟨rfl, rfl⟩ := Program.runs_done.mp hdone
  rw [List.append_nil] at heq
  subst heq
  obtain ⟨f, rfl, hnotFound⟩ := missing_of_runs_item hinner hmissing
  exact if_pos hnotFound

/-- That the platform is sent a request for a call of a write, with what it replies. A pause sends
nothing. Only calls that a write may make are listed, since no other is met here. -/
inductive Serves (millis : Nat) : Turn Call.Answer → Option Reply → Prop
  | read {ref : ClusterRef} {sent : Request} {reply : Reply}
    {answer : Except Failure (Option Cluster)}
    (hrun : (getCluster millis ref).Runs [⟨sent, reply⟩] answer) :
    Serves millis ⟨.getCluster ref, answer⟩ (some reply)
  | object {cluster : Cluster} {sent : Request} {reply : Reply} {answer : Except Failure Cluster}
    (hrun : (replaceCluster millis cluster).Runs [⟨sent, reply⟩] answer) :
    Serves millis ⟨.replaceCluster cluster, answer⟩ (some reply)
  | status {cluster : Cluster} {sent : Request} {reply : Reply} {answer : Except Failure Cluster}
    (hrun : (replaceStatus millis cluster).Runs [⟨sent, reply⟩] answer) :
    Serves millis ⟨.replaceStatus cluster, answer⟩ (some reply)
  | pause (wait : Nat) : Serves millis ⟨.pause wait, ()⟩ none

/-- That a turn finds the cluster: it is read or written, unless another write came first. -/
def Finds : Turn Call.Answer → Prop
  | ⟨.getCluster _, answer⟩ => ∃ latest, answer = .ok (some latest)
  | ⟨.replaceCluster _, answer⟩ | ⟨.replaceStatus _, answer⟩ =>
    ∀ f, answer = .error f → f.isConflict = true
  | _ => True

/-- That a request in a turn is answered that there is no such object. -/
def Misses (millis : Nat) (turn : Turn Call.Answer) : Prop :=
  ∃ reply?, Serves millis turn reply? ∧ ∀ reply ∈ reply?, reply.Missing

theorem Misses.read {answer : Except Failure (Option Cluster)}
    (h : Misses millis ⟨.getCluster ref, answer⟩) : answer = .ok none := by
  obtain ⟨_, ⟨hrun⟩, hmissing⟩ := h
  exact read_missing hrun (hmissing _ rfl)

theorem Misses.write {answer : Except Failure Cluster}
    (h : Misses millis (target.turn cluster answer)) :
    ∃ f, answer = .error f ∧ f.isNotFound = true := by
  obtain ⟨reply?, hserves, hmissing⟩ := h
  cases target with
  | object =>
    cases hserves with
    | object hrun => exact missing_of_runs_item hrun (hmissing _ rfl)
  | status =>
    cases hserves with
    | status hrun => exact missing_of_runs_item hrun (hmissing _ rfl)

theorem Finds.write {answer : Except Failure Cluster} (h : Finds (target.turn cluster answer)) :
    ∀ f, answer = .error f → f.isConflict = true := by
  cases target <;> exact h

end

end Platform

open Platform

/-! ## Writes -/

/-- A course of a write during which the cluster is deleted: the calls before find it, and every
request after is answered that there is no such object. The deletion may fall between any two calls,
so where it falls is left open. -/
structure DeletedDuring (millis : Nat) (before after : Trace) : Prop where
  finds : ∀ turn ∈ before, Finds turn ∧ ∃ reply?, Serves millis turn reply?
  misses : ∀ turn ∈ after, Misses millis turn

/-- How many calls were told that another write came first. -/
def conflictsIn (trace : Trace) : Nat := trace.countP (·.failure?.any (·.isConflict))

/-- That the last call read the cluster. -/
def EndsReading (ref : ClusterRef) (trace : Trace) : Prop :=
  ∃ answer, trace.getLast? = some ⟨.getCluster ref, answer⟩

/-- That a write was accepted. -/
def Accepted (target : WriteTarget) (trace : Trace) (stored : Cluster) : Prop :=
  ∃ written, target.turn written (.ok stored) ∈ trace

/-- What comes of a write with some attempts left, given its calls before the deletion. The last
call before it decides: after a read the next call is the write, which fails, and after anything
else it is a read, which finds the cluster absent. -/
structure MeetsDeletion (ref : ClusterRef) (target : WriteTarget) (policy : RetryPolicy)
    (left : Nat) (before : Trace) (result : Except Failure (Option Cluster)) : Prop where
  accepted : ∀ stored, Accepted target before stored → result = .ok (some stored)
  exhausted : conflictsIn before = left →
    result = .error (.retriesExhausted ref.path (UInt32.ofNat policy.tries))
  /-- The deletion falls between a read and its write. -/
  unwritten : EndsReading ref before → ∃ f, result = .error f ∧ f.isNotFound = true
  absent : (∀ stored, ¬ Accepted target before stored) → conflictsIn before ≠ left →
    ¬ EndsReading ref before → result = .ok none

section
variable {millis : Nat} {ref : ClusterRef} {target : WriteTarget} {policy : RetryPolicy}
  {mutate : Mutation} {left attempt : Nat} {before after trace : Trace}
  {result : Except Failure (Option Cluster)} {latest written stored : Cluster} {f : Failure}

namespace MeetsDeletion

theorem nil : MeetsDeletion ref target policy (left + 1) [] (.ok none) where
  accepted := by
    rintro stored ⟨written, hmem⟩
    cases hmem
  exhausted hcount := by cases hcount
  unwritten := by
    rintro ⟨answer, hlast⟩
    cases hlast
  absent _ _ _ := rfl

theorem lost : MeetsDeletion ref target policy 0 []
    (.error (.retriesExhausted ref.path (UInt32.ofNat policy.tries))) where
  accepted := by
    rintro stored ⟨written, hmem⟩
    cases hmem
  exhausted _ := rfl
  unwritten := by
    rintro ⟨answer, hlast⟩
    cases hlast
  absent _ hcount := absurd rfl hcount

theorem read (hf : f.isNotFound = true) : MeetsDeletion ref target policy (left + 1)
    [⟨.getCluster ref, .ok (some latest)⟩] (.error f) where
  accepted := by
    rintro stored ⟨written, hmem⟩
    exact absurd hmem not_mem_read
  exhausted hcount := by cases hcount
  unwritten _ := ⟨f, rfl, hf⟩
  absent _ _ hreading := absurd ⟨_, rfl⟩ hreading

theorem write : MeetsDeletion ref target policy (left + 1)
    [⟨.getCluster ref, .ok (some latest)⟩, target.turn written (.ok stored)]
    (.ok (some stored)) where
  accepted := by
    rintro other ⟨otherWritten, hmem⟩
    rcases List.mem_cons.mp hmem with hturn | hmem
    · cases target <;> cases hturn
    · have hturn := List.mem_singleton.mp hmem
      cases target <;> cases hturn <;> rfl
  exhausted hcount := by cases target <;> cases hcount
  unwritten := by
    rintro ⟨answer, hlast⟩
    cases target <;> cases hlast
  absent hunwritten := absurd ⟨written, List.mem_cons_of_mem _ List.mem_cons_self⟩
    (hunwritten stored)

end MeetsDeletion

/-! ### An attempt that was overtaken -/

section
variable {pauses rest : Trace}

/-- The calls of an attempt that was overtaken, with those after it. -/
def overtakenThen (ref : ClusterRef) (target : WriteTarget) (latest written : Cluster) (f : Failure)
    (pauses rest : Trace) : Trace :=
  ⟨.getCluster ref, .ok (some latest)⟩ :: target.turn written (.error f) :: (pauses ++ rest)

theorem accepted_overtakenThen (hpauses : ∀ turn ∈ pauses, ∃ wait, turn = ⟨.pause wait, ()⟩) :
    Accepted target (overtakenThen ref target latest written f pauses rest) stored ↔
      Accepted target rest stored := by
  refine exists_congr fun accepted => ⟨fun hmem => ?_, fun hmem => ?_⟩
  · rcases List.mem_cons.mp hmem with hread | hmem
    · cases target <;> cases hread
    rcases List.mem_cons.mp hmem with hwrite | hmem
    · cases target <;> cases hwrite
    rcases List.mem_append.mp hmem with hpause | hrest
    · obtain ⟨wait, hturn⟩ := hpauses _ hpause
      cases target <;> cases hturn
    · exact hrest
  · exact List.mem_cons_of_mem _ (List.mem_cons_of_mem _ (List.mem_append_right _ hmem))

theorem conflictsIn_overtakenThen (hf : f.isConflict = true)
    (hpauses : ∀ turn ∈ pauses, ∃ wait, turn = ⟨.pause wait, ()⟩) :
    conflictsIn (overtakenThen ref target latest written f pauses rest) =
      conflictsIn rest + 1 := by
  have hwaiting : pauses.countP (·.failure?.any (·.isConflict)) = 0 := by
    refine List.countP_eq_zero.mpr fun turn hturn => ?_
    obtain ⟨wait, rfl⟩ := hpauses turn hturn
    simp [Turn.failure?, Call.failure?]
  have hwrite : (target.turn written (.error f)).failure?.any (·.isConflict) = true := by
    cases target <;> exact hf
  unfold conflictsIn overtakenThen
  rw [List.countP_cons_of_neg (by simp [Turn.failure?, Call.failure?, failureOf?]),
    List.countP_cons, if_pos hwrite, List.countP_append, hwaiting, Nat.zero_add]

theorem endsReading_overtakenThen (hpauses : ∀ turn ∈ pauses, ∃ wait, turn = ⟨.pause wait, ()⟩) :
    EndsReading ref (overtakenThen ref target latest written f pauses rest) ↔
      EndsReading ref rest := by
  refine exists_congr fun answer => ?_
  change ([_, target.turn written (.error f)] ++ (pauses ++ rest)).getLast? = _ ↔ _
  rw [List.getLast?_append, List.getLast?_append]
  cases rest.getLast? with
  | some last => rfl
  | none =>
    refine iff_of_false (fun hlast => ?_) nofun
    cases hpause : pauses.getLast? with
    | none =>
      rw [hpause] at hlast
      cases target <;> cases hlast
    | some last =>
      obtain ⟨wait, rfl⟩ := hpauses last (List.mem_of_getLast? hpause)
      rw [hpause] at hlast
      cases hlast

end

theorem MeetsDeletion.overtaken {pauses rest : Trace} (hf : f.isConflict = true)
    (hpauses : ∀ turn ∈ pauses, ∃ wait, turn = ⟨.pause wait, ()⟩)
    (h : MeetsDeletion ref target policy left rest result) :
    MeetsDeletion ref target policy (left + 1)
      (overtakenThen ref target latest written f pauses rest) result where
  accepted stored haccepted := h.accepted stored ((accepted_overtakenThen hpauses).mp haccepted)
  exhausted hcount := by
    rw [conflictsIn_overtakenThen hf hpauses, Nat.add_right_cancel_iff] at hcount
    exact h.exhausted hcount
  unwritten hreading := h.unwritten ((endsReading_overtakenThen hpauses).mp hreading)
  absent hunwritten hcount hreading := by
    rw [conflictsIn_overtakenThen hf hpauses, Ne, Nat.add_right_cancel_iff] at hcount
    rw [endsReading_overtakenThen hpauses] at hreading
    refine h.absent (fun stored haccepted => ?_) hcount hreading
    exact hunwritten stored ((accepted_overtakenThen hpauses).mpr haccepted)

namespace DeletedDuring

theorem mono {later : Trace} (h : DeletedDuring millis before after) (hbefore : trace ⊆ before)
    (hafter : later ⊆ after) : DeletedDuring millis trace later :=
  ⟨fun turn hturn => h.finds turn (hbefore hturn), fun turn hturn => h.misses turn (hafter hturn)⟩

/-- Where the deletion falls if the next call is a read. -/
theorem read_cases {answer : Except Failure (Option Cluster)}
    (h : DeletedDuring millis before after)
    (htrace : ⟨.getCluster ref, answer⟩ :: trace = before ++ after) :
    (before = [] ∧ answer = .ok none) ∨ ∃ later latest,
      before = ⟨.getCluster ref, answer⟩ :: later ∧ trace = later ++ after ∧
        answer = .ok (some latest) := by
  cases before with
  | nil =>
    subst htrace
    exact .inl ⟨rfl, (h.misses _ List.mem_cons_self).read⟩
  | cons turn later =>
    obtain ⟨rfl, hrest⟩ := List.cons.inj htrace
    obtain ⟨⟨latest, hlatest⟩, -⟩ := h.finds _ List.mem_cons_self
    exact .inr ⟨later, latest, rfl, hrest, hlatest⟩

/-- Where the deletion falls if the next calls are a read that finds the cluster and a write. -/
theorem write_cases {answer : Except Failure Cluster} (h : DeletedDuring millis before after)
    (htrace : ⟨.getCluster ref, .ok (some latest)⟩ :: target.turn written answer :: trace =
      before ++ after) :
    (before = [⟨.getCluster ref, .ok (some latest)⟩] ∧
        ∃ f, answer = .error f ∧ f.isNotFound = true) ∨
      ∃ later,
        before = ⟨.getCluster ref, .ok (some latest)⟩ :: target.turn written answer :: later ∧
          trace = later ++ after ∧ ∀ f, answer = .error f → f.isConflict = true := by
  rcases h.read_cases htrace with ⟨-, hnone⟩ | ⟨later, _, rfl, hrest, -⟩
  · cases hnone
  cases later with
  | nil =>
    subst hrest
    exact .inl ⟨rfl, (h.misses _ List.mem_cons_self).write⟩
  | cons turn later =>
    obtain ⟨rfl, hlater⟩ := List.cons.inj hrest
    obtain ⟨hfinds, -⟩ := h.finds _ (List.mem_cons_of_mem _ List.mem_cons_self)
    exact .inr ⟨later, rfl, hlater, hfinds.write⟩

end DeletedDuring

theorem meetsDeletion_of_attempts (hchanges : ∀ cluster, (mutate cluster).1 = true)
    (h : Attempts ref target policy mutate left attempt trace result)
    (htrace : trace = before ++ after) (hdeleted : DeletedDuring millis before after) :
    MeetsDeletion ref target policy left before result := by
  -- Each attempt is cut where the deletion falls; if it falls later, the attempt was overtaken.
  induction h generalizing before after with
  | exhausted attempt =>
    obtain ⟨rfl, rfl⟩ := List.append_eq_nil_iff.mp htrace.symm
    exact .lost
  | unread left attempt f =>
    rcases hdeleted.read_cases htrace with ⟨-, hanswer⟩ | ⟨_, _, -, -, hanswer⟩ <;> cases hanswer
  | absent left attempt =>
    rcases hdeleted.read_cases htrace with ⟨rfl, -⟩ | ⟨_, _, -, -, hanswer⟩
    · exact .nil
    · cases hanswer
  | unchanged left attempt latest h => cases h.symm.trans (hchanges latest)
  | written left attempt latest stored h =>
    rcases hdeleted.write_cases htrace with ⟨-, _, hanswer, -⟩ | ⟨later, rfl, hlater, -⟩
    · cases hanswer
    · obtain ⟨rfl, -⟩ := List.append_eq_nil_iff.mp hlater.symm
      exact .write
  | refused left attempt latest f h hf =>
    rcases hdeleted.write_cases htrace with ⟨rfl, _, hanswer, hnotFound⟩ | ⟨_, -, -, hconflict⟩
    · cases hanswer
      exact .read hnotFound
    · cases hf.symm.trans (hconflict f rfl)
  | overtaken left attempt latest f h hf rest ih =>
    rcases hdeleted.write_cases htrace with ⟨-, _, hanswer, hnotFound⟩ | ⟨later, rfl, hlater, -⟩
    · cases hanswer
      cases hf.symm.trans (Failure.isConflict_of_isNotFound hnotFound)
    · obtain ⟨pauses, again, last, rfl, hagain, hpauses, hlast⟩ := exists_append_of_append_eq hlater
      refine .overtaken hf (fun turn hturn => ⟨_, mem_pauseTurns (hpauses hturn)⟩) ?_
      refine ih hagain (hdeleted.mono ?_ hlast)
      exact fun turn hturn => List.mem_cons_of_mem _ (List.mem_cons_of_mem _
        (List.mem_append_right _ hturn))

/-- **What comes of a write during which the cluster is deleted**, if it has something to write. The
deletion may fall between any two calls, and from then on every request is answered that there is no
such object. -/
theorem meetsDeletion_of_runs (hchanges : ∀ cluster, (mutate cluster).1 = true)
    (hdeleted : DeletedDuring millis before after)
    (hrun : (modifyWithRetry ref target policy mutate).Runs (before ++ after) result) :
    MeetsDeletion ref target policy policy.tries before result :=
  meetsDeletion_of_attempts hchanges (runs_modifyWithRetry.mp hrun) rfl hdeleted

end

/-! ### A deletion at each of two places -/

def fleeting : Cluster := { metadata := { name := some "db", «namespace» := some "data" } }

/-- Marks a cluster as running, and says so even of one that is. -/
def markRunning : Mutation := fun latest =>
  (true, { latest with status := some { phase := .running } })

/-- The cluster as the platform writes it. -/
def fleetingText : String :=
  "\x7b\"metadata\":\x7b\"name\":\"db\",\"namespace\":\"data\"\x7d,\"spec\":\x7b\x7d\x7d"

/-- The report that another write came first. -/
def overtakenText : String :=
  "\x7b\"kind\":\"Status\",\"status\":\"Failure\",\"reason\":\"Conflict\",\"code\":409\x7d"

/-- The report that there is no such cluster. -/
def missingText : String :=
  "\x7b\"kind\":\"Status\",\"status\":\"Failure\",\"reason\":\"NotFound\",\"code\":404\x7d"

/-- The failure that is reported so. -/
def missingFailure : Failure := .platform (.refused "Failure" "" "NotFound" 404)

def fleetingRead (found : Option Cluster) : Turn Call.Answer :=
  ⟨.getCluster ⟨"data", "db"⟩, .ok found⟩

def fleetingWrite (f : Failure) : Turn Call.Answer :=
  WriteTarget.status.turn (markRunning fleeting).2 (.error f)

theorem refusalOf_missingText :
    refusalOf 404 missingText = .refused "Failure" "" "NotFound" 404 := by decide +kernel

theorem missing_missingText : (Reply.response 404 missingText).Missing :=
  ⟨404, missingText, "Failure", "", "NotFound", rfl, by decide, refusalOf_missingText⟩

theorem body_missingText (deadline : Deadline) :
    (Reply.response 404 missingText).body deadline = .error missingFailure := by
  rw [Reply.body_of_isError _ _ (by decide), refusalOf_missingText]
  rfl

theorem body_overtakenText (deadline : Deadline) :
    (Reply.response 409 overtakenText).body deadline = .error (.conflict deadline.operation) := by
  have hrefusal : refusalOf 409 overtakenText = .refused "Failure" "" "Conflict" 409 := by
    decide +kernel
  rw [Reply.body_of_isError _ _ (by decide), hrefusal]
  rfl

theorem serves_fleetingRead {reply : Reply} {answer : Except Failure Cluster}
    {found : Option Cluster}
    (hreply : (reply.body ⟨"get data/db", 30000⟩ >>= decodeBody Cluster.ofJson?) = answer)
    (hfound : absentIfMissing answer = .ok found) :
    Serves 30000 (fleetingRead found) (some reply) := by
  have hoperation : "get " ++ (⟨"data", "db"⟩ : ClusterRef).path = "get data/db" := by decide
  have hrun : (getCluster 30000 ⟨"data", "db"⟩).Runs
      [⟨{ method := .read, path := (clusters "data").path ++ "/" ++ "db" }, reply⟩]
      (absentIfMissing answer) := by
    unfold getCluster Exchange.Runs
    rw [orAbsent_eq, hoperation]
    exact Program.runs_bind.mpr ⟨_, _, [], rfl, runs_send.mpr ⟨reply, rfl, hreply.symm⟩, .done _⟩
  rw [hfound] at hrun
  exact .read hrun

theorem serves_fleetingWrite {reply : Reply} {f : Failure}
    (hreply : reply.body ⟨"replace status data/db", 30000⟩ = .error f) :
    Serves 30000 (fleetingWrite f) (some reply) := by
  have hoperation : "replace status " ++ pathOf (markRunning fleeting).2 =
      "replace status data/db" := by decide
  have hrun : (replaceStatus 30000 (markRunning fleeting).2).Runs
      [⟨{ method := .replace, path := (clusters "data").path ++ "/" ++ "db" ++ "/status"
          contentType := jsonContent, body := (markRunning fleeting).2.toJson }, reply⟩]
      (.error f) := by
    unfold replaceStatus
    rw [hoperation]
    exact runs_send.mpr ⟨reply, rfl, by rw [hreply]; rfl⟩
  exact .status hrun

theorem finds_fleetingRead : Finds (fleetingRead (some fleeting)) ∧
    ∃ reply?, Serves 30000 (fleetingRead (some fleeting)) reply? := by
  have hreads : (Json.parse? fleetingText).bind Cluster.ofJson? = some fleeting := by
    decide +kernel
  have hdecodes : decodeBody Cluster.ofJson? fleetingText = .ok fleeting := by
    unfold decodeBody
    rw [hreads]
  exact ⟨⟨fleeting, rfl⟩, some (.response 200 fleetingText), serves_fleetingRead hdecodes rfl⟩

/-- The calls until the cluster is deleted, where another write has come first. -/
def overtakenOnce : Trace :=
  [fleetingRead (some fleeting), fleetingWrite (.conflict "replace status data/db"),
    ⟨.pause 100, ()⟩]

theorem deletedDuring_overtakenOnce : DeletedDuring 30000 overtakenOnce [fleetingRead none] where
  finds := by
    have hwrite : Finds (fleetingWrite (.conflict "replace status data/db")) := by
      rintro f ⟨⟩
      rfl
    have hserves := serves_fleetingWrite (body_overtakenText ⟨"replace status data/db", 30000⟩)
    refine List.forall_mem_cons.mpr ⟨finds_fleetingRead, ?_⟩
    refine List.forall_mem_cons.mpr ⟨⟨hwrite, _, hserves⟩, ?_⟩
    exact List.forall_mem_singleton.mpr ⟨trivial, none, .pause 100⟩
  misses := by
    refine List.forall_mem_singleton.mpr ⟨some (.response 404 missingText), ?_, ?_⟩
    · exact serves_fleetingRead (by rw [body_missingText]) rfl
    · rintro reply ⟨⟩
      exact missing_missingText

theorem runs_overtakenOnce :
    (modifyWithRetry ⟨"data", "db"⟩ .status { attempts := 3 } markRunning).Runs
      (overtakenOnce ++ [fleetingRead none]) (.ok none) :=
  runs_modifyWithRetry.mpr (.overtaken 2 1 fleeting _ rfl rfl (.absent 1 2))

/-- Another write comes first, and the second attempt finds no cluster. -/
theorem meetsDeletion_overtakenOnce :
    (∀ cluster, (markRunning cluster).1 = true) ∧
      DeletedDuring 30000 overtakenOnce [fleetingRead none] ∧
      (modifyWithRetry ⟨"data", "db"⟩ .status { attempts := 3 } markRunning).Runs
        (overtakenOnce ++ [fleetingRead none]) (.ok none) ∧
      conflictsIn overtakenOnce = 1 ∧
      MeetsDeletion ⟨"data", "db"⟩ .status { attempts := 3 }
        (RetryPolicy.tries { attempts := 3 }) overtakenOnce (.ok none) :=
  ⟨fun _ => rfl, deletedDuring_overtakenOnce, runs_overtakenOnce, by decide,
    meetsDeletion_of_runs (fun _ => rfl) deletedDuring_overtakenOnce runs_overtakenOnce⟩

theorem deletedDuring_read : DeletedDuring 30000 [fleetingRead (some fleeting)]
    [fleetingWrite missingFailure] where
  finds := List.forall_mem_singleton.mpr finds_fleetingRead
  misses := by
    refine List.forall_mem_singleton.mpr ⟨some (.response 404 missingText), ?_, ?_⟩
    · exact serves_fleetingWrite (body_missingText _)
    · rintro reply ⟨⟩
      exact missing_missingText

/-- **The first write of a cluster that was deleted after the read fails**, with attempts left. Only
a read that finds nothing says that the cluster is absent. -/
theorem not_always_absent : ¬ ∀ (millis : Nat) (ref : ClusterRef) (target : WriteTarget)
    (policy : RetryPolicy) (mutate : Mutation) (before after : Trace)
    (result : Except Failure (Option Cluster)),
    (∀ cluster, (mutate cluster).1 = true) → DeletedDuring millis before after →
      (modifyWithRetry ref target policy mutate).Runs (before ++ after) result →
        (∀ stored, ¬ Accepted target before stored) → conflictsIn before ≠ policy.tries →
          result = .ok none := by
  intro habsent
  have hrun : (modifyWithRetry ⟨"data", "db"⟩ .status { attempts := 3 } markRunning).Runs
      ([fleetingRead (some fleeting)] ++ [fleetingWrite missingFailure])
      (.error missingFailure) :=
    runs_modifyWithRetry.mpr (.refused 2 1 fleeting missingFailure rfl rfl)
  have hunwritten : ∀ stored, ¬ Accepted .status [fleetingRead (some fleeting)] stored := by
    rintro stored ⟨written, hmem⟩
    exact not_mem_read hmem
  cases habsent _ _ _ _ _ _ _ _ (fun _ => rfl) deletedDuring_read hrun hunwritten (by decide)

end ClusterOperator
