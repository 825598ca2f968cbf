import Mathlib.Logic.Relation
import ClusterOperator.Pass.Deletion
import ClusterOperator.Pass.Rejection
import ClusterOperator.Proofs.Pass.Writing

/-!
# Writing among other writers

A cluster is not written by the operator alone: its user edits it, and so does the platform. What
keeps one writer from undoing what another has just written is the version of the object. The store
gives out a new one with every write, and takes a write only if it carries the version that is
stored.

> **`lossless_modifyWithRetry`** — whatever others write between any two steps of a write, at most
> one of its attempts is taken, and that one carries the change of exactly the object that was
> stored just before it.

Of the store no more is assumed than that. It may refuse any write, lose any answer and make of a
write what it likes; others may write as often as they like. The argument is about versions alone:
one that has been given out belongs to the same object for good (`VersionedStore.eq_of_later`), so
an object that still has the version that was read is the object that was read.
-/

set_option autoImplicit false

namespace ClusterOperator

/-! ## The store -/

/-- The record of a cluster in a store.

The versions that were given out are kept besides the object: a version is spent for good, also when
its object is gone, and it is on this that a comparison of versions rests. What is stored has one of
them (`current`), so an object without a version is never stored. -/
structure VersionedStore where
  object : Option Cluster
  spent : List String
  current : ∀ cluster, object = some cluster →
    ∃ version ∈ spent, cluster.metadata.resourceVersion = some version

namespace VersionedStore

variable {s t : VersionedStore} {a b : Cluster}

/-- That one write is taken: it makes, changes or removes the object, and gives out a new version.
Nothing is said of the new object but its version, since anybody may have written it. -/
def Writes (s t : VersionedStore) : Prop :=
  ∃ version, version ∉ s.spent ∧ t.spent = version :: s.spent ∧
    ∀ cluster, t.object = some cluster → cluster.metadata.resourceVersion = some version

/-- That any number of writes is taken. -/
def Later (s t : VersionedStore) : Prop := Relation.ReflTransGen Writes s t

theorem spent_subset_of_later (h : s.Later t) : s.spent ⊆ t.spent := by
  induction h with
  | refl => exact List.Subset.refl _
  | tail _ hwrites ih =>
    obtain ⟨version, -, hspent, -⟩ := hwrites
    rw [hspent]
    exact List.subset_cons_of_subset version ih

/-- An object that was written since has a version that was not given out before. -/
theorem object_of_later (h : s.Later t) : t.object = s.object ∨
    ∀ cluster, t.object = some cluster →
      ∃ version ∉ s.spent, cluster.metadata.resourceVersion = some version := by
  induction h with
  | refl => exact .inl rfl
  | tail hlater hwrites _ =>
    obtain ⟨version, hnew, -, hversion⟩ := hwrites
    right
    intro cluster hcluster
    exact ⟨version, fun hold => hnew (spent_subset_of_later hlater hold), hversion cluster hcluster⟩

/-- **A version belongs to one object for good.** -/
theorem eq_of_later (h : s.Later t) (ha : s.object = some a) (hb : t.object = some b)
    (hversion : b.metadata.resourceVersion = a.metadata.resourceVersion) : b = a := by
  rcases object_of_later h with hsame | hnew
  · rw [hsame, ha] at hb
    exact (Option.some.inj hb).symm
  · obtain ⟨version, hspent, hcurrent⟩ := s.current a ha
    obtain ⟨other, hunspent, hother⟩ := hnew b hb
    rw [hversion, hcurrent] at hother
    cases hother
    exact absurd hspent hunspent

end VersionedStore

/-! ## Steps -/

/-- Whether a call writes a part of a cluster. -/
def Call.isWrite : Call → Bool
  | replaceCluster _ | replaceStatus _ => true
  | _ => false

theorem exists_turn_of_isWrite {target : WriteTarget} {ref : ClusterRef} {turn : Turn Call.Answer}
    (hmay : target.MayAsk ref turn.question) (hwrite : turn.question.isWrite = true) :
    ∃ written answer, turn = target.turn written answer := by
  obtain ⟨question, answer⟩ := turn
  cases question with
  | replaceCluster written =>
    obtain rfl : target = .object := hmay
    exact ⟨written, answer, rfl⟩
  | replaceStatus written =>
    obtain rfl : target = .status := hmay
    exact ⟨written, answer, rfl⟩
  | _ => cases hwrite

/-- Whether a write was given up. -/
def Failure.isExhausted : Failure → Bool
  | retriesExhausted _ _ => true
  | _ => false

/-- A turn of a write, with the store before and after it. That the store takes a write is not told
by the answer, since an answer may be lost on the way; so it is a part of the step. -/
structure StoreStep where
  before : VersionedStore
  turn : Turn Call.Answer
  after : VersionedStore
  taken : Bool

namespace StoreStep

/-- Whether a step writes a part of the cluster. -/
def isWrite (step : StoreStep) : Bool := step.turn.question.isWrite

/-- Whether a step writes and is told that another write came first. -/
def isOvertaken (step : StoreStep) : Bool :=
  step.isWrite && step.turn.failure?.any (·.isConflict)

/-- What a store does in a turn. It tells of a conflict only if it has refused a write, and it never
gives up for the writer; where it does take a write, the answer may still be lost. -/
inductive Allowed (ref : ClusterRef) : StoreStep → Prop
  | read (s : VersionedStore) : Allowed ref ⟨s, ⟨.getCluster ref, .ok s.object⟩, s, false⟩
  | unread (s : VersionedStore) (f : Failure) (hconflict : f.isConflict = false)
    (hexhausted : f.isExhausted = false) :
    Allowed ref ⟨s, ⟨.getCluster ref, .error f⟩, s, false⟩
  | pause (s : VersionedStore) (millis : Nat) : Allowed ref ⟨s, ⟨.pause millis, ()⟩, s, false⟩
  | taken (s next : VersionedStore) (target : WriteTarget) (old written : Cluster)
    (answer : Except Failure Cluster) (hold : s.object = some old)
    (hversion : old.metadata.resourceVersion = written.metadata.resourceVersion)
    (hnext : s.Writes next)
    (hlost : ∀ f, answer = .error f → f.isConflict = false ∧ f.isExhausted = false) :
    Allowed ref ⟨s, target.turn written answer, next, true⟩
  | refused (s : VersionedStore) (target : WriteTarget) (written : Cluster) (f : Failure)
    (hexhausted : f.isExhausted = false) :
    Allowed ref ⟨s, target.turn written (.error f), s, false⟩

variable {ref : ClusterRef} {step : StoreStep} {target : WriteTarget}

theorem isWrite_turn (target : WriteTarget) (cluster : Cluster) (answer : Except Failure Cluster) :
    (target.turn cluster answer).question.isWrite = true := by
  cases target with
  | object | status => rfl

theorem failure?_turn (target : WriteTarget) (cluster : Cluster)
    (answer : Except Failure Cluster) :
    (target.turn cluster answer).failure? = failureOf? answer := by
  cases target with
  | object | status => rfl

theorem answer_of_turn_eq {other : WriteTarget} {a b : Cluster} {x y : Except Failure Cluster}
    (h : target.turn a x = other.turn b y) : a = b ∧ x = y := by
  cases target with
  | object =>
    cases other with
    | object => cases h; exact ⟨rfl, rfl⟩
    | status => cases h
  | status =>
    cases other with
    | object => cases h
    | status => cases h; exact ⟨rfl, rfl⟩

/-- Reading the cluster changes nothing, and tells what is stored. -/
theorem Allowed.of_read (h : step.Allowed ref) {answer : Except Failure (Option Cluster)}
    (hturn : step.turn = ⟨.getCluster ref, answer⟩) :
    step.after = step.before ∧ step.taken = false ∧
      (∀ object, answer = .ok object → step.before.object = object) ∧
      ∀ f, answer = .error f → f.isConflict = false ∧ f.isExhausted = false := by
  cases h with
  | read s =>
    cases hturn
    refine ⟨rfl, rfl, fun object heq => Except.ok.inj heq, fun f heq => ?_⟩
    cases heq
  | unread s f hconflict hexhausted =>
    cases hturn
    refine ⟨rfl, rfl, fun object heq => ?_, fun g heq => ?_⟩
    · cases heq
    · cases heq
      exact ⟨hconflict, hexhausted⟩
  | pause => cases hturn
  | taken s next target => cases target <;> cases hturn
  | refused s target => cases target <;> cases hturn

theorem Allowed.of_pause (h : step.Allowed ref) {millis : Nat}
    (hturn : step.turn = ⟨.pause millis, ()⟩) : step.after = step.before ∧ step.taken = false := by
  cases h with
  | read | unread => cases hturn
  | pause => exact ⟨rfl, rfl⟩
  | taken s next target => cases target <;> cases hturn
  | refused s target => cases target <;> cases hturn

/-- A write is taken, and then it carries the version that is stored; or it changes nothing. -/
theorem Allowed.of_write (h : step.Allowed ref) {written : Cluster}
    {answer : Except Failure Cluster} (hturn : step.turn = target.turn written answer) :
    (step.taken = true ∧ (∃ old, step.before.object = some old ∧
        old.metadata.resourceVersion = written.metadata.resourceVersion) ∧
      ∀ f, answer = .error f → f.isConflict = false ∧ f.isExhausted = false) ∨
    (step.taken = false ∧ step.after = step.before ∧
      ∃ f, answer = .error f ∧ f.isExhausted = false) := by
  cases h with
  | read | unread | pause => cases target <;> cases hturn
  | taken s next other old write reply hold hversion _ hlost =>
    obtain ⟨rfl, rfl⟩ := answer_of_turn_eq hturn
    exact .inl ⟨rfl, ⟨old, hold, hversion⟩, hlost⟩
  | refused s other write f hexhausted =>
    obtain ⟨rfl, rfl⟩ := answer_of_turn_eq hturn
    exact .inr ⟨rfl, rfl, f, rfl, hexhausted⟩

end StoreStep

/-- Steps of one writer, before each of which others may write. The others are not told apart and
have no steps of their own: any number of writes may lie between two steps (`VersionedStore.Later`),
and what they write is left open. -/
inductive Interleaved (ref : ClusterRef) : VersionedStore → List StoreStep → Prop
  | nil (s : VersionedStore) : Interleaved ref s []
  | cons {s : VersionedStore} {step : StoreStep} {rest : List StoreStep}
    (others : s.Later step.before) (allowed : step.Allowed ref)
    (more : Interleaved ref step.after rest) : Interleaved ref s (step :: rest)

namespace Interleaved

variable {ref : ClusterRef} {s : VersionedStore} {rest steps : List StoreStep}

theorem allowed (h : Interleaved ref s steps) : ∀ step ∈ steps, step.Allowed ref := by
  induction h with
  | nil => simp
  | cons _ hallowed _ ih => exact List.forall_mem_cons.mpr ⟨hallowed, ih⟩

theorem of_append (front : List StoreStep) (h : Interleaved ref s (front ++ rest)) :
    ∃ t, Interleaved ref t rest := by
  induction front generalizing s with
  | nil => exact ⟨s, h⟩
  | cons step front ih =>
    cases h with
    | cons _ _ hmore => exact ih hmore

end Interleaved

/-! ## The promise -/

/-- That a change leaves the version of an object as it was read. -/
def Mutation.KeepsVersion (mutate : Mutation) : Prop :=
  ∀ cluster, (mutate cluster).2.metadata.resourceVersion = cluster.metadata.resourceVersion

/-- What is promised of the steps of a write and of its result, given how many attempts are left.

The promise is about steps and not about turns: whether a write is taken is known to the store
alone, and an answer that is lost must not count as a write that was refused. It is counted in
attempts that are left, for these are what the induction along `Attempts` uses up. -/
structure Lossless (ref : ClusterRef) (target : WriteTarget) (policy : RetryPolicy)
    (mutate : Mutation) (left : Nat) (steps : List StoreStep)
    (result : Except Failure (Option Cluster)) : Prop where
  bounded : steps.countP (·.isWrite) ≤ left
  once : steps.countP (·.taken) ≤ 1
  /-- The write that is taken carries a change at the version of what is stored just before it, and
  unless a change sets the version itself, it is the change of just that. -/
  carried : ∀ step ∈ steps, step.taken = true → ∃ stored latest answer,
    step.before.object = some stored ∧ (mutate latest).1 = true ∧
      step.turn = target.turn (mutate latest).2 answer ∧
        stored.metadata.resourceVersion = (mutate latest).2.metadata.resourceVersion ∧
          (mutate.KeepsVersion → stored = latest)
  /-- Where the change comes to nothing, nothing follows the read, and so no write. -/
  unchanged : steps.Pairwise fun read _ => ∀ latest,
    read.turn = ⟨.getCluster ref, .ok (some latest)⟩ → (mutate latest).1 = true
  exhausted : result = .error (.retriesExhausted ref.path (UInt32.ofNat policy.tries)) ↔
    steps.countP (·.isOvertaken) = left
  untouched : result = .error (.retriesExhausted ref.path (UInt32.ofNat policy.tries)) →
    ∀ step ∈ steps, step.after = step.before
  settled : ∀ f, result = .error f → f.isConflict = false

section
variable {ref : ClusterRef} {target : WriteTarget} {policy : RetryPolicy} {mutate : Mutation}
  {left attempt : Nat} {trace : Trace} {result : Except Failure (Option Cluster)}
  {s : VersionedStore} {steps rest : List StoreStep} {read write : StoreStep}

/-- An attempt that is overtaken puts off the promise to the next. -/
theorem Lossless.overtaken (h : Lossless ref target policy mutate left rest result)
    (front : List StoreStep) (hwrites : front.countP (·.isWrite) = 1)
    (hovertaken : front.countP (·.isOvertaken) = 1)
    (hidle : ∀ step ∈ front, step.taken = false ∧ step.after = step.before)
    (hchanged : ∀ step ∈ front, ∀ latest, step.turn = ⟨.getCluster ref, .ok (some latest)⟩ →
      (mutate latest).1 = true) :
    Lossless ref target policy mutate (left + 1) (front ++ rest) result where
  bounded := by
    rw [List.countP_append, hwrites]
    have := h.bounded
    omega
  once := by
    have hnone : front.countP (·.taken) = 0 :=
      List.countP_eq_zero.mpr fun step hstep => by simp [(hidle step hstep).1]
    rw [List.countP_append, hnone, Nat.zero_add]
    exact h.once
  carried step hstep htaken := by
    rcases List.mem_append.mp hstep with hstep | hstep
    · rw [(hidle step hstep).1] at htaken
      cases htaken
    · exact h.carried step hstep htaken
  unchanged := by
    refine List.pairwise_append.mpr ⟨?_, h.unchanged, fun step hstep _ _ => hchanged step hstep⟩
    exact List.pairwise_of_forall_mem_list fun step hstep _ _ => hchanged step hstep
  exhausted := by
    rw [h.exhausted, List.countP_append, hovertaken]
    omega
  untouched hexhausted step hstep := by
    rcases List.mem_append.mp hstep with hstep | hstep
    · exact (hidle step hstep).2
    · exact h.untouched hexhausted step hstep
  settled := h.settled

theorem isWrite_of_getCluster {answer : Except Failure (Option Cluster)}
    (hturn : read.turn = ⟨.getCluster ref, answer⟩) : read.isWrite = false := by
  unfold StoreStep.isWrite
  rw [hturn]
  rfl

/-- An attempt that only reads ends the write. -/
theorem lossless_of_read {answer : Except Failure (Option Cluster)} (hallowed : read.Allowed ref)
    (hread : read.turn = ⟨.getCluster ref, answer⟩)
    (hresult : ∀ f, result = .error f → answer = .error f) :
    Lossless ref target policy mutate (left + 1) [read] result := by
  obtain ⟨-, hidle, -, hanswer⟩ := hallowed.of_read hread
  have hplain : ∀ f, result = .error f → f.isConflict = false ∧ f.isExhausted = false :=
    fun f heq => hanswer f (hresult f heq)
  have hreads := isWrite_of_getCluster hread
  constructor
  case bounded => simp [hreads]
  case once => simp [hidle]
  case carried =>
    intro step hstep htaken
    rw [List.mem_singleton.mp hstep, hidle] at htaken
    cases htaken
  case unchanged => exact List.pairwise_singleton _ _
  case exhausted =>
    constructor
    · intro heq
      cases (hplain _ heq).2
    · intro hcount
      simp [StoreStep.isOvertaken, hreads] at hcount
  case untouched =>
    intro heq
    cases (hplain _ heq).2
  case settled => exact fun f heq => (hplain f heq).1

theorem isOvertaken_of_getCluster {answer : Except Failure (Option Cluster)}
    (hturn : read.turn = ⟨.getCluster ref, answer⟩) : read.isOvertaken = false := by
  unfold StoreStep.isOvertaken
  rw [isWrite_of_getCluster hturn, Bool.false_and]

theorem isOvertaken_of_write {written : Cluster} {answer : Except Failure Cluster}
    (hturn : write.turn = target.turn written answer) :
    write.isOvertaken = (failureOf? answer).any (·.isConflict) := by
  unfold StoreStep.isOvertaken StoreStep.isWrite
  rw [hturn, StoreStep.isWrite_turn, StoreStep.failure?_turn, Bool.true_and]

/-- **The object that a write replaces is the one that was read**, if it is taken. -/
theorem exists_stored_of_taken (hsteps : Interleaved ref s [read, write]) {latest : Cluster}
    {answer : Except Failure Cluster}
    (hread : read.turn = ⟨.getCluster ref, .ok (some latest)⟩)
    (hwrite : write.turn = target.turn (mutate latest).2 answer) (htaken : write.taken = true) :
    ∃ stored, write.before.object = some stored ∧
      stored.metadata.resourceVersion = (mutate latest).2.metadata.resourceVersion ∧
        (mutate.KeepsVersion → stored = latest) := by
  cases hsteps with
  | cons _ hallowed hmore =>
    cases hmore with
    | cons hothers hwritten _ =>
      obtain ⟨hsame, -, hstored, -⟩ := hallowed.of_read hread
      rcases hwritten.of_write hwrite with ⟨-, ⟨old, hold, hversion⟩, -⟩ | ⟨huntaken, -⟩
      · refine ⟨old, hold, hversion, fun hkeeps => ?_⟩
        -- The version that was written is the one that was read, and that belongs to one object.
        rw [hkeeps latest] at hversion
        rw [hsame] at hothers
        exact VersionedStore.eq_of_later hothers (hstored _ rfl) hold hversion
      · rw [huntaken] at htaken
        cases htaken

/-- An attempt that writes and is not overtaken ends the write. -/
theorem lossless_of_write (hsteps : Interleaved ref s [read, write]) {latest : Cluster}
    {answer : Except Failure Cluster} (hchanged : (mutate latest).1 = true)
    (hread : read.turn = ⟨.getCluster ref, .ok (some latest)⟩)
    (hwrite : write.turn = target.turn (mutate latest).2 answer)
    (hanswer : ∀ f, answer = .error f → f.isConflict = false) :
    Lossless ref target policy mutate (left + 1) [read, write] (answer.map some) := by
  -- The result is a failure only if the answer is, and no store answers that the attempts are over.
  have hallowed := hsteps.allowed
  obtain ⟨-, hidle, -⟩ := (hallowed read List.mem_cons_self).of_read hread
  have hwritten := (hallowed write (List.mem_cons_of_mem _ List.mem_cons_self)).of_write hwrite
  have hfailure : ∀ f, answer.map some = .error f → answer = .error f := by
    intro f heq
    cases answer with
    | ok stored => cases heq
    | error g => cases heq; rfl
  have hexhausted : ∀ f, answer = .error f → f.isExhausted = false := by
    intro f heq
    rcases hwritten with ⟨-, -, hlost⟩ | ⟨-, -, g, hg, hexhausted⟩
    · exact (hlost f heq).2
    · cases heq.symm.trans hg
      exact hexhausted
  have hcalm : write.isOvertaken = false := by
    rw [isOvertaken_of_write hwrite]
    cases answer with
    | ok stored => rfl
    | error f => exact hanswer f rfl
  have hreads : read.isWrite = false := isWrite_of_getCluster hread
  constructor
  case bounded =>
    rw [List.countP_cons_of_neg (by simp [hreads])]
    exact Nat.le_trans List.countP_le_length (Nat.le_add_left 1 left)
  case once =>
    rw [List.countP_cons_of_neg (by simp [hidle])]
    exact List.countP_le_length
  case carried =>
    intro step hstep htaken
    rcases List.mem_cons.mp hstep with rfl | hstep
    · rw [hidle] at htaken
      cases htaken
    · rw [List.mem_singleton.mp hstep] at htaken ⊢
      obtain ⟨stored, hstored, hversion, hsame⟩ :=
        exists_stored_of_taken hsteps hread hwrite htaken
      exact ⟨stored, latest, answer, hstored, hchanged, hwrite, hversion, hsame⟩
  case unchanged =>
    refine List.pairwise_pair.mpr fun other hother => ?_
    cases hread.symm.trans hother
    exact hchanged
  case exhausted =>
    constructor
    · intro heq
      cases hexhausted _ (hfailure _ heq)
    · intro hcount
      have hnone : [read, write].countP (·.isOvertaken) = 0 := by
        simp [hcalm, isOvertaken_of_getCluster hread]
      omega
  case untouched =>
    intro heq
    cases hexhausted _ (hfailure _ heq)
  case settled => exact fun f heq => hanswer f (hfailure f heq)

/-- The steps of an attempt that is overtaken, with the pause after it. -/
theorem lossless_of_overtaken {pauses : List StoreStep}
    (hsteps : Interleaved ref s (read :: write :: (pauses ++ rest))) {latest : Cluster}
    {f : Failure} (hchanged : (mutate latest).1 = true) (hconflict : f.isConflict = true)
    (hread : read.turn = ⟨.getCluster ref, .ok (some latest)⟩)
    (hwrite : write.turn = target.turn (mutate latest).2 (.error f))
    (hpauses : pauses.map (·.turn) = pauseTurns policy left attempt)
    (h : Lossless ref target policy mutate left rest result) :
    Lossless ref target policy mutate (left + 1) (read :: write :: (pauses ++ rest)) result := by
  have hallowed := hsteps.allowed
  -- A conflict says that the write was refused, so nothing of this attempt is in the store.
  obtain ⟨hreadsame, hreadidle, -⟩ := (hallowed read (by simp)).of_read hread
  have hwriteidle : write.taken = false ∧ write.after = write.before := by
    rcases (hallowed write (by simp)).of_write hwrite with ⟨-, -, hlost⟩ | ⟨hidle, hsame, -⟩
    · cases hconflict.symm.trans (hlost f rfl).1
    · exact ⟨hidle, hsame⟩
  have hpause : ∀ step ∈ pauses, step.turn = ⟨.pause (policy.backoff attempt), ()⟩ := by
    intro step hstep
    apply mem_pauseTurns
    rw [← hpauses]
    exact List.mem_map_of_mem hstep
  have hpausecall : ∀ step ∈ pauses, step.isWrite = false ∧ step.isOvertaken = false := by
    intro step hstep
    unfold StoreStep.isOvertaken StoreStep.isWrite
    rw [hpause step hstep]
    exact ⟨rfl, rfl⟩
  refine h.overtaken (read :: write :: pauses) ?_ ?_ ?_ ?_
  · have hnone : pauses.countP (·.isWrite) = 0 :=
      List.countP_eq_zero.mpr fun step hstep => by simp [(hpausecall step hstep).1]
    have hwrites : write.isWrite = true := by
      unfold StoreStep.isWrite
      rw [hwrite, StoreStep.isWrite_turn]
    rw [List.countP_cons_of_neg (by simp [isWrite_of_getCluster hread]),
      List.countP_cons_of_pos hwrites, hnone]
  · have hnone : pauses.countP (·.isOvertaken) = 0 :=
      List.countP_eq_zero.mpr fun step hstep => by simp [(hpausecall step hstep).2]
    have hovertaken : write.isOvertaken = true := (isOvertaken_of_write hwrite).trans hconflict
    rw [List.countP_cons_of_neg (by simp [isOvertaken_of_getCluster hread]),
      List.countP_cons_of_pos hovertaken, hnone]
  · refine List.forall_mem_cons.mpr ⟨⟨hreadidle, hreadsame⟩, List.forall_mem_cons.mpr
      ⟨hwriteidle, fun step hstep => ?_⟩⟩
    obtain ⟨hsame, hidle⟩ := (hallowed step (by simp [hstep])).of_pause (hpause step hstep)
    exact ⟨hidle, hsame⟩
  · refine List.forall_mem_cons.mpr ⟨fun other hother => ?_, List.forall_mem_cons.mpr
      ⟨fun other hother => ?_, fun step hstep other hother => ?_⟩⟩
    · cases hread.symm.trans hother
      exact hchanged
    · cases target <;> cases hwrite.symm.trans hother
    · cases (hpause step hstep).symm.trans hother

/-- **No update is lost by the attempts of a write.** -/
theorem Attempts.lossless (h : Attempts ref target policy mutate left attempt trace result)
    (hsteps : Interleaved ref s steps) (htrace : steps.map (·.turn) = trace) :
    Lossless ref target policy mutate left steps result := by
  -- Along the attempts. What others wrote by then is in the store before the first step, so the
  -- store and the steps vary.
  induction h generalizing s steps with
  | exhausted attempt =>
    rw [List.map_eq_nil_iff] at htrace
    subst htrace
    exact ⟨by simp, by simp, by simp, .nil, by simp, by simp, by rintro f ⟨⟩; rfl⟩
  | unread left attempt f =>
    obtain ⟨read, rfl, hread⟩ := List.map_eq_singleton_iff.mp htrace
    exact lossless_of_read (hsteps.allowed read List.mem_cons_self) hread
      fun g heq => heq ▸ rfl
  | absent left attempt =>
    obtain ⟨read, rfl, hread⟩ := List.map_eq_singleton_iff.mp htrace
    exact lossless_of_read (hsteps.allowed read List.mem_cons_self) hread (by rintro g ⟨⟩)
  | unchanged left attempt latest hsame =>
    obtain ⟨read, rfl, hread⟩ := List.map_eq_singleton_iff.mp htrace
    exact lossless_of_read (hsteps.allowed read List.mem_cons_self) hread (by rintro g ⟨⟩)
  | written left attempt latest stored hchanged =>
    obtain ⟨read, rest, rfl, hread, hrest⟩ := List.map_eq_cons_iff.mp htrace
    obtain ⟨write, rfl, hwrite⟩ := List.map_eq_singleton_iff.mp hrest
    exact lossless_of_write hsteps hchanged hread hwrite (by rintro g ⟨⟩)
  | refused left attempt latest f hchanged hconflict =>
    obtain ⟨read, rest, rfl, hread, hrest⟩ := List.map_eq_cons_iff.mp htrace
    obtain ⟨write, rfl, hwrite⟩ := List.map_eq_singleton_iff.mp hrest
    refine lossless_of_write hsteps hchanged hread hwrite ?_
    rintro g ⟨⟩
    exact hconflict
  | overtaken left attempt latest f hchanged hconflict _ ih =>
    obtain ⟨read, rest, rfl, hread, hrest⟩ := List.map_eq_cons_iff.mp htrace
    obtain ⟨write, rest, rfl, hwrite, hrest⟩ := List.map_eq_cons_iff.mp hrest
    obtain ⟨pauses, rest, rfl, hpauses, hrest⟩ := List.map_eq_append_iff.mp hrest
    obtain ⟨t, hmore⟩ := hsteps.of_append (read :: write :: pauses)
    exact lossless_of_overtaken hsteps hchanged hconflict hread hwrite hpauses (ih hmore hrest)

/-- **A write among other writers loses no update.** Whatever the others write between its steps, a
change that is taken was made on what was stored just then, unless it sets the version itself; and a
write that gives up after its last attempt has stored nothing. -/
theorem lossless_modifyWithRetry (hsteps : Interleaved ref s steps)
    (hrun : (modifyWithRetry ref target policy mutate).Runs (steps.map (·.turn)) result) :
    Lossless ref target policy mutate policy.tries steps result :=
  (runs_modifyWithRetry.mp hrun).lossless hsteps rfl

end

/-! ## The changes that a pass makes

None of them sets the version, so the promise holds of them in full. -/

theorem keepsVersion_setStatus (next : ClusterStatus) : (setStatus next).KeepsVersion := by
  intro cluster
  unfold setStatus
  by_cases hsame : cluster.status = some next
  · rw [if_pos hsame]
  · rw [if_neg hsame]

theorem keepsVersion_setRejection (conditions : List Condition) (generation : Option Int64) :
    (setRejection conditions generation).KeepsVersion :=
  fun cluster => keepsVersion_setStatus _ cluster

theorem keepsVersion_setDeleting : setDeleting.KeepsVersion := by
  intro cluster
  unfold setDeleting
  by_cases hdeleting : (cluster.status.getD {}).phase = .deleting
  · simp only [if_pos hdeleting]
  · simp only [if_neg hdeleting]

theorem keepsVersion_addFinalizer : Mutation.KeepsVersion Cluster.addFinalizer := by
  intro cluster
  unfold Cluster.addFinalizer
  by_cases hpresent : (cluster.metadata.finalizers.getD []).contains finalizerName
  · simp only [if_pos hpresent]
    rfl
  · simp only [if_neg hpresent]
    rfl

theorem keepsVersion_removeFinalizer : Mutation.KeepsVersion Cluster.removeFinalizer :=
  fun _ => rfl

/-! ## A finalizer that is added at the second attempt -/

/-- The store that holds a cluster at a version, given the versions before. -/
def VersionedStore.of (cluster : Cluster) (version : String) (earlier : List String) :
    VersionedStore where
  object := some { cluster with
    metadata := { cluster.metadata with resourceVersion := some version } }
  spent := version :: earlier
  current stored h := ⟨version, List.mem_cons_self, by cases h; rfl⟩

theorem VersionedStore.writes_of {s : VersionedStore} {version : String}
    (hnew : version ∉ s.spent) (cluster : Cluster) : s.Writes (.of cluster version s.spent) := by
  refine ⟨version, hnew, rfl, fun stored hstored => ?_⟩
  cases hstored
  rfl

def unclaimed : Cluster := { metadata := { name := some "db", «namespace» := some "data" } }

/-- The cluster before another writer comes first. -/
def firstStore : VersionedStore := .of unclaimed "1" []

/-- The cluster after that. -/
def secondStore : VersionedStore := .of (unclaimed.annotate "owner" "ops") "2" ["1"]

/-- The cluster with the finalizer. -/
def thirdStore : VersionedStore :=
  .of (unclaimed.annotate "owner" "ops").addFinalizer.2 "3" ["2", "1"]

/-- The steps of a write that is overtaken once. -/
def secondAttempt : List StoreStep :=
  let stale := firstStore.object.getD {}
  let fresh := secondStore.object.getD {}
  [⟨firstStore, ⟨.getCluster ⟨"data", "db"⟩, .ok (some stale)⟩, firstStore, false⟩,
    ⟨secondStore, WriteTarget.object.turn stale.addFinalizer.2 (.error (.conflict "data/db")),
      secondStore, false⟩,
    ⟨secondStore, ⟨.pause 100, ()⟩, secondStore, false⟩,
    ⟨secondStore, ⟨.getCluster ⟨"data", "db"⟩, .ok (some fresh)⟩, secondStore, false⟩,
    ⟨secondStore, WriteTarget.object.turn fresh.addFinalizer.2 (.ok (thirdStore.object.getD {})),
      thirdStore, true⟩]

theorem interleaved_secondAttempt : Interleaved ⟨"data", "db"⟩ firstStore secondAttempt := by
  have hothers : firstStore.Later secondStore :=
    .single (VersionedStore.writes_of (by decide) _)
  refine .cons .refl (.read firstStore) ?_
  refine .cons hothers (.refused secondStore .object _ _ rfl) ?_
  refine .cons .refl (.pause secondStore 100) ?_
  refine .cons .refl (.read secondStore) ?_
  refine .cons .refl (.taken secondStore thirdStore .object _ _ _ rfl rfl ?_ ?_) (.nil _)
  · exact VersionedStore.writes_of (by decide) _
  · rintro f ⟨⟩

theorem runs_secondAttempt :
    (modifyWithRetry ⟨"data", "db"⟩ .object { attempts := 2 } Cluster.addFinalizer).Runs
      (secondAttempt.map (·.turn)) (.ok thirdStore.object) := by
  refine runs_modifyWithRetry.mpr ?_
  exact .overtaken 1 1 _ _ rfl rfl (.written 0 2 _ _ rfl)

/-- Another writer comes first, and the second attempt adds the finalizer to what it has left. -/
theorem lossless_secondAttempt :
    Interleaved ⟨"data", "db"⟩ firstStore secondAttempt ∧
      (modifyWithRetry ⟨"data", "db"⟩ .object { attempts := 2 } Cluster.addFinalizer).Runs
        (secondAttempt.map (·.turn)) (.ok thirdStore.object) ∧
      secondAttempt.countP (·.isOvertaken) = 1 ∧ secondAttempt.countP (·.taken) = 1 ∧
      Lossless ⟨"data", "db"⟩ .object { attempts := 2 } Cluster.addFinalizer 2 secondAttempt
        (.ok thirdStore.object) :=
  ⟨interleaved_secondAttempt, runs_secondAttempt, by decide, by decide,
    lossless_modifyWithRetry interleaved_secondAttempt runs_secondAttempt⟩

end ClusterOperator
