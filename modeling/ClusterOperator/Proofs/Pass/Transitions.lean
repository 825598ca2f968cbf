import Mathlib.Data.List.Nodup
import Mathlib.Data.List.Induction
import ClusterOperator.Proofs.Pass.Conditions

/-!
# When a condition last changed

A list of conditions lives through many passes. Each sets what it finds, some kinds perhaps more
than once, at its own time and for its own generation. What the list says in the end is what was
posted last; since when it says so goes back further, to the posting that brought the status there
is now.

> **`bookkept_afterPasses`** — whatever the passes post, the list has one condition of each type, in
> the order in which the types came up; each says what the last posting of its type said, since the
> last posting that created it or found another status.

The history of a list is the list of all postings, whatever pass they belong to
(`afterPasses_eq`). So everything is proved by adding one posting at the end of a history.
-/

set_option autoImplicit false

namespace ClusterOperator

/-! ## Postings -/

/-- A finding with the generation and the time of the pass that sets it. -/
structure Posting where
  finding : Finding
  generation : Option Int64
  now : Instant

namespace Posting

/-- The type of the condition that a posting sets. -/
def type (p : Posting) : String := p.finding.kind.name

def condition (p : Posting) : Condition := p.finding.condition p.generation p.now.toText

/-- That a posting brings a new status: none of the conditions there are has its type and status. -/
def Turns (p : Posting) (conditions : List Condition) : Prop :=
  ∀ old ∈ conditions, old.type = p.type → old.status ≠ p.condition.status

end Posting

/-- What a pass does to the conditions: its findings, in the order in which they are set. Nothing is
asked of them, so what follows holds of any passes that set conditions, also of one that sets a kind
twice. -/
structure ConditionPass where
  generation : Option Int64
  now : Instant
  findings : List Finding

/-- The conditions that a pass leaves. -/
def ConditionPass.apply (pass : ConditionPass) (conditions : List Condition) : List Condition :=
  (ConditionUpdate.tell ⟨conditions, pass.generation, pass.now⟩ pass.findings).conditions

def ConditionPass.postings (pass : ConditionPass) : List Posting :=
  pass.findings.map (⟨·, pass.generation, pass.now⟩)

def afterPasses (start : List Condition) (passes : List ConditionPass) : List Condition :=
  passes.foldl (fun conditions pass => pass.apply conditions) start

def afterPostings (start : List Condition) (postings : List Posting) : List Condition :=
  postings.foldl (fun conditions p => p.condition.put conditions) start

theorem ConditionPass.apply_eq (pass : ConditionPass) (conditions : List Condition) :
    pass.apply conditions = afterPostings conditions pass.postings := by
  obtain ⟨generation, now, findings⟩ := pass
  unfold apply postings afterPostings ConditionUpdate.tell
  rw [List.foldl_map]
  induction findings generalizing conditions with
  | nil => rfl
  | cons first rest ih => exact ih ((first.condition generation now.toText).put conditions)

/-- **Only the postings of the passes matter, in their order.** -/
theorem afterPasses_eq (start : List Condition) (passes : List ConditionPass) :
    afterPasses start passes = afterPostings start (passes.flatMap ConditionPass.postings) := by
  induction passes generalizing start with
  | nil => rfl
  | cons pass rest ih =>
    rw [List.flatMap_cons]
    unfold afterPasses afterPostings at ih ⊢
    rw [List.foldl_append, List.foldl_cons, ih, pass.apply_eq]
    rfl

/-! ## One condition over another -/

namespace Condition

variable {c d : Condition} {conditions : List Condition}

theorem map_type_put (c : Condition) (conditions : List Condition) :
    (c.put conditions).map (·.type) =
      if c.type ∈ conditions.map (·.type) then conditions.map (·.type)
      else conditions.map (·.type) ++ [c.type] := by
  induction conditions with
  | nil => rfl
  | cons old rest ih =>
    unfold put
    by_cases hsame : old.type = c.type
    · rw [if_pos hsame, List.map_cons, List.map_cons, type_replacing, hsame,
        if_pos List.mem_cons_self]
    · have hmem : c.type ∈ (old :: rest).map (·.type) ↔ c.type ∈ rest.map (·.type) := by
        rw [List.map_cons, List.mem_cons, or_iff_right (Ne.symm hsame)]
      rw [if_neg hsame, List.map_cons, ih, List.map_cons]
      simp only [← List.map_cons, hmem]
      split <;> rfl

theorem nodup_put (h : (conditions.map (·.type)).Nodup) :
    ((c.put conditions).map (·.type)).Nodup := by
  rw [map_type_put]
  split
  · exact h
  · rename_i hnew
    exact List.Nodup.append h (List.nodup_singleton _) (List.disjoint_singleton.mpr hnew)

theorem getElem?_put_of_ne {i : Nat} (hi : conditions[i]? = some d) (hne : d.type ≠ c.type) :
    (c.put conditions)[i]? = some d := by
  induction conditions generalizing i with
  | nil => cases hi
  | cons old rest ih =>
    unfold put
    cases i with
    | zero =>
      cases hi
      rw [if_neg hne]
      rfl
    | succ i =>
      split
      · exact hi
      · exact ih hi

/-- What is in a list after a condition was put into it. -/
theorem mem_put_cases (hdistinct : (conditions.map (·.type)).Nodup) (hd : d ∈ c.put conditions) :
    (d ∈ conditions ∧ d.type ≠ c.type) ∨
      (∃ old ∈ conditions, old.type = c.type ∧ d = c.replacing old) ∨
        ((∀ old ∈ conditions, old.type ≠ c.type) ∧ d = c) := by
  -- The three outcomes are those of one step: passed over, replaced, or put at the end.
  induction conditions with
  | nil => exact .inr (.inr ⟨by simp, List.mem_singleton.mp hd⟩)
  | cons old rest ih =>
    obtain ⟨hfresh, hrest⟩ := List.nodup_cons.mp hdistinct
    unfold put at hd
    by_cases hsame : old.type = c.type
    · rw [if_pos hsame, List.mem_cons] at hd
      rcases hd with rfl | hd
      · exact .inr (.inl ⟨old, List.mem_cons_self, hsame, rfl⟩)
      · refine .inl ⟨List.mem_cons_of_mem _ hd, fun heq => hfresh ?_⟩
        exact List.mem_map.mpr ⟨d, hd, heq.trans hsame.symm⟩
    · rw [if_neg hsame, List.mem_cons] at hd
      rcases hd with rfl | hd
      · exact .inl ⟨List.mem_cons_self, hsame⟩
      · rcases ih hrest hd with ⟨hd, hne⟩ | ⟨other, hother, htype, heq⟩ | ⟨hnone, heq⟩
        · exact .inl ⟨List.mem_cons_of_mem _ hd, hne⟩
        · exact .inr (.inl ⟨other, List.mem_cons_of_mem _ hother, htype, heq⟩)
        · exact .inr (.inr ⟨List.forall_mem_cons.mpr ⟨hsame, hnone⟩, heq⟩)

end Condition

/-! ## Histories -/

/-- The latest posting of a history of which something holds, given those before it. What holds of a
posting may depend on the conditions it was set on, which those before it have made. -/
inductive Latest (Holds : List Posting → Posting → Prop) : List Posting → Posting → Prop
  | last {before : List Posting} {p : Posting} (h : Holds before p) :
    Latest Holds (before ++ [p]) p
  | earlier {before : List Posting} {p q : Posting} (h : Latest Holds before p)
    (hnot : ¬ Holds before q) : Latest Holds (before ++ [q]) p

/-- That something holds of no posting of a history, given those before it. -/
inductive Never (Holds : List Posting → Posting → Prop) : List Posting → Prop
  | nil : Never Holds []
  | snoc {before : List Posting} {q : Posting} (h : Never Holds before)
    (hnot : ¬ Holds before q) : Never Holds (before ++ [q])

/-- That a condition says what a posting says. -/
structure Condition.Says (c : Condition) (p : Posting) : Prop where
  type : c.type = p.finding.kind.name
  status : c.status = if p.finding.holds then "True" else "False"
  reason : c.reason = p.finding.reason
  message : c.message = p.finding.message
  generation : c.observedGeneration = p.generation

/-- That a posting is about a type. -/
def About (type : String) (_ : List Posting) (p : Posting) : Prop := p.type = type

/-- That a posting is about a type and brings it a new status. -/
def Brings (start : List Condition) (type : String) (before : List Posting) (p : Posting) : Prop :=
  p.type = type ∧ p.Turns (afterPostings start before)

/-- That a condition is what a history makes of its type. Reason and message are those of the latest
posting, but the time is that of the latest one that brought another status. -/
structure Condition.Recorded (start : List Condition) (postings : List Posting) (c : Condition) :
    Prop where
  content : (∃ p, Latest (About c.type) postings p ∧ c.Says p) ∨
    (c ∈ start ∧ Never (About c.type) postings)
  since : (∃ p, Latest (Brings start c.type) postings p ∧ c.lastTransitionTime = p.now.toText) ∨
    ∃ old ∈ start, old.type = c.type ∧ Never (Brings start c.type) postings ∧
      c.lastTransitionTime = old.lastTransitionTime

section
variable {start : List Condition} {postings : List Posting} {p : Posting} {c : Condition}

theorem afterPostings_concat : afterPostings start (postings ++ [p]) =
    p.condition.put (afterPostings start postings) := by
  unfold afterPostings
  rw [List.foldl_append]
  rfl

/-- A posting of another type leaves a condition as the history has made it. -/
theorem Condition.Recorded.other (h : c.Recorded start postings) (hne : c.type ≠ p.type) :
    c.Recorded start (postings ++ [p]) where
  content := by
    have hnot : ¬ About c.type postings p := Ne.symm hne
    rcases h.content with ⟨q, hlatest, hsays⟩ | ⟨hstart, hnever⟩
    · exact .inl ⟨q, hlatest.earlier hnot, hsays⟩
    · exact .inr ⟨hstart, hnever.snoc hnot⟩
  since := by
    have hnot : ¬ Brings start c.type postings p := fun hbrings => hne hbrings.1.symm
    rcases h.since with ⟨q, hlatest, htime⟩ | ⟨old, hold, htype, hnever, htime⟩
    · exact .inl ⟨q, hlatest.earlier hnot, htime⟩
    · exact .inr ⟨old, hold, htype, hnever.snoc hnot, htime⟩

/-- A condition that says what was posted, and since then, if the posting brought it. -/
theorem recorded_of_turns (hturns : p.Turns (afterPostings start postings)) :
    p.condition.Recorded start (postings ++ [p]) where
  content := .inl ⟨p, .last rfl, rfl, rfl, rfl, rfl, rfl⟩
  since := .inl ⟨p, .last ⟨rfl, hturns⟩, rfl⟩

/-- A posting of the same status keeps the time of the condition that it replaces. -/
theorem recorded_of_kept {old : Condition} (h : old.Recorded start postings)
    (hold : old ∈ afterPostings start postings) (htype : old.type = p.type)
    (hstatus : old.status = p.condition.status) :
    ({ p.condition with lastTransitionTime := old.lastTransitionTime } : Condition).Recorded start
      (postings ++ [p]) where
  content := .inl ⟨p, .last rfl, rfl, rfl, rfl, rfl, rfl⟩
  since := by
    have hnot : ¬ Brings start p.type postings p := fun hbrings =>
      hbrings.2 old hold htype hstatus
    have hsince := h.since
    rw [htype] at hsince
    rcases hsince with ⟨q, hlatest, htime⟩ | ⟨first, hfirst, hsame, hnever, htime⟩
    · exact .inl ⟨q, hlatest.earlier hnot, htime⟩
    · exact .inr ⟨first, hfirst, hsame, hnever.snoc hnot, htime⟩

/-- **One more posting**: its own condition is made anew or keeps its time, and the others stay. -/
theorem recorded_put (hdistinct : ((afterPostings start postings).map (·.type)).Nodup)
    (h : ∀ old ∈ afterPostings start postings, old.Recorded start postings)
    (hc : c ∈ p.condition.put (afterPostings start postings)) :
    c.Recorded start (postings ++ [p]) := by
  rcases Condition.mem_put_cases hdistinct hc with ⟨hc, hne⟩ | ⟨old, hold, htype, rfl⟩ |
    ⟨hnone, rfl⟩
  · exact (h c hc).other hne
  · unfold Condition.replacing
    split
    · rename_i hstatus
      exact recorded_of_kept (h old hold) hold htype hstatus
    · rename_i hstatus
      refine recorded_of_turns fun other hother hsame => ?_
      rwa [List.inj_on_of_nodup_map hdistinct hother hold (hsame.trans htype.symm)]
  · exact recorded_of_turns fun old hold htype => absurd htype (hnone old hold)

theorem nodup_afterPostings (hdistinct : (start.map (·.type)).Nodup) :
    ((afterPostings start postings).map (·.type)).Nodup := by
  induction postings using List.reverseRecOn with
  | nil => exact hdistinct
  | append_singleton postings p ih =>
    rw [afterPostings_concat]
    exact Condition.nodup_put ih

/-- **Every condition is what the history makes of its type.** -/
theorem recorded_afterPostings (hdistinct : (start.map (·.type)).Nodup) :
    ∀ c ∈ afterPostings start postings, c.Recorded start postings := by
  induction postings using List.reverseRecOn with
  | nil => exact fun c hc => ⟨.inr ⟨hc, .nil⟩, .inr ⟨c, hc, rfl, .nil, rfl⟩⟩
  | append_singleton postings p ih =>
    intro c hc
    rw [afterPostings_concat] at hc
    exact recorded_put (nodup_afterPostings hdistinct) ih hc

end

/-! ## The order of the types -/

/-- That types are those of some postings that a list did not have, in the order in which they were
first posted. The places of conditions follow from this: a type keeps the place that its first
posting gave it. -/
structure AddedTypes (start : List Condition) (postings : List Posting) (added : List String) :
    Prop where
  mem_iff : ∀ type, type ∈ added ↔
    type ∉ start.map (·.type) ∧ type ∈ postings.map Posting.type
  ordered : added.Pairwise fun earlier later =>
    (postings.map Posting.type).idxOf earlier < (postings.map Posting.type).idxOf later

section
variable {start conditions : List Condition} {postings : List Posting} {p : Posting}
  {added : List String}

theorem AddedTypes.known (h : AddedTypes start postings added)
    (hp : p.type ∈ start.map (·.type) ++ added) : AddedTypes start (postings ++ [p]) added where
  mem_iff type := by
    rw [h.mem_iff, List.map_append, List.mem_append, List.map_singleton, List.mem_singleton]
    refine and_congr_right fun hnew => ⟨.inl, Or.rec id ?_⟩
    rintro rfl
    exact ((h.mem_iff _).mp ((List.mem_append.mp hp).resolve_left hnew)).2
  ordered := by
    refine h.ordered.imp_of_mem fun {earlier later} hearlier hlater hlt => ?_
    rw [List.map_append, List.idxOf_append_of_mem ((h.mem_iff _).mp hearlier).2,
      List.idxOf_append_of_mem ((h.mem_iff _).mp hlater).2]
    exact hlt

theorem AddedTypes.new (h : AddedTypes start postings added)
    (hp : p.type ∉ start.map (·.type) ++ added) :
    AddedTypes start (postings ++ [p]) (added ++ [p.type]) := by
  rw [List.mem_append, not_or] at hp
  obtain ⟨hstart, hadded⟩ := hp
  -- A type that is new to the list was not posted either, since all posted types are in it.
  have hunposted : p.type ∉ postings.map Posting.type := fun hposted =>
    hadded ((h.mem_iff _).mpr ⟨hstart, hposted⟩)
  constructor
  case mem_iff =>
    intro type
    rw [List.mem_append, h.mem_iff, List.map_append, List.mem_append, List.map_singleton,
      List.mem_singleton, and_or_left]
    refine or_congr_right ⟨?_, And.right⟩
    rintro rfl
    exact ⟨hstart, rfl⟩
  case ordered =>
    refine List.pairwise_append.mpr ⟨?_, List.pairwise_singleton _ _, ?_⟩
    · refine h.ordered.imp_of_mem fun {earlier later} hearlier hlater hlt => ?_
      rw [List.map_append, List.idxOf_append_of_mem ((h.mem_iff _).mp hearlier).2,
        List.idxOf_append_of_mem ((h.mem_iff _).mp hlater).2]
      exact hlt
    · intro earlier hearlier later hlater
      have hposted := ((h.mem_iff _).mp hearlier).2
      rw [List.mem_singleton.mp hlater, List.map_append, List.idxOf_append_of_mem hposted,
        List.idxOf_append_of_notMem hunposted]
      exact Nat.lt_add_right _ (List.idxOf_lt_length_iff.mpr hposted)

/-- **A type that comes up is put after all others, and stays there.** -/
theorem exists_addedTypes (start : List Condition) (postings : List Posting) :
    ∃ added, (afterPostings start postings).map (·.type) = start.map (·.type) ++ added ∧
      AddedTypes start postings added := by
  -- The induction takes the postings from the end, because a posting is put on what all before it
  -- have made.
  induction postings using List.reverseRecOn with
  | nil => exact ⟨[], (List.append_nil _).symm, by simp, .nil⟩
  | append_singleton postings p ih =>
    obtain ⟨added, htypes, hadded⟩ := ih
    have hput : (afterPostings start (postings ++ [p])).map (·.type) =
        if p.type ∈ start.map (·.type) ++ added then start.map (·.type) ++ added
        else start.map (·.type) ++ added ++ [p.type] := by
      rw [afterPostings_concat, Condition.map_type_put, htypes]
      rfl
    rw [hput]
    split
    · rename_i hknown
      exact ⟨added, rfl, hadded.known hknown⟩
    · rename_i hnew
      exact ⟨added ++ [p.type], List.append_assoc _ _ _, hadded.new hnew⟩

theorem getElem?_afterPostings {i : Nat} {c : Condition} (hi : conditions[i]? = some c)
    (hne : ∀ p ∈ postings, p.type ≠ c.type) : (afterPostings conditions postings)[i]? = some c := by
  induction postings using List.reverseRecOn with
  | nil => exact hi
  | append_singleton postings p ih =>
    obtain ⟨hbefore, hp⟩ := List.forall_mem_append.mp hne
    rw [afterPostings_concat]
    exact Condition.getElem?_put_of_ne (ih hbefore) (Ne.symm (hp p (List.mem_singleton.mpr rfl)))

end

/-! ## Passes -/

/-- How passes keep the conditions. It is stated of the list as a whole, since its order and the
conditions that no pass sets are read by others too. -/
structure Bookkept (start : List Condition) (passes : List ConditionPass) : Prop where
  distinct : ((afterPasses start passes).map (·.type)).Nodup
  positions : ∃ added,
    (afterPasses start passes).map (·.type) = start.map (·.type) ++ added ∧
      AddedTypes start (passes.flatMap ConditionPass.postings) added
  /-- A pass leaves alone what it does not set. -/
  untouched : ∀ before pass later, passes = before ++ pass :: later →
    ∀ (i : Nat) (c : Condition), (afterPasses start before)[i]? = some c →
      (∀ f ∈ pass.findings, f.kind.name ≠ c.type) →
        (afterPasses start (before ++ [pass]))[i]? = some c
  recorded : ∀ c ∈ afterPasses start passes,
    c.Recorded start (passes.flatMap ConditionPass.postings)

/-- **The books are kept through any passes**, if there is one condition of each type at first.
Passes come down to single postings, and the induction is on these. -/
theorem bookkept_afterPasses {start : List Condition} (hdistinct : (start.map (·.type)).Nodup)
    (passes : List ConditionPass) : Bookkept start passes where
  distinct := by
    rw [afterPasses_eq]
    exact nodup_afterPostings hdistinct
  positions := by
    rw [afterPasses_eq]
    exact exists_addedTypes start _
  untouched before pass later _ i c hi hne := by
    have hlast : afterPasses start (before ++ [pass]) = pass.apply (afterPasses start before) := by
      unfold afterPasses
      rw [List.foldl_append]
      rfl
    rw [hlast, pass.apply_eq]
    refine getElem?_afterPostings hi fun p hp => ?_
    obtain ⟨f, hf, rfl⟩ := List.mem_map.mp hp
    exact hne f hf
  recorded := by
    rw [afterPasses_eq]
    exact recorded_afterPostings hdistinct

/-- The condition of a cluster of which nothing is known yet. -/
def unknownReady : Condition :=
  { type := "Ready", status := "Unknown", reason := "Waiting", message := ""
    lastTransitionTime := "1969-12-31T00:00:00Z", observedGeneration := none }

/-- A pass that changes its mind, and one that only finds another reason. -/
def hesitantPasses : List ConditionPass :=
  [⟨some 1, .epoch, [⟨.ready, true, "Running", ""⟩, ⟨.degraded, false, "Running", ""⟩,
      ⟨.ready, false, "Creating", "0/1 servers ready"⟩]⟩,
    ⟨some 2, Instant.epoch.addSeconds 60, [⟨.progressing, true, "Creating", ""⟩,
      ⟨.ready, false, "Recovering", "0/1 servers ready"⟩]⟩]

/-- Since the end of the first pass the cluster is not ready, whatever the reason. -/
theorem bookkept_hesitantPasses :
    ([unknownReady].map (·.type)).Nodup ∧ Bookkept [unknownReady] hesitantPasses ∧
      (afterPasses [unknownReady] hesitantPasses).map
          (fun c => (c.type, c.reason, c.lastTransitionTime)) =
        [("Ready", "Recovering", Instant.epoch.toText),
          ("Degraded", "Running", Instant.epoch.toText),
          ("Progressing", "Creating", (Instant.epoch.addSeconds 60).toText)] :=
  ⟨by decide, bookkept_afterPasses (by decide) hesitantPasses, rfl⟩

end ClusterOperator
