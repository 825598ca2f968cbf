import Mathlib.Logic.Relation
import ClusterOperator.Pass.Working
import ClusterOperator.Proofs.Membership.Recognition
import ClusterOperator.Proofs.Pass.Runs
import ClusterOperator.Simulation.World

/-!
# The order in which servers answer does not matter

Servers are asked at the same time, as many as there are places. One that comes to its end, with an
answer or without one, makes room for the next, and the network decides which one that is. So what
is known of a course of asking is only how it goes on (`Asking.Step`), and there are as many courses
as there are orders.

> **`orderFree`** — if no two pods have the same name, every course comes to its end, and all end
> with the same answers; what is detected from them is the same whatever the order and the number of
> places, and whether a server that gave no answer failed or took too long.

One step only moves a server along, so the outcomes that are there and those that are still to come
are the same throughout, up to their order (`Step.settled`). The answers are kept in the order of
the names, and nothing else is left of the order in which they came.
-/

set_option autoImplicit false

namespace ClusterOperator

open Relation (ReflTransGen)

/-! ## Courses of asking -/

/-- How far the asking of some servers has come. Places are not numbered: it does not matter which
of them a server holds, only how many are taken. -/
structure Asking (α : Type) where
  /-- The servers that wait for a place, in their order. -/
  waiting : List ProbeTarget
  /-- The servers that are being asked. -/
  asked : List ProbeTarget := []
  /-- What came of those asked before, in the order in which it came. -/
  outcomes : ProbeOutcomes α := []

namespace Asking

variable {α : Type} {concurrency : Nat} {outcome : String → ProbeOutcome α} {s t : Asking α}
  {targets : List ProbeTarget} {outcomes : ProbeOutcomes α}

/-- No server has been asked. -/
def start (targets : List ProbeTarget) : Asking α := { waiting := targets }

/-- No server is left. -/
def done (outcomes : ProbeOutcomes α) : Asking α := ⟨[], [], outcomes⟩

/-- How asking goes on, given what comes of asking each server. There is always one place. Servers
are taken up in their order but may come to their end in any, which is all that is left open. -/
inductive Step (concurrency : Nat) (outcome : String → ProbeOutcome α) : Asking α → Asking α → Prop
  /-- The first server that waits is asked if there is a place for it. -/
  | ask {next : ProbeTarget} {waiting asked : List ProbeTarget} {outcomes : ProbeOutcomes α}
      (place : asked.length < max concurrency 1) :
      Step concurrency outcome ⟨next :: waiting, asked, outcomes⟩
        ⟨waiting, asked ++ [next], outcomes⟩
  /-- Any server that is being asked comes to its end. -/
  | finish {target : ProbeTarget} {waiting before after : List ProbeTarget}
      {outcomes : ProbeOutcomes α} :
      Step concurrency outcome ⟨waiting, before ++ target :: after, outcomes⟩
        ⟨waiting, before ++ after, outcomes ++ [(target.pod, outcome target.pod)]⟩

/-- That one state of asking may lead to another. -/
def Reaches (concurrency : Nat) (outcome : String → ProbeOutcome α) : Asking α → Asking α → Prop :=
  ReflTransGen (Step concurrency outcome)

/-- The outcomes that are there, then those that are to come. -/
def settled (outcome : String → ProbeOutcome α) (s : Asking α) : ProbeOutcomes α :=
  s.outcomes ++ (s.asked ++ s.waiting).map fun t => (t.pod, outcome t.pod)

theorem Step.settled (h : s.Step concurrency outcome t) :
    (t.settled outcome).Perm (s.settled outcome) := by
  cases h with
  | ask place => simp [Asking.settled]
  | @finish target waiting before after outcomes =>
    simp only [Asking.settled, List.append_assoc, List.cons_append, List.nil_append,
      List.map_append, List.map_cons]
    exact List.perm_middle.symm.append_left _

theorem Reaches.settled (h : s.Reaches concurrency outcome t) :
    (t.settled outcome).Perm (s.settled outcome) := by
  induction h with
  | refl => exact .refl _
  | tail _ hstep ih => exact hstep.settled.trans ih

/-- The steps that are left: every server has to be asked and to come to its end. -/
def left (s : Asking α) : Nat := 2 * s.waiting.length + s.asked.length

theorem Step.left (h : s.Step concurrency outcome t) : t.left + 1 = s.left := by
  cases h with
  | ask place =>
    simp only [Asking.left, List.length_append, List.length_cons, List.length_nil]
    omega
  | finish =>
    simp only [Asking.left, List.length_append, List.length_cons]
    omega

/-- **No course goes on forever.** -/
theorem acc_step (concurrency : Nat) (outcome : String → ProbeOutcome α) (s : Asking α) :
    Acc (fun t s => s.Step concurrency outcome t) s := by
  have hshorter : Subrelation (fun t s : Asking α => s.Step concurrency outcome t)
      (InvImage (· < ·) Asking.left) := fun h => Nat.lt_of_succ_le h.left.le
  exact hshorter.accessible ((InvImage.wf _ Nat.lt_wfRel.wf).apply s)

/-- **Asking goes on until no server is left.** -/
theorem exists_step_or_done (concurrency : Nat) (outcome : String → ProbeOutcome α)
    (s : Asking α) : (∃ t, s.Step concurrency outcome t) ∨ ∃ outcomes, s = done outcomes := by
  obtain ⟨waiting, asked, outcomes⟩ := s
  cases asked with
  | cons target rest => exact .inl ⟨_, @Step.finish _ _ _ target waiting [] rest outcomes⟩
  | nil =>
    cases waiting with
    | cons next waiting => exact .inl ⟨_, .ask (by simp)⟩
    | nil => exact .inr ⟨outcomes, rfl⟩

/-- That asking some servers may end with these outcomes, in this order. -/
def Completes (concurrency : Nat) (outcome : String → ProbeOutcome α) (targets : List ProbeTarget)
    (outcomes : ProbeOutcomes α) : Prop :=
  Reaches concurrency outcome (start targets) (done outcomes)

/-- **Every course ends with the outcomes of all servers.** -/
theorem Completes.perm (h : Completes concurrency outcome targets outcomes) :
    outcomes.Perm (targets.map fun t => (t.pod, outcome t.pod)) := by
  simpa [settled, start, done] using Reaches.settled h

/-- Servers may come to their end in the order in which they are asked, one after the other. -/
theorem completes_map (concurrency : Nat) (outcome : String → ProbeOutcome α)
    (targets : List ProbeTarget) :
    Completes concurrency outcome targets (targets.map fun t => (t.pod, outcome t.pod)) := by
  have hfrom (targets : List ProbeTarget) (before : ProbeOutcomes α) :
      Reaches concurrency outcome ⟨targets, [], before⟩
        (done (before ++ targets.map fun t => (t.pod, outcome t.pod))) := by
    induction targets generalizing before with
    | nil =>
      rw [List.map_nil, List.append_nil]
      exact .refl
    | cons next rest ih =>
      have hask : Step concurrency outcome ⟨next :: rest, [], before⟩ ⟨rest, [next], before⟩ :=
        .ask (by simp)
      have hfinish : Step concurrency outcome ⟨rest, [next], before⟩
          ⟨rest, [], before ++ [(next.pod, outcome next.pod)]⟩ :=
        @Step.finish _ _ _ next rest [] [] before
      have hrest := ih (before ++ [(next.pod, outcome next.pod)])
      rw [List.append_assoc] at hrest
      exact .head hask (.head hfinish hrest)
  exact hfrom targets []

/-- The servers in memory answer in an order that is possible. -/
theorem completes_askServers (world : Simulation.World) (subject : String)
    (value : Simulation.Servers → String → α) (targets : List ProbeTarget) (limits : ProbeLimits) :
    Completes limits.concurrency (world.servers.outcome (value world.servers)) targets
      (Simulation.World.askServers subject value targets limits world).1 :=
  completes_map _ _ _

end Asking

/-! ## Detection -/

open Asking

section
variable {α : Type} {concurrency : Nat} {outcome : String → ProbeOutcome α}
  {pods : List ServerPod} {credentials : Option Credentials} {outcomes : ProbeOutcomes α}
  {name : String} {value : α}

theorem sublist_probeTargets (pods : List ServerPod) (credentials : Option Credentials) :
    ((probeTargets pods credentials).map (·.pod)).Sublist (pods.map (·.name)) := by
  rw [probeTargets, List.map_map]
  exact List.filter_sublist.map _

/-- **The answers are those of the servers that gave one**, in whatever order they came. -/
theorem find?_collectAnswers_iff (hnames : (pods.map (·.name)).Nodup)
    (h : Completes concurrency outcome (probeTargets pods credentials) outcomes) :
    (collectAnswers outcomes).find? name = some value ↔
      (∃ p ∈ pods, p.isServing = true ∧ p.name = name) ∧ outcome name = .answered value := by
  have honce : (outcomes.map (·.1)).Nodup := by
    refine (h.perm.map _).nodup_iff.mpr ?_
    rw [List.map_map]
    exact (sublist_probeTargets pods credentials).nodup hnames
  rw [SortedMap.find?_eq_some_iff, mem_collectAnswers_iff honce, h.perm.mem_iff]
  simp only [probeTargets, List.map_map, List.mem_map, List.mem_filter, Function.comp_apply,
    Prod.mk.injEq]
  constructor
  · rintro ⟨p, ⟨hp, hserving⟩, rfl, hvalue⟩
    exact ⟨⟨p, hp, hserving, rfl⟩, hvalue⟩
  · rintro ⟨⟨p, hp, hserving, rfl⟩, hvalue⟩
    exact ⟨p, ⟨hp, hserving⟩, rfl, hvalue⟩

end

/-- That detection finds something if asking the servers comes to certain outcomes: it asks them, is
answered in an order that is possible, and classifies the answers. -/
def DetectionInput.Finds (given : DetectionInput) (settings : Settings)
    (credentials : Option Credentials) (outcome : String → ProbeOutcome (List String))
    (c : Classification) : Prop :=
  ∃ trace views,
    (askViews settings given.deployment (probeTargets given.pods credentials)).Runs trace
      (.ok views) ∧
    (∀ targets limits outcomes, (⟨.askViews targets limits, outcomes⟩ : Turn Call.Answer) ∈ trace →
      Completes limits.concurrency outcome targets outcomes) ∧
    c = classify { given with views }

/-- What does not depend on how the servers of some pods are asked. The first two clauses say that
asking comes to an end at all, so that the others do not speak of nothing; the last compares two
askings that may differ in everything but the answers. -/
structure OrderFree (pods : List ServerPod) (credentials : Option Credentials) : Prop where
  /-- Asking goes on until no server is left. -/
  advances : ∀ {α : Type} (concurrency : Nat) (outcome : String → ProbeOutcome α) (s : Asking α),
    Reaches concurrency outcome (start (probeTargets pods credentials)) s →
    (∃ t, s.Step concurrency outcome t) ∨ ∃ outcomes, s = done outcomes
  /-- It does not go on forever. -/
  ends : ∀ {α : Type} (concurrency : Nat) (outcome : String → ProbeOutcome α),
    Acc (fun t s : Asking α => s.Step concurrency outcome t) (start (probeTargets pods credentials))
  /-- At the end there are the answers of the servers that gave one, and no others. -/
  collects : ∀ {α : Type} {concurrency : Nat} {outcome : String → ProbeOutcome α}
    {outcomes : ProbeOutcomes α},
    Completes concurrency outcome (probeTargets pods credentials) outcomes →
    ∀ name value, (collectAnswers outcomes).find? name = some value ↔
      (∃ p ∈ pods, p.isServing = true ∧ p.name = name) ∧ outcome name = .answered value
  /-- Detection finds something, however many servers are asked at a time. -/
  detects : ∀ (given : DetectionInput), given.pods = pods →
    ∀ (settings : Settings) (outcome : String → ProbeOutcome (List String)),
      ∃ c, given.Finds settings credentials outcome c
  /-- It finds the same in any order, with any number of places, and whether a server that gave no
  answer failed or took too long. -/
  agrees : ∀ (given : DetectionInput), given.pods = pods →
    ∀ {settings settings' : Settings} {outcome outcome' : String → ProbeOutcome (List String)}
      {c c' : Classification},
      (∀ p ∈ pods, p.isServing = true → (outcome p.name).value? = (outcome' p.name).value?) →
      given.Finds settings credentials outcome c →
      given.Finds settings' credentials outcome' c' → c = c'

namespace DetectionInput

variable {given : DetectionInput} {settings : Settings} {credentials : Option Credentials}
  {outcome outcome' : String → ProbeOutcome (List String)} {c : Classification}

/-- A single server is not asked, and a cluster is asked once. -/
theorem finds_iff : given.Finds settings credentials outcome c ↔
    (given.deployment = .standalone ∧ c = classify { given with views := .empty }) ∨
      (given.deployment ≠ .standalone ∧ ∃ outcomes,
        Completes settings.probeConcurrency outcome (probeTargets given.pods credentials) outcomes ∧
          c = classify { given with views := collectAnswers outcomes }) := by
  unfold Finds
  -- A single server is classified without a view; a cluster is asked by one call, and the answer to
  -- that is the whole observation.
  cases hdeployment : given.deployment with
  | standalone =>
    constructor
    · rintro ⟨trace, views, hrun, -, rfl⟩
      obtain ⟨-, hviews⟩ := Pass.runs_pure.mp hrun
      cases hviews
      exact .inl ⟨rfl, rfl⟩
    · rintro (⟨-, rfl⟩ | ⟨hne, -⟩)
      · exact ⟨[], .empty, Pass.runs_pure.mpr ⟨rfl, rfl⟩, by simp, rfl⟩
      · exact absurd rfl hne
  | cluster servers quorum =>
    constructor
    · rintro ⟨trace, views, hrun, hcourse, rfl⟩
      obtain ⟨outcomes, rest, rfl, hreturn⟩ := Pass.runs_call_bind.mp hrun
      cases (Pass.runs_pure.mp hreturn).2
      exact .inr ⟨nofun, outcomes, hcourse _ _ _ List.mem_cons_self, rfl⟩
    · rintro (⟨heq, -⟩ | ⟨-, outcomes, hcourse, rfl⟩)
      · cases heq
      · refine ⟨_, _, Pass.runs_call_bind.mpr ⟨outcomes, [], rfl, Pass.runs_pure.mpr ⟨rfl, rfl⟩⟩,
          fun targets limits other hmem => ?_, rfl⟩
        cases List.mem_singleton.mp hmem
        exact hcourse

theorem exists_finds (given : DetectionInput) (settings : Settings)
    (credentials : Option Credentials) (outcome : String → ProbeOutcome (List String)) :
    ∃ c, given.Finds settings credentials outcome c := by
  by_cases hsingle : given.deployment = .standalone
  · exact ⟨_, finds_iff.mpr (.inl ⟨hsingle, rfl⟩)⟩
  · exact ⟨_, finds_iff.mpr (.inr ⟨hsingle, _, completes_map _ _ _, rfl⟩)⟩

/-- **What is found depends on the answers alone.** -/
theorem finds_unique {settings' : Settings} {c' : Classification}
    (hnames : (given.pods.map (·.name)).Nodup)
    (hsame : ∀ p ∈ given.pods, p.isServing = true →
      (outcome p.name).value? = (outcome' p.name).value?)
    (h : given.Finds settings credentials outcome c)
    (h' : given.Finds settings' credentials outcome' c') : c = c' := by
  rcases finds_iff.mp h with ⟨hsingle, rfl⟩ | ⟨hcluster, outcomes, hcourse, rfl⟩
  · rcases finds_iff.mp h' with ⟨-, rfl⟩ | ⟨hcluster, -⟩
    · rfl
    · exact absurd hsingle hcluster
  · rcases finds_iff.mp h' with ⟨hsingle, -⟩ | ⟨-, outcomes', hcourse', rfl⟩
    · exact absurd hsingle hcluster
    · have hviews : collectAnswers outcomes = collectAnswers outcomes' := by
        -- The views are compared entry by entry: an entry is there exactly if a serving pod of that
        -- name gave it as its answer.
        refine SortedMap.ext_mem fun view => ?_
        rw [← SortedMap.find?_eq_some_iff, ← SortedMap.find?_eq_some_iff,
          find?_collectAnswers_iff hnames hcourse, find?_collectAnswers_iff hnames hcourse',
          ← ProbeOutcome.value?_eq_some_iff, ← ProbeOutcome.value?_eq_some_iff]
        refine and_congr_right ?_
        rintro ⟨p, hp, hserving, hname⟩
        rw [← hname, hsame p hp hserving]
      rw [hviews]

end DetectionInput

/-- **Detection does not depend on the order in which servers answer.** If no two pods have the same
name, every course of asking their servers ends with the answers of those that gave one, and what is
detected depends on these answers alone. -/
theorem orderFree {pods : List ServerPod} (credentials : Option Credentials)
    (hnames : (pods.map (·.name)).Nodup) : OrderFree pods credentials where
  advances concurrency outcome s _ := exists_step_or_done concurrency outcome s
  ends concurrency outcome := acc_step concurrency outcome _
  collects hcourse _ _ := find?_collectAnswers_iff hnames hcourse
  detects given _ settings outcome := given.exists_finds settings credentials outcome
  agrees given hpods _ _ _ _ _ _ hsame := by
    subst hpods
    exact DetectionInput.finds_unique hnames hsame

def unevenTrio : List ServerPod :=
  [{ name := "db-0", ordinal := 0 }, { name := "db-1", ordinal := 1 },
    { name := "db-2", ordinal := 2 }]

/-- One server answers, one fails and one takes too long. -/
def unevenOutcome (pod : String) : ProbeOutcome (List String) :=
  if pod = "db-0" then .answered ["db-0"]
  else if pod = "db-1" then .failed (.adminQuery pod "connection refused")
  else .timedOut

/-- With two places the server that is asked first may be the last to come to its end. -/
theorem orderFree_unevenTrio : (unevenTrio.map (·.name)).Nodup ∧ OrderFree unevenTrio none ∧
    ∃ outcomes, outcomes.map (·.1) = ["db-1", "db-2", "db-0"] ∧
      Completes 2 unevenOutcome (probeTargets unevenTrio none) outcomes ∧
      (collectAnswers outcomes).find? "db-0" = some ["db-0"] ∧
      (collectAnswers outcomes).find? "db-1" = none := by
  have hnames : (unevenTrio.map (·.name)).Nodup := by decide
  have hfree := orderFree none hnames
  let target (pod : String) : ProbeTarget := ⟨pod, "", none⟩
  let result (pod : String) := (pod, unevenOutcome pod)
  let outcomes := [result "db-1", result "db-2", result "db-0"]
  have hcourse : Completes 2 unevenOutcome (probeTargets unevenTrio none) outcomes := by
    have hfinish (waiting before after : List ProbeTarget) (pod : String)
        (outcomes : ProbeOutcomes (List String)) :
        Step 2 unevenOutcome ⟨waiting, before ++ target pod :: after, outcomes⟩
          ⟨waiting, before ++ after, outcomes ++ [result pod]⟩ := .finish
    -- The first and the second server are asked, the second ends and the third takes its place; the
    -- first ends last.
    refine .head (.ask (by decide)) (.head (.ask (by decide)) ?_)
    refine .head (hfinish [target "db-2"] [target "db-0"] [] "db-1" []) ?_
    refine .head (.ask (by decide)) ?_
    refine .head (hfinish [] [target "db-0"] [] "db-2" [result "db-1"]) ?_
    exact .single (hfinish [] [] [] "db-0" [result "db-1", result "db-2"])
  refine ⟨hnames, hfree, outcomes, rfl, hcourse, ?_, ?_⟩
  · exact (hfree.collects hcourse _ _).mpr ⟨by decide, rfl⟩
  · refine Option.eq_none_iff_forall_ne_some.mpr fun view hview => ?_
    cases ((hfree.collects hcourse _ _).mp hview).2

end ClusterOperator
