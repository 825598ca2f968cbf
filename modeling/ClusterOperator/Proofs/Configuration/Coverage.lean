import Mathlib.Data.List.Perm.Subperm
import ClusterOperator.Proofs.Configuration.Rollout
import ClusterOperator.Proofs.Upgrade.Planning

/-!
# What a configuration restart waits for

A pod is restarted for a configuration only while every listed pod serves and there are as many of
them as servers are declared. That the servers are as many is not yet that they are the declared
ones: while a cluster is scaled down, a server that is no longer declared may still be listed, and
its pod makes up for one that is missing.

> **`restarts_of_nextConfigRestart`** — the pod that is chosen is the first declared one that is
> behind, every listed pod serves, and the declared servers without a pod are at most as many as the
> listed pods that are not declared.

So all declared servers serve where only those are listed. Otherwise they need not
(`missing_of_scaledDown`).
-/

set_option autoImplicit false

namespace ClusterOperator

/-- Whether a pod belongs to a declared server. -/
def ServerPod.isDeclared (p : ServerPod) (servers : Int32) : Bool :=
  0 ≤ p.ordinal && p.ordinal < servers

/-- The declared servers that have no pod in a list. -/
def missingServers (pods : List ServerPod) (servers : Int32) : List Ordinal :=
  (ordinals servers).filter fun i => !pods.any (·.ordinal == i)

/-- The pods of a list that belong to no declared server. -/
def undeclaredPods (pods : List ServerPod) (servers : Int32) : List ServerPod :=
  pods.filter fun p => !p.isDeclared servers

section
variable {pods : List ServerPod} {servers : Int32} {hash image : String} {pod p : ServerPod}
  {i : Ordinal}

theorem ServerPod.isDeclared_iff :
    p.isDeclared servers = true ↔ 0 ≤ p.ordinal ∧ p.ordinal < servers := by
  simp [isDeclared]

theorem mem_missingServers :
    i ∈ missingServers pods servers ↔ (0 ≤ i ∧ i < servers) ∧ ∀ p ∈ pods, p.ordinal ≠ i := by
  simp [missingServers, mem_ordinals]

theorem length_ordinals (servers : Int32) : (ordinals servers).length = servers.toInt.toNat := by
  simp [ordinals]

/-! ## Counting -/

/-- The declared servers are those of the declared pods and those that have none. -/
theorem length_declared_add_missing_le (hdistinct : (pods.map (·.ordinal)).Nodup) :
    (pods.filter (·.isDeclared servers)).length + (missingServers pods servers).length ≤
      servers.toInt.toNat := by
  have hnodup : ((pods.filter (·.isDeclared servers)).map (·.ordinal)).Nodup :=
    (List.filter_sublist.map _).nodup hdistinct
  have hsub : (pods.filter (·.isDeclared servers)).map (·.ordinal) ⊆
      (ordinals servers).filter fun i => pods.any (·.ordinal == i) := by
    intro i hi
    obtain ⟨p, hp, rfl⟩ := List.mem_map.mp hi
    obtain ⟨hmem, hdeclared⟩ := List.mem_filter.mp hp
    refine List.mem_filter.mpr ⟨mem_ordinals.mpr (ServerPod.isDeclared_iff.mp hdeclared), ?_⟩
    exact List.any_eq_true.mpr ⟨p, hmem, beq_self_eq_true _⟩
  have hle := (List.subperm_of_subset hnodup hsub).length_le
  have hsplit := List.length_eq_length_filter_add (l := ordinals servers)
    fun i => pods.any (·.ordinal == i)
  rw [List.length_map] at hle
  rw [length_ordinals] at hsplit
  unfold missingServers
  omega

theorem length_missing_le (hdistinct : (pods.map (·.ordinal)).Nodup)
    (henough : servers.toInt.toNat ≤ pods.length) :
    (missingServers pods servers).length ≤ (undeclaredPods pods servers).length := by
  have hcount : (pods.filter (·.isDeclared servers)).length + (missingServers pods servers).length ≤
      servers.toInt.toNat := length_declared_add_missing_le hdistinct
  have hsplit := List.length_eq_length_filter_add (l := pods) (·.isDeclared servers)
  unfold undeclaredPods
  omega

/-! ## Which pod is chosen -/

/-- What makes a pod one to restart for a configuration. -/
structure ServerPod.Behind (p : ServerPod) (servers : Int32) (hash image : String) : Prop where
  below : p.ordinal < servers
  hash : p.configHash ≠ some hash
  image : ∀ other, p.image = some other → other = image

theorem ServerPod.mayRun_iff :
    p.mayRun image = true ↔ ∀ other, p.image = some other → other = image := by
  unfold mayRun
  cases p.image with
  | none => simp
  | some other => simp

theorem ServerPod.behind_iff :
    p.Behind servers hash image ↔
      ((p.ordinal < servers && p.mayRun image) = true ∧ (p.configHash != some hash) = true) := by
  rw [Bool.and_eq_true, decide_eq_true_iff, mayRun_iff, bne_iff_ne]
  constructor
  · intro h
    exact ⟨⟨h.below, h.image⟩, h.hash⟩
  · intro ⟨⟨hbelow, himage⟩, hhash⟩
    exact ⟨hbelow, hhash, himage⟩

/-- **When a pod is restarted for a configuration**, and which. -/
theorem nextConfigRestart_eq_some_iff : nextConfigRestart pods servers hash image = some pod ↔
    servers.toInt.toNat ≤ pods.length ∧ (∀ p ∈ pods, p.isServing = true) ∧
      pod.Behind servers hash image ∧
      ∃ before after, pods = before ++ pod :: after ∧
        ∀ p ∈ before, ¬p.Behind servers hash image := by
  have hfound : (restartable pods servers image).find? (fun p => p.configHash != some hash) =
        some pod ↔
      pod.Behind servers hash image ∧ ∃ before after, pods = before ++ pod :: after ∧
        ∀ p ∈ before, ¬p.Behind servers hash image := by
    unfold restartable
    rw [List.find?_filter, List.find?_eq_some_iff_append]
    simp only [← ServerPod.behind_iff, decide_eq_true_eq, Bool.not_eq_true',
      decide_eq_false_iff_not]
  rw [← hfound]
  unfold nextConfigRestart
  -- The guard is the negation of the first two conditions, and the search the rest.
  split
  · rename_i hguard
    simp only [Bool.or_eq_true, decide_eq_true_eq, List.any_eq_true, Bool.not_eq_true'] at hguard
    constructor
    · intro h
      cases h
    · intro ⟨henough, hserving, _⟩
      rcases hguard with hfew | ⟨p, hp, hnot⟩
      · omega
      · rw [hserving p hp] at hnot
        cases hnot
  · rename_i hguard
    simp only [Bool.or_eq_true, decide_eq_true_eq, List.any_eq_true, not_or, not_exists,
      not_and, Bool.not_eq_true', Bool.not_eq_false] at hguard
    constructor
    · intro h
      exact ⟨by omega, hguard.2, h⟩
    · intro ⟨_, _, h⟩
      exact h

/-- What it means that a pod is restarted for a configuration. The pods are counted and not matched
with servers, so what is said of the declared servers carries the number of those pods that belong
to none. -/
structure RestartsFor (pods : List ServerPod) (servers : Int32) (hash image : String)
    (pod : ServerPod) : Prop where
  serving : ∀ p ∈ pods, p.ready = true ∧ p.terminating = false
  mem : pod ∈ pods
  behind : pod.Behind servers hash image
  /-- No server before it is behind. -/
  lowest : ∀ p ∈ pods, p.ordinal < pod.ordinal → ¬p.Behind servers hash image
  missing : (pods.map (·.ordinal)).Nodup →
    (missingServers pods servers).length ≤ (undeclaredPods pods servers).length
  covered : (pods.map (·.ordinal)).Nodup → (∀ p ∈ pods, p.isDeclared servers = true) →
    ∀ i : Ordinal, 0 ≤ i → i < servers → ∃ p ∈ pods, p.ordinal = i ∧ p.isServing = true

theorem exists_of_declared (hdistinct : (pods.map (·.ordinal)).Nodup)
    (henough : servers.toInt.toNat ≤ pods.length)
    (hdeclared : ∀ p ∈ pods, p.isDeclared servers = true) (hpos : 0 ≤ i) (hlt : i < servers) :
    ∃ p ∈ pods, p.ordinal = i := by
  have hnone : undeclaredPods pods servers = [] := by
    simpa [undeclaredPods] using hdeclared
  have hle := length_missing_le hdistinct henough
  rw [hnone, List.length_nil, Nat.le_zero, List.length_eq_zero_iff] at hle
  by_contra hnot
  have hmissing : i ∈ missingServers pods servers :=
    mem_missingServers.mpr ⟨⟨hpos, hlt⟩, fun p hp heq => hnot ⟨p, hp, heq⟩⟩
  rw [hle] at hmissing
  cases hmissing

/-- **A configuration restart waits for as many serving pods as servers are declared**, and those
are the declared servers as far as no others are listed. -/
theorem restarts_of_nextConfigRestart (hsorted : pods.Pairwise fun p q => p.ordinal ≤ q.ordinal)
    (h : nextConfigRestart pods servers hash image = some pod) :
    RestartsFor pods servers hash image pod := by
  obtain ⟨henough, hserving, hbehind, before, after, heq, hbefore⟩ :=
    nextConfigRestart_eq_some_iff.mp h
  constructor
  case serving =>
    intro p hp
    simpa [ServerPod.isServing] using hserving p hp
  case mem =>
    rw [heq]
    exact List.mem_append_right _ List.mem_cons_self
  case behind => exact hbehind
  case lowest =>
    intro p hp hlt
    rw [heq] at hp hsorted
    rcases List.mem_append.mp hp with hp | hp
    · exact hbefore p hp
    · -- The pod itself and those after it have no lower ordinal.
      have hle : pod.ordinal ≤ p.ordinal := by
        rcases List.mem_cons.mp hp with rfl | hp
        · exact Int32.le_refl _
        · exact List.rel_of_pairwise_cons (List.pairwise_append.mp hsorted).2.1 hp
      rw [Int32.le_iff_toInt_le] at hle
      rw [Int32.lt_iff_toInt_lt] at hlt
      omega
  case missing =>
    intro hdistinct
    exact length_missing_le hdistinct henough
  case covered =>
    intro hdistinct hdeclared i hpos hlt
    obtain ⟨p, hp, hi⟩ := exists_of_declared hdistinct henough hdeclared hpos hlt
    exact ⟨p, hp, hi, hserving p hp⟩

end

/-- Serving pods of some ordinals that were created with an older configuration. -/
def outdatedPods (ordinals : List Ordinal) : List ServerPod :=
  ordinals.map fun i =>
    { name := podName "db" i, ordinal := i, image := some "neo4j:5", configHash := some "old" }

theorem nextConfigRestart_outdated :
    nextConfigRestart (outdatedPods [0, 1, 2]) 3 "new" "neo4j:5" =
      (outdatedPods [0, 1, 2]).head? := by decide +kernel

/-- With all three servers of a cluster up, the first is restarted. -/
theorem restarts_outdated :
    (outdatedPods [0, 1, 2]).Pairwise (fun p q => p.ordinal ≤ q.ordinal) ∧
    ∃ pod, nextConfigRestart (outdatedPods [0, 1, 2]) 3 "new" "neo4j:5" = some pod ∧
      RestartsFor (outdatedPods [0, 1, 2]) 3 "new" "neo4j:5" pod := by
  have hsorted : (outdatedPods [0, 1, 2]).Pairwise fun p q => p.ordinal ≤ q.ordinal := by decide
  exact ⟨hsorted, _, nextConfigRestart_outdated,
    restarts_of_nextConfigRestart hsorted nextConfigRestart_outdated⟩

/-- A cluster of four is scaled down to three while its third server is gone: the fourth, which is
still up, makes up the number, and the first is restarted. -/
theorem missing_of_scaledDown :
    (outdatedPods [0, 1, 3]).Pairwise (fun p q => p.ordinal ≤ q.ordinal) ∧
    ((outdatedPods [0, 1, 3]).map (·.name)).Nodup ∧ (1 : Int32) ≤ 3 ∧
    (nextConfigRestart (outdatedPods [0, 1, 3]) 3 "new" "neo4j:5").isSome = true ∧
    ¬∀ i : Ordinal, 0 ≤ i → i < 3 →
      ∃ p ∈ outdatedPods [0, 1, 3], p.ordinal = i ∧ p.isServing = true := by
  refine ⟨by decide, by decide, by decide, by decide, ?_⟩
  intro hcovered
  obtain ⟨p, hp, hordinal, -⟩ := hcovered 2 (by decide) (by decide)
  have hnone : ∀ p ∈ outdatedPods [0, 1, 3], p.ordinal ≠ 2 := by decide
  exact hnone p hp hordinal

end ClusterOperator
