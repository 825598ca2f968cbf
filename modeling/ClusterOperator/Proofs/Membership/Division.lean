import Mathlib.Data.List.Pairwise
import Mathlib.Data.Set.Basic
import Mathlib.Data.String.Basic
import ClusterOperator.Proofs.Membership.Partition

/-!
# The classes of a set of views are one list and no other

A view is a set of names, and only the servers that answered count. Of a server `p` that answered,
`views.peers p` is what is left of its view. The views may be one-sided, and a server need not list
itself.

> **`divided_iff`** — the classes divide the servers that answered by mutual agreement, each in the
> order of its servers and all of them in the order of size, and no other list of classes does.

A division is determined because membership in a class is a matter of two servers at a time
(`Divided.together`), and both orders are strict: of two servers one is before the other, and of two
classes of one size the one with the first server is. There is therefore one first class, the one
that detection compares with the quorum.
-/

set_option autoImplicit false

namespace ClusterOperator

/-! ## The order of servers and of classes -/

/-- The number by which a server is placed: the ordinal that its name ends with, the largest number
for a name without one. -/
def place (pod : String) : Int :=
  match ordinalOf? pod with
  | some ordinal => ordinal.toInt
  | none => 2147483647

/-- A server is before another by its place, at one place by its name. -/
def Before (p q : String) : Prop := place p < place q ∨ (place p = place q ∧ p < q)

def Lowest (p : String) (members : List String) : Prop :=
  p ∈ members ∧ ∀ q ∈ members, q ≠ p → Before p q

/-- A larger class is before a smaller one, and of two of one size the one with the first server. -/
def Precedes (x y : List String) : Prop :=
  y.length < x.length ∨
    (x.length = y.length ∧ ∃ p q, Lowest p x ∧ Lowest q y ∧ Before p q)

section
variable {p q r : String} {x y : List String}

theorem place_eq (pod : String) : place pod = (orderKey pod).1.toInt := by
  unfold place orderKey
  cases ordinalOf? pod with
  | none => rfl
  | some ordinal => rfl

theorem keyLe_orderKey : keyLe (orderKey p) (orderKey q) = true ↔ p = q ∨ Before p q := by
  have hname : ∀ pod, (orderKey pod).2 = pod := fun _ => rfl
  rw [keyLe_iff, ← place_eq, ← place_eq, hname, hname]
  unfold Before
  constructor
  · intro h
    rcases h with h | ⟨h, hle⟩
    · exact .inr (.inl h)
    · rcases eq_or_lt_of_le hle with heq | hlt
      · exact .inl heq
      · exact .inr (.inr ⟨h, hlt⟩)
  · intro h
    rcases h with rfl | h | ⟨h, hlt⟩
    · exact .inr ⟨rfl, le_refl p⟩
    · exact .inl h
    · exact .inr ⟨h, le_of_lt hlt⟩

theorem Before.irrefl (p : String) : ¬Before p p := by
  intro h
  rcases h with h | ⟨-, h⟩
  · omega
  · exact lt_irrefl p h

theorem Before.asymm (h : Before p q) : ¬Before q p := by
  intro h'
  rcases h with h | ⟨heq, h⟩
  · rcases h' with h' | ⟨heq', -⟩
    · omega
    · omega
  · rcases h' with h' | ⟨-, h'⟩
    · omega
    · exact lt_asymm h h'

theorem Lowest.unique (hp : Lowest p x) (hq : Lowest q x) : p = q := by
  by_contra hne
  exact (hp.2 q hq.1 (Ne.symm hne)).asymm (hq.2 p hp.1 hne)

theorem Precedes.asymm (h : Precedes x y) : ¬Precedes y x := by
  intro h'
  rcases h with h | ⟨heq, p, q, hp, hq, hbefore⟩
  · rcases h' with h' | ⟨heq', -⟩
    · omega
    · omega
  · rcases h' with h' | ⟨-, q', p', hq', hp', hbefore'⟩
    · omega
    · rw [hp.unique hp', hq.unique hq'] at hbefore
      exact hbefore.asymm hbefore'

theorem Precedes.ne (h : Precedes x y) : x ≠ y := by
  intro heq
  exact h.asymm (heq ▸ heq.symm ▸ h)

theorem lowest_head {rest : List String} (h : (p :: rest).Pairwise Before) :
    Lowest p (p :: rest) := by
  refine ⟨List.mem_cons_self, ?_⟩
  intro q hq hne
  rcases List.mem_cons.mp hq with heq | hq
  · exact absurd heq hne
  · exact List.rel_of_pairwise_cons h hq

end

namespace Views

variable {views : Views} {p q r : String} {peersP peersQ members : List String}
  {classes others : List (List String)}

/-! ## What a server sees of those that answered -/

/-- The servers that answered and that a server lists. -/
def peers (views : Views) (p : String) : Set String :=
  {q | q ∈ views.keys ∧ ∃ seen, (p, seen) ∈ views.entries ∧ q ∈ seen}

theorem exists_restricted (h : p ∈ views.keys) : ∃ peers, (p, peers) ∈ views.restricted := by
  rw [← map_fst_restricted, List.mem_map] at h
  obtain ⟨⟨name, peers⟩, hview, rfl⟩ := h
  exact ⟨peers, hview⟩

theorem mem_peers_iff (h : (p, peersP) ∈ views.restricted) : q ∈ views.peers p ↔ q ∈ peersP := by
  obtain ⟨seen, hseen, rfl⟩ := mem_restricted.mp h
  simp only [peers, Set.mem_ofPred_eq, List.mem_filter, List.contains_iff_mem]
  constructor
  · intro ⟨hq, seen', hseen', hmem⟩
    rw [SortedMap.value_unique hseen' hseen] at hmem
    exact ⟨hq, hmem⟩
  · intro ⟨hq, hmem⟩
    exact ⟨hq, seen, hseen, hmem⟩

/-- Restricted views are compared as lists, which is to compare them as sets: each of them lists its
names in the order of the keys. -/
theorem peers_eq_iff (hp : (p, peersP) ∈ views.restricted) (hq : (q, peersQ) ∈ views.restricted) :
    views.peers p = views.peers q ↔ peersP = peersQ := by
  constructor
  · intro h
    have hmem : ∀ name, name ∈ peersP ↔ name ∈ peersQ := by
      intro name
      rw [← mem_peers_iff hp, h, mem_peers_iff hq]
    obtain ⟨seenP, -, rfl⟩ := mem_restricted.mp hp
    obtain ⟨seenQ, -, rfl⟩ := mem_restricted.mp hq
    apply List.filter_congr
    intro name hname
    have hname' := hmem name
    simp only [List.mem_filter, hname, true_and] at hname'
    exact Bool.eq_iff_iff.mpr hname'
  · intro h
    ext name
    rw [mem_peers_iff hp, mem_peers_iff hq, h]

/-! ## Agreement of two servers -/

/-- Two servers agree when they see the same servers, and every server that sees those is one of
them. The second half is about servers other than the two: one that sees the same and is not seen
keeps all that see the same apart. -/
def Concur (views : Views) (p q : String) : Prop :=
  views.peers p = views.peers q ∧
    ∀ r ∈ views.keys, views.peers r = views.peers p → r ∈ views.peers p

theorem mem_classOf_iff (hp : (p, peersP) ∈ views.restricted)
    (hq : (q, peersQ) ∈ views.restricted) (hne : p ≠ q) :
    q ∈ classOf views.restricted (p, peersP) ↔ views.Concur p q := by
  have hall : (holders views.restricted peersP).all peersP.contains = true ↔
      ∀ r ∈ views.keys, views.peers r = views.peers p → r ∈ views.peers p := by
    rw [List.all_eq_true]
    constructor
    · intro h r hr heq
      obtain ⟨peersR, hview⟩ := exists_restricted hr
      rw [peers_eq_iff hview hp] at heq
      rw [mem_peers_iff hp, ← List.contains_iff_mem]
      exact h r (mem_holders.mpr (heq ▸ hview))
    · intro h r hr
      have hview := mem_holders.mp hr
      have hkey : r ∈ views.keys := by
        rw [← map_fst_restricted]
        exact List.mem_map_of_mem hview
      rw [List.contains_iff_mem, ← mem_peers_iff hp]
      exact h r hkey ((peers_eq_iff hview hp).mpr rfl)
  have hholds : q ∈ holders views.restricted peersP ↔ views.peers p = views.peers q := by
    rw [mem_holders, peers_eq_iff hp hq]
    constructor
    · intro h
      exact peers_unique h hq
    · intro h
      rw [h]
      exact hq
  -- Both sides are now about the same two facts: who holds the view, and whether all of them are in
  -- it.
  unfold Concur classOf
  dsimp only
  rw [← hall, ← hholds]
  split
  · rename_i h
    simp [h]
  · rename_i h
    simp [h, Ne.symm hne]

theorem together_iff_mem_classOf (hp : (p, peersP) ∈ views.restricted) :
    Together views p q ↔ q ∈ classOf views.restricted (p, peersP) := by
  constructor
  · intro ⟨members, hmembers, hmem, hmem'⟩
    obtain ⟨view, hview, rfl⟩ := mem_equivalenceClasses_iff.mp hmembers
    rw [classOf_unique hp hview (self_mem_classOf hp) (mem_sortPods.mp hmem)]
    exact mem_sortPods.mp hmem'
  · intro h
    refine ⟨_, mem_equivalenceClasses_iff.mpr ⟨_, hp, rfl⟩, ?_, mem_sortPods.mpr h⟩
    exact mem_sortPods.mpr (self_mem_classOf hp)

theorem together_iff_concur (hp : p ∈ views.keys) (hq : q ∈ views.keys) (hne : p ≠ q) :
    Together views p q ↔ views.Concur p q := by
  obtain ⟨peersP, hviewP⟩ := exists_restricted hp
  obtain ⟨peersQ, hviewQ⟩ := exists_restricted hq
  rw [together_iff_mem_classOf hviewP, mem_classOf_iff hviewP hviewQ hne]

/-! ## The division -/

/-- How a list of classes divides the servers that answered. The list is determined by it, order
included, because each server is placed by what is known of it alone and no two are placed alike. -/
structure Divided (views : Views) (classes : List (List String)) : Prop where
  inhabited : ∀ members ∈ classes, members ≠ []
  disjoint : classes.Pairwise List.Disjoint
  covers : ∀ p, (∃ members ∈ classes, p ∈ members) ↔ p ∈ views.keys
  /-- Two servers are in one class when they agree. -/
  together : ∀ p ∈ views.keys, ∀ q ∈ views.keys, p ≠ q →
    ((∃ members ∈ classes, p ∈ members ∧ q ∈ members) ↔ views.Concur p q)
  /-- The servers of a class list each other. -/
  reciprocal : ∀ members ∈ classes, ∀ p ∈ members, ∀ q ∈ members, p ≠ q → q ∈ views.peers p
  sorted : ∀ members ∈ classes, members.Pairwise Before
  ordered : classes.Pairwise Precedes

theorem Concur.mem_peers (h : views.Concur p q) (hq : q ∈ views.keys) : q ∈ views.peers p :=
  h.2 q hq h.1.symm

theorem sorted_of_mem_equivalenceClasses (h : members ∈ equivalenceClasses views) :
    members.Pairwise Before := by
  have hdistinct := nodup_of_mem_equivalenceClasses h
  obtain ⟨view, -, rfl⟩ := mem_equivalenceClasses_iff.mp h
  refine ((pairwise_sortPods _).and hdistinct).imp ?_
  intro p q ⟨hle, hne⟩
  exact (keyLe_orderKey.mp hle).resolve_left hne

/-- `classLe` is not strict, and two classes of one size could have one key. They have not, since no
server is in both. -/
theorem precedes_of_classLe {x y : List String} (hx : x ∈ equivalenceClasses views)
    (hy : y ∈ equivalenceClasses views) (hle : classLe x y = true) (hdisjoint : x.Disjoint y) :
    Precedes x y := by
  have hxs := sorted_of_mem_equivalenceClasses hx
  have hys := sorted_of_mem_equivalenceClasses hy
  obtain ⟨p, restX, rfl⟩ := List.exists_cons_of_ne_nil (ne_nil_of_mem_equivalenceClasses hx)
  obtain ⟨q, restY, rfl⟩ := List.exists_cons_of_ne_nil (ne_nil_of_mem_equivalenceClasses hy)
  rcases classLe_iff.mp hle with hlt | ⟨hlength, hkey⟩
  · exact .inl hlt
  · rw [classKey_cons, classKey_cons, keyLe_orderKey] at hkey
    have hne : p ≠ q := by
      intro heq
      exact hdisjoint List.mem_cons_self (heq ▸ List.mem_cons_self)
    exact .inr ⟨hlength, p, q, lowest_head hxs, lowest_head hys, hkey.resolve_left hne⟩

theorem divided_equivalenceClasses (views : Views) : views.Divided (equivalenceClasses views) where
  inhabited _ h := ne_nil_of_mem_equivalenceClasses h
  disjoint := disjoint_equivalenceClasses views
  covers p := by rw [← mem_flatten_equivalenceClasses, List.mem_flatten]
  together p hp q hq hne := together_iff_concur hp hq hne
  reciprocal := by
    intro members hmembers p hp q hq hne
    have hkey : ∀ a ∈ members, a ∈ views.keys := by
      intro a ha
      exact mem_flatten_equivalenceClasses.mp (List.mem_flatten.mpr ⟨members, hmembers, ha⟩)
    have htogether : Together views p q := ⟨members, hmembers, hp, hq⟩
    rw [together_iff_concur (hkey p hp) (hkey q hq) hne] at htogether
    exact htogether.mem_peers (hkey q hq)
  sorted _ h := sorted_of_mem_equivalenceClasses h
  ordered := by
    refine ((pairwise_equivalenceClasses views).and
      (disjoint_equivalenceClasses views)).imp_of_mem ?_
    intro x y hx hy ⟨hle, hdisjoint⟩
    exact precedes_of_classLe hx hy hle hdisjoint

/-! ## There is no other -/

theorem Divided.mem_iff (h : views.Divided classes) (hmembers : members ∈ classes)
    (hp : p ∈ members) :
    q ∈ members ↔ q ∈ views.keys ∧ (p = q ∨ views.Concur p q) := by
  have hkey : ∀ a ∈ members, a ∈ views.keys := fun a ha => (h.covers a).mp ⟨members, hmembers, ha⟩
  by_cases heq : p = q
  · subst heq
    simp [hp, hkey p hp]
  constructor
  · intro hq
    have hboth := (h.together p (hkey p hp) q (hkey q hq) heq).mp ⟨members, hmembers, hp, hq⟩
    exact ⟨hkey q hq, .inr hboth⟩
  · intro ⟨hq, hconcur⟩
    have hboth := (h.together p (hkey p hp) q hq heq).mpr (hconcur.resolve_left heq)
    obtain ⟨same, hsame, hp', hq'⟩ := hboth
    have hone : same = members := by
      by_contra hne
      have : Std.Symm (@List.Disjoint String) := ⟨fun _ _ hdisjoint => hdisjoint.symm⟩
      exact h.disjoint.forall hsame hmembers hne hp' hp
    exact hone ▸ hq'

theorem eq_of_mem_iff {x y : List String} (hx : x.Pairwise Before) (hy : y.Pairwise Before)
    (h : ∀ a, a ∈ x ↔ a ∈ y) : x = y := by
  have hnodup : ∀ {l : List String}, l.Pairwise Before → l.Nodup := by
    intro l hl
    refine hl.imp ?_
    intro a b hab heq
    exact Before.irrefl b (heq ▸ hab)
  have hperm := (List.perm_ext_iff_of_nodup (hnodup hx) (hnodup hy)).mpr h
  refine hperm.eq_of_pairwise ?_ hx hy
  intro a b _ _ hab hba
  exact absurd hba hab.asymm

theorem Divided.subset (h : views.Divided classes) (h' : views.Divided others) :
    ∀ members ∈ classes, members ∈ others := by
  intro members hmembers
  obtain ⟨p, rest, rfl⟩ := List.exists_cons_of_ne_nil (h.inhabited members hmembers)
  have hp : p ∈ p :: rest := List.mem_cons_self
  obtain ⟨same, hsame, hp'⟩ := (h'.covers p).mpr ((h.covers p).mp ⟨_, hmembers, hp⟩)
  have heq : p :: rest = same := by
    refine eq_of_mem_iff (h.sorted _ hmembers) (h'.sorted _ hsame) ?_
    intro q
    rw [h.mem_iff hmembers hp, h'.mem_iff hsame hp']
  exact heq ▸ hsame

theorem Divided.unique (h : views.Divided classes) (h' : views.Divided others) :
    classes = others := by
  have hnodup : ∀ {l : List (List String)}, l.Pairwise Precedes → l.Nodup := fun hl =>
    hl.imp Precedes.ne
  have hperm := (List.perm_ext_iff_of_nodup (hnodup h.ordered) (hnodup h'.ordered)).mpr
    fun members => ⟨h.subset h' members, h'.subset h members⟩
  refine hperm.eq_of_pairwise ?_ h.ordered h'.ordered
  intro x y _ _ hxy hyx
  exact absurd hyx hxy.asymm

/-- **The classes are the division of the servers that answered**, and the only one. Views may be of
any form: servers may list strangers, or not list themselves. -/
theorem divided_iff (views : Views) (classes : List (List String)) :
    views.Divided classes ↔ classes = equivalenceClasses views := by
  -- Two lists that divide the servers have the same members, and an order that is strict leaves one
  -- arrangement of them.
  constructor
  · intro h
    exact h.unique (divided_equivalenceClasses views)
  · intro h
    rw [h]
    exact divided_equivalenceClasses views

-- A server that sees two others which do not see each other is in the class of neither.
example :
    equivalenceClasses (.ofList
      [("db-0", ["db-0", "db-1"]), ("db-1", ["db-0", "db-1", "db-2"]),
        ("db-2", ["db-1", "db-2"])]) = [["db-0"], ["db-1"], ["db-2"]] :=
  equivalenceClasses_eq (by decide +kernel) (by decide) (by decide)

end Views

end ClusterOperator
