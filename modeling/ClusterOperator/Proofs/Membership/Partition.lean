import ClusterOperator.Proofs.Membership.Agreement

/-!
# The classes are a partition, in order

Whatever the views are, also if a server does not list itself, the classes divide the servers that
answered: every one of them is in a class, and no one in two.

> **`nodup_flatten_equivalenceClasses`** — no server is in two classes, nor twice in one.

> **`mem_flatten_equivalenceClasses`** — the servers in the classes are those that answered.

What makes it so is that a class is determined by any of its members (`classOf_eq_of_mem`), which is
all that can be said without mutual agreement: a server whose class would not agree with it is alone
in its own. The order of the classes is that of `classLe`, and within a class that of the keys
(`pairwise_equivalenceClasses`, `pairwise_sortPods`), so the first class is a largest one, and among
those of its size the one with the first server.
-/

set_option autoImplicit false

namespace ClusterOperator

/-! ## The order of servers -/

section
variable {a b c : Int32 × String} {x y z : List String} {p q : String} {pods : List String}

theorem keyLe_iff :
    keyLe a b = true ↔ a.1.toInt < b.1.toInt ∨ (a.1.toInt = b.1.toInt ∧ a.2 ≤ b.2) := by
  simp [keyLe, Int32.lt_iff_toInt_lt, Int32.toInt_inj]

theorem keyLe_trans (hab : keyLe a b = true) (hbc : keyLe b c = true) : keyLe a c = true := by
  rw [keyLe_iff] at hab hbc ⊢
  rcases hab with hab | ⟨hab, hab'⟩
  · left
    omega
  · rcases hbc with hbc | ⟨hbc, hbc'⟩
    · left
      omega
    · exact .inr ⟨hab.trans hbc, String.le_trans hab' hbc'⟩

theorem keyLe_total (a b : Int32 × String) : (keyLe a b || keyLe b a) = true := by
  rw [Bool.or_eq_true, keyLe_iff, keyLe_iff]
  rcases Int.lt_trichotomy a.1.toInt b.1.toInt with hlt | heq | hgt
  · exact .inl (.inl hlt)
  · exact (String.le_total a.2 b.2).imp (fun h => .inr ⟨heq, h⟩) fun h => .inr ⟨heq.symm, h⟩
  · exact .inr (.inl hgt)

theorem keyLe_refl (a : Int32 × String) : keyLe a a = true :=
  keyLe_iff.mpr (.inr ⟨rfl, String.le_refl a.2⟩)

theorem mem_sortPods : p ∈ sortPods pods ↔ p ∈ pods := List.mem_mergeSort

theorem nodup_sortPods : (sortPods pods).Nodup ↔ pods.Nodup :=
  (List.mergeSort_perm pods _).nodup_iff

theorem pairwise_sortPods (pods : List String) :
    (sortPods pods).Pairwise fun p q => keyLe (orderKey p) (orderKey q) = true := by
  unfold sortPods
  refine List.pairwise_mergeSort ?_ ?_ pods
  · exact fun p q r hpq hqr => keyLe_trans hpq hqr
  · exact fun p q => keyLe_total (orderKey p) (orderKey q)

theorem classKey_cons (first : String) (rest : List String) :
    classKey (first :: rest) = orderKey first := rfl

theorem classKey_le (hp : p ∈ sortPods pods) :
    keyLe (classKey (sortPods pods)) (orderKey p) = true := by
  have hsorted := pairwise_sortPods pods
  cases hclass : sortPods pods with
  | nil =>
    rw [hclass] at hp
    cases hp
  | cons first rest =>
    rw [hclass] at hp hsorted
    rw [classKey_cons]
    rcases List.mem_cons.mp hp with rfl | hp
    · exact keyLe_refl _
    · exact List.rel_of_pairwise_cons hsorted hp

/-! ## The order of classes -/

theorem classLe_iff : classLe x y = true ↔
    y.length < x.length ∨ (x.length = y.length ∧ keyLe (classKey x) (classKey y) = true) := by
  simp [classLe]

theorem classLe_trans (hxy : classLe x y = true) (hyz : classLe y z = true) :
    classLe x z = true := by
  rw [classLe_iff] at hxy hyz ⊢
  rcases hxy with hxy | ⟨hxy, hxy'⟩
  · left
    omega
  · rcases hyz with hyz | ⟨hyz, hyz'⟩
    · left
      omega
    · exact .inr ⟨hxy.trans hyz, keyLe_trans hxy' hyz'⟩

theorem classLe_total (x y : List String) : (classLe x y || classLe y x) = true := by
  have hkey := keyLe_total (classKey x) (classKey y)
  rw [Bool.or_eq_true] at hkey ⊢
  rw [classLe_iff, classLe_iff]
  rcases Nat.lt_trichotomy x.length y.length with hlt | heq | hgt
  · exact .inr (.inl hlt)
  · exact hkey.imp (fun h => .inr ⟨heq, h⟩) fun h => .inr ⟨heq.symm, h⟩
  · exact .inl (.inl hgt)

theorem pairwise_equivalenceClasses (views : Views) :
    (equivalenceClasses views).Pairwise fun x y => classLe x y = true := by
  unfold equivalenceClasses
  refine List.pairwise_mergeSort ?_ classLe_total _
  exact fun x y z hxy hyz => classLe_trans hxy hyz

end

/-! ## Classes and their members -/

namespace Views

variable {views : Views} {a : String} {peers members others : List String}
  {view : String × List String}

theorem mem_equivalenceClasses_iff : members ∈ equivalenceClasses views ↔
    ∃ view ∈ views.restricted, sortPods (classOf views.restricted view) = members := by
  simp [equivalenceClasses, List.mem_mergeSort, List.mem_eraseDups]

theorem self_mem_classOf (hview : view ∈ views.restricted) :
    view.1 ∈ classOf views.restricted view := by
  unfold classOf
  dsimp only
  -- A server holds its own view, and is alone in its class where the holders are not taken.
  split
  · exact mem_holders.mpr hview
  · exact List.mem_singleton_self _

/-- **A class is determined by any of its members.** -/
theorem classOf_eq_of_mem (hview : view ∈ views.restricted)
    (ha : a ∈ classOf views.restricted view) :
    ∃ peers, (a, peers) ∈ views.restricted ∧
      classOf views.restricted view = classOf views.restricted (a, peers) := by
  refine ⟨view.2, ?_⟩
  unfold classOf at ha ⊢
  dsimp only at ha ⊢
  -- Whether all holders of a view are in it is a matter of the view alone.
  by_cases hall : (holders views.restricted view.2).all view.2.contains = true
  · rw [if_pos hall] at ha
    exact ⟨mem_holders.mp ha, by rw [if_pos hall, if_pos hall]⟩
  · rw [if_neg hall] at ha
    rw [List.mem_singleton.mp ha]
    exact ⟨hview, rfl⟩

theorem classOf_unique {other : String × List String} (hview : view ∈ views.restricted)
    (hother : other ∈ views.restricted) (ha : a ∈ classOf views.restricted view)
    (ha' : a ∈ classOf views.restricted other) :
    classOf views.restricted view = classOf views.restricted other := by
  obtain ⟨peers, hpeers, heq⟩ := classOf_eq_of_mem hview ha
  obtain ⟨peers', hpeers', heq'⟩ := classOf_eq_of_mem hother ha'
  rw [heq, heq', peers_unique hpeers hpeers']

theorem map_fst_restricted (views : Views) : views.restricted.map (·.1) = views.keys := by
  unfold restricted SortedMap.keys
  rw [List.map_map]
  rfl

theorem nodup_classOf : (classOf views.restricted view).Nodup := by
  unfold classOf
  dsimp only
  split
  · have hsub : (holders views.restricted view.2).Sublist (views.restricted.map (·.1)) :=
      List.filter_sublist.map _
    rw [map_fst_restricted] at hsub
    exact hsub.nodup (SortedMap.nodup_keys views)
  · exact List.nodup_singleton _

theorem mem_keys_of_mem_classOf (hview : view ∈ views.restricted)
    (ha : a ∈ classOf views.restricted view) : a ∈ views.keys := by
  obtain ⟨peers, hpeers, -⟩ := classOf_eq_of_mem hview ha
  rw [← map_fst_restricted]
  exact List.mem_map_of_mem hpeers

/-! ## The partition -/

theorem ne_nil_of_mem_equivalenceClasses (h : members ∈ equivalenceClasses views) :
    members ≠ [] := by
  obtain ⟨view, hview, rfl⟩ := mem_equivalenceClasses_iff.mp h
  exact List.ne_nil_of_mem (mem_sortPods.mpr (self_mem_classOf hview))

theorem nodup_of_mem_equivalenceClasses (h : members ∈ equivalenceClasses views) :
    members.Nodup := by
  obtain ⟨view, -, rfl⟩ := mem_equivalenceClasses_iff.mp h
  exact nodup_sortPods.mpr nodup_classOf

theorem disjoint_equivalenceClasses (views : Views) :
    (equivalenceClasses views).Pairwise List.Disjoint := by
  have hdistinct : ((views.restricted.map (classOf views.restricted)).eraseDups).Pairwise
      fun x y => List.Disjoint (sortPods x) (sortPods y) := by
    refine (nodup_eraseDups _).imp_of_mem fun hx hy hne => ?_
    obtain ⟨view, hview, rfl⟩ := List.mem_map.mp (List.mem_eraseDups.mp hx)
    obtain ⟨other, hother, rfl⟩ := List.mem_map.mp (List.mem_eraseDups.mp hy)
    intro a ha ha'
    exact hne (classOf_unique hview hother (mem_sortPods.mp ha) (mem_sortPods.mp ha'))
  refine ((List.mergeSort_perm _ classLe).pairwise_iff fun h => h.symm).mpr ?_
  exact List.pairwise_map.mpr hdistinct

/-- **No server is in two classes**, nor twice in one. -/
theorem nodup_flatten_equivalenceClasses (views : Views) :
    (equivalenceClasses views).flatten.Nodup :=
  List.nodup_flatten.mpr
    ⟨fun _ h => nodup_of_mem_equivalenceClasses h, disjoint_equivalenceClasses views⟩

/-- **The servers in the classes are those that answered.** -/
theorem mem_flatten_equivalenceClasses :
    a ∈ (equivalenceClasses views).flatten ↔ a ∈ views.keys := by
  rw [List.mem_flatten]
  constructor
  · rintro ⟨members, hmembers, ha⟩
    obtain ⟨view, hview, rfl⟩ := mem_equivalenceClasses_iff.mp hmembers
    exact mem_keys_of_mem_classOf hview (mem_sortPods.mp ha)
  · intro ha
    rw [← map_fst_restricted] at ha
    obtain ⟨view, hview, rfl⟩ := List.mem_map.mp ha
    refine ⟨_, mem_equivalenceClasses_iff.mpr ⟨view, hview, rfl⟩, ?_⟩
    exact mem_sortPods.mpr (self_mem_classOf hview)

theorem classKey_le_of_mem (h : members ∈ equivalenceClasses views) (ha : a ∈ members) :
    keyLe (classKey members) (orderKey a) = true := by
  obtain ⟨view, -, rfl⟩ := mem_equivalenceClasses_iff.mp h
  exact classKey_le ha

end Views

/-! ## Detection -/

namespace DetectionInput

variable {i : DetectionInput} {name : String}

theorem mem_keys_known :
    name ∈ i.known.keys ↔ name ∈ i.views.keys ∧ ∃ p ∈ i.ready, p.name = name := by
  rw [SortedMap.mem_keys, SortedMap.mem_keys]
  constructor
  · rintro ⟨seen, hseen⟩
    obtain ⟨hview, hready⟩ := mem_known.mp hseen
    exact ⟨⟨seen, hview⟩, hready⟩
  · rintro ⟨⟨seen, hview⟩, hready⟩
    exact ⟨seen, mem_known.mpr ⟨hview, hready⟩⟩

theorem mem_unknown {servers quorum : Int32} (h : i.deployment = .cluster servers quorum) :
    name ∈ i.unknown ↔ (∃ p ∈ i.ready, p.name = name) ∧ name ∉ i.known.keys := by
  unfold unknown
  rw [h]
  simp [← SortedMap.contains_iff]

end DetectionInput

end ClusterOperator
