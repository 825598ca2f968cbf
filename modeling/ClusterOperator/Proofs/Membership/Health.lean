import ClusterOperator.Proofs.Membership.Partition

/-!
# What the verdicts mean

The health of a membership is found by way of classes: how many there are, how large the first is,
and whether the views are complete. What it says can be said of pods and views alone:

> **`meaning_of_health`** — a cluster is unformed while too few of its servers serve; it is healthy
> when as many serve as are declared, all of them have answered, and every one of them lists every
> one; it is split when one that answered is missing from the view of another, for at least the
> grace period; and it is converging otherwise.

For this every view lists the server that gave it, and no two pods have one name. There is then one
class at most exactly if all views that are known are mutual (`length_le_one_iff_mutual`), and the
members of a single class are all that answered (`length_of_single`).
-/

set_option autoImplicit false

namespace ClusterOperator

open Instant

namespace Views

variable {views : Views} {members : List String}

/-- Every view lists every server that has one. -/
def Mutual (views : Views) : Prop :=
  ∀ view ∈ views.entries, ∀ name ∈ views.keys, name ∈ view.2

/-- **There is at most one class exactly if all views are mutual.** -/
theorem length_le_one_iff_mutual (hself : views.SeesItself) :
    (equivalenceClasses views).length ≤ 1 ↔ views.Mutual := by
  rw [length_equivalenceClasses hself, Finset.card_le_one]
  constructor
  · intro hone view hview name hname
    -- The restricted view of the other server has it, and it is the same as this one.
    have hpeers : (view.1, views.keys.filter view.2.contains) ∈ views.restricted :=
      mem_restricted.mpr ⟨view.2, hview, rfl⟩
    obtain ⟨seen, hseen⟩ := SortedMap.mem_keys.mp hname
    have hothers : (name, views.keys.filter seen.contains) ∈ views.restricted :=
      mem_restricted.mpr ⟨seen, hseen, rfl⟩
    have hsame := hone _ (List.mem_toFinset.mpr (List.mem_map_of_mem hpeers)) _
      (List.mem_toFinset.mpr (List.mem_map_of_mem hothers))
    have hlisted : name ∈ views.keys.filter view.2.contains := by
      rw [show views.keys.filter view.2.contains = views.keys.filter seen.contains from hsame]
      exact self_mem_peers hself hothers
    exact List.contains_iff_mem.mp (List.mem_filter.mp hlisted).2
  · intro hmutual
    have hkeys : ∀ peers ∈ (views.restricted.map (·.2)).toFinset, peers = views.keys := by
      intro peers hpeers
      obtain ⟨⟨a, _⟩, ha, rfl⟩ := List.mem_map.mp (List.mem_toFinset.mp hpeers)
      obtain ⟨seen, hseen, rfl⟩ := mem_restricted.mp ha
      refine List.filter_eq_self.mpr fun name hname => ?_
      exact List.contains_iff_mem.mpr (hmutual _ hseen name hname)
    intro peers hpeers others hothers
    rw [hkeys peers hpeers, hkeys others hothers]

theorem equivalenceClasses_ne_nil (h : views.keys ≠ []) : equivalenceClasses views ≠ [] := by
  intro hnil
  obtain ⟨name, hname⟩ := List.exists_mem_of_ne_nil _ h
  rw [← mem_flatten_equivalenceClasses, hnil] at hname
  cases hname

theorem length_of_single (h : equivalenceClasses views = [members]) :
    members.length = views.keys.length := by
  have hmem : ∀ name, name ∈ members ↔ name ∈ views.keys := by
    intro name
    rw [← mem_flatten_equivalenceClasses, h, List.flatten_singleton]
  have hnodup : members.Nodup := nodup_of_mem_equivalenceClasses (h ▸ List.mem_singleton_self _)
  exact ((List.perm_ext_iff_of_nodup hnodup (SortedMap.nodup_keys views)).mpr hmem).length_eq

end Views

section
variable {α : Type} {l : List α} {members : List String} {servers : Int32}

theorem countOf_lt_iff : countOf l < servers ↔ (l.length : Int) < servers.toInt := by
  have hservers := Int32.toInt_lt servers
  have hcount : (countOf l).toInt = min l.length 2147483647 := by
    unfold countOf
    rw [Int32.toInt_ofNat_of_lt (by omega)]
  rw [Int32.lt_iff_toInt_lt, hcount]
  omega

theorem classSize_eq_iff (h : 0 < servers.toInt) :
    DetectionInput.classSize members = servers ↔ (members.length : Int) = servers.toInt := by
  have hservers := Int32.toInt_lt servers
  unfold DetectionInput.classSize
  rw [← Int32.toInt_inj]
  split
  · rw [Int32.toInt_ofNat_of_lt (by omega)]
  · rw [Int32.toInt_zero]
    omega

end

namespace DetectionInput

variable {i : DetectionInput} {servers quorum : Int32}

/-! ## The plain statements -/

/-- A serving pod has a view, and what it lists. -/
def Answered (i : DetectionInput) (p : ServerPod) (seen : List String) : Prop :=
  p ∈ i.ready ∧ i.views.find? p.name = some seen

/-- As many pods serve as are declared, all of them have a view, and every view lists them all.
Neither classes nor digests are spoken of: this is what the user of a cluster would check by
hand. -/
def Whole (i : DetectionInput) : Prop :=
  (i.ready.length : Int) = i.deployment.servers.toInt ∧
    ∀ p ∈ i.ready, ∃ seen, i.Answered p seen ∧ ∀ q ∈ i.ready, q.name ∈ seen

/-- A pod that has a view is missing from the view of another. -/
def Parted (i : DetectionInput) : Prop :=
  ∃ p q seen others, p ≠ q ∧ i.Answered p seen ∧ i.Answered q others ∧ q.name ∉ seen

/-- An instant is the latest of when the digest was first observed and when a serving pod last
became ready. It is one of these and before none of them, which determines it without saying how it
is looked for. -/
def IsLatest (i : DetectionInput) (since : Instant) : Prop :=
  since ∈ i.observedSince :: i.ready.filterMap (·.readySince) ∧
    ∀ t ∈ i.observedSince :: i.ready.filterMap (·.readySince), t.nanos ≤ since.nanos

/-! ## Since when a disagreement counts -/

theorem foldl_later_mem (ts : List Instant) (start : Instant) :
    ts.foldl later start ∈ start :: ts := by
  induction ts generalizing start with
  | nil => exact List.mem_singleton_self start
  | cons u ts ih =>
    rcases List.mem_cons.mp (ih (later start u)) with hlater | hrest
    · rw [List.foldl_cons, hlater]
      unfold later
      split
      · exact List.mem_cons_of_mem _ List.mem_cons_self
      · exact List.mem_cons_self
    · exact List.mem_cons_of_mem _ (List.mem_cons_of_mem _ hrest)

theorem isLatest_disagreementSince (i : DetectionInput) : i.IsLatest i.disagreementSince := by
  obtain ⟨hstart, hall⟩ := nanos_le_foldl_later (i.ready.filterMap (·.readySince)) i.observedSince
  refine ⟨foldl_later_mem _ _, fun t ht => ?_⟩
  rcases List.mem_cons.mp ht with rfl | ht
  · exact hstart
  · exact hall t ht

theorem lasted_iff : i.grace ≤ elapsed i.disagreementSince i.now ↔
    ∃ since, i.IsLatest since ∧ i.grace ≤ elapsed since i.now := by
  constructor
  · exact fun h => ⟨_, isLatest_disagreementSince i, h⟩
  · rintro ⟨since, ⟨-, hlatest⟩, hgrace⟩
    have hle := hlatest _ (isLatest_disagreementSince i).1
    exact Nat.le_trans hgrace (elapsed_le_elapsed hle i.now)

/-! ## The classes of the serving pods -/

theorem mem_known_iff_answered {name : String} {seen : List String} :
    (name, seen) ∈ i.known.entries ↔ ∃ p, p.name = name ∧ i.Answered p seen := by
  rw [mem_known]
  constructor
  · rintro ⟨hview, p, hp, rfl⟩
    exact ⟨p, rfl, hp, SortedMap.find?_eq_some_iff.mpr hview⟩
  · rintro ⟨p, rfl, hp, hview⟩
    exact ⟨SortedMap.find?_eq_some_iff.mp hview, p, hp, rfl⟩

theorem seesItself_known (hself : i.views.SeesItself) : i.known.SeesItself :=
  hself.of_subset known_subset

theorem nodup_names_ready (h : (i.pods.map (·.name)).Nodup) : (i.ready.map (·.name)).Nodup :=
  (List.filter_sublist.map _).nodup h

/-- **There is more than one class exactly if a pod is missing from the view of another.** -/
theorem many_classes_iff_parted (h : i.deployment = .cluster servers quorum)
    (hself : i.views.SeesItself) : 1 < i.classes.length ↔ i.Parted := by
  rw [classes_of_cluster h, ← Nat.not_le, Views.length_le_one_iff_mutual (seesItself_known hself)]
  constructor
  · intro hmutual
    unfold Views.Mutual at hmutual
    push Not at hmutual
    obtain ⟨⟨name, seen⟩, hview, other, hother, hmissing⟩ := hmutual
    obtain ⟨others, hothers⟩ := SortedMap.mem_keys.mp hother
    obtain ⟨p, rfl, hp⟩ := mem_known_iff_answered.mp hview
    obtain ⟨q, rfl, hq⟩ := mem_known_iff_answered.mp hothers
    refine ⟨p, q, seen, others, ?_, hp, hq, hmissing⟩
    rintro rfl
    exact hmissing (hself _ (known_subset hview))
  · rintro ⟨p, q, seen, others, -, hp, hq, hmissing⟩ hmutual
    refine hmissing (hmutual _ (mem_known_iff_answered.mpr ⟨p, rfl, hp⟩) _ ?_)
    exact SortedMap.mem_keys.mpr ⟨others, mem_known_iff_answered.mpr ⟨q, rfl, hq⟩⟩

theorem viewsComplete_iff :
    i.viewsComplete = true ↔ ∀ p seen, i.Answered p seen → ∀ q ∈ i.ready, q.name ∈ seen := by
  unfold viewsComplete
  simp only [List.all_eq_true, List.contains_iff_mem]
  constructor
  · intro h p seen hp
    exact h _ (mem_known_iff_answered.mpr ⟨p, rfl, hp⟩)
  · rintro h ⟨name, seen⟩ hview
    obtain ⟨p, -, hp⟩ := mem_known_iff_answered.mp hview
    exact h p seen hp

theorem unknown_eq_nil_iff (h : i.deployment = .cluster servers quorum) :
    i.unknown = [] ↔ ∀ p ∈ i.ready, ∃ seen, i.Answered p seen := by
  rw [List.eq_nil_iff_forall_not_mem]
  constructor
  · intro hnone p hp
    by_contra hview
    refine hnone p.name ((mem_unknown h).mpr ⟨⟨p, hp, rfl⟩, fun hkey => hview ?_⟩)
    obtain ⟨seen, hseen⟩ := SortedMap.mem_keys.mp (mem_keys_known.mp hkey).1
    exact ⟨seen, hp, SortedMap.find?_eq_some_iff.mpr hseen⟩
  · intro hall name hname
    obtain ⟨⟨p, hp, rfl⟩, hmissing⟩ := (mem_unknown h).mp hname
    obtain ⟨seen, hseen⟩ := hall p hp
    exact hmissing (SortedMap.mem_keys.mpr ⟨seen, mem_known_iff_answered.mpr ⟨p, rfl, hseen⟩⟩)

/-- If all serving pods have a view, there are as many views as serving pods. -/
theorem length_keys_known (hnames : (i.pods.map (·.name)).Nodup)
    (hall : ∀ p ∈ i.ready, ∃ seen, i.Answered p seen) :
    i.known.keys.length = i.ready.length := by
  have hmem : ∀ name, name ∈ i.known.keys ↔ name ∈ i.ready.map (·.name) := by
    intro name
    rw [mem_keys_known, List.mem_map]
    refine ⟨fun h => h.2, ?_⟩
    rintro ⟨p, hp, rfl⟩
    obtain ⟨seen, -, hview⟩ := hall p hp
    exact ⟨SortedMap.mem_keys.mpr ⟨seen, SortedMap.find?_eq_some_iff.mp hview⟩, p, hp, rfl⟩
  have hperm :=
    (List.perm_ext_iff_of_nodup (SortedMap.nodup_keys _) (nodup_names_ready hnames)).mpr hmem
  rw [hperm.length_eq, List.length_map]

/-! ## The verdicts -/

theorem health_eq_unformed_iff (h : i.deployment = .cluster servers quorum) :
    i.health = .unformed ↔ (i.ready.length : Int) < servers.toInt := by
  rw [← countOf_lt_iff]
  unfold health
  rw [h]
  dsimp only
  split
  · rename_i hfew
    exact iff_of_true rfl hfew
  · rename_i hfew
    refine iff_of_false (fun hhealth => ?_) hfew
    split at hhealth
    · cases hhealth
    · split at hhealth
      · split at hhealth
        · cases hhealth
        · cases hhealth
      · cases hhealth

/-- A cluster is healthy if there is one class, of as many servers as are declared, and all views
are known and complete. -/
theorem health_eq_healthy_iff_class (h : i.deployment = .cluster servers quorum) :
    i.health = .healthy ↔ servers.toInt ≤ i.ready.length ∧ i.unknown = [] ∧
      i.viewsComplete = true ∧ ∃ members, i.classes = [members] ∧ classSize members = servers := by
  have hclass : (i.classes.length == 1 && i.unknown.isEmpty && i.viewsComplete &&
        i.classes.head?.any (classSize · == servers)) = true ↔
      i.unknown = [] ∧ i.viewsComplete = true ∧
        ∃ members, i.classes = [members] ∧ classSize members = servers := by
    simp only [Bool.and_eq_true, beq_iff_eq, List.isEmpty_iff, Option.any_eq_true]
    constructor
    · rintro ⟨⟨⟨hone, hunknown⟩, hcomplete⟩, members, hhead, hsize⟩
      obtain ⟨only, honly⟩ := List.length_eq_one_iff.mp hone
      rw [honly, List.head?_cons, Option.some.injEq] at hhead
      exact ⟨hunknown, hcomplete, members, hhead ▸ honly, hsize⟩
    · rintro ⟨hunknown, hcomplete, members, honly, hsize⟩
      rw [honly]
      exact ⟨⟨⟨rfl, hunknown⟩, hcomplete⟩, members, rfl, hsize⟩
  rw [← hclass]
  unfold health
  rw [h]
  dsimp only
  -- Too few serving pods rule health out before the classes are looked at.
  by_cases hfew : countOf i.ready < servers
  · rw [if_pos hfew]
    have hlt := countOf_lt_iff.mp hfew
    exact iff_of_false (by simp) fun hle => by omega
  · rw [if_neg hfew]
    have hle : servers.toInt ≤ i.ready.length := Int.not_lt.mp (mt countOf_lt_iff.mpr hfew)
    split
    · rename_i hwhole
      exact iff_of_true rfl ⟨hle, hwhole⟩
    · rename_i hwhole
      refine iff_of_false (fun hhealth => ?_) fun hclass => hwhole hclass.2
      split at hhealth
      · split at hhealth
        · cases hhealth
        · cases hhealth
      · cases hhealth

/-- **A cluster is healthy exactly if it is whole.** -/
theorem health_eq_healthy_iff_whole (h : i.deployment = .cluster servers quorum)
    (htwo : 2 ≤ servers.toInt) (hself : i.views.SeesItself)
    (hnames : (i.pods.map (·.name)).Nodup) : i.health = .healthy ↔ i.Whole := by
  have hservers : i.deployment.servers = servers := by
    rw [h]
    rfl
  rw [health_eq_healthy_iff_class h, unknown_eq_nil_iff h, viewsComplete_iff, classes_of_cluster h]
  unfold Whole
  rw [hservers]
  constructor
  · rintro ⟨-, hall, hcomplete, members, honly, hsize⟩
    rw [classSize_eq_iff (by omega), Views.length_of_single honly,
      length_keys_known hnames hall] at hsize
    refine ⟨hsize, fun p hp => ?_⟩
    obtain ⟨seen, hseen⟩ := hall p hp
    exact ⟨seen, hseen, hcomplete p seen hseen⟩
  · rintro ⟨hlength, hwhole⟩
    have hall : ∀ p ∈ i.ready, ∃ seen, i.Answered p seen := fun p hp =>
      (hwhole p hp).imp fun _ hseen => hseen.1
    have hcomplete : ∀ p seen, i.Answered p seen → ∀ q ∈ i.ready, q.name ∈ seen := by
      rintro p seen ⟨hp, hview⟩
      obtain ⟨seen', ⟨-, hview'⟩, hlists⟩ := hwhole p hp
      rw [hview, Option.some.injEq] at hview'
      exact hview' ▸ hlists
    have hkeys := length_keys_known hnames hall
    -- No pod is missing from a view, so there is one class at most, and there are servers in it.
    have hfew : (equivalenceClasses i.known).length ≤ 1 := by
      rw [← classes_of_cluster h, ← Nat.not_lt, many_classes_iff_parted h hself]
      rintro ⟨p, q, seen, others, -, hp, hq, hmissing⟩
      exact hmissing (hcomplete p seen hp q hq.1)
    have hsome : equivalenceClasses i.known ≠ [] := by
      refine Views.equivalenceClasses_ne_nil fun hnil => ?_
      rw [hnil, List.length_nil] at hkeys
      omega
    obtain ⟨members, honly⟩ : ∃ members, equivalenceClasses i.known = [members] := by
      refine List.length_eq_one_iff.mp (Nat.le_antisymm hfew ?_)
      exact List.length_pos_iff.mpr hsome
    refine ⟨hlength.ge, hall, hcomplete, members, honly, ?_⟩
    rw [classSize_eq_iff (by omega), Views.length_of_single honly, hkeys, hlength]

theorem health_eq_split_iff_parted (h : i.deployment = .cluster servers quorum)
    (hself : i.views.SeesItself) :
    i.health = .split ↔ servers.toInt ≤ i.ready.length ∧ i.Parted ∧
      ∃ since, i.IsLatest since ∧ i.grace ≤ elapsed since i.now := by
  have henough : (∃ servers quorum, i.deployment = .cluster servers quorum ∧
      servers ≤ countOf i.ready) ↔ servers.toInt ≤ i.ready.length := by
    rw [← Int.not_lt, ← countOf_lt_iff, Int32.not_lt, h]
    constructor
    · rintro ⟨_, _, hsame, hle⟩
      cases hsame
      exact hle
    · exact fun hle => ⟨servers, quorum, rfl, hle⟩
  rw [health_eq_split_iff, henough, many_classes_iff_parted h hself, lasted_iff]

theorem health_of_standalone (h : i.deployment = .standalone) :
    (i.health = .healthy ↔ i.ready ≠ []) ∧ (i.health = .unformed ↔ i.ready = []) := by
  unfold health
  rw [h]
  dsimp only
  split
  · rename_i hnone
    simp [List.isEmpty_iff.mp hnone]
  · rename_i hsome
    simp [List.isEmpty_iff] at hsome
    simp [hsome]

/-- What each verdict on a cluster means. The four exclude each other and one of them always holds,
as the verdicts do, but each is stated in full so that none has to be read off the others. -/
structure Meaning (i : DetectionInput) (servers : Int32) : Prop where
  unformed : (classify i).health = .unformed ↔ (i.ready.length : Int) < servers.toInt
  healthy : (classify i).health = .healthy ↔ i.Whole
  split : (classify i).health = .split ↔ servers.toInt ≤ i.ready.length ∧ i.Parted ∧
    ∃ since, i.IsLatest since ∧ i.grace ≤ elapsed since i.now
  converging : (classify i).health = .converging ↔ servers.toInt ≤ i.ready.length ∧ ¬ i.Whole ∧
    ¬ (i.Parted ∧ ∃ since, i.IsLatest since ∧ i.grace ≤ elapsed since i.now)

/-- **What the verdicts mean**, in terms of pods and views: of a cluster, and of a single server. Of
the views it is assumed that every server lists itself, as those do that are read from answers, and
of the pods that no two have one name. -/
theorem meaning_of_health (i : DetectionInput) (hself : i.views.SeesItself)
    (hnames : (i.pods.map (·.name)).Nodup) :
    (∀ servers quorum, i.deployment = .cluster servers quorum → 2 ≤ servers → i.Meaning servers) ∧
    (i.deployment = .standalone →
      ((classify i).health = .healthy ↔ ∃ p ∈ i.pods, p.ordinal < 1 ∧ p.isServing) ∧
      ((classify i).health = .unformed ↔ ¬ ∃ p ∈ i.pods, p.ordinal < 1 ∧ p.isServing)) := by
  constructor
  case left =>
    intro servers quorum h htwo
    have htwo : 2 ≤ servers.toInt := Int32.le_iff_toInt_le.mp htwo
    have hunformed := health_eq_unformed_iff h
    have hhealthy := health_eq_healthy_iff_whole h htwo hself hnames
    have hsplit := health_eq_split_iff_parted h hself
    refine ⟨hunformed, hhealthy, hsplit, ?_⟩
    -- The fourth verdict is what the other three leave.
    rw [← hhealthy, ← Int.not_lt, ← hunformed]
    show i.health = .converging ↔ _
    rw [← Int.not_lt, ← hunformed] at hsplit
    cases hhealth : i.health <;> simp_all
  case right =>
    intro h
    have hmem : ∀ p, p ∈ i.ready ↔ p ∈ i.pods ∧ p.ordinal < 1 ∧ p.isServing := by
      intro p
      rw [mem_ready, h]
      rfl
    have hready : i.ready ≠ [] ↔ ∃ p ∈ i.pods, p.ordinal < 1 ∧ p.isServing := by
      constructor
      · intro hsome
        obtain ⟨p, hp⟩ := List.exists_mem_of_ne_nil _ hsome
        exact ⟨p, (hmem p).mp hp⟩
      · rintro ⟨p, hp⟩
        exact List.ne_nil_of_mem ((hmem p).mpr hp)
    rw [← hready, not_not]
    exact health_of_standalone h

theorem seesItself_silenced : Views.silenced.views.SeesItself :=
  Views.seesItself_agreeing.of_subset List.filter_sublist.subset

theorem not_whole_silenced : ¬ Views.silenced.Whole := by
  rintro ⟨-, hwhole⟩
  obtain ⟨seen, ⟨-, hview⟩, -⟩ := hwhole { name := podName "db" 2, ordinal := 2 } (by decide)
  have hnone : Views.silenced.views.find? (podName "db" 2) = none := by decide
  cases hnone.symm.trans hview

/-- Three servers of which the last does not answer are not healthy: they are not whole. -/
theorem meaning_of_silenced :
    Views.silenced.views.SeesItself ∧ (Views.silenced.pods.map (·.name)).Nodup ∧
      Views.silenced.deployment = .cluster 3 2 ∧ 2 ≤ (3 : Int32) ∧ Views.silenced.Meaning 3 ∧
      (classify Views.silenced).health ≠ .healthy := by
  have hnames : (Views.silenced.pods.map (·.name)).Nodup := by decide
  have hmeaning :=
    (meaning_of_health Views.silenced seesItself_silenced hnames).1 3 2 rfl (by decide)
  exact ⟨seesItself_silenced, hnames, rfl, by decide, hmeaning,
    mt hmeaning.healthy.mp not_whole_silenced⟩

end DetectionInput

end ClusterOperator
