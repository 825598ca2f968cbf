import Mathlib.Data.List.Induction
import ClusterOperator.Proofs.Configuration.Rollout
import ClusterOperator.Proofs.Pass.Application
import ClusterOperator.Proofs.Platform.Applying

/-!
# What a pod's annotation tells

A pod is annotated from the template and reads its files from the map, and the rollout goes by the
annotation alone. Map and template are stored by different requests of one application, the map
first. A pod that is started in between, or after an application that broke off in between, has the
files of one configuration and the annotation of another.

> **`told_of_unfolds`** — every pod has the files that its annotation names, or it was started when
> other files had been stored and no template since; after an application that succeeds, pods have
> the hash and the files of its manifest until something is stored again.

> **`not_truthful`** — so the annotation does not always tell the truth: if the other configuration
> is taken back before it is ever applied in full, the pod carries the hash on record, the rollout
> leaves it alone, and it goes on with files of which no record is left.

The course of things is a list of happenings (`Happening`): turns of the operator, resources that
are stored, pods that are started and go. It has to agree with a history (`Unfolds`): its turns are
those of the passes, and resources are stored in the course of applications, as `Applies` has it.
-/

set_option autoImplicit false

namespace ClusterOperator

open Pass Platform

/-! ## The site -/

/-- A pod as it was started. Its annotation comes from the template and its files from the map, and
both stay as they were at that moment. -/
structure StartedPod where
  name : String
  /-- The hash that its annotation names. -/
  hash : Option String
  /-- The files that it read. -/
  files : SortedMap String
  deriving DecidableEq

/-- What there is of a cluster. The template and the map are stored by two requests of one
application, so between the two they need not be of one configuration. -/
structure Site where
  status : Option ClusterStatus := none
  map : Option ConfigMap := none
  set : Option StatefulSet := none
  pods : List StartedPod := []

/-- Something that happens to a cluster. The operator sees only its own turns; that resources are
stored within one of them, and that pods come and go at any time, is what the others make of it. -/
inductive Happening
  /-- The operator asks and is answered. -/
  | turn (turn : Turn Call.Answer)
  /-- A resource is stored. -/
  | stored (resource : Resource)
  /-- A pod that is missing is started. -/
  | started (name : String)
  /-- A pod goes. -/
  | gone (name : String)

/-- The hash that the template of a set names. -/
def StatefulSet.hash? (set : StatefulSet) : Option String :=
  set.template.annotations.find? configHashAnnotation

namespace Site

/-- The hash on record. -/
def lastAppliedHash (s : Site) : Option String := (s.status.getD {}).configuration.lastAppliedHash

/-- The pod that is started under a name, if it is missing and there is a template and the map that
the template names. -/
def start? (s : Site) (name : String) : Option StartedPod :=
  if s.pods.any (·.name == name) then none
  else
    match s.set, s.map with
    | some set, some map =>
      if set.template.configMapName = map.metadata.name then some ⟨name, set.hash?, map.files⟩
      else none
    | _, _ => none

/-- The site after a resource was stored. -/
def store (s : Site) : Resource → Site
  | .configMap map => { s with map := some map }
  | .service _ => s
  | .statefulSet set => { s with set := some set }

/-- The site after something has happened. -/
def after (s : Site) : Happening → Site
  | .turn turn => { s with status := turn.statusAfter s.status }
  | .stored resource => s.store resource
  | .started name => { s with pods := s.pods ++ (s.start? name).toList }
  | .gone name => { s with pods := s.pods.filter (·.name != name) }

/-- The site of a new cluster, after all that has happened to it. -/
def of (past : List Happening) : Site := past.foldl after {}

/-- That every pod with the hash on record has files of that hash. -/
def Truthful (s : Site) : Prop :=
  ∀ pod ∈ s.pods, ∀ hash, s.lastAppliedHash = some hash → pod.hash = some hash →
    configHash pod.files = hash

end Site

namespace Happening

/-- That something happens by itself. -/
def IsNatural : Happening → Prop
  | started _ | gone _ => True
  | turn _ | stored _ => False

/-- That something leaves the map and the template as they are. -/
def KeepsFiles : Happening → Prop
  | stored (.configMap _) | stored (.statefulSet _) => False
  | _ => True

def stored? : Happening → Option Resource
  | stored resource => some resource
  | _ => none

/-- The operator's turn. -/
def turn? : Happening → Option (Turn Call.Answer)
  | turn t => some t
  | _ => none

end Happening

/-- That happenings agree with a trace. Each turn of the trace is there once and in its place; what
happens by itself may stand anywhere, also between the resources of one application. -/
inductive Unfolds : Trace → List Happening → Prop
  | nil : Unfolds [] []
  | natural {trace : Trace} {happening : Happening} {rest : List Happening}
    (hnatural : happening.IsNatural) (hrest : Unfolds trace rest) :
    Unfolds trace (happening :: rest)
  | turn {turn : Turn Call.Answer} {trace : Trace} {rest : List Happening}
    (hturn : turn.question.applied? = none) (hrest : Unfolds trace rest) :
    Unfolds (turn :: trace) (.turn turn :: rest)
  /-- Resources are stored before the application ends, as it asks for them. -/
  | application {cluster : Cluster} {manifest : Manifest} {result : Except Failure Unit}
    {millis : Nat} {during rest : List Happening} {trace : Trace}
    (happlies : Applies millis (namespaceOf cluster) (manifestResources cluster manifest) result
      (during.filterMap (·.stored?)))
    (hduring : ∀ happening ∈ during, happening.turn? = none) (hrest : Unfolds trace rest) :
    Unfolds (⟨.applyManifest cluster manifest, result⟩ :: trace)
      (during ++ .turn ⟨.applyManifest cluster manifest, result⟩ :: rest)

/-! ## What is stored -/

section
variable {past lately : List Happening} {happening : Happening} {cluster : Cluster}
  {manifest : Manifest}

namespace Site

theorem of_concat (past : List Happening) (happening : Happening) :
    of (past ++ [happening]) = (of past).after happening := by
  unfold of
  rw [List.foldl_append]
  rfl

theorem after_of_keepsFiles (s : Site) (h : happening.KeepsFiles) :
    (s.after happening).map = s.map ∧ (s.after happening).set = s.set := by
  cases happening with
  | turn | started | gone => exact ⟨rfl, rfl⟩
  | stored resource =>
    cases resource with
    | service => exact ⟨rfl, rfl⟩
    | configMap | statefulSet => exact h.elim

theorem of_append_of_keepsFiles (h : ∀ happening ∈ lately, happening.KeepsFiles) :
    (of (past ++ lately)).map = (of past).map ∧ (of (past ++ lately)).set = (of past).set := by
  induction lately using List.reverseRecOn with
  | nil => simp
  | append_singleton lately happening ih =>
    obtain ⟨hlately, hlast⟩ := List.forall_mem_append.mp h
    obtain ⟨hmap, hset⟩ := ih hlately
    obtain ⟨hmap', hset'⟩ := after_of_keepsFiles (of (past ++ lately)) (hlast _ List.mem_cons_self)
    rw [← List.append_assoc, of_concat]
    exact ⟨hmap'.trans hmap, hset'.trans hset⟩

/-- Map and template are what has been stored. -/
theorem foldl_after {s t : Site} (hmap : s.map = t.map) (hset : s.set = t.set)
    (lately : List Happening) :
    (lately.foldl after s).map = ((lately.filterMap (·.stored?)).foldl store t).map ∧
      (lately.foldl after s).set = ((lately.filterMap (·.stored?)).foldl store t).set := by
  induction lately generalizing s t with
  | nil => exact ⟨hmap, hset⟩
  | cons happening lately ih =>
    cases happening with
    | turn | started | gone => exact ih hmap hset
    | stored resource =>
      cases resource with
      | configMap map => exact ih rfl hset
      | service => exact ih hmap hset
      | statefulSet set => exact ih hmap rfl

theorem of_append_of_stored {resources : List Resource}
    (h : lately.filterMap (·.stored?) = resources) :
    (of (past ++ lately)).map = (resources.foldl store (of past)).map ∧
      (of (past ++ lately)).set = (resources.foldl store (of past)).set := by
  unfold of
  rw [List.foldl_append, ← h]
  exact foldl_after rfl rfl lately

end Site

theorem hash?_statefulSet (cluster : Cluster) (manifest : Manifest) :
    (cluster.statefulSet manifest).hash? = some manifest.configHash :=
  SortedMap.find?_eq_some_iff.mpr (SortedMap.mem_insertEntry_self _ _ _)

/-- What is stored in the course of an application: the map first, and the template after it. -/
theorem stored_cases {stored : List Resource} {resource : Resource}
    (h : stored ++ [resource] <+: manifestResources cluster manifest) :
    resource = .configMap (cluster.configMap manifest) ∨
      (∃ service, resource = .service service) ∨
      (resource = .statefulSet (cluster.statefulSet manifest) ∧
        stored = [.configMap (cluster.configMap manifest), .service cluster.headlessService,
          .service cluster.clientService]) := by
  obtain ⟨rest, heq⟩ := h
  match stored with
  | [] =>
    cases heq
    exact .inl rfl
  | [_] | [_, _] =>
    cases heq
    exact .inr (.inl ⟨_, rfl⟩)
  | [_, _, _] =>
    cases heq
    exact .inr (.inr ⟨rfl, rfl⟩)
  | _ :: _ :: _ :: _ :: stored =>
    have hlength := congrArg List.length heq
    simp [manifestResources] at hlength

/-! ## Torn configurations -/

/-- That files of another hash have been stored, and neither a map nor a template since. Only an
application that breaks off between the two leaves this behind for long, but every application
passes through it. -/
def Torn (past : List Happening) (hash : String) : Prop :=
  ∃ before map after, past = before ++ .stored (.configMap map) :: after ∧
    configHash map.files ≠ hash ∧ ∀ happening ∈ after, happening.KeepsFiles

/-- That the map has the files which the template names, unless it is torn from the template. The
template is not asked to be there: before the first application there is nothing to match. -/
def Matched (past : List Happening) : Prop :=
  ∀ set, (Site.of past).set = some set → ∃ hash, set.hash? = some hash ∧
    ((∃ map, (Site.of past).map = some map ∧ configHash map.files = hash) ∨ Torn past hash)

theorem Torn.concat {hash : String} (h : Torn past hash) (hkeeps : happening.KeepsFiles) :
    Torn (past ++ [happening]) hash := by
  obtain ⟨before, map, after, rfl, hne, hafter⟩ := h
  refine ⟨before, map, after ++ [happening], by simp, hne, ?_⟩
  exact List.forall_mem_append.mpr ⟨hafter, List.forall_mem_singleton.mpr hkeeps⟩

theorem matched_nil : Matched [] := nofun

theorem Matched.concat (h : Matched past) (hkeeps : happening.KeepsFiles) :
    Matched (past ++ [happening]) := by
  intro set hsome
  obtain ⟨hmap, hset⟩ := Site.after_of_keepsFiles (Site.of past) hkeeps
  rw [Site.of_concat, hset] at hsome
  obtain ⟨hash, hhash, hmatched | htorn⟩ := h set hsome
  · rw [Site.of_concat, hmap]
    exact ⟨hash, hhash, .inl hmatched⟩
  · exact ⟨hash, hhash, .inr (htorn.concat hkeeps)⟩

theorem Matched.configMap (h : Matched past) (map : ConfigMap) :
    Matched (past ++ [.stored (.configMap map)]) := by
  intro set hsome
  rw [Site.of_concat] at hsome
  obtain ⟨hash, hhash, -⟩ := h set hsome
  refine ⟨hash, hhash, ?_⟩
  by_cases hsame : configHash map.files = hash
  · left
    rw [Site.of_concat]
    exact ⟨map, rfl, hsame⟩
  · exact .inr ⟨past, map, [], rfl, hsame, List.forall_mem_nil _⟩

/-- A template matches the map of its manifest. -/
theorem matched_statefulSet (hmap : (Site.of past).map = some (cluster.configMap manifest))
    (hhonest : configHash manifest.files = manifest.configHash) :
    Matched (past ++ [.stored (.statefulSet (cluster.statefulSet manifest))]) := by
  intro set hsome
  rw [Site.of_concat] at hsome ⊢
  cases hsome
  exact ⟨_, hash?_statefulSet cluster manifest, .inl ⟨_, hmap, hhonest⟩⟩

/-- **Map and template stay matched in the course of an application.** -/
theorem Matched.during {during : List Happening} (h : Matched past)
    (hhonest : configHash manifest.files = manifest.configHash)
    (hduring : ∀ happening ∈ during, happening.turn? = none)
    (hstored : during.filterMap (·.stored?) <+: manifestResources cluster manifest) :
    Matched (past ++ during) := by
  induction during using List.reverseRecOn with
  | nil =>
    rw [List.append_nil]
    exact h
  | append_singleton during happening ih =>
    obtain ⟨hearlier, hlast⟩ := List.forall_mem_append.mp hduring
    rw [List.filterMap_append] at hstored
    have hbefore := ih hearlier ((List.prefix_append _ _).trans hstored)
    rw [← List.append_assoc]
    cases happening with
    | turn => cases hlast _ List.mem_cons_self
    | started | gone => exact hbefore.concat trivial
    | stored resource =>
      rcases stored_cases hstored with rfl | ⟨service, rfl⟩ | ⟨rfl, hfirst⟩
      · exact hbefore.configMap _
      · exact hbefore.concat trivial
      · -- The map of the same application was stored before, and no other since.
        have hmap : (Site.of (past ++ during)).map = some (cluster.configMap manifest) :=
          (Site.of_append_of_stored hfirst).1
        exact matched_statefulSet hmap hhonest

end

/-! ## Histories -/

/-- That the manifests of a trace carry the hash of their files. -/
def Honest (trace : Trace) : Prop :=
  ∀ turn ∈ trace, ∀ cluster manifest, turn.question.applied? = some (cluster, manifest) →
    configHash manifest.files = manifest.configHash

/-- What is matched now and after the next happening, whatever follows it. -/
theorem matched_of_prefix_cons {earlier past rest : List Happening} {happening : Happening}
    (hearlier : Matched earlier)
    (hrest : ∀ later, later <+: rest → Matched (earlier ++ [happening] ++ later))
    (hpast : past <+: happening :: rest) : Matched (earlier ++ past) := by
  rcases List.prefix_cons_iff.mp hpast with rfl | ⟨later, rfl, hlater⟩
  · rw [List.append_nil]
    exact hearlier
  · rw [List.append_cons]
    exact hrest later hlater

namespace Unfolds

variable {trace : Trace} {earlier past happenings : List Happening}

/-- **Map and template are matched or torn at every time.** -/
theorem matched (h : Unfolds trace happenings) (hhonest : Honest trace) (hearlier : Matched earlier)
    (hpast : past <+: happenings) : Matched (earlier ++ past) := by
  induction h generalizing earlier past with
  | nil =>
    rw [List.prefix_nil.mp hpast, List.append_nil]
    exact hearlier
  | @natural trace happening rest hnatural hrest ih =>
    have hkeeps : happening.KeepsFiles := by
      cases happening with
      | started | gone => trivial
      | turn | stored => exact hnatural.elim
    refine matched_of_prefix_cons hearlier (fun later hlater => ?_) hpast
    exact ih hhonest (hearlier.concat hkeeps) hlater
  | turn hturn hrest ih =>
    have hlaterhonest := (List.forall_mem_cons.mp hhonest).2
    refine matched_of_prefix_cons hearlier (fun later hlater => ?_) hpast
    exact ih hlaterhonest (hearlier.concat trivial) hlater
  -- The one case in which map and template change. A time within the application is one of its
  -- stages; a later one comes after all of them.
  | @application cluster manifest result millis during rest trace happlies hduring hrest ih =>
    obtain ⟨hfirsthonest, hlaterhonest⟩ := List.forall_mem_cons.mp hhonest
    have hfiles : configHash manifest.files = manifest.configHash :=
      hfirsthonest cluster manifest rfl
    have hprefix : during.filterMap (·.stored?) <+: manifestResources cluster manifest :=
      happlies.stored_prefix.1
    rcases prefix_append_cases hpast with hfirst | ⟨later, hlater, rfl⟩
    · have hfirstprefix := (hfirst.filterMap (·.stored?)).trans hprefix
      exact hearlier.during hfiles (fun e he => hduring e (hfirst.mem he)) hfirstprefix
    · have hthen := hearlier.during hfiles hduring hprefix
      rw [← List.append_assoc]
      refine matched_of_prefix_cons hthen (fun last hlast => ?_) hlater
      exact ih hlaterhonest (hthen.concat trivial) hlast

theorem mem_of_turn {turn : Turn Call.Answer} (h : Unfolds trace happenings)
    (hturn : .turn turn ∈ happenings) : turn ∈ trace := by
  induction h with
  | nil => cases hturn
  | natural hnatural hrest ih =>
    rcases List.mem_cons.mp hturn with rfl | hlater
    · exact hnatural.elim
    · exact ih hlater
  | turn hnot hrest ih =>
    rcases List.mem_cons.mp hturn with heq | hlater
    · cases heq
      exact List.mem_cons_self
    · exact List.mem_cons_of_mem _ (ih hlater)
  | application happlies hduring hrest ih =>
    rcases List.mem_append.mp hturn with hmem | hmem
    · cases hduring _ hmem
    · rcases List.mem_cons.mp hmem with heq | hlater
      · cases heq
        exact List.mem_cons_self
      · exact List.mem_cons_of_mem _ (ih hlater)

/-- What has happened when an application ends. -/
theorem exists_during {cluster : Cluster} {manifest : Manifest} {result : Except Failure Unit}
    {later : List Happening} (h : Unfolds trace happenings)
    (heq : happenings = past ++ .turn ⟨.applyManifest cluster manifest, result⟩ :: later) :
    ∃ before during millis, past = before ++ during ∧
      Applies millis (namespaceOf cluster) (manifestResources cluster manifest) result
        (during.filterMap (·.stored?)) := by
  induction h generalizing past with
  | nil => simp at heq
  | natural hnatural hrest ih =>
    rcases List.cons_eq_append_iff.mp heq with ⟨rfl, hfirst⟩ | ⟨past, rfl, hlast⟩
    · cases hfirst
      exact hnatural.elim
    · obtain ⟨before, during, millis, rfl, happlies⟩ := ih hlast
      exact ⟨_ :: before, during, millis, rfl, happlies⟩
  | turn hturn hrest ih =>
    rcases List.cons_eq_append_iff.mp heq with ⟨rfl, hfirst⟩ | ⟨past, rfl, hlast⟩
    · cases hfirst
      cases hturn
    · obtain ⟨before, during, millis, rfl, happlies⟩ := ih hlast
      exact ⟨_ :: before, during, millis, rfl, happlies⟩
  | @application _ _ _ millis during rest trace happlies hduring hrest ih =>
    rcases List.append_eq_append_iff.mp heq with ⟨between, rfl, hlast⟩ | ⟨between, rfl, hlast⟩
    · rcases List.cons_eq_append_iff.mp hlast with ⟨rfl, hfirst⟩ | ⟨past, rfl, hnext⟩
      · cases hfirst
        exact ⟨[], during, millis, by simp, happlies⟩
      · obtain ⟨before, during', millis', rfl, happlies'⟩ := ih hnext
        exact ⟨_, during', millis', (List.append_assoc during (_ :: before) during').symm,
          happlies'⟩
    · -- Nothing is asked while an application is under way.
      rcases List.cons_eq_append_iff.mp hlast with ⟨rfl, hfirst⟩ | ⟨rest, rfl, -⟩
      · cases hfirst
        exact ⟨[], past, millis, rfl, by simpa using happlies⟩
      · cases hduring _ (List.mem_append_right _ List.mem_cons_self)

/-- **An application that succeeds has stored its map and its template last.** -/
theorem applied {cluster : Cluster} {manifest : Manifest} {later : List Happening}
    (h : Unfolds trace happenings)
    (heq : happenings = past ++ .turn ⟨.applyManifest cluster manifest, .ok ()⟩ :: later) :
    (Site.of past).map = some (cluster.configMap manifest) ∧
      (Site.of past).set = some (cluster.statefulSet manifest) := by
  obtain ⟨before, during, millis, rfl, happlies⟩ := h.exists_during heq
  exact Site.of_append_of_stored (happlies.stored_prefix.2 rfl)

end Unfolds

/-! ## Pods -/

section
variable {past happenings : List Happening} {happening : Happening} {pod : StartedPod}
  {name hash : String}

/-- That a pod was started when files of another hash than a given one had been stored and no
template since, and that it has not gone. -/
def StartedTorn (past : List Happening) (pod : StartedPod) (hash : String) : Prop :=
  ∃ early later, past = early ++ .started pod.name :: later ∧
    (Site.of early).start? pod.name = some pod ∧ Torn early hash ∧ .gone pod.name ∉ later

/-- That a pod has the files which its annotation names, or was started torn from them. -/
def Told (past : List Happening) (pod : StartedPod) : Prop :=
  ∃ hash, pod.hash = some hash ∧ (configHash pod.files = hash ∨ StartedTorn past pod hash)

theorem Told.concat (h : Told past pod) (hstays : happening ≠ .gone pod.name) :
    Told (past ++ [happening]) pod := by
  obtain ⟨hash, hhash, htrue | ⟨early, later, rfl, hstart, htorn, hlater⟩⟩ := h
  · exact ⟨hash, hhash, .inl htrue⟩
  · refine ⟨hash, hhash, .inr ⟨early, later ++ [happening], by simp, hstart, htorn, ?_⟩⟩
    rw [List.mem_append, List.mem_singleton, not_or]
    exact ⟨hlater, hstays.symm⟩

theorem start?_eq_some {s : Site} (h : s.start? name = some pod) : ∃ set map,
    s.set = some set ∧ s.map = some map ∧ pod = ⟨name, set.hash?, map.files⟩ := by
  unfold Site.start? at h
  split at h
  · cases h
  split at h
  · rename_i set map hset hmap
    split at h
    · exact ⟨set, map, hset, hmap, (Option.some.inj h).symm⟩
    · cases h
  · cases h

theorem start?_of_missing {s : Site} {set : StatefulSet} {map : ConfigMap}
    (hmissing : s.pods.any (·.name == name) = false) (hset : s.set = some set)
    (hmap : s.map = some map) (hnamed : set.template.configMapName = map.metadata.name) :
    s.start? name = some ⟨name, set.hash?, map.files⟩ := by
  unfold Site.start?
  rw [hmissing, hset, hmap]
  exact if_pos hnamed

theorem Site.after_started {s : Site} (h : s.start? name = some pod) :
    s.after (.started name) = { s with pods := s.pods ++ [pod] } := by
  show ({ s with pods := s.pods ++ (s.start? name).toList } : Site) = _
  rw [h]
  rfl

/-- What is started from a template and a map that are matched or torn. -/
theorem Matched.told (h : Matched past) (hstart : (Site.of past).start? name = some pod) :
    Told (past ++ [.started name]) pod := by
  obtain ⟨set, map, hset, hmap, rfl⟩ := start?_eq_some hstart
  obtain ⟨hash, hhash, ⟨other, hother, hfiles⟩ | htorn⟩ := h set hset
  · rw [hmap, Option.some.injEq] at hother
    exact ⟨hash, hhash, .inl (hother ▸ hfiles)⟩
  · exact ⟨hash, hhash, .inr ⟨past, [], rfl, hstart, htorn, List.not_mem_nil⟩⟩

/-- Pods have the files that their annotations name, but for when they were started. -/
theorem told_of_matched (hmatched : ∀ past, past <+: happenings → Matched past)
    (hpast : past <+: happenings) : ∀ pod ∈ (Site.of past).pods, Told past pod := by
  induction past using List.reverseRecOn with
  | nil => exact fun pod hpod => absurd hpod List.not_mem_nil
  | append_singleton past happening ih =>
    have hbefore : past <+: happenings := (List.prefix_append _ _).trans hpast
    rw [Site.of_concat]
    match happening with
    | .turn _ | .stored (.configMap _) | .stored (.service _) | .stored (.statefulSet _) =>
      exact fun pod hpod => (ih hbefore pod hpod).concat nofun
    | .gone name =>
      intro pod hpod
      obtain ⟨hold, hother⟩ := List.mem_filter.mp hpod
      refine (ih hbefore pod hold).concat ?_
      rintro ⟨⟩
      simp at hother
    | .started name =>
      intro pod hpod
      rcases List.mem_append.mp hpod with hold | hnew
      · exact (ih hbefore pod hold).concat nofun
      · exact (hmatched past hbefore).told (Option.mem_toList.mp hnew)

end

/-- What annotations tell in the course of some happenings. The two clauses are the two sides of one
order of storing: the map is first, so a pod may be ahead of its annotation, and the template is
last, so after a whole application it is not. -/
structure Annotated (happenings : List Happening) : Prop where
  /-- At every time every pod has the files that its annotation names, or it was started torn from
  them. -/
  told : ∀ past, past <+: happenings → ∀ pod ∈ (Site.of past).pods, Told past pod
  /-- After an application that succeeds, as long as neither a map nor a template is stored, pods
  are started with the hash and the files of its manifest. -/
  whole : ∀ past cluster manifest later, (∀ happening ∈ later, happening.KeepsFiles) →
    past ++ .turn ⟨.applyManifest cluster manifest, .ok ()⟩ :: later <+: happenings →
    ∀ name pod, (Site.of (past ++ .turn ⟨.applyManifest cluster manifest, .ok ()⟩ :: later)).start?
        name = some pod →
      pod.hash = some manifest.configHash ∧ pod.files = manifest.files ∧
        configHash manifest.files = manifest.configHash

namespace History

variable {ref : ClusterRef}

theorem honest_pass (h : History ref) (k : Nat) : Honest (h.pass k).trace := by
  rintro ⟨question, answer⟩ hturn cluster manifest happlied
  cases question with
  | applyManifest =>
    cases happlied
    by_cases hfinds : ∃ s, h.Finds k s
    · obtain ⟨s, hs⟩ := hfinds
      rw [(hs.works.applied _ _ _ hturn).2]
      rfl
    · have hnone : ∀ s, ¬ h.Finds k s := fun s hs => hfinds ⟨s, hs⟩
      have hquiet := quiet_of_not_finds (h.pass k).runs (h.reads k) hnone
      exact (hquiet.servers _ hturn).elim
  | _ => cases happlied

theorem honest_happened (h : History ref) (n : Nat) : Honest (h.happened n) := by
  induction n with
  | zero => exact List.forall_mem_nil _
  | succ n ih => exact List.forall_mem_append.mpr ⟨ih, h.honest_pass n⟩

/-- **Annotations tell the files of pods that were not started torn.** Map and template are stored
one after the other, so between the two they belong to different manifests; the invariant is that
they match or are torn in just this way. -/
theorem told_of_unfolds (h : History ref) {n : Nat} {happenings : List Happening}
    (hunfolds : Unfolds (h.happened n) happenings) : Annotated happenings where
  told past hpast := by
    refine told_of_matched (fun earlier hearlier => ?_) hpast
    rw [← List.nil_append earlier]
    exact hunfolds.matched (h.honest_happened n) matched_nil hearlier
  whole past cluster manifest later hlater hpast name pod hstart := by
    have happlied : ⟨.applyManifest cluster manifest, .ok ()⟩ ∈ h.happened n :=
      hunfolds.mem_of_turn (hpast.mem (List.mem_append_right _ List.mem_cons_self))
    have hkeeps : ∀ happening ∈ .turn ⟨.applyManifest cluster manifest, .ok ()⟩ :: later,
        happening.KeepsFiles := List.forall_mem_cons.mpr ⟨trivial, hlater⟩
    obtain ⟨hkeptmap, hkeptset⟩ := Site.of_append_of_keepsFiles hkeeps
    obtain ⟨set, map, hset, hmap, rfl⟩ := start?_eq_some hstart
    obtain ⟨rest, heq⟩ := hpast
    rw [List.append_assoc, List.cons_append] at heq
    obtain ⟨hfiles, htemplate⟩ := hunfolds.applied heq.symm
    rw [hkeptset, htemplate, Option.some.injEq] at hset
    rw [hkeptmap, hfiles, Option.some.injEq] at hmap
    rw [← hset, ← hmap]
    exact ⟨hash?_statefulSet cluster manifest, rfl,
      h.honest_happened n _ happlied cluster manifest rfl⟩

end History

/-! ## Passes in happenings -/

/-- What happens in a pass that stores some resources and ends their application with a turn, while
nothing happens by itself. -/
def passing (before : Trace) (resources : List Resource) (turn : Turn Call.Answer) (after : Trace) :
    List Happening :=
  before.map .turn ++ (resources.map .stored ++ .turn turn :: after.map .turn)

namespace Site

variable {s : Site} {trace before after : Trace} {resources : List Resource}
  {turn : Turn Call.Answer}

theorem foldl_after_turns :
    (trace.map .turn).foldl Site.after s = { s with status := storedAfter s.status trace } := by
  induction trace generalizing s with
  | nil => rfl
  | cons turn rest ih => exact ih

theorem foldl_store (status : Option ClusterStatus) :
    resources.foldl store { s with status } = { resources.foldl store s with status } := by
  induction resources generalizing s with
  | nil => rfl
  | cons resource rest ih =>
    have hfirst : store { s with status } resource = { s.store resource with status } := by
      cases resource <;> rfl
    rw [List.foldl_cons, List.foldl_cons, hfirst, ih]

theorem foldl_after_passing : (passing before resources turn after).foldl Site.after s =
    { resources.foldl store s with status := storedAfter s.status (before ++ turn :: after) } := by
  have hstored : ∀ t : Site, (resources.map .stored).foldl Site.after t = resources.foldl store t :=
    fun t => List.foldl_map
  unfold passing
  rw [List.foldl_append, List.foldl_append, foldl_after_turns, hstored, foldl_store,
    ← List.map_cons, foldl_after_turns, storedAfter_append]

end Site

section
variable {ref : ClusterRef} {s : Situation} {before after trace trace' : Trace}
  {happenings happenings' : List Happening} {cluster : Cluster} {manifest : Manifest}

theorem unfolds_of_none (h : ∀ turn ∈ trace, turn.question.applied? = none) :
    Unfolds trace (trace.map .turn) := by
  induction trace with
  | nil => exact .nil
  | cons turn rest ih =>
    obtain ⟨hturn, hrest⟩ := List.forall_mem_cons.mp h
    exact .turn hturn (ih hrest)

theorem Unfolds.append (h : Unfolds trace happenings) (h' : Unfolds trace' happenings') :
    Unfolds (trace ++ trace') (happenings ++ happenings') := by
  induction h with
  | nil => exact h'
  | natural hnatural hrest ih => exact .natural hnatural ih
  | turn hturn hrest ih => exact .turn hturn ih
  | application happlies hduring hrest ih =>
    rw [List.append_assoc]
    exact .application happlies hduring ih

theorem unfolds_passing {millis : Nat} {result : Except Failure Unit} {resources : List Resource}
    (happlies : Applies millis (namespaceOf cluster) (manifestResources cluster manifest) result
      resources)
    (hbefore : ∀ turn ∈ before, turn.question.applied? = none)
    (hafter : ∀ turn ∈ after, turn.question.applied? = none) :
    Unfolds (before ++ ⟨.applyManifest cluster manifest, result⟩ :: after)
      (passing before resources ⟨.applyManifest cluster manifest, result⟩ after) := by
  have hstored : (resources.map Happening.stored).filterMap (·.stored?) = resources := by
    rw [List.filterMap_map]
    exact List.filterMap_some
  have hduring : ∀ happening ∈ resources.map Happening.stored, happening.turn? = none :=
    List.forall_mem_map.mpr fun _ _ => rfl
  rw [← hstored] at happlies
  exact (unfolds_of_none hbefore).append (.application happlies hduring (unfolds_of_none hafter))

/-- A pass may go without a failure, and then everything is stored. -/
theorem exists_pass_whole (hs : s.Attainable ref) (hname : s.cluster.name.isEmpty = false)
    (hpermits : s.permitsApply = true) :
    ∃ (pass : PassRun ref) (happenings : List Happening),
      pass.CarriesOut s (some s.nextStatus) ∧ Unfolds pass.trace happenings ∧
      ∀ site : Site, site.status = s.cluster.status → happenings.foldl Site.after site =
        ⟨some s.nextStatus, some (s.cluster.configMap s.manifest),
          some (s.cluster.statefulSet s.manifest), site.pods⟩ := by
  obtain ⟨pass, seen, done, written, counted, hcarries, hparts, -⟩ := exists_pass_storing hs
  obtain ⟨before, after, htrace, hbefore, hafter⟩ := hparts.exists_around hpermits
  have happlies : Applies 10000 (namespaceOf s.cluster) (manifestResources s.cluster s.manifest)
      (.ok ()) (manifestResources s.cluster s.manifest) :=
    applies_stored (named_of_mem_manifestResources hname)
  refine ⟨pass, _, hcarries, htrace ▸ unfolds_passing happlies hbefore hafter,
    fun site hstatus => ?_⟩
  rw [Site.foldl_after_passing, ← htrace, hstatus, hcarries.stored]
  rfl

/-- An application may break off when the map has been stored. -/
theorem exists_pass_torn (hs : s.Attainable ref) (hname : s.cluster.name.isEmpty = false)
    (hpermits : s.permitsApply = true) :
    ∃ (pass : PassRun ref) (happenings : List Happening),
      ReadsStored s.cluster.status pass.trace ∧
      storedAfter s.cluster.status pass.trace = s.cluster.status ∧
      Unfolds pass.trace happenings ∧
      ∀ site : Site, site.status = s.cluster.status → happenings.foldl Site.after site =
        { site with map := some (s.cluster.configMap s.manifest) } := by
  let failure : Failure := .timeout ("apply " ++ s.cluster.headlessServiceName) 10000
  have hnamed : ∀ resource ∈ manifestResources s.cluster s.manifest,
      resource.metadata.name.isEmpty = false := named_of_mem_manifestResources hname
  have happlies : Applies 10000 (namespaceOf s.cluster) (manifestResources s.cluster s.manifest)
      (.error failure) [.configMap (s.cluster.configMap s.manifest)] :=
    .stored (exists_run_stored (hnamed _ (.head _)))
      (.refused (exists_run_silent (hnamed _ (.tail _ (.head _)))))
  obtain ⟨pass, before, after, htrace, hbefore, hafter, hreads, hstored⟩ :=
    exists_pass_breaking hs hpermits failure
  refine ⟨pass, _, hreads, hstored, htrace ▸ unfolds_passing happlies hbefore hafter,
    fun site hstatus => ?_⟩
  rw [Site.foldl_after_passing, ← htrace, hstatus, hstored, ← hstatus]
  rfl

end

/-! ## A setting is taken back -/

/-- The edited setting is applied without delay. -/
def hasty : Situation := { edited with settings := { configDebounce := 0 } }

/-- The setting is taken back, and the server has been started by then. -/
def reverted : Situation := caughtUp (some installed.nextStatus)

theorem attainable_hasty : hasty.Attainable ⟨"data", "db"⟩ :=
  ⟨attainable_edited.ref_eq, attainable_edited.workable, attainable_edited.auth,
    attainable_edited.single, attainable_edited.views, attainable_edited.hosted⟩

theorem permits_hasty : hasty.permitsApply = true := by
  have hlast : hasty.status.configuration.lastAppliedHash = some installed.derived.hash :=
    applied_installed
  have hsince : hasty.status.configuration.waitingSince? hasty.derived.hash = none := by rfl
  have hne : installed.derived.hash ≠ hasty.derived.hash := derived_edited.symm
  have heq := ConfigurationRecord.evaluate_changed hasty.now hasty.tunables.configDebounce hlast hne
    hsince
  unfold Situation.permitsApply Situation.drift Situation.evaluated
  rw [heq, if_pos (by decide)]
  rfl

theorem permits_reverted : reverted.permitsApply = true := permits_caughtUp applied_installed

/-- The hash of the pod is the one that is looked for. -/
theorem condemned_reverted : reverted.condemned .rollout = [] := by
  have hcarries : ∀ p ∈ reverted.pods, p.configHash = some installed.derived.hash :=
    List.forall_mem_singleton.mpr rfl
  unfold Situation.condemned
  rw [Situation.rollout?_eq permits_reverted (by decide) (by decide),
    show reverted.manifest.configHash = _ from configHash_caughtUp,
    nextConfigRestart_eq_none hcarries]
  rfl

namespace History

/-- The server is started after an application that broke off. The setting is taken back, and the
rollout leaves the server as it is. -/
theorem exists_history_reverted : ∃ (h : History ⟨"data", "db"⟩) (happenings : List Happening),
    h.start = none ∧ Unfolds (h.happened 3) happenings ∧
      h.Finds 2 reverted ∧ reverted.condemned .rollout = [] ∧
      (Site.of happenings).lastAppliedHash = some installed.derived.hash ∧
      (Site.of happenings).pods =
        [⟨"db-0", some installed.derived.hash, edited.derived.files⟩] := by
  obtain ⟨first, happenings, hfirst, hunfolds, hsite⟩ :=
    exists_pass_whole (attainable_soloAt valid_install) rfl (s := installed) rfl
  obtain ⟨second, happenings', hreads, hstored, hunfolds', hsite'⟩ :=
    exists_pass_torn attainable_hasty rfl permits_hasty
  obtain ⟨third, happenings'', hthird, hunfolds'', hsite''⟩ :=
    exists_pass_whole (attainable_caughtUp rfl) rfl permits_reverted
  have hchained : Chained none [first, second, third] := by
    refine ⟨hfirst.reads, ?_, ?_, trivial⟩
    · rw [show storedAfter none first.trace = _ from hfirst.stored]
      exact hreads
    · rw [show storedAfter none first.trace = _ from hfirst.stored,
        show storedAfter (some installed.nextStatus) second.trace = _ from hstored]
      exact hthird.reads
  have hall : Unfolds ([] ++ first.trace ++ second.trace ++ third.trace)
      (happenings ++ happenings' ++ .started "db-0" :: happenings'') :=
    (hunfolds.append hunfolds').append (.natural trivial hunfolds'')
  -- The new files are stored under the old template. What is started now carries the old hash and
  -- reads the new files.
  let torn : Site := ⟨some installed.nextStatus, some (hasty.cluster.configMap hasty.manifest),
    some (installed.cluster.statefulSet installed.manifest), []⟩
  have htorn : Site.of (happenings ++ happenings') = torn := by
    unfold Site.of
    rw [List.foldl_append, hsite {} rfl]
    exact hsite' _ rfl
  have hstart : torn.start? "db-0" =
      some ⟨"db-0", some installed.derived.hash, edited.derived.files⟩ := by
    rw [start?_of_missing rfl rfl rfl rfl, hash?_statefulSet]
    rfl
  have hof : Site.of (happenings ++ happenings' ++ .started "db-0" :: happenings'') =
      ⟨some reverted.nextStatus, some (reverted.cluster.configMap reverted.manifest),
        some (reverted.cluster.statefulSet reverted.manifest),
        [⟨"db-0", some installed.derived.hash, edited.derived.files⟩]⟩ := by
    unfold Site.of at htorn ⊢
    rw [List.foldl_append, List.foldl_cons, htorn, Site.after_started hstart]
    exact hsite'' _ rfl
  refine ⟨.ofChained hchained, _, rfl, hall, hthird.finds, condemned_reverted, ?_, ?_⟩
  · rw [hof]
    show reverted.nextStatus.configuration.lastAppliedHash = _
    exact applied_caughtUp applied_installed
  · rw [hof]

/-- The same history, as far as annotations tell its files. -/
theorem told_of_unfolds_reverted : ∃ (h : History ⟨"data", "db"⟩) (happenings : List Happening),
    Unfolds (h.happened 3) happenings ∧
      ⟨"db-0", some installed.derived.hash, edited.derived.files⟩ ∈ (Site.of happenings).pods ∧
      Annotated happenings := by
  obtain ⟨h, happenings, -, hunfolds, -, -, -, hpods⟩ := exists_history_reverted
  refine ⟨h, happenings, hunfolds, ?_, told_of_unfolds h hunfolds⟩
  rw [hpods]
  exact List.mem_cons_self

/-- **The annotation with the hash on record may be that of other files.** An application breaks off
when only the map was stored, a pod is started from the new map and the old template, and then the
setting is reverted: the pod has the hash on record, and the files of the setting. -/
theorem not_truthful : ¬ ∀ (h : History ⟨"data", "db"⟩), h.start = none →
    ∀ n happenings, Unfolds (h.happened n) happenings →
      ∀ past, past <+: happenings → (Site.of past).Truthful := by
  intro hall
  obtain ⟨h, happenings, hfresh, hunfolds, -, -, hlast, hpods⟩ := exists_history_reverted
  refine derived_edited (hall h hfresh 3 happenings hunfolds happenings List.prefix_rfl
    ⟨"db-0", some installed.derived.hash, edited.derived.files⟩ ?_ _ hlast rfl)
  rw [hpods]
  exact List.mem_cons_self

end History

end ClusterOperator
