import Mathlib.Data.List.TFAE
import ClusterOperator.Proofs.Configuration.Files
import ClusterOperator.Resources.ConfigMap
import ClusterOperator.Resources.StatefulSet

/-!
# The resources of a manifest agree

How many servers there are is said in many places: in the replicas, in the files, in the addresses
under which servers find each other, and in whether there are ports for them to do so. These are not
taken from one source: the service asks the declaration, the files ask the constraints, and the rest
asks the deployment.

> **`agreement_of_validateCluster`** — for every cluster that is accepted they all say the same.

What makes them agree is that the constraints are as many as the declared servers, and the
deployment is that of the constraints.
-/

set_option autoImplicit false

namespace ClusterOperator

/-- What the resources of a cluster's manifest say of it, wherever they say it.

What is said of the shared file is said of its text, since that is what a server reads. The
settings it was made of are a map, and so have each key once; in the text a user's value with a line
break may add a line that is no setting's. -/
structure Cluster.Agreement (c : Cluster) (restart : Option String) (manifest : Manifest) :
    Prop where
  replicas : (c.statefulSet manifest).replicas = c.spec.servers
  /-- There is the shared file, and a file for each server. -/
  files : ∀ name, name ∈ (c.configMap manifest).files.keys ↔
    name = sharedFile ∨ ∃ i : Nat, (i : Int) < c.spec.servers.toInt ∧ name = serverFile i
  /-- The shared file holds the settings of the deployment. -/
  shared : (c.configMap manifest).files.find? sharedFile =
    some (renderSettings (sharedSettings manifest.deployment (c.renderInputs restart)) restart)
  /-- In a cluster, the shared file has the address of each server, in the order of their
  ordinals. -/
  endpoints : ∀ servers quorum, manifest.deployment = .cluster servers quorum →
    ∃ (text : String) (entries : List String),
      (c.configMap manifest).files.find? sharedFile = some text ∧
      HasLine text endpointsKey (",".intercalate entries) ∧
      (sharedSettings manifest.deployment (c.renderInputs restart)).find? endpointsKey =
        some (",".intercalate entries) ∧
      (entries.length : Int) = c.spec.servers.toInt ∧
      ∀ i : Nat, (i : Int) < c.spec.servers.toInt → entries[i]? =
        some (c.podHost (podName c.name (Int32.ofNat i)) ++ ":" ++ toString clusterPort)
  /-- The ports of members are there exactly if there are members to use them, and so is the number
  of them that must be up. -/
  members :
    [(⟨"cluster", clusterPort⟩ : NamedPort) ∈ c.headlessService.ports,
      ⟨"raft", raftPort⟩ ∈ c.headlessService.ports,
      ⟨"cluster", clusterPort⟩ ∈ (c.statefulSet manifest).template.ports,
      ⟨"raft", raftPort⟩ ∈ (c.statefulSet manifest).template.ports,
      ∃ servers quorum, manifest.deployment = .cluster servers quorum,
      2 ≤ c.spec.servers.toInt,
      quorumKey ∈ (sharedSettings manifest.deployment (c.renderInputs restart)).keys].TFAE
  /-- In a cluster, the shared file has that number. -/
  quorum : ∀ servers quorum, manifest.deployment = .cluster servers quorum →
    ∃ text, (c.configMap manifest).files.find? sharedFile = some text ∧
      HasLine text quorumKey (toString quorum.toInt)
  /-- The shared file of a single server has no such line, unless it is one of a user's value. -/
  quorumOnly : (c.renderInputs restart).Unbroken → ∀ text value,
    (c.configMap manifest).files.find? sharedFile = some text → HasLine text quorumKey value →
      2 ≤ c.spec.servers.toInt
  configMapHash : (c.configMap manifest).metadata.annotations.find? configHashAnnotation =
    some manifest.configHash
  templateHash : (c.statefulSet manifest).template.annotations.find? configHashAnnotation =
    some manifest.configHash

section
variable {c : Cluster} {running : Option String} {t : Topology} {inputs : RenderInputs}
  {port : NamedPort}

/-! ## Members -/

theorem not_mem_clientPorts (h : port ∈ memberPorts) : port ∉ clientPorts := by
  have hdisjoint : ∀ port ∈ memberPorts, port ∉ clientPorts := by decide
  exact hdisjoint port h

theorem mem_headlessPorts_iff (h : port ∈ memberPorts) :
    port ∈ c.headlessService.ports ↔ 2 ≤ c.spec.servers.toInt := by
  have hmany : c.spec.servers > 1 ↔ 2 ≤ c.spec.servers.toInt := Int32.lt_iff_toInt_lt
  unfold Cluster.headlessService Cluster.service
  rw [List.mem_append, or_iff_right (not_mem_clientPorts h), ← hmany]
  split
  · rename_i hmore
    exact iff_of_true h hmore
  · rename_i hfew
    exact iff_of_false List.not_mem_nil hfew

theorem mem_containerPorts_iff {manifest : Manifest} (h : port ∈ memberPorts) :
    port ∈ (c.statefulSet manifest).template.ports ↔
      ∃ servers quorum, manifest.deployment = .cluster servers quorum := by
  unfold Cluster.statefulSet Cluster.podTemplate
  rw [List.mem_append, or_iff_right (not_mem_clientPorts h)]
  cases manifest.deployment with
  | cluster servers quorum => exact iff_of_true h ⟨servers, quorum, rfl⟩
  | standalone => exact iff_of_false List.not_mem_nil nofun

theorem ClusterSpec.Accepted.cluster_iff {spec : ClusterSpec} (h : spec.Accepted running t) :
    (∃ servers quorum, t.deployment = .cluster servers quorum) ↔ 2 ≤ spec.servers.toInt := by
  rcases h.deployment_cases with ⟨hone, heq⟩ | ⟨htwo, quorum, heq⟩
  · rw [heq, hone]
    exact iff_of_false nofun (by decide)
  · exact iff_of_true ⟨_, quorum, heq⟩ htwo

/-! ## Settings of members -/

section
variable (hproper : ProperKeys inputs.userConfig) (servers quorum : Int32)
include hproper

theorem endpoints_mem_sharedSettings : (endpointsKey, discoveryEndpoints inputs servers) ∈
    (sharedSettings (.cluster servers quorum) inputs).entries :=
  (mem_sharedSettings_iff hproper).mpr (.inl List.mem_cons_self)

theorem quorum_mem_sharedSettings : (quorumKey, toString quorum.toInt) ∈
    (sharedSettings (.cluster servers quorum) inputs).entries :=
  (mem_sharedSettings_iff hproper).mpr (.inl (List.mem_of_getElem? (i := 3) rfl))

omit servers quorum in
theorem quorumKey_mem_iff (deployment : Deployment) :
    quorumKey ∈ (sharedSettings deployment inputs).keys ↔
      ∃ servers quorum, deployment = .cluster servers quorum := by
  constructor
  · intro hkey
    obtain ⟨value, hvalue⟩ := SortedMap.mem_keys.mp hkey
    rcases (mem_sharedSettings_iff hproper).mp hvalue with hown | huser
    · cases deployment with
      | cluster servers quorum => exact ⟨servers, quorum, rfl⟩
      | standalone => cases hown
    · have hreserved : quorumKey ∈ reservedKeys := by decide
      exact absurd hreserved (hproper _ (SortedMap.mem_keys_of_mem huser)).2
  · rintro ⟨servers, quorum, rfl⟩
    exact SortedMap.mem_keys_of_mem (quorum_mem_sharedSettings hproper servers quorum)

omit servers quorum in
/-- A single server's shared file holds what the user wrote and nothing besides. -/
theorem mem_keys_of_hasLine_standalone (hunbroken : inputs.Unbroken) {key value : String}
    (hkey : isConfigKey key = true)
    (h : HasLine (renderSettings (sharedSettings .standalone inputs) inputs.restart) key value) :
    key ∈ (sharedSettings .standalone inputs).keys :=
  mem_keys_of_hasLine hunbroken.restart (fun e he =>
    ⟨(hproper e.1 (SortedMap.mem_keys_of_mem he)).1, hunbroken.values e he⟩) hkey h

end

/-! ## Servers -/

theorem mem_fileNames_iff {name : String} : name ∈ (configFiles t inputs).keys ↔
    name = sharedFile ∨ ∃ i, i < t.constraints.length ∧ name = serverFile i := by
  rw [SortedMap.mem_keys]
  constructor
  · rintro ⟨text, h⟩
    rcases mem_configFiles_iff.mp h with heq | ⟨i, mode, hmode, heq⟩
    · exact .inl (congrArg Prod.fst heq)
    · exact .inr ⟨i, (List.getElem?_eq_some_iff.mp hmode).1, congrArg Prod.fst heq⟩
  · rintro (rfl | ⟨i, hi, rfl⟩)
    · exact ⟨_, mem_configFiles_iff.mpr (.inl rfl)⟩
    · exact ⟨_, mem_serverFile_iff.mpr ⟨_, List.getElem?_eq_getElem hi, rfl⟩⟩

/-- The addresses are those of the pods, in the order of their ordinals. -/
theorem exists_endpoints (c : Cluster) (restart : Option String) {servers : Int32}
    (h : 0 ≤ servers.toInt) : ∃ entries : List String,
      discoveryEndpoints (c.renderInputs restart) servers = ",".intercalate entries ∧
      (entries.length : Int) = servers.toInt ∧
      ∀ i : Nat, (i : Int) < servers.toInt → entries[i]? =
        some (c.podHost (podName c.name (Int32.ofNat i)) ++ ":" ++ toString clusterPort) := by
  refine ⟨_, rfl, ?_, fun i hi => ?_⟩
  · simp only [ordinals, List.length_map, List.length_range]
    omega
  · have hlt : i < servers.toInt.toNat := by omega
    simp only [ordinals, List.getElem?_map, List.getElem?_range hlt, Option.map_some]
    rfl

theorem find?_annotationsWith (c : Cluster) (hash : String) :
    (c.annotationsWith hash).find? configHashAnnotation = some hash :=
  SortedMap.find?_eq_some_iff.mpr (SortedMap.mem_insertEntry_self _ _ _)

/-- **The resources of a cluster that is accepted agree**, whichever image they run and whatever
restart was asked for. Everything goes back to the declared number of servers: the topology that
validation makes has just as many. -/
theorem agreement_of_validateCluster (h : validateCluster c running = .ok t)
    (restart : Option String) (image : String) :
    c.Agreement restart (.of t image (deriveConfig t (c.renderInputs restart))) := by
  have haccepted := (validateCluster_eq_ok_iff.mp h).2
  have hproper : ProperKeys (c.renderInputs restart).userConfig := haccepted.properKeys
  obtain ⟨hone, -⟩ := haccepted.servers_bounds
  refine
    { replicas := haccepted.servers_eq
      files := fun name => ?_
      shared := find?_sharedFile
      endpoints := fun servers quorum heq => ?_
      members := ?_
      quorum := fun servers quorum heq => ?_
      quorumOnly := fun hunbroken text value htext hline => ?_
      configMapHash := find?_annotationsWith c _
      templateHash := find?_annotationsWith c _ }
  · have hcount : ∀ i : Nat, i < t.constraints.length ↔ (i : Int) < c.spec.servers.toInt := by
      intro i
      rw [haccepted.length_constraints]
      omega
    refine mem_fileNames_iff.trans (or_congr_right (exists_congr fun i => ?_))
    rw [hcount]
  · have hdeployment : t.deployment = .cluster servers quorum := heq
    have hservers : servers = c.spec.servers := by
      rw [← haccepted.servers_eq, Topology.servers, hdeployment]
      rfl
    obtain ⟨entries, hvalue, hlength, hentry⟩ := exists_endpoints c restart
      (show 0 ≤ servers.toInt by rw [hservers]; omega)
    have hmem := endpoints_mem_sharedSettings hproper servers quorum
    rw [← hdeployment, hvalue] at hmem
    rw [hservers] at hlength hentry
    exact ⟨_, entries, find?_sharedFile, hasLine_of_mem hmem, SortedMap.find?_eq_some_iff.mpr hmem,
      hlength, hentry⟩
  · -- Each of them says that there are two servers or more.
    refine List.tfae_of_forall (2 ≤ c.spec.servers.toInt) _ fun said hsaid => ?_
    simp only [List.mem_cons, List.not_mem_nil, or_false] at hsaid
    rcases hsaid with rfl | rfl | rfl | rfl | rfl | rfl | rfl
    · exact mem_headlessPorts_iff (by decide)
    · exact mem_headlessPorts_iff (by decide)
    · exact (mem_containerPorts_iff (by decide)).trans haccepted.cluster_iff
    · exact (mem_containerPorts_iff (by decide)).trans haccepted.cluster_iff
    · exact haccepted.cluster_iff
    · exact Iff.rfl
    · exact (quorumKey_mem_iff hproper _).trans haccepted.cluster_iff
  · have hdeployment : t.deployment = .cluster servers quorum := heq
    have hmem := quorum_mem_sharedSettings hproper servers quorum
    rw [← hdeployment] at hmem
    exact ⟨_, find?_sharedFile, hasLine_of_mem hmem⟩
  · rcases haccepted.deployment_cases with ⟨-, heq⟩ | ⟨htwo, -⟩
    · have hshared := Option.some.inj (htext.symm.trans find?_sharedFile)
      rw [hshared, sharedText, heq] at hline
      have hkey := mem_keys_of_hasLine_standalone hproper hunbroken (by decide) hline
      obtain ⟨servers, quorum, habsurd⟩ := (quorumKey_mem_iff hproper _).mp hkey
      cases habsurd
    · exact htwo

end

/-- Three servers, with an annotation of the user's under the operator's key. -/
def staleCluster : Cluster :=
  { metadata := { name := some "db" }
    spec := { servers := 3, annotations := .ofList [( configHashAnnotation, "stale")] } }

theorem agreement_of_validateCluster_stale :
    validateCluster staleCluster none =
        .ok ⟨.cluster 3 2, [.unrestricted, .unrestricted, .unrestricted]⟩ ∧
      (staleCluster.renderInputs (some "now")).Unbroken ∧
      staleCluster.Agreement (some "now")
        (.of ⟨.cluster 3 2, [.unrestricted, .unrestricted, .unrestricted]⟩ "neo4j:5.26.0"
          (deriveConfig ⟨.cluster 3 2, [.unrestricted, .unrestricted, .unrestricted]⟩
            (staleCluster.renderInputs (some "now")))) := by
  have hvalid : validateCluster staleCluster none =
      .ok ⟨.cluster 3 2, [.unrestricted, .unrestricted, .unrestricted]⟩ := by decide +kernel
  have hunbroken : (staleCluster.renderInputs (some "now")).Unbroken :=
    ⟨by decide +kernel, by decide⟩
  exact ⟨hvalid, hunbroken, agreement_of_validateCluster hvalid (some "now") "neo4j:5.26.0"⟩

end ClusterOperator
