import ClusterOperator.Proofs.Configuration.Files
import ClusterOperator.Resources.StatefulSet

/-!
# The file a server boots with

The script of a server's container puts the shared file and the server's own file together and adds
lines to them. So the settings of a server have three sources, and a list of reserved keys to keep
the user's apart from the operator's:

> **`settings_at_boot`** — the settings that a server reads are the user's and the operator's, each
> on one line; no key is set twice, unless the user sets the address to listen on.

That one key is written by the script and is not reserved, so a user may set it, and then it stands
in the file twice (`listenKey_twice`).

What is written is not quoted anywhere. The statement is about values and restart requests without
line breaks, and about names that mean themselves in a script.
-/

set_option autoImplicit false

namespace ClusterOperator

open Text

/-! ## What the script adds -/

/-- Whether a character means itself between double quotes, and stays on its line. -/
def isPlain (c : Char) : Bool := c ∉ ['\n', '\x22', '$', '\x5c', '\x60']

/-- That a text means itself between double quotes, and stays on its line. -/
def Plain (s : String) : Prop := s.toList.all isPlain = true

instance (s : String) : Decidable (Plain s) :=
  inferInstanceAs (Decidable (s.toList.all isPlain = true))

/-- What a text between double quotes means, as far as it has plain characters and the variable of
the pod's name. Anything else has no meaning here, so a statement that a text expands says that
nothing else is in it. -/
def expand? (pod : List Char) : List Char → Option (List Char)
  | '$' :: '\x7b' :: 'P' :: 'O' :: 'D' :: '_' :: 'N' :: 'A' :: 'M' :: 'E' :: '\x7d' :: rest =>
    (expand? pod rest).map (pod ++ ·)
  | c :: rest => if isPlain c then (expand? pod rest).map (c :: ·) else none
  | [] => some []

/-- What stands between the quotes of a line that echoes into the server's file. Other lines of the
script have none, whatever they do. -/
def quoted? (line : List Char) : Option (List Char) :=
  (line.dropPrefix? "echo \"".toList).bind
    (·.dropSuffix? ("\" >> " ++ serverConfigPath).toList)

/-- The file that a server boots with: the shared file, its own, and what the script adds. -/
def Cluster.bootText? (c : Cluster) (manifest : Manifest) (ordinal : Nat) :
    Option (List Char) := do
  let shared ← manifest.files.find? sharedFile
  let own ← manifest.files.find? (serverFile ordinal)
  let pod := podName c.name (Int32.ofNat ordinal)
  let lines := (linesOf (c.podTemplate manifest).script.toList).filterMap quoted?
  let added ← lines.mapM (expand? pod.toList)
  some (shared.toList ++ own.toList ++ terminated '\n' added)

section
variable {pod x y : List Char}

theorem expand?_plain (h : x.all isPlain = true) :
    expand? pod (x ++ y) = (expand? pod y).map (x ++ ·) := by
  induction x with
  | nil => simp
  | cons c x ih =>
    obtain ⟨hc, hx⟩ := Bool.and_eq_true_iff.mp h
    have hne : c ≠ '$' := by
      rintro rfl
      cases hc
    rw [List.cons_append, expand?, if_pos hc, ih hx, Option.map_map]
    · rfl
    · rintro rest rfl
      exact absurd rfl hne

theorem expand?_variable : expand? pod ("$\x7bPOD_NAME\x7d".toList ++ y) =
    (expand? pod y).map (pod ++ ·) := rfl

theorem expand?_self (h : x.all isPlain = true) : expand? pod x = some x := by
  have hself := @expand?_plain pod x [] h
  rw [List.append_nil] at hself
  rw [hself]
  simp [expand?]

end

theorem plain_append {s t : String} : Plain (s ++ t) ↔ Plain s ∧ Plain t := by
  unfold Plain
  rw [String.toList_append, List.all_append, Bool.and_eq_true_iff]

theorem Plain.unbroken {s : String} (h : Plain s) : Unbroken s := fun hmem =>
  nomatch List.all_eq_true.mp h _ hmem

/-! ## The addresses of a server -/

/-- The setting for the address to listen on. -/
def listenKey : String := "server.default_listen_address"

/-- The settings for the addresses of a server that is reached under a host name. -/
def addressSettings (host : String) (deployment : Deployment) : List (String × String) :=
  [(listenKey, "0.0.0.0"), ("server.default_advertised_address", host)] ++
  match deployment with
  | .cluster _ _ =>
    [("server.cluster.advertised_address", host ++ ":" ++ toString clusterPort),
      ("server.cluster.raft.advertised_address", host ++ ":" ++ toString raftPort)]
  | .standalone => []

theorem echoedSettings_eq (c : Cluster) (deployment : Deployment) :
    echoedSettings c deployment = addressSettings (ownHost c) deployment := rfl

theorem forall_mem_addressSettings {host : String} {deployment : Deployment}
    {p : String × String → Prop} (hlisten : p (listenKey, "0.0.0.0"))
    (hhost : p ("server.default_advertised_address", host))
    (hcluster : p ("server.cluster.advertised_address", host ++ ":" ++ toString clusterPort))
    (hraft : p ("server.cluster.raft.advertised_address", host ++ ":" ++ toString raftPort)) :
    ∀ s ∈ addressSettings host deployment, p s := by
  cases deployment <;> simp_all [addressSettings]

theorem unbroken_addressSettings {host : String} (h : Unbroken host) (deployment : Deployment) :
    ∀ s ∈ addressSettings host deployment, Unbroken s.1 ∧ Unbroken s.2 := by
  have hport : ∀ port : Nat, Unbroken (host ++ ":" ++ toString port) := fun port =>
    unbroken_append.mpr ⟨unbroken_append.mpr ⟨h, by decide⟩, unbroken_toString_nat port⟩
  have hkey : Unbroken "server.default_advertised_address" ∧
      Unbroken "server.cluster.advertised_address" ∧
      Unbroken "server.cluster.raft.advertised_address" := by decide
  exact forall_mem_addressSettings (by decide) ⟨hkey.1, h⟩ ⟨hkey.2.1, hport _⟩
    ⟨hkey.2.2, hport _⟩

section
variable {c : Cluster} {pod : String} {deployment : Deployment}

/-- What follows the name of a pod in its host name. -/
def Cluster.hostDomain (c : Cluster) : String :=
  "." ++ ClusterOperator.headlessServiceName c.name ++ "." ++ c.namespaceOrDefault ++
    ".svc.cluster.local"

theorem podHost_eq (c : Cluster) (pod : String) : c.podHost pod = pod ++ c.hostDomain := by
  simp only [Cluster.podHost, podHostIn, Cluster.hostDomain, String.append_assoc]

theorem plain_hostDomain (hname : Plain c.name) (hnamespace : Plain c.namespaceOrDefault) :
    Plain c.hostDomain := by
  have hheadless : Plain (ClusterOperator.headlessServiceName c.name) :=
    plain_append.mpr ⟨hname, by decide⟩
  have hdots : Plain "." ∧ Plain ".svc.cluster.local" := by decide
  simp only [Cluster.hostDomain, plain_append]
  exact ⟨⟨⟨⟨hdots.1, hheadless⟩, hdots.1⟩, hnamespace⟩, hdots.2⟩

theorem settingText_host (key host port : String) :
    settingText (key, host ++ c.hostDomain ++ port) =
      (key ++ "=").toList ++ (host.toList ++ (c.hostDomain ++ port).toList) := by
  simp [settingText]

theorem expand?_host (hdomain : Plain c.hostDomain) {key port : String} (hkey : Plain key)
    (hport : Plain port) : expand? pod.toList (settingText (key, ownHost c ++ port)) =
      some (settingText (key, c.podHost pod ++ port)) := by
  have hbefore : Plain (key ++ "=") := plain_append.mpr ⟨hkey, by decide⟩
  have hafter : Plain (c.hostDomain ++ port) := plain_append.mpr ⟨hdomain, hport⟩
  rw [ownHost, podHost_eq, podHost_eq, settingText_host, settingText_host, expand?_plain hbefore,
    expand?_variable, expand?_self hafter]
  rfl

/-- **The settings that the script adds**: each address with the pod's name in it. -/
theorem mapM_expand? (hdomain : Plain c.hostDomain) (deployment : Deployment) :
    ((echoedSettings c deployment).map settingText).mapM (expand? pod.toList) =
      some ((addressSettings (c.podHost pod) deployment).map settingText) := by
  have hlisten : expand? pod.toList (settingText (listenKey, "0.0.0.0")) =
      some (settingText (listenKey, "0.0.0.0")) := expand?_self (by decide)
  have hhost : expand? pod.toList (settingText ("server.default_advertised_address", ownHost c)) =
      some (settingText ("server.default_advertised_address", c.podHost pod)) := by
    have hnoPort := @expand?_host c pod hdomain "server.default_advertised_address" "" (by decide)
      (by decide)
    rw [String.append_empty, String.append_empty] at hnoPort
    exact hnoPort
  -- The three addresses have one form, but for the port that two of them end with.
  have hport : ∀ key, Plain key → ∀ port : String, Plain port →
      expand? pod.toList (settingText (key, ownHost c ++ ":" ++ port)) =
        some (settingText (key, c.podHost pod ++ ":" ++ port)) := by
    intro key hkey port hplain
    rw [String.append_assoc, String.append_assoc]
    exact expand?_host hdomain hkey (plain_append.mpr ⟨by decide, hplain⟩)
  have hcluster := hport "server.cluster.advertised_address" (by decide) (toString clusterPort)
    (by decide)
  have hraft := hport "server.cluster.raft.advertised_address" (by decide) (toString raftPort)
    (by decide)
  rw [echoedSettings_eq]
  cases deployment <;>
    simp only [addressSettings, List.append_nil, List.cons_append, List.nil_append, List.map_cons,
      List.map_nil, List.mapM_cons, List.mapM_nil, hlisten, hhost, hcluster, hraft] <;> rfl

/-! ## The script -/

theorem quoted?_echoLine (setting : String × String) :
    quoted? (echoLine setting).toList = some (settingText setting) := by
  have hline : (echoLine setting).toList =
      "echo \"".toList ++ (settingText setting ++ ("\" >> " ++ serverConfigPath).toList) := by
    simp [echoLine, settingText]
  have hdropped := List.dropPrefix?_eq_some_iff.mpr
    ⟨"echo \"".toList, hline, beq_self_eq_true _⟩
  unfold quoted?
  rw [hdropped, Option.bind_some]
  exact List.dropSuffix?_eq_some_iff.mpr ⟨_, rfl, beq_self_eq_true _⟩

/-- Only the lines that add settings echo into the server's file. -/
theorem exists_scriptLines (c : Cluster) (deployment : Deployment) : ∃ before after,
    scriptLines c deployment = before ++ (echoedSettings c deployment).map echoLine ++ after ∧
      before ≠ [] ∧ ∀ line ∈ before ++ after, quoted? line.toList = none ∧ Unbroken line :=
  ⟨_, _, rfl, by decide, by decide +kernel⟩

theorem filterMap_quoted? (c : Cluster) (deployment : Deployment) :
    ((scriptLines c deployment).map String.toList).filterMap quoted? =
      (echoedSettings c deployment).map settingText := by
  obtain ⟨before, after, heq, -, hother⟩ := exists_scriptLines c deployment
  have hnone : ∀ lines ⊆ before ++ after, (lines.map String.toList).filterMap quoted? = [] := by
    intro lines hlines
    rw [List.filterMap_map]
    exact List.filterMap_eq_nil_iff.mpr fun line hline => (hother line (hlines hline)).1
  have hechoed :
      (((echoedSettings c deployment).map echoLine).map String.toList).filterMap quoted? =
        (echoedSettings c deployment).map settingText := by
    rw [List.map_map, List.filterMap_map]
    exact List.filterMap_eq_map_iff_forall_eq_some.mpr fun setting _ => quoted?_echoLine setting
  rw [heq, List.map_append, List.map_append, List.filterMap_append, List.filterMap_append,
    hnone before (List.subset_append_left _ _), hnone after (List.subset_append_right _ _), hechoed,
    List.nil_append, List.append_nil]

section
variable (hname : Plain c.name) (hnamespace : Plain c.namespaceOrDefault)
include hname hnamespace

theorem unbroken_ownHost : Unbroken (ownHost c) := by
  rw [ownHost, podHost_eq]
  exact unbroken_append.mpr ⟨by decide, (plain_hostDomain hname hnamespace).unbroken⟩

theorem unbroken_podHost (ordinal : Ordinal) : Unbroken (c.podHost (podName c.name ordinal)) := by
  have hpod : Unbroken (podName c.name ordinal) :=
    unbroken_append.mpr ⟨unbroken_append.mpr ⟨hname.unbroken, by decide⟩, unbroken_toString_int _⟩
  rw [podHost_eq]
  exact unbroken_append.mpr ⟨hpod, (plain_hostDomain hname hnamespace).unbroken⟩

theorem linesOf_startupScript (deployment : Deployment) :
    linesOf (startupScript c deployment).toList = (scriptLines c deployment).map String.toList := by
  obtain ⟨before, after, heq, hne, hother⟩ := exists_scriptLines c deployment
  have hechoed : ∀ line ∈ (echoedSettings c deployment).map echoLine, Unbroken line := by
    intro line hline
    obtain ⟨setting, hmem, rfl⟩ := List.mem_map.mp hline
    rw [echoedSettings_eq] at hmem
    obtain ⟨hkey, hvalue⟩ :=
      unbroken_addressSettings (unbroken_ownHost hname hnamespace) deployment setting hmem
    have hends : Unbroken "echo \"" ∧ Unbroken "=" ∧ Unbroken "\" >> " ∧
        Unbroken serverConfigPath := by decide
    simp only [echoLine, unbroken_append]
    exact ⟨⟨⟨⟨⟨hends.1, hkey⟩, hends.2.1⟩, hvalue⟩, hends.2.2.1⟩, hends.2.2.2⟩
  refine linesOf_intercalate (fun line hline => ?_) ?_
  · rw [heq] at hline
    rcases List.mem_append.mp hline with hline | hline
    · rcases List.mem_append.mp hline with hline | hline
      · exact (hother line (List.mem_append_left _ hline)).2
      · exact hechoed line hline
    · exact (hother line (List.mem_append_right _ hline)).2
  · rw [heq]
    simp [hne]

end

end

/-! ## The file -/

section
variable {c : Cluster} {running restart : Option String} {t : Topology} {mode : Mode} {i : Nat}

/-- The settings that the operator makes for a server. -/
def Cluster.ownSettings (c : Cluster) (t : Topology) (restart : Option String) (i : Nat)
    (mode : Mode) : List (String × String) :=
  operatorSettings t.deployment (c.renderInputs restart) ++ (modeKey, mode.name) ::
    addressSettings (c.podHost (podName c.name (Int32.ofNat i))) t.deployment

/-- The settings of a server, as they are written. -/
def Cluster.bootSettings (c : Cluster) (t : Topology) (restart : Option String) (i : Nat)
    (mode : Mode) : List (String × String) :=
  (sharedSettings t.deployment (c.renderInputs restart)).entries ++ (modeKey, mode.name) ::
    addressSettings (c.podHost (podName c.name (Int32.ofNat i))) t.deployment

theorem bootText?_eq (image : String) (hname : Plain c.name)
    (hnamespace : Plain c.namespaceOrDefault) (hmode : t.constraints[i]? = some mode) :
    c.bootText? (Manifest.of t image (deriveConfig t (c.renderInputs restart))) i =
      some (terminated '\n' (restart.toList.map restartText ++
        (c.bootSettings t restart i mode).map settingText)) := by
  have hshared := @find?_sharedFile t (c.renderInputs restart)
  have hown : (configFiles t (c.renderInputs restart)).find? (serverFile i) =
      some (serverText mode) :=
    SortedMap.find?_eq_some_iff.mpr (mem_serverFile_iff.mpr ⟨mode, hmode, rfl⟩)
  have hscript : (linesOf (startupScript c t.deployment).toList).filterMap quoted? =
      (echoedSettings c t.deployment).map settingText := by
    rw [linesOf_startupScript hname hnamespace, filterMap_quoted?]
  have hadded := @mapM_expand? c (podName c.name (Int32.ofNat i))
    (plain_hostDomain hname hnamespace) t.deployment
  have htext : (sharedText t (c.renderInputs restart)).toList =
      terminated '\n' (restart.toList.map restartText ++
        (sharedSettings t.deployment (c.renderInputs restart)).entries.map settingText) :=
    toList_renderSettings _ _
  unfold Cluster.bootText?
  simp only [Manifest.of, deriveConfig, Cluster.podTemplate, hshared, hown, hscript, hadded,
    Option.bind_eq_bind, Option.bind_some, htext, toList_serverText, ← terminated_append,
    Cluster.bootSettings, List.map_append, List.map_cons, List.append_assoc, List.cons_append,
    List.nil_append]

/-- The operator's values have no line breaks. -/
theorem unbroken_operatorSettings (hname : Plain c.name) (hnamespace : Plain c.namespaceOrDefault)
    (deployment : Deployment) :
    ∀ s ∈ operatorSettings deployment (c.renderInputs restart), Unbroken s.2 := by
  have hendpoints : ∀ servers,
      Unbroken (discoveryEndpoints (c.renderInputs restart) servers) := by
    intro servers
    refine unbroken_intercalate (by decide) fun endpoint hmem => ?_
    obtain ⟨ordinal, -, rfl⟩ := List.mem_map.mp hmem
    exact unbroken_append.mpr ⟨unbroken_append.mpr
      ⟨unbroken_podHost hname hnamespace ordinal, by decide⟩, unbroken_toString_nat _⟩
  cases deployment with
  | standalone => exact fun s hs => nomatch hs
  | cluster servers quorum =>
    intro s hs
    simp only [operatorSettings, List.mem_cons, List.not_mem_nil, or_false] at hs
    rcases hs with rfl | rfl | rfl | rfl
    · exact hendpoints servers
    · decide
    · decide
    · exact unbroken_toString_int _

/-- The keys of the operator's settings, in a cluster and alone. -/
theorem keys_ownSettings (c : Cluster) (t : Topology) (restart : Option String) (i : Nat)
    (mode : Mode) : (c.ownSettings t restart i mode).map (·.1) ∈
      [[endpointsKey, resolverKey, discoveryVersionKey, quorumKey, modeKey, listenKey,
        "server.default_advertised_address", "server.cluster.advertised_address",
        "server.cluster.raft.advertised_address"],
      [modeKey, listenKey, "server.default_advertised_address"]] := by
  unfold Cluster.ownSettings
  cases t.deployment with
  | cluster servers quorum => exact List.mem_cons_self
  | standalone => exact List.mem_cons_of_mem _ List.mem_cons_self

/-- **The operator's keys**: they differ, they are reserved but for one, and that one is there. -/
theorem proper_ownSettings (c : Cluster) (t : Topology) (restart : Option String) (i : Nat)
    (mode : Mode) : ((c.ownSettings t restart i mode).map (·.1)).Nodup ∧
      (∀ key ∈ (c.ownSettings t restart i mode).map (·.1),
        isConfigKey key = true ∧ (key ∈ reservedKeys ∨ key = listenKey)) ∧
      listenKey ∈ (c.ownSettings t restart i mode).map (·.1) := by
  have hkeys := keys_ownSettings c t restart i mode
  revert hkeys
  generalize (c.ownSettings t restart i mode).map (·.1) = keys
  revert keys
  decide

/-- The settings as they are written are the user's and the operator's. -/
theorem perm_bootSettings (hproper : ProperKeys c.spec.config) :
    (c.bootSettings t restart i mode).Perm
      (c.spec.config.entries ++ c.ownSettings t restart i mode) := by
  have hshared := @perm_sharedSettings (c.renderInputs restart) hproper t.deployment
  have happend := hshared.append_right ((modeKey, mode.name) ::
    addressSettings (c.podHost (podName c.name (Int32.ofNat i))) t.deployment)
  rw [List.append_assoc] at happend
  exact happend

/-- No key is set twice, unless the user sets the one that is not reserved. -/
theorem nodup_bootSettings_iff (hproper : ProperKeys c.spec.config) :
    ((c.bootSettings t restart i mode).map (·.1)).Nodup ↔ listenKey ∉ c.spec.config.keys := by
  obtain ⟨hnodup, hreserved, hlisten⟩ := proper_ownSettings c t restart i mode
  rw [((perm_bootSettings hproper).map _).nodup_iff, List.map_append, List.nodup_append]
  constructor
  · rintro ⟨-, -, hdisjoint⟩ huser
    exact hdisjoint listenKey huser listenKey hlisten rfl
  · intro hfree
    refine ⟨c.spec.config.nodup_keys, hnodup, fun key huser own hown heq => ?_⟩
    subst heq
    rcases (hreserved key hown).2 with hkey | rfl
    · exact (hproper key huser).2 hkey
    · exact hfree huser

/-- Every setting has a proper key, and a value that stays on its line. -/
theorem readable_bootSettings (hproper : ProperKeys c.spec.config) (hname : Plain c.name)
    (hnamespace : Plain c.namespaceOrDefault) (hfree : (c.renderInputs restart).Unbroken) :
    ∀ s ∈ c.bootSettings t restart i mode, isConfigKey s.1 = true ∧ Unbroken s.2 := by
  intro s hs
  rcases List.mem_append.mp ((perm_bootSettings hproper).mem_iff.mp hs) with huser | hown
  · exact ⟨(hproper s.1 (SortedMap.mem_keys_of_mem huser)).1, hfree.values s huser⟩
  · obtain ⟨-, hkeys, -⟩ := proper_ownSettings c t restart i mode
    refine ⟨(hkeys s.1 (List.mem_map_of_mem hown)).1, ?_⟩
    rcases List.mem_append.mp hown with hshared | hserver
    · exact unbroken_operatorSettings hname hnamespace t.deployment s hshared
    · rcases List.mem_cons.mp hserver with rfl | haddress
      · cases mode <;> decide
      · exact (unbroken_addressSettings (unbroken_podHost hname hnamespace _) _ s haddress).2

/-- A server reads the settings that were written for it. -/
theorem exists_bootText (image : String) (h : validateCluster c running = .ok t)
    (hname : Plain c.name) (hnamespace : Plain c.namespaceOrDefault)
    (hfree : (c.renderInputs restart).Unbroken) (hmode : t.constraints[i]? = some mode) :
    ∃ text,
      c.bootText? (Manifest.of t image (deriveConfig t (c.renderInputs restart))) i = some text ∧
      settingsOf text = c.bootSettings t restart i mode := by
  have hproper := (validateCluster_eq_ok_iff.mp h).2.properKeys
  have hrestart : ∀ trigger ∈ restart, Unbroken trigger := hfree.restart
  exact ⟨_, bootText?_eq image hname hnamespace hmode,
    settingsOf_rendered hrestart (readable_bootSettings hproper hname hnamespace hfree)⟩

/-- **A server boots with the user's settings and the operator's, each on one line**, and no key is
set twice unless the user sets the address to listen on. -/
theorem settings_at_boot (image : String) (h : validateCluster c running = .ok t)
    (hi : (i : Int) < c.spec.servers.toInt) (hname : Plain c.name)
    (hnamespace : Plain c.namespaceOrDefault) (hfree : (c.renderInputs restart).Unbroken) :
    ∃ text mode,
      c.bootText? (Manifest.of t image (deriveConfig t (c.renderInputs restart))) i = some text ∧
      t.constraints[i]? = some mode ∧
      (settingsOf text).Perm (c.spec.config.entries ++ c.ownSettings t restart i mode) ∧
      (((settingsOf text).map (·.1)).Nodup ↔ listenKey ∉ c.spec.config.keys) := by
  have haccepted := (validateCluster_eq_ok_iff.mp h).2
  have hlt : i < t.constraints.length := by
    rw [haccepted.length_constraints]
    omega
  obtain ⟨mode, hmode⟩ : ∃ mode, t.constraints[i]? = some mode :=
    ⟨_, List.getElem?_eq_getElem hlt⟩
  obtain ⟨text, htext, hread⟩ := exists_bootText image h hname hnamespace hfree hmode
  refine ⟨text, mode, htext, hmode, ?_⟩
  rw [hread]
  exact ⟨perm_bootSettings haccepted.properKeys, nodup_bootSettings_iff haccepted.properKeys⟩

end

/-- Three servers with a setting of the user's. -/
def trioCluster (key value : String) : Cluster :=
  { metadata := { name := some "db", «namespace» := some "data" }
    spec := { servers := 3, config := .ofList [(key, value)] } }

/-- The topology of three servers. -/
def trio : Topology := ⟨.cluster 3 2, [.unrestricted, .unrestricted, .unrestricted]⟩

theorem unbroken_trioCluster {key value : String} (h : Unbroken value) :
    ((trioCluster key value).renderInputs none).Unbroken := by
  constructor
  · intro e he
    rw [List.mem_singleton.mp he]
    exact h
  · intro trigger htrigger
    cases htrigger

theorem settings_at_boot_trio :
    validateCluster (trioCluster "db.a" "1") none = .ok trio ∧
      ∃ text, (trioCluster "db.a" "1").bootText? (Manifest.of trio "neo4j:5.26.0"
          (deriveConfig trio ((trioCluster "db.a" "1").renderInputs none))) 2 = some text ∧
        ("db.a", "1") ∈ settingsOf text ∧ ((settingsOf text).map (·.1)).Nodup := by
  have hvalid : validateCluster (trioCluster "db.a" "1") none = .ok trio := by decide +kernel
  obtain ⟨text, mode, htext, -, hperm, hnodup⟩ := @settings_at_boot _ none none _ 2
    "neo4j:5.26.0" hvalid (by decide) (by decide) (by decide) (unbroken_trioCluster (by decide))
  refine ⟨hvalid, text, htext, hperm.mem_iff.mpr ?_, hnodup.mpr (by decide)⟩
  exact List.mem_append_left _ List.mem_cons_self

/-- **A user may set the address to listen on**, and the script sets it again. The key is the only
one of the script that is not reserved. -/
theorem listenKey_twice :
    validateCluster (trioCluster listenKey "127.0.0.1") none = .ok trio ∧
      ∃ text, (trioCluster listenKey "127.0.0.1").bootText? (Manifest.of trio "neo4j:5.26.0"
          (deriveConfig trio ((trioCluster listenKey "127.0.0.1").renderInputs none))) 0 =
            some text ∧
        (settingsOf text).filter (·.1 == listenKey) =
          [(listenKey, "127.0.0.1"), (listenKey, "0.0.0.0")] := by
  have hvalid : validateCluster (trioCluster listenKey "127.0.0.1") none = .ok trio := by
    decide +kernel
  obtain ⟨text, htext, hread⟩ := @exists_bootText _ none none trio .unrestricted 0
    "neo4j:5.26.0" hvalid (by decide) (by decide) (unbroken_trioCluster (by decide)) rfl
  refine ⟨hvalid, text, htext, ?_⟩
  rw [hread]
  decide +kernel

end ClusterOperator
