import Mathlib.Data.List.Nodup
import Mathlib.Data.String.Basic
import ClusterOperator.Proofs.Text.Lines
import ClusterOperator.Proofs.Validation.Accepted

/-!
# What the files of a configuration hold

> **`mem_configFiles_iff`** — the files are the shared one and one for each constraint, under the
> ordinal's name.

> **`mem_sharedSettings_iff`** — the shared settings are the operator's and the user's, if no key of
> the user's is reserved.

Files and settings alike are put over one another, so both rest on names that differ: the file of an
ordinal is no other ordinal's and not the shared one, and a reserved key is not the user's.

A file is read by its lines. The line of a setting ends where its value does only if the value has
no line break, and nothing sees to that; so it is a condition for

> **`settingsOf_rendered`** — what is read in a file of settings are the settings it was made of.
-/

set_option autoImplicit false

namespace ClusterOperator

open Text

/-! ## Names of files -/

theorem toList_serverFile (i : Nat) :
    (serverFile i).toList = "server-".toList ++ (Nat.toDigits 10 i ++ ".conf".toList) := by
  unfold serverFile
  rw [String.toList_append, String.toList_append, toList_toString, List.append_assoc]

theorem serverFile_injective : Function.Injective serverFile := by
  intro i j h
  exact toString_nat_inj ((String.append_right_inj _).mp ((String.append_left_inj _).mp h))

theorem sharedFile_lt_serverFile (i : Nat) : sharedFile < serverFile i := by
  rw [String.lt_iff_toList_lt, toList_serverFile]
  exact List.cons_lt_cons_iff.mpr (.inl (by decide))

theorem serverFile_ne_sharedFile (i : Nat) : serverFile i ≠ sharedFile :=
  (String.ne_of_lt (sharedFile_lt_serverFile i)).symm

theorem serverFile_zero_lt {i : Nat} (h : 0 < i) : serverFile 0 < serverFile i := by
  obtain ⟨d, ds, heq, hd⟩ := exists_first_digit h
  rw [String.lt_iff_toList_lt, toList_serverFile, toList_serverFile, heq]
  exact List.append_left_lt (List.cons_lt_cons_iff.mpr (.inl hd))

/-! ## Files -/

/-- What the files of a declaration depend on besides its topology. -/
def ClusterSpec.renderInputs (spec : ClusterSpec) (name «namespace» : String)
    (restart : Option String) : RenderInputs :=
  ⟨name, «namespace», spec.config, restart⟩

/-- What the files of a cluster depend on besides its topology. -/
def Cluster.renderInputs (c : Cluster) (restart : Option String) : RenderInputs :=
  c.spec.renderInputs c.name c.namespaceOrDefault restart

section
variable {topology : Topology} {inputs : RenderInputs} {e : String × String}

/-- The text of a server's own file. -/
def serverText (mode : Mode) : String := renderSettings (serverSettings mode) none

/-- The text of the shared file. -/
def sharedText (topology : Topology) (inputs : RenderInputs) : String :=
  renderSettings (sharedSettings topology.deployment inputs) inputs.restart

/-- **The shared file and a file for each constraint.** -/
theorem mem_configFiles_iff : e ∈ (configFiles topology inputs).entries ↔
    e = (sharedFile, sharedText topology inputs) ∨
      ∃ i mode, topology.constraints[i]? = some mode ∧ e = (serverFile i, serverText mode) := by
  let servers : List (String × String) :=
    topology.constraints.zipIdx.map fun s => (serverFile s.2, serverText s.1)
  have hnames : servers.map (·.1) = (List.range' 0 topology.constraints.length).map serverFile := by
    rw [List.map_map, ← List.zipIdx_map_snd, List.map_map]
    rfl
  have hnodup : (servers.map (·.1)).Nodup := by
    rw [hnames]
    exact List.Nodup.map serverFile_injective List.nodup_range'
  have hfiles : (configFiles topology inputs).entries =
      (servers.foldl (fun m e => m.insert e.1 e.2)
        (SortedMap.ofList [(sharedFile, sharedText topology inputs)])).entries := by
    rw [List.foldl_map]
    rfl
  have hshared : sharedFile ∉ servers.map (·.1) := by
    rw [hnames, List.mem_map]
    rintro ⟨i, -, heq⟩
    exact serverFile_ne_sharedFile i heq
  -- The files are inserted one after another, and none of them takes the place of another.
  rw [hfiles, SortedMap.mem_foldl_insert_iff hnodup, SortedMap.mem_ofList_iff (by simp),
    List.mem_singleton, List.mem_map]
  constructor
  · rintro (⟨⟨mode, i⟩, hmem, rfl⟩ | ⟨rfl, -⟩)
    · exact .inr ⟨i, mode, List.mem_zipIdx_iff_getElem?.mp hmem, rfl⟩
    · exact .inl rfl
  · rintro (rfl | ⟨i, mode, hmode, rfl⟩)
    · exact .inr ⟨rfl, hshared⟩
    · exact .inl ⟨(mode, i), List.mem_zipIdx_iff_getElem?.mpr hmode, rfl⟩

theorem find?_sharedFile :
    (configFiles topology inputs).find? sharedFile = some (sharedText topology inputs) :=
  SortedMap.find?_eq_some_iff.mpr (mem_configFiles_iff.mpr (.inl rfl))

theorem mem_serverFile_iff {i : Nat} {text : String} :
    (serverFile i, text) ∈ (configFiles topology inputs).entries ↔
      ∃ mode, topology.constraints[i]? = some mode ∧ text = serverText mode := by
  rw [mem_configFiles_iff]
  constructor
  · rintro (heq | ⟨j, mode, hmode, heq⟩)
    · exact absurd (congrArg Prod.fst heq) (serverFile_ne_sharedFile i)
    · obtain ⟨hname, rfl⟩ := Prod.mk.inj heq
      exact ⟨mode, serverFile_injective hname ▸ hmode, rfl⟩
  · rintro ⟨mode, hmode, rfl⟩
    exact .inr ⟨i, mode, hmode, rfl⟩

/-! ## Settings -/

theorem operatorSettings_reserved {deployment : Deployment}
    (h : e ∈ operatorSettings deployment inputs) : e.1 ∈ reservedKeys := by
  have hkeys : (operatorSettings deployment inputs).map (·.1) ⊆ reservedKeys := by
    cases deployment with
    | cluster servers quorum =>
      change [endpointsKey, resolverKey, discoveryVersionKey, quorumKey] ⊆ reservedKeys
      decide
    | standalone => exact List.nil_subset _
  exact hkeys (List.mem_map_of_mem h)

theorem nodup_operatorSettings (deployment : Deployment) (inputs : RenderInputs) :
    ((operatorSettings deployment inputs).map (·.1)).Nodup := by
  cases deployment with
  | cluster servers quorum =>
    change [endpointsKey, resolverKey, discoveryVersionKey, quorumKey].Nodup
    decide
  | standalone => exact .nil

/-- That a user's settings have keys that a declaration may have. An accepted declaration has no
others, so what follows from this holds of all that are deployed. -/
def ProperKeys (settings : SortedMap String) : Prop :=
  ∀ key ∈ settings.keys, isConfigKey key = true ∧ key ∉ reservedKeys

theorem ClusterSpec.Accepted.properKeys {spec : ClusterSpec} {running : Option String}
    (h : spec.Accepted running topology) : ProperKeys spec.config :=
  fun _ hkey => h.isConfigKey hkey

section
variable {deployment : Deployment} (hproper : ProperKeys inputs.userConfig)
include hproper

/-- **The operator's settings and the user's.** -/
theorem mem_sharedSettings_iff : e ∈ (sharedSettings deployment inputs).entries ↔
    e ∈ operatorSettings deployment inputs ∨ e ∈ inputs.userConfig.entries := by
  unfold sharedSettings
  rw [SortedMap.mem_foldl_insert_iff (nodup_operatorSettings deployment inputs)]
  refine or_congr_right (and_iff_left_of_imp fun huser hkey => ?_)
  obtain ⟨own, hown, heq⟩ := List.mem_map.mp hkey
  refine (hproper e.1 (SortedMap.mem_keys_of_mem huser)).2 ?_
  rw [← heq]
  exact operatorSettings_reserved hown

theorem perm_sharedSettings (deployment : Deployment) :
    (sharedSettings deployment inputs).entries.Perm
      (inputs.userConfig.entries ++ operatorSettings deployment inputs) := by
  have hnodup : ∀ m : SortedMap String, m.entries.Nodup := fun m => m.nodup_keys.of_map _
  have hown := (nodup_operatorSettings deployment inputs).of_map _
  refine (List.perm_ext_iff_of_nodup (hnodup _) ?_).mpr fun e => ?_
  · -- What the operator sets has a reserved key, and no key of the user's is reserved.
    refine List.nodup_append.mpr ⟨hnodup _, hown, fun e huser own hmem heq => ?_⟩
    subst heq
    exact (hproper e.1 (SortedMap.mem_keys_of_mem huser)).2 (operatorSettings_reserved hmem)
  · rw [mem_sharedSettings_iff hproper, List.mem_append, or_comm]

theorem isConfigKey_of_mem_sharedSettings (h : e ∈ (sharedSettings deployment inputs).entries) :
    isConfigKey e.1 = true := by
  rcases (mem_sharedSettings_iff hproper).mp h with hown | huser
  · have hreserved : ∀ key ∈ reservedKeys, isConfigKey key = true := by decide
    exact hreserved e.1 (operatorSettings_reserved hown)
  · exact (hproper e.1 (SortedMap.mem_keys_of_mem huser)).1

end

end

/-! ## Lines -/

/-- That what a user writes into the shared file stays on its line. It is not checked when a
declaration is accepted, so it has to be asked wherever a file is to be read back. -/
structure RenderInputs.Unbroken (inputs : RenderInputs) : Prop where
  values : ∀ e ∈ inputs.userConfig.entries, Text.Unbroken e.2
  restart : ∀ trigger ∈ inputs.restart, Text.Unbroken trigger

/-- The line of a setting, without its end. -/
def settingText (setting : String × String) : List Char :=
  setting.1.toList ++ '=' :: setting.2.toList

/-- The line that records when a restart was asked for, without its end. -/
def restartText (trigger : String) : List Char :=
  '#' :: (" restart-requested-at=".toList ++ trigger.toList)

theorem toList_settingLine (setting : String × String) :
    (settingLine setting).toList = settingText setting ++ ['\n'] := by
  simp [settingLine, settingText]

theorem toList_join_settingLine (settings : List (String × String)) :
    (String.join (settings.map settingLine)).toList =
      terminated '\n' (settings.map settingText) := by
  simp only [String.toList_join, terminated, List.flatMap_map, toList_settingLine]

theorem toList_renderSettings (settings : SortedMap String) (restart : Option String) :
    (renderSettings settings restart).toList =
      terminated '\n' (restart.toList.map restartText ++ settings.entries.map settingText) := by
  unfold renderSettings
  rw [String.toList_append, toList_join_settingLine]
  cases restart with
  | none => simp
  | some trigger =>
    have hline : ("# restart-requested-at=" ++ trigger ++ "\n").toList =
        restartText trigger ++ ['\n'] := by
      rw [String.toList_append, String.toList_append]
      rfl
    rw [Option.toList_some, List.map_singleton, List.singleton_append, terminated_cons]
    simp only [hline, List.append_assoc, List.singleton_append]

theorem entries_serverSettings (mode : Mode) :
    (serverSettings mode).entries = [(modeKey, mode.name)] := rfl

theorem toList_serverText (mode : Mode) :
    (serverText mode).toList = terminated '\n' [settingText (modeKey, mode.name)] := by
  unfold serverText
  rw [toList_renderSettings, entries_serverSettings]
  rfl

theorem serverText_injective : Function.Injective serverText := by
  intro m n h
  have hlist := congrArg String.toList h
  rw [toList_serverText, toList_serverText, terminated_cons, terminated_cons] at hlist
  have hsetting := List.append_cancel_left (List.append_cancel_right hlist)
  have hname : m.name = n.name := String.toList_inj.mp (List.cons.inj hsetting).2
  cases m <;> cases n <;> first | rfl | exact absurd hname (by decide)

theorem settingOf?_settingText {e : String × String} (h : isConfigKey e.1 = true) :
    settingOf? (settingText e) = some e := by
  obtain ⟨first, rest, heq, hfirst, -⟩ := exists_toList_of_isConfigKey h
  have hcomment : e.1.toList.head? ≠ some '#' := by
    rw [heq, List.head?_cons]
    rintro hhash
    rw [Option.some.inj hhash] at hfirst
    cases hfirst
  have hne : e.1.toList ≠ [] := by
    rw [heq]
    exact List.cons_ne_nil _ _
  exact settingOf?_append hcomment hne (not_mem_of_isConfigKey h (by decide))

theorem break_not_mem_settingText {e : String × String} (h : isConfigKey e.1 = true)
    (hvalue : Unbroken e.2) : '\n' ∉ settingText e := by
  unfold settingText
  rw [List.mem_append, List.mem_cons]
  rintro (hmem | hmem | hmem)
  · exact not_mem_of_isConfigKey h (by decide) hmem
  · exact absurd hmem (by decide)
  · exact hvalue hmem

theorem break_not_mem_restartText {trigger : String} (h : Unbroken trigger) :
    '\n' ∉ restartText trigger := by
  unfold restartText
  rw [List.mem_cons, List.mem_append]
  rintro (hmem | hmem | hmem)
  · exact absurd hmem (by decide)
  · exact absurd hmem (by decide)
  · exact h hmem

/-- **A file of settings is read as it was written**, if no value has a line break. -/
theorem settingsOf_rendered {restart : Option String} {settings : List (String × String)}
    (hrestart : ∀ trigger ∈ restart, Unbroken trigger)
    (hsettings : ∀ e ∈ settings, isConfigKey e.1 = true ∧ Unbroken e.2) :
    settingsOf (terminated '\n' (restart.toList.map restartText ++ settings.map settingText)) =
      settings := by
  have hlines : ∀ line ∈ restart.toList.map restartText ++ settings.map settingText,
      '\n' ∉ line := by
    intro line hline
    rcases List.mem_append.mp hline with hline | hline
    · obtain ⟨trigger, htrigger, rfl⟩ := List.mem_map.mp hline
      exact break_not_mem_restartText (hrestart trigger (Option.mem_toList.mp htrigger))
    · obtain ⟨e, he, rfl⟩ := List.mem_map.mp hline
      exact break_not_mem_settingText (hsettings e he).1 (hsettings e he).2
  have hcomments : restart.toList.filterMap (settingOf? ∘ restartText) = [] :=
    List.filterMap_eq_nil_iff.mpr fun trigger _ => rfl
  have hread : settings.filterMap (settingOf? ∘ settingText) = settings.map id :=
    List.filterMap_eq_map_iff_forall_eq_some.mpr fun e he =>
      settingOf?_settingText (hsettings e he).1
  rw [settingsOf_terminated hlines, List.filterMap_append, List.filterMap_map, List.filterMap_map,
    hcomments, hread, List.map_id, List.nil_append]

/-! ## Lines of a file -/

/-- That a setting has a line of its own in a text: the line begins where the text does, or where
another line has ended. Nothing is asked of the value, so that a line is there can be said whatever
is on it; that a text has none says as much as it can only where no value has line breaks. -/
def HasLine (text key value : String) : Prop :=
  ∃ before after, text = before ++ (key ++ "=" ++ value ++ "\n") ++ after ∧
    (before = "" ∨ ∃ earlier, before = earlier ++ "\n")

/-- A text with a line for a setting is read as having one with its key, although what is read as
the value may end sooner. -/
theorem exists_mem_settingsOf_of_hasLine {text key value : String} (hkey : isConfigKey key = true)
    (h : HasLine text key value) : ∃ read, (key, read) ∈ settingsOf text.toList := by
  obtain ⟨before, after, rfl, hbefore⟩ := h
  have hstart : '\n' ∉ settingText (key, "") :=
    break_not_mem_settingText hkey (show Unbroken "" by decide)
  obtain ⟨line, hline, later, rfl⟩ :=
    exists_mem_linesOf_prefix hstart (value.toList ++ '\n' :: after.toList)
  have hsetting :
      settingOf? (settingText (key, "") ++ later) = some (key, String.ofList later) := by
    have hread := settingOf?_settingText (e := (key, String.ofList later)) hkey
    simpa [settingText] using hread
  refine ⟨String.ofList later, List.mem_filterMap.mpr ⟨_, ?_, hsetting⟩⟩
  rcases hbefore with rfl | ⟨earlier, rfl⟩
  · simpa [settingText] using hline
  · have hmem := List.mem_append_right (linesOf earlier.toList) hline
    rw [← linesOf_append_break] at hmem
    simpa [settingText] using hmem

theorem hasLine_of_mem {settings : SortedMap String} {restart : Option String}
    {key value : String} (h : (key, value) ∈ settings.entries) :
    HasLine (renderSettings settings restart) key value := by
  obtain ⟨earlier, later, hsplit⟩ := List.append_of_mem h
  let before := restart.toList.map restartText ++ earlier.map settingText
  refine ⟨String.ofList (terminated '\n' before),
    String.ofList (terminated '\n' (later.map settingText)), ?_, ?_⟩
  · refine String.toList_inj.mp ?_
    rw [toList_renderSettings, hsplit]
    simp [before, terminated_append, terminated_cons, settingText]
  · rcases List.eq_nil_or_concat before with hnil | ⟨lines, line, hlast⟩
    · exact .inl (by rw [hnil]; rfl)
    · refine .inr ⟨String.ofList (terminated '\n' lines ++ line), String.toList_inj.mp ?_⟩
      rw [hlast]
      simp [terminated]

/-- **A file of settings has no lines but for them**, if no value has a line break. -/
theorem mem_keys_of_hasLine {settings : SortedMap String} {restart : Option String}
    (hrestart : ∀ trigger ∈ restart, Unbroken trigger)
    (hsettings : ∀ e ∈ settings.entries, isConfigKey e.1 = true ∧ Unbroken e.2)
    {key value : String} (hkey : isConfigKey key = true)
    (h : HasLine (renderSettings settings restart) key value) : key ∈ settings.keys := by
  obtain ⟨read, hread⟩ := exists_mem_settingsOf_of_hasLine hkey h
  rw [toList_renderSettings, settingsOf_rendered hrestart hsettings] at hread
  exact SortedMap.mem_keys_of_mem hread

end ClusterOperator
