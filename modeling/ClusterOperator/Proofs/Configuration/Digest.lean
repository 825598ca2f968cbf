import ClusterOperator.Proofs.Configuration.Files

/-!
# What a digest tells

A pass compares digests only. Whether a change of the declaration reaches the servers depends on its
giving another digest:

> **`rendered_of_hash_eq`** — of accepted declarations with one digest, either the bytes of their
> files are a collision of the digest, or their files and constraints are the same, and what they
> make of the user's settings and of the restart too, as far as these have no line breaks.

The files are told apart by the zeros that end them only from the second on: a user's value may have
a zero in it, and so may the shared file. But the name of the first server's file stands there once.

Inside the shared file nothing sets a line break of a value apart from the end of its line, so two
declarations of different settings can render one file (`same_derived_of_broken`).
-/

set_option autoImplicit false

namespace ClusterOperator

open Text

/-- That two messages are different and have one digest. Nothing is assumed of the digest: where
equal digests should mean equal messages, a collision stays as the other case. -/
def Text.Sha256.Collide (a b : List UInt8) : Prop :=
  a ≠ b ∧ Sha256.hexDigest a = Sha256.hexDigest b

/-! ## From bytes to files -/

/-- The names and texts of files, in bytes. -/
def fileFields (files : List (String × String)) : List (List UInt8) :=
  files.flatMap fun file => [file.1.toUTF8.toList, file.2.toUTF8.toList]

theorem fileFields_cons (file : String × String) (files : List (String × String)) :
    fileFields (file :: files) =
      file.1.toUTF8.toList :: file.2.toUTF8.toList :: fileFields files := rfl

theorem filesBytes_eq (files : SortedMap String) :
    filesBytes files = terminated 0 (fileFields files.entries) := by
  unfold filesBytes terminated fileFields
  rw [List.flatMap_assoc]
  simp

theorem terminated_fileFields_cons (file : String × String) (files : List (String × String)) :
    terminated 0 (fileFields (file :: files)) =
      file.1.toUTF8.toList ++ 0 ::
        (file.2.toUTF8.toList ++ 0 :: terminated 0 (fileFields files)) := by
  rw [fileFields_cons, terminated_cons, terminated_cons]

theorem fileFields_injective : Function.Injective fileFields := by
  intro a b h
  induction a generalizing b with
  | nil =>
    cases b with
    | nil => rfl
    | cons file files => cases h
  | cons file files ih =>
    cases b with
    | nil => cases h
    | cons other others =>
      rw [fileFields_cons, fileFields_cons] at h
      obtain ⟨hname, hrest⟩ := List.cons.inj h
      obtain ⟨htext, hfiles⟩ := List.cons.inj hrest
      rw [Prod.ext (toUTF8_inj hname) (toUTF8_inj htext), ih hfiles]

theorem zero_not_mem_serverFile (i : Nat) : '\x00' ∉ (serverFile i).toList := by
  rw [toList_serverFile, List.mem_append, List.mem_append]
  rintro (h | h | h)
  · exact absurd h (by decide)
  · exact absurd (Nat.isDigit_of_mem_toDigits (by decide) (by decide) h) (by decide)
  · exact absurd h (by decide)

theorem zero_not_mem_serverText (mode : Mode) : '\x00' ∉ (serverText mode).toList := by
  rw [toList_serverText]
  cases mode <;> decide

theorem serverText_ne_serverFile (mode : Mode) (i : Nat) : serverText mode ≠ serverFile i := by
  intro h
  have hkey : modeKey.toList = 'i' :: "nitial.server.mode_constraint".toList := rfl
  have hlist := congrArg String.toList h
  rw [toList_serverText, toList_serverFile, terminated_cons, settingText, hkey] at hlist
  exact absurd (List.cons.inj hlist).1 (by decide)

section
variable {t u : Topology} {inputs others : RenderInputs}

/-- The shared file comes first, and then that of the first server. -/
theorem exists_entries_configFiles (inputs : RenderInputs) {first : Mode}
    (h : t.constraints[0]? = some first) :
    ∃ rest, (configFiles t inputs).entries =
        (sharedFile, sharedText t inputs) :: (serverFile 0, serverText first) :: rest ∧
      ∀ e ∈ rest, ∃ i mode, 0 < i ∧ e = (serverFile i, serverText mode) := by
  obtain ⟨servers, hentries⟩ := SortedMap.exists_eq_cons_of_least (configFiles t inputs).ascending
    (mem_configFiles_iff.mpr (.inl rfl)) fun e he => by
      rcases mem_configFiles_iff.mp he with rfl | ⟨i, mode, -, rfl⟩
      · exact .inl rfl
      · exact .inr (sharedFile_lt_serverFile i)
  have hascending := (configFiles t inputs).ascending
  rw [hentries] at hascending
  obtain ⟨hlater, hservers⟩ := List.pairwise_cons.mp hascending
  have hserver : ∀ e ∈ servers, ∃ i mode, e = (serverFile i, serverText mode) := by
    intro e he
    have hmem : e ∈ (configFiles t inputs).entries := hentries ▸ List.mem_cons_of_mem _ he
    rcases mem_configFiles_iff.mp hmem with rfl | ⟨i, mode, -, heq⟩
    · exact absurd (hlater _ he) (String.lt_irrefl _)
    · exact ⟨i, mode, heq⟩
  have hfirst : (serverFile 0, serverText first) ∈ servers := by
    have hmem : (serverFile 0, serverText first) ∈ (configFiles t inputs).entries :=
      mem_serverFile_iff.mpr ⟨first, h, rfl⟩
    rw [hentries] at hmem
    rcases List.mem_cons.mp hmem with heq | hmem
    · exact absurd (congrArg Prod.fst heq) (serverFile_ne_sharedFile 0)
    · exact hmem
  -- Of the servers' names that of the first is the least, although names are compared as texts.
  obtain ⟨rest, rfl⟩ := SortedMap.exists_eq_cons_of_least hservers hfirst fun e he => by
    obtain ⟨i, mode, rfl⟩ := hserver e he
    rcases Nat.eq_zero_or_pos i with rfl | hpos
    · exact .inl rfl
    · exact .inr (serverFile_zero_lt hpos)
  refine ⟨rest, hentries, fun e he => ?_⟩
  obtain ⟨i, mode, rfl⟩ := hserver e (List.mem_cons_of_mem _ he)
  have hlt : serverFile 0 < serverFile i := List.rel_of_pairwise_cons hservers he
  refine ⟨i, mode, Nat.pos_of_ne_zero ?_, rfl⟩
  rintro rfl
  exact String.lt_irrefl _ hlt

/-- The files of servers have no zero, and the name of the first is no other's. -/
theorem marked_of_servers (mode : Mode) {rest : List (String × String)}
    (h : ∀ e ∈ rest, ∃ i mode, 0 < i ∧ e = (serverFile i, serverText mode)) :
    (∀ field ∈ fileFields ((serverFile 0, serverText mode) :: rest), 0 ∉ field) ∧
      (serverFile 0).toUTF8.toList ∉ (serverText mode).toUTF8.toList :: fileFields rest := by
  have hfield : ∀ field ∈ fileFields rest, ∃ i mode, 0 < i ∧
      (field = (serverFile i).toUTF8.toList ∨ field = (serverText mode).toUTF8.toList) := by
    intro field hfield
    obtain ⟨e, he, hmem⟩ := List.mem_flatMap.mp hfield
    obtain ⟨i, mode, hpos, rfl⟩ := h e he
    simp only [List.mem_cons, List.not_mem_nil, or_false] at hmem
    exact ⟨i, mode, hpos, hmem⟩
  have hname : ∀ i, 0 ∉ (serverFile i).toUTF8.toList := fun i =>
    zero_not_mem_toUTF8 (zero_not_mem_serverFile i)
  have htext : ∀ mode, 0 ∉ (serverText mode).toUTF8.toList := fun mode =>
    zero_not_mem_toUTF8 (zero_not_mem_serverText mode)
  have hne : ∀ mode, (serverFile 0).toUTF8.toList ≠ (serverText mode).toUTF8.toList :=
    fun mode heq => serverText_ne_serverFile mode 0 (toUTF8_inj heq).symm
  -- A field is a name or a text, of the first server or of a later one; the names differ by their
  -- numbers and the texts are no names.
  constructor
  · intro field hmem
    rw [fileFields_cons] at hmem
    rcases List.mem_cons.mp hmem with rfl | hmem
    · exact hname 0
    rcases List.mem_cons.mp hmem with rfl | hmem
    · exact htext mode
    obtain ⟨i, other, -, rfl | rfl⟩ := hfield field hmem
    · exact hname i
    · exact htext other
  · intro hmem
    rcases List.mem_cons.mp hmem with heq | hmem
    · exact hne mode heq
    obtain ⟨i, other, hpos, heq | heq⟩ := hfield _ hmem
    · exact Nat.ne_of_lt hpos (serverFile_injective (toUTF8_inj heq))
    · exact hne other heq

/-- **The bytes of the files tell the files.** -/
theorem configFiles_eq_of_bytes (ht : t.constraints ≠ []) (hu : u.constraints ≠ [])
    (h : filesBytes (configFiles t inputs) = filesBytes (configFiles u others)) :
    configFiles t inputs = configFiles u others := by
  have hfirst : ∀ {t : Topology}, t.constraints ≠ [] → ∃ mode, t.constraints[0]? = some mode :=
    fun hne => ⟨_, List.getElem?_eq_getElem (List.length_pos_iff.mpr hne)⟩
  obtain ⟨first, hmode⟩ := hfirst ht
  obtain ⟨other, hmode'⟩ := hfirst hu
  obtain ⟨rest, heq, hrest⟩ := exists_entries_configFiles inputs hmode
  obtain ⟨rest', heq', hrest'⟩ := exists_entries_configFiles others hmode'
  obtain ⟨hzero, hmark⟩ := marked_of_servers first hrest
  obtain ⟨hzero', hmark'⟩ := marked_of_servers other hrest'
  rw [filesBytes_eq, filesBytes_eq, heq, heq',
    terminated_fileFields_cons (sharedFile, sharedText t inputs),
    terminated_fileFields_cons (sharedFile, sharedText u others)] at h
  -- The shared text may have zeros, so its end is found by what follows, which is there once.
  have htail := (List.cons.inj (List.append_cancel_left h)).2
  obtain ⟨hbytes, hfields⟩ := append_marked_inj hzero hzero' hmark hmark' htail
  have htext : sharedText t inputs = sharedText u others := toUTF8_inj hbytes
  have hservers : (serverFile 0, serverText first) :: rest =
      (serverFile 0, serverText other) :: rest' := by
    refine fileFields_injective ?_
    rw [fileFields_cons, fileFields_cons]
    exact congrArg _ hfields
  refine SortedMap.ext_entries ?_
  rw [heq, heq', htext, hservers]

/-! ## From files to what they are made of -/

theorem constraints_eq_of_configFiles (h : configFiles t inputs = configFiles u others) :
    t.constraints = u.constraints := by
  have hmode : ∀ (t : Topology) (inputs : RenderInputs) (i : Nat) (mode : Mode),
      t.constraints[i]? = some mode ↔
        (serverFile i, serverText mode) ∈ (configFiles t inputs).entries := by
    intro t inputs i mode
    rw [mem_serverFile_iff]
    constructor
    · intro hmode
      exact ⟨mode, hmode, rfl⟩
    · rintro ⟨other, hother, heq⟩
      rw [serverText_injective heq]
      exact hother
  refine List.ext_getElem? fun i => Option.ext fun mode => ?_
  rw [hmode t inputs, hmode u others, h]

theorem sharedText_eq_of_configFiles (h : configFiles t inputs = configFiles u others) :
    sharedText t inputs = sharedText u others := by
  have hfind := @find?_sharedFile t inputs
  rw [h, find?_sharedFile] at hfind
  exact (Option.some.inj hfind).symm

end

section
variable {settings others : List (String × String)}

/-- **The lines of settings tell the settings**, if each value is on both sides the same or has no
line break. -/
theorem settings_eq_of_lines (hkeys : ∀ e ∈ settings, isConfigKey e.1 = true)
    (hkeys' : ∀ e ∈ others, isConfigKey e.1 = true)
    (hvalues : ∀ e ∈ settings, ∀ e' ∈ others, e.1 = e'.1 →
      e.2 = e'.2 ∨ Unbroken e.2 ∧ Unbroken e'.2)
    (h : terminated '\n' (settings.map settingText) = terminated '\n' (others.map settingText)) :
    settings = others := by
  induction settings generalizing others with
  | nil =>
    cases others with
    | nil => rfl
    | cons other others => simp [terminated] at h
  | cons setting settings ih =>
    cases others with
    | nil => simp [terminated] at h
    | cons other others =>
      obtain ⟨hkey, hkeys⟩ := List.forall_mem_cons.mp hkeys
      obtain ⟨hkey', hkeys'⟩ := List.forall_mem_cons.mp hkeys'
      rw [List.map_cons, List.map_cons, terminated_cons, terminated_cons, settingText, settingText,
        List.append_assoc, List.append_assoc, List.cons_append, List.cons_append] at h
      -- No key has an equals sign, so the first one ends the key.
      obtain ⟨hname, hrest⟩ := append_cons_inj (not_mem_of_isConfigKey hkey (by decide))
        (not_mem_of_isConfigKey hkey' (by decide)) h
      have hsame := String.toList_inj.mp hname
      have hline : setting.2 = other.2 ∧ terminated '\n' (settings.map settingText) =
          terminated '\n' (others.map settingText) := by
        rcases hvalues _ List.mem_cons_self _ List.mem_cons_self hsame with heq | ⟨hfree, hfree'⟩
        · rw [heq] at hrest
          exact ⟨heq, (List.cons.inj (List.append_cancel_left hrest)).2⟩
        · obtain ⟨hvalue, htail⟩ := append_cons_inj hfree hfree' hrest
          exact ⟨String.toList_inj.mp hvalue, htail⟩
      rw [Prod.ext hsame hline.1, ih hkeys hkeys' (fun e he e' he' =>
        hvalues e (List.mem_cons_of_mem _ he) e' (List.mem_cons_of_mem _ he')) hline.2]

theorem lines_ne_comment (hkeys : ∀ e ∈ settings, isConfigKey e.1 = true) (rest : List Char) :
    terminated '\n' (settings.map settingText) ≠ '#' :: rest := by
  intro h
  cases settings with
  | nil => simp [terminated] at h
  | cons setting settings =>
    obtain ⟨first, others, heq, hfirst, -⟩ :=
      exists_toList_of_isConfigKey (hkeys setting List.mem_cons_self)
    rw [List.map_cons, terminated_cons, settingText, heq] at h
    rw [(List.cons.inj h).1] at hfirst
    cases hfirst

end

theorem renderSettings_inj {settings others : SortedMap String} {restart restart' : Option String}
    (hkeys : ∀ e ∈ settings.entries, isConfigKey e.1 = true)
    (hkeys' : ∀ e ∈ others.entries, isConfigKey e.1 = true)
    (hvalues : ∀ e ∈ settings.entries, ∀ e' ∈ others.entries, e.1 = e'.1 →
      e.2 = e'.2 ∨ Unbroken e.2 ∧ Unbroken e'.2)
    (hrestart : ∀ trigger ∈ restart, Unbroken trigger)
    (hrestart' : ∀ trigger ∈ restart', Unbroken trigger)
    (h : renderSettings settings restart = renderSettings others restart') :
    settings = others ∧ restart = restart' := by
  have hlist := congrArg String.toList h
  rw [toList_renderSettings, toList_renderSettings] at hlist
  have hcomment : ∀ (trigger : String) (lines : List (List Char)),
      terminated '\n' (restartText trigger :: lines) =
        '#' :: (" restart-requested-at=".toList ++
          (trigger.toList ++ '\n' :: terminated '\n' lines)) :=
    fun trigger lines => by rw [terminated_cons, restartText, List.cons_append, List.append_assoc]
  have hsame : terminated '\n' (settings.entries.map settingText) =
      terminated '\n' (others.entries.map settingText) → settings = others := fun hlines =>
    SortedMap.ext_entries (settings_eq_of_lines hkeys hkeys' hvalues hlines)
  -- A file begins with the comment exactly if a restart was asked for, since no key begins like
  -- one.
  cases restart with
  | none =>
    cases restart' with
    | none => exact ⟨hsame hlist, rfl⟩
    | some trigger =>
      rw [Option.toList_some, List.map_singleton, List.singleton_append, hcomment] at hlist
      exact absurd hlist (lines_ne_comment hkeys _)
  | some trigger =>
    rw [Option.toList_some, List.map_singleton, List.singleton_append, hcomment] at hlist
    cases restart' with
    | none => exact absurd hlist.symm (lines_ne_comment hkeys' _)
    | some trigger' =>
      rw [Option.toList_some, List.map_singleton, List.singleton_append, hcomment] at hlist
      obtain ⟨htrigger, hlines⟩ := append_cons_inj (hrestart trigger rfl) (hrestart' trigger' rfl)
        (List.append_cancel_left (List.cons.inj hlist).2)
      exact ⟨hsame hlines, congrArg some (String.toList_inj.mp htrigger)⟩

section
variable {inputs others : RenderInputs} {deployment : Deployment}

/-- The user's settings are the shared ones whose keys are not reserved. -/
theorem mem_userConfig_iff (hproper : ProperKeys inputs.userConfig) {e : String × String} :
    e ∈ inputs.userConfig.entries ↔
      e ∈ (sharedSettings deployment inputs).entries ∧ e.1 ∉ reservedKeys := by
  rw [mem_sharedSettings_iff hproper]
  constructor
  · intro huser
    exact ⟨.inr huser, (hproper e.1 (SortedMap.mem_keys_of_mem huser)).2⟩
  · rintro ⟨hown | huser, hfree⟩
    · exact absurd (operatorSettings_reserved hown) hfree
    · exact huser

/-- **A shared file without line breaks tells the user's settings.** -/
theorem userConfig_eq_of_text (hproper : ProperKeys inputs.userConfig)
    (hproper' : ProperKeys others.userConfig)
    (hown : operatorSettings deployment inputs = operatorSettings deployment others)
    (hfree : inputs.Unbroken) (hfree' : others.Unbroken)
    (h : renderSettings (sharedSettings deployment inputs) inputs.restart =
      renderSettings (sharedSettings deployment others) others.restart) :
    inputs.userConfig = others.userConfig ∧ inputs.restart = others.restart := by
  have hvalues : ∀ e ∈ (sharedSettings deployment inputs).entries,
      ∀ e' ∈ (sharedSettings deployment others).entries, e.1 = e'.1 →
        e.2 = e'.2 ∨ Unbroken e.2 ∧ Unbroken e'.2 := by
    intro e he e' he' hname
    rcases (mem_sharedSettings_iff hproper).mp he with hope | huser
    · -- The operator's value is there on both sides, and a key has one value.
      rw [hown] at hope
      have hmem : (e'.1, e.2) ∈ (sharedSettings deployment others).entries :=
        hname ▸ (mem_sharedSettings_iff hproper').mpr (.inl hope)
      exact .inl (SortedMap.value_unique hmem he')
    · have hfreed : e'.1 ∉ reservedKeys :=
        hname ▸ (hproper e.1 (SortedMap.mem_keys_of_mem huser)).2
      have huser' : e' ∈ others.userConfig.entries :=
        (mem_userConfig_iff hproper').mpr ⟨he', hfreed⟩
      exact .inr ⟨hfree.values e huser, hfree'.values e' huser'⟩
  obtain ⟨hshared, hrestart⟩ := renderSettings_inj
    (fun e => isConfigKey_of_mem_sharedSettings hproper)
    (fun e => isConfigKey_of_mem_sharedSettings hproper') hvalues hfree.restart hfree'.restart h
  refine ⟨SortedMap.ext_mem fun e => ?_, hrestart⟩
  rw [@mem_userConfig_iff inputs deployment hproper, hshared, ← mem_userConfig_iff hproper']

end

/-! ## From the digest to the declaration -/

section
variable {c d : ClusterSpec} {running running' : Option String} {t u : Topology}

theorem ClusterSpec.Accepted.constraints_ne_nil (h : c.Accepted running t) :
    t.constraints ≠ [] := by
  have hlength := h.length_constraints
  have hbounds := h.servers_bounds
  refine List.ne_nil_of_length_pos ?_
  omega

theorem ClusterSpec.Accepted.topology_eq (h : c.Accepted running t) (h' : d.Accepted running' u)
    (hsame : t.constraints = u.constraints) : t = u := by
  obtain ⟨deployment, constraints⟩ := t
  obtain ⟨deployment', constraints'⟩ := u
  obtain rfl : constraints = constraints' := hsame
  obtain rfl : deployment = .ofConstraints constraints := h.deployment
  obtain rfl : deployment' = .ofConstraints constraints := h'.deployment
  rfl

/-- **One digest is one configuration.** Declarations of one cluster that are accepted and give one
digest give the same constraints and files, unless their files are a collision; and without line
breaks in what the user writes, the user's settings and the restart asked for are the same. -/
theorem rendered_of_hash_eq {name «namespace» : String} {restart restart' : Option String}
    (hc : validateSpec c running = .ok t) (hd : validateSpec d running' = .ok u)
    (hhash : (deriveConfig t (c.renderInputs name «namespace» restart)).hash =
      (deriveConfig u (d.renderInputs name «namespace» restart')).hash) :
    Sha256.Collide (filesBytes (configFiles t (c.renderInputs name «namespace» restart)))
        (filesBytes (configFiles u (d.renderInputs name «namespace» restart'))) ∨
      t.constraints = u.constraints ∧
        configFiles t (c.renderInputs name «namespace» restart) =
          configFiles u (d.renderInputs name «namespace» restart') ∧
        ((c.renderInputs name «namespace» restart).Unbroken →
          (d.renderInputs name «namespace» restart').Unbroken →
            c.config = d.config ∧ restart = restart') := by
  have haccepted := validateSpec_eq_ok_iff.mp hc
  have haccepted' := validateSpec_eq_ok_iff.mp hd
  -- With one digest, different bytes are a collision and the same bytes tell the files.
  by_cases hbytes : filesBytes (configFiles t (c.renderInputs name «namespace» restart)) =
      filesBytes (configFiles u (d.renderInputs name «namespace» restart'))
  · have hfiles := configFiles_eq_of_bytes haccepted.constraints_ne_nil
      haccepted'.constraints_ne_nil hbytes
    have hconstraints := constraints_eq_of_configFiles hfiles
    refine .inr ⟨hconstraints, hfiles, fun hfree hfree' => ?_⟩
    obtain rfl := haccepted.topology_eq haccepted' hconstraints
    have htext := sharedText_eq_of_configFiles hfiles
    have hown : operatorSettings t.deployment (c.renderInputs name «namespace» restart) =
        operatorSettings t.deployment (d.renderInputs name «namespace» restart') := rfl
    exact userConfig_eq_of_text haccepted.properKeys haccepted'.properKeys hown hfree hfree' htext
  · exact .inl ⟨hbytes, hhash⟩

end

/-- One server with settings of the user's. -/
def soloSpec (mode : Mode) (hints : List RoleHint) (settings : List (String × String)) :
    ClusterSpec :=
  { servers := 1, mode, roleHints := hints, config := .ofList settings }

/-- A constraint may be said of the cluster or of its server: that is one configuration. -/
theorem rendered_of_hash_eq_hinted :
    validateSpec (soloSpec .primary [] [("db.a", "1")]) none = .ok ⟨.standalone, [.primary]⟩ ∧
      validateSpec (soloSpec .unrestricted [⟨0, "PRIMARY"⟩] [("db.a", "1")]) none =
        .ok ⟨.standalone, [.primary]⟩ ∧
      (soloSpec .primary [] [("db.a", "1")]).config =
        (soloSpec .unrestricted [⟨0, "PRIMARY"⟩] [("db.a", "1")]).config := by
  have hprimary : validateSpec (soloSpec .primary [] [("db.a", "1")]) none =
      .ok ⟨.standalone, [.primary]⟩ := by decide +kernel
  have hhinted : validateSpec (soloSpec .unrestricted [⟨0, "PRIMARY"⟩] [("db.a", "1")]) none =
      .ok ⟨.standalone, [.primary]⟩ := by decide +kernel
  have hfree : ∀ mode hints,
      ((soloSpec mode hints [("db.a", "1")]).renderInputs "db" "data" none).Unbroken := by
    intro mode hints
    refine ⟨fun e he => ?_, fun trigger h => nomatch h⟩
    rw [List.mem_singleton.mp he]
    decide
  refine ⟨hprimary, hhinted, ?_⟩
  rcases @rendered_of_hash_eq _ _ none none _ _ "db" "data" none none hprimary hhinted rfl with
    hcollide | ⟨-, -, hsame⟩
  · exact absurd rfl hcollide.1
  · exact (hsame (hfree _ _) (hfree _ _)).1

/-- **A line break in a value hides a change**: what it continues with is read as another setting,
and that setting alone gives the same file. -/
theorem same_derived_of_broken :
    validateSpec (soloSpec .unrestricted [] [("db.a", "1\ndb.b=2")]) none =
        .ok ⟨.standalone, [.unrestricted]⟩ ∧
      validateSpec (soloSpec .unrestricted [] [("db.a", "1"), ("db.b", "2")]) none =
        .ok ⟨.standalone, [.unrestricted]⟩ ∧
      deriveConfig ⟨.standalone, [.unrestricted]⟩
          ((soloSpec .unrestricted [] [("db.a", "1\ndb.b=2")]).renderInputs "db" "data" none) =
        deriveConfig ⟨.standalone, [.unrestricted]⟩
          ((soloSpec .unrestricted [] [("db.a", "1"), ("db.b", "2")]).renderInputs
            "db" "data" none) ∧
      (soloSpec .unrestricted [] [("db.a", "1\ndb.b=2")]).config ≠
        (soloSpec .unrestricted [] [("db.a", "1"), ("db.b", "2")]).config := by
  have hfiles : configFiles ⟨.standalone, [.unrestricted]⟩
        ((soloSpec .unrestricted [] [("db.a", "1\ndb.b=2")]).renderInputs "db" "data" none) =
      configFiles ⟨.standalone, [.unrestricted]⟩
        ((soloSpec .unrestricted [] [("db.a", "1"), ("db.b", "2")]).renderInputs
          "db" "data" none) := by decide +kernel
  refine ⟨by decide +kernel, by decide +kernel, ?_, by decide⟩
  unfold deriveConfig
  rw [hfiles]

end ClusterOperator
