import ClusterOperator.Admin.Exchange
import ClusterOperator.Proofs.Membership.Health
import ClusterOperator.Proofs.Text.Lines
import ClusterOperator.Proofs.Text.Numerals
import ClusterOperator.Proofs.Upgrade.Planning

/-!
# A complete cluster is recognised

Between the names of the pods and the verdict on their membership there is a long way: a server
reports the addresses of the servers that it knows, the pods are read off the addresses, the pods
make up a view, and the views make up classes. On all of it nothing gets lost:

> **`recognises_of_complete`** — if every server of a cluster reports every server as available, at
> the host name of its pod, the cluster is healthy, and its one class is all of its pods in the
> order of their ordinals; if one of them does not report another at any address, the cluster is not
> healthy.

What else is in a table does not matter: other columns and rows, the order of both, ports, and cells
that hold no text.
-/

set_option autoImplicit false

namespace ClusterOperator

/-! ## Addresses of pods -/

/-- Whether a character may stand in the name of a pod, as far as addresses are concerned. -/
def isNameChar (c : Char) : Bool := c != ':' && c != '.'

/-- A name that can be read off an address. -/
structure Addressable (name : String) : Prop where
  nonempty : name ≠ ""
  unbroken : ∀ c ∈ name.toList, isNameChar c = true

/-- An address of a pod is its name, alone or with a domain or a port after it. What follows the
name is not looked at, so an address in another domain names the pod as well. -/
inductive IsAddressOf (pod : String) : String → Prop
  | bare : IsAddressOf pod pod
  | inDomain (domain : String) : IsAddressOf pod (pod ++ "." ++ domain)
  | atPort (port : String) : IsAddressOf pod (pod ++ ":" ++ port)

section
variable {pod address : String}

theorem podOfAddress_of_toList (rest : List Char) (hpod : Addressable pod)
    (h : address.toList = pod.toList ++ rest) (hrest : rest.takeWhile isNameChar = []) :
    podOfAddress address = pod := by
  have hname : (address.toList.takeWhile fun c => c != ':' && c != '.') = pod.toList := by
    show address.toList.takeWhile isNameChar = _
    rw [h, List.takeWhile_append_of_pos hpod.unbroken, hrest, List.append_nil]
  have hnonempty : pod.toList.isEmpty = false := by
    rw [List.isEmpty_eq_false_iff]
    exact fun hnil => hpod.nonempty (String.toList_eq_nil_iff.mp hnil)
  unfold podOfAddress podOfAddress?
  simp only [hname, hnonempty, Bool.false_eq_true, if_false, String.ofList_toList, Option.getD_some]

theorem IsAddressOf.podOfAddress_eq (hpod : Addressable pod) (h : IsAddressOf pod address) :
    podOfAddress address = pod := by
  cases h with
  | bare => exact podOfAddress_of_toList [] hpod (List.append_nil _).symm rfl
  | inDomain domain =>
    refine podOfAddress_of_toList ('.' :: domain.toList) hpod ?_ rfl
    simp
  | atPort port =>
    refine podOfAddress_of_toList (':' :: port.toList) hpod ?_ rfl
    simp

/-- **A pod is read off its addresses only.** -/
theorem podOfAddress_eq_iff (hpod : Addressable pod) (hknown : pod ≠ "unknown") :
    podOfAddress address = pod ↔ IsAddressOf pod address := by
  refine ⟨fun h => ?_, fun h => h.podOfAddress_eq hpod⟩
  have hname : address.toList.takeWhile isNameChar = pod.toList := by
    unfold podOfAddress podOfAddress? at h
    dsimp only at h
    split at h
    · exact absurd h.symm hknown
    · rw [← h, Option.getD_some, String.toList_ofList]
      rfl
  have hsplit : address.toList = pod.toList ++ address.toList.dropWhile isNameChar := by
    rw [← hname, List.takeWhile_append_dropWhile]
  -- What is left of the address after the name begins with one of the two signs that end a name, or
  -- is empty.
  cases hrest : address.toList.dropWhile isNameChar with
  | nil =>
    rw [hrest, List.append_nil] at hsplit
    rw [String.toList_injective hsplit]
    exact .bare
  | cons c rest =>
    have hends := List.head?_dropWhile_not isNameChar address.toList
    rw [hrest] at hsplit hends
    have hc : c = ':' ∨ c = '.' := by
      simpa [isNameChar, Classical.or_iff_not_imp_left] using hends
    have haddress : address = pod ++ String.singleton c ++ String.ofList rest := by
      apply String.toList_injective
      simp [hsplit]
    rw [haddress]
    rcases hc with rfl | rfl
    · exact .atPort _
    · exact .inDomain _

end

/-! ## The names and hosts of pods -/

section
variable {name «namespace» pod address : String} {i : Ordinal}

/-- A pod's name ends with the digits of its ordinal, after a hyphen. -/
theorem toList_podName (name : String) (hi : 0 ≤ i) :
    ∃ n : Nat, i = Int32.ofNat n ∧ n ≤ 2147483647 ∧
      (podName name i).toList = name.toList ++ '-' :: Nat.toDigits 10 n := by
  obtain ⟨n, hn⟩ : ∃ n : Nat, i.toInt = n := Int.eq_ofNat_of_zero_le (Int32.le_iff_toInt_le.mp hi)
  have hbound := Int32.toInt_lt i
  refine ⟨n, ?_, by omega, ?_⟩
  · rw [← Int32.toInt_inj, Int32.toInt_ofNat_of_lt (by omega), hn]
  · unfold podName
    rw [hn, String.toList_append, String.toList_append, List.append_assoc]
    exact congrArg (name.toList ++ '-' :: ·) (Text.toList_toString n)

/-- **The ordinal of a pod is read off its name.** -/
theorem ordinalOf?_podName (hi : 0 ≤ i) : ordinalOf? (podName name i) = some i := by
  obtain ⟨n, rfl, hn, hname⟩ := toList_podName name hi
  have hdigits : ∀ c ∈ (Nat.toDigits 10 n).reverse, (c != '-') = true := by
    intro c hc
    refine bne_iff_ne.mpr fun heq => ?_
    exact Text.not_mem_toDigits (c := '-') (by decide) (List.mem_reverse.mp (heq ▸ hc))
  have hlast : afterLastHyphen? (podName name (Int32.ofNat n)).toList =
      some (Nat.toDigits 10 n) := by
    unfold afterLastHyphen?
    rw [hname, if_pos (by simp), List.reverse_append, List.reverse_cons, List.append_assoc,
      List.takeWhile_append_of_pos hdigits]
    simp
  unfold ordinalOf?
  rw [hlast, Option.bind_some, Text.intUpTo_toDigits hn]
  rfl

theorem podName_ne_unknown (hi : 0 ≤ i) : podName name i ≠ "unknown" := by
  obtain ⟨n, -, -, hname⟩ := toList_podName name hi
  intro heq
  have hhyphen : '-' ∈ "unknown".toList := by
    rw [← heq, hname]
    simp
  exact absurd hhyphen (by decide)

theorem Addressable.podName (h : Addressable name) (hi : 0 ≤ i) :
    Addressable (podName name i) := by
  obtain ⟨n, -, -, hname⟩ := toList_podName name hi
  refine ⟨fun hempty => ?_, fun c hc => ?_⟩
  · rw [hempty] at hname
    simp at hname
  · rw [hname, List.mem_append, List.mem_cons] at hc
    rcases hc with hc | rfl | hc
    · exact h.unbroken c hc
    · decide
    · have hdigit := Text.isDigit_of_mem_toDigits hc
      have hne (sign : Char) (hsign : sign.isDigit = false) : c ≠ sign := by
        rintro rfl
        cases hsign.symm.trans hdigit
      simp [isNameChar, hne ':' (by decide), hne '.' (by decide)]

/-- An address of a pod that the cluster itself uses: its host name, maybe with a port. -/
inductive IsHostOf (name «namespace» pod : String) : String → Prop
  | host : IsHostOf name «namespace» pod (podHostIn name «namespace» pod)
  | atPort (port : String) :
    IsHostOf name «namespace» pod (podHostIn name «namespace» pod ++ ":" ++ port)

theorem IsHostOf.isAddressOf (h : IsHostOf name «namespace» pod address) :
    IsAddressOf pod address := by
  have hdomain (rest : String) : IsAddressOf pod (podHostIn name «namespace» pod ++ rest) := by
    have heq : podHostIn name «namespace» pod ++ rest = pod ++ "." ++
        (headlessServiceName name ++ "." ++ «namespace» ++ ".svc.cluster.local" ++ rest) := by
      simp only [podHostIn, String.append_assoc]
    rw [heq]
    exact .inDomain _
  cases h with
  | host => simpa using hdomain ""
  | atPort port => simpa [String.append_assoc] using hdomain (":" ++ port)

end

/-! ## Views in tables -/

namespace QueryTable

/-- That a row says of a server at an address that it is in some health. -/
def Reports (t : QueryTable) (address health : String) : Prop :=
  ∃ row ∈ t.rows, ∃ i j : Nat, t.columns[i]? = some "address" ∧ t.columns[j]? = some "health" ∧
    row[i]? = some (Json.str address) ∧ row[j]? = some (Json.str health)

/-- That a server is reported as available at an address. -/
def Lists (t : QueryTable) (address : String) : Prop :=
  ∃ health, t.Reports address health ∧ sameLetters health "available" = true

/-- That the columns for the address and the health are there, each once. A column is found by its
name, and the first of that name counts. -/
structure HasColumns (t : QueryTable) : Prop where
  address : t.columns.count "address" = 1
  health : t.columns.count "health" = 1

variable {t : QueryTable} {name pod address : String} {seen : List String} {i j : Nat}

theorem getElem?_of_column (h : t.column name = .ok i) : t.columns[i]? = some name := by
  unfold column at h
  split at h
  · rename_i k hk
    cases h
    obtain ⟨hlt, hname, -⟩ := List.findIdx?_eq_some_iff_getElem.mp hk
    rw [List.getElem?_eq_getElem hlt, beq_iff_eq.mp hname]
  · cases h

theorem column_eq_ok (hcount : t.columns.count name = 1) (hi : t.columns[i]? = some name) :
    t.column name = .ok i := by
  obtain ⟨hlt, hname⟩ := List.getElem?_eq_some_iff.mp hi
  have hfound : t.columns.findIdx? (· == name) = some i := by
    refine List.findIdx?_eq_some_iff_getElem.mpr ⟨hlt, beq_iff_eq.mpr hname, fun j hj => ?_⟩
    -- If the name stood before, it would be there twice.
    intro hsame
    have hbefore : name ∈ t.columns.take i :=
      List.mem_take_iff_getElem.mpr ⟨j, by omega, beq_iff_eq.mp hsame⟩
    have hafter : name ∈ t.columns.drop i := by
      rw [List.drop_eq_getElem_cons hlt, hname]
      exact List.mem_cons_self
    have htwice := congrArg (List.count name) (List.take_append_drop i t.columns)
    have := List.count_pos_iff.mpr hbefore
    have := List.count_pos_iff.mpr hafter
    rw [List.count_append] at htwice
    omega
  unfold column
  rw [hfound]

theorem cell_eq {row : List Json} {text : String} (h : row[i]? = some (Json.str text)) :
    cell row i = text := by
  unfold cell
  rw [h]
  rfl

theorem getElem?_of_cell {row : List Json} (h : cell row i ≠ "") :
    row[i]? = some (Json.str (cell row i)) := by
  unfold cell at h ⊢
  generalize row[i]? = value at h ⊢
  cases value with
  | none => exact absurd rfl h
  | some json =>
    cases json with
    | str text => rfl
    | _ => exact absurd rfl h

theorem mem_insertName {first : String} {names : List String} :
    name ∈ insertName first names ↔ name = first ∨ name ∈ names := by
  induction names with
  | nil => simp [insertName]
  | cons other rest ih =>
    unfold insertName
    split
    · exact List.mem_cons
    · split
      · rename_i heq
        simp [heq]
      · rw [List.mem_cons, ih, List.mem_cons]
        tauto

theorem mem_sortedNames {names : List String} : name ∈ sortedNames names ↔ name ∈ names := by
  induction names with
  | nil => exact Iff.rfl
  | cons first rest ih =>
    show name ∈ insertName first (sortedNames rest) ↔ _
    rw [mem_insertName, ih, List.mem_cons]

/-- The view in a table whose columns are found. -/
theorem serverView_eq (hi : t.column "address" = .ok i) (hj : t.column "health" = .ok j) :
    t.serverView pod = .ok (sortedNames (pod ::
      (((t.rows.map fun row => (cell row i, cell row j)).filter fun server =>
        sameLetters server.2 "available").map (podOfAddress ·.1)).filter (· != "unknown"))) := by
  unfold serverView texts
  rw [hi, hj, ← List.zip_map']
  rfl

theorem columns_of_serverView (h : t.serverView pod = .ok seen) :
    ∃ i j, t.column "address" = .ok i ∧ t.column "health" = .ok j := by
  unfold serverView texts at h
  cases hi : t.column "address" with
  | error fault => rw [hi] at h; cases h
  | ok i =>
    cases hj : t.column "health" with
    | error fault => rw [hi, hj] at h; cases h
    | ok j => exact ⟨i, j, rfl, rfl⟩

/-- **What a server sees**: itself, and the servers at the addresses that it reports as
available. -/
theorem mem_serverView_iff (hi : t.column "address" = .ok i) (hj : t.column "health" = .ok j)
    (h : t.serverView pod = .ok seen) :
    name ∈ seen ↔ name = pod ∨ name ≠ "unknown" ∧ ∃ row ∈ t.rows,
      sameLetters (cell row j) "available" = true ∧ podOfAddress (cell row i) = name := by
  rw [serverView_eq hi hj] at h
  rw [← Except.ok.inj h, mem_sortedNames, List.mem_cons, List.mem_filter, bne_iff_ne]
  refine or_congr_right (and_comm.trans (and_congr_right fun _ => ?_))
  simp only [List.mem_map, List.mem_filter]
  constructor
  · rintro ⟨_, ⟨⟨row, hrow, rfl⟩, hhealth⟩, hname⟩
    exact ⟨row, hrow, hhealth, hname⟩
  · rintro ⟨row, hrow, hhealth, hname⟩
    exact ⟨_, ⟨⟨row, hrow, rfl⟩, hhealth⟩, hname⟩

/-- A server that another sees is reported by it as available. -/
theorem exists_lists_of_mem (hname : Addressable name) (hknown : name ≠ "unknown")
    (h : t.serverView pod = .ok seen) (hmem : name ∈ seen) (hother : name ≠ pod) :
    ∃ address, t.Lists address ∧ IsAddressOf name address := by
  obtain ⟨i, j, hi, hj⟩ := columns_of_serverView h
  obtain ⟨-, row, hrow, hhealth, haddress⟩ :=
    ((mem_serverView_iff hi hj h).mp hmem).resolve_left hother
  -- A cell with no text in it is neither an address nor a health.
  have hi' : cell row i ≠ "" := by
    intro hempty
    rw [hempty] at haddress
    exact hknown haddress.symm
  have hj' : cell row j ≠ "" := by
    intro hempty
    rw [hempty] at hhealth
    exact absurd hhealth (by decide)
  refine ⟨cell row i, ⟨cell row j, ⟨row, hrow, i, j, getElem?_of_column hi,
    getElem?_of_column hj, getElem?_of_cell hi', getElem?_of_cell hj'⟩, hhealth⟩, ?_⟩
  exact (podOfAddress_eq_iff hname hknown).mp haddress

/-- A table with the columns has a view, in which are the servers that are reported as available. -/
theorem exists_serverView (hcolumns : t.HasColumns) (pod : String) :
    ∃ seen, t.serverView pod = .ok seen ∧ ∀ name address, Addressable name → name ≠ "unknown" →
      t.Lists address → IsAddressOf name address → name ∈ seen := by
  have hplace (name : String) (hcount : t.columns.count name = 1) : ∃ i, t.column name = .ok i := by
    obtain ⟨i, hi⟩ := List.getElem?_of_mem (List.count_pos_iff.mp (hcount ▸ Nat.one_pos))
    exact ⟨i, column_eq_ok hcount hi⟩
  obtain ⟨i, hi⟩ := hplace "address" hcolumns.address
  obtain ⟨j, hj⟩ := hplace "health" hcolumns.health
  refine ⟨_, serverView_eq hi hj, fun name address hname hknown hlists haddress => ?_⟩
  obtain ⟨health, ⟨row, hrow, i', j', hi', hj', hat, hin⟩, havailable⟩ := hlists
  cases hi.symm.trans (column_eq_ok hcolumns.address hi')
  cases hj.symm.trans (column_eq_ok hcolumns.health hj')
  refine (mem_serverView_iff hi hj (serverView_eq hi hj)).mpr (.inr ⟨hknown, row, hrow, ?_, ?_⟩)
  · rw [cell_eq hin, havailable]
  · rw [cell_eq hat, haddress.podOfAddress_eq hname]

end QueryTable

/-! ## Views from answers -/

theorem ProbeOutcome.value?_eq_some_iff {α : Type} {outcome : ProbeOutcome α} {value : α} :
    outcome.value? = some value ↔ outcome = .answered value := by
  cases outcome <;> simp [value?]

theorem sublist_map_filterMap {α : Type} (outcomes : ProbeOutcomes α) :
    ((outcomes.filterMap fun o => o.2.value?.map (o.1, ·)).map (·.1)).Sublist
      (outcomes.map (·.1)) := by
  induction outcomes with
  | nil => exact .slnil
  | cons o rest ih =>
    rw [List.filterMap_cons]
    cases o.2.value? with
    | none => exact ih.cons _
    | some value => exact ih.cons_cons _

/-- Where every server is asked once, no answer is overwritten by another. -/
theorem mem_collectAnswers_iff {α : Type} {outcomes : ProbeOutcomes α} {e : String × α}
    (h : (outcomes.map (·.1)).Nodup) :
    e ∈ (collectAnswers outcomes).entries ↔ (e.1, .answered e.2) ∈ outcomes := by
  rw [collectAnswers, SortedMap.mem_ofList_iff ((sublist_map_filterMap outcomes).nodup h),
    List.mem_filterMap]
  simp only [Option.map_eq_some_iff, ProbeOutcome.value?_eq_some_iff]
  constructor
  · rintro ⟨⟨name, _⟩, hmem, value, rfl, rfl⟩
    exact hmem
  · exact fun hmem => ⟨_, hmem, e.2, rfl, rfl⟩

/-- What comes of asking a server, given the table that it answers with. -/
def ProbeTarget.outcome (t : ProbeTarget) :
    ProbeOutcome QueryTable → ProbeOutcome (List String)
  | .answered table =>
    match t.judge (table.serverView t.pod) with
    | .ok seen => .answered seen
    | .error failure => .failed failure
  | .failed failure => .failed failure
  | .timedOut => .timedOut

/-- That an answer gives a view. -/
def ProbeOutcome.Shows (answer : ProbeOutcome QueryTable) (pod : String) (seen : List String) :
    Prop := ∃ table, answer = .answered table ∧ table.serverView pod = .ok seen

theorem ProbeTarget.value?_outcome {t : ProbeTarget} {answer : ProbeOutcome QueryTable}
    {seen : List String} : (t.outcome answer).value? = some seen ↔ answer.Shows t.pod seen := by
  unfold ProbeOutcome.Shows
  cases answer with
  | answered table =>
    unfold outcome judge
    cases hview : table.serverView t.pod with
    | ok view => simp [Except.mapError, ProbeOutcome.value?, hview]
    | error fault => simp [Except.mapError, ProbeOutcome.value?, hview]
  | failed | timedOut => simp [outcome, ProbeOutcome.value?]

/-- The pods of a complete cluster: one that serves for every server. They may be listed in any
order. -/
structure CompletePods (name : String) (servers : Int32) (pods : List ServerPod) : Prop where
  numbered : (pods.map (·.ordinal)).Perm (ordinals servers)
  named : ∀ p ∈ pods, p.name = podName name p.ordinal
  serving : ∀ p ∈ pods, p.isServing = true

/-- That what is detected comes of asking all serving pods. Their answers come in any order. -/
def Asked (answers : String → ProbeOutcome QueryTable) (i : DetectionInput) : Prop :=
  ∃ credentials outcomes, i.views = collectAnswers outcomes ∧
    outcomes.Perm
      ((probeTargets i.pods credentials).map fun t => (t.pod, t.outcome (answers t.pod)))

namespace CompletePods

variable {name : String} {servers : Int32} {pods : List ServerPod} {p q : ServerPod}

theorem bounds (h : CompletePods name servers pods) (hp : p ∈ pods) :
    0 ≤ p.ordinal ∧ p.ordinal < servers :=
  mem_ordinals.mp (h.numbered.subset (List.mem_map_of_mem hp))

theorem names_perm (h : CompletePods name servers pods) :
    (pods.map (·.name)).Perm ((ordinals servers).map (podName name)) := by
  have hnames : pods.map (·.name) = (pods.map (·.ordinal)).map (podName name) := by
    rw [List.map_map]
    exact List.map_congr_left h.named
  rw [hnames]
  exact h.numbered.map _

theorem nodup_names (h : CompletePods name servers pods) : (pods.map (·.name)).Nodup :=
  h.names_perm.nodup_iff.mpr ((nodup_ordinals servers).map fun _ _ => podName_injective)

theorem eq_of_name (h : CompletePods name servers pods) (hp : p ∈ pods) (hq : q ∈ pods)
    (hname : p.name = q.name) : p = q := List.inj_on_of_nodup_map h.nodup_names hp hq hname

theorem addressable (h : CompletePods name servers pods) (hname : Addressable name)
    (hp : p ∈ pods) : Addressable p.name ∧ p.name ≠ "unknown" := by
  rw [h.named p hp]
  exact ⟨hname.podName (h.bounds hp).1, podName_ne_unknown (h.bounds hp).1⟩

end CompletePods

/-! ## The order of the pods -/

theorem orderKey_antisymm {a b : String} (hab : keyLe (orderKey a) (orderKey b) = true)
    (hba : keyLe (orderKey b) (orderKey a) = true) : a = b := by
  rw [keyLe_iff] at hab hba
  unfold orderKey at hab hba
  dsimp only at hab hba
  rcases hab with hab | ⟨hsame, hab⟩
  · rcases hba with hba | ⟨hba, -⟩ <;> omega
  · rcases hba with hba | ⟨-, hba⟩
    · omega
    · exact String.le_antisymm hab hba

/-- The names of the pods are in order if the ordinals are. -/
theorem pairwise_podNames (name : String) (servers : Int32) :
    ((ordinals servers).map (podName name)).Pairwise fun a b =>
      keyLe (orderKey a) (orderKey b) = true := by
  refine List.pairwise_map.mpr ((pairwise_ordinals servers).imp_of_mem fun hi hj hlt => ?_)
  rw [keyLe_iff]
  unfold orderKey
  rw [ordinalOf?_podName (mem_ordinals.mp hi).1, ordinalOf?_podName (mem_ordinals.mp hj).1]
  exact .inl (Int32.lt_iff_toInt_lt.mp hlt)

namespace DetectionInput

variable {i : DetectionInput} {name «namespace» : String} {servers quorum : Int32}
  {answers : String → ProbeOutcome QueryTable} {p : ServerPod} {seen : List String}

theorem ready_of_complete (hdeployment : i.deployment = .cluster servers quorum)
    (hpods : CompletePods name servers i.pods) : i.ready = i.pods := by
  refine List.filter_eq_self.mpr fun p hp => ?_
  rw [hdeployment, Bool.and_eq_true, decide_eq_true_iff]
  exact ⟨(hpods.bounds hp).2, hpods.serving p hp⟩

/-- The views are those that the answers show. -/
theorem mem_views_iff (hpods : CompletePods name servers i.pods) (hasked : Asked answers i)
    {view : String × List String} : view ∈ i.views.entries ↔
      ∃ p ∈ i.pods, p.name = view.1 ∧ (answers p.name).Shows p.name view.2 := by
  obtain ⟨credentials, outcomes, hviews, hperm⟩ := hasked
  have hserving : i.pods.filter (·.isServing) = i.pods := List.filter_eq_self.mpr hpods.serving
  have hnames : (outcomes.map (·.1)).Nodup := by
    refine (hperm.map _).nodup_iff.mpr ?_
    rw [probeTargets, hserving, List.map_map, List.map_map]
    exact hpods.nodup_names
  rw [hviews, mem_collectAnswers_iff hnames]
  simp only [hperm.mem_iff, List.mem_map, probeTargets, hserving, Prod.mk.injEq,
    ← ProbeOutcome.value?_eq_some_iff]
  constructor
  · rintro ⟨_, ⟨p, hp, rfl⟩, hname, hvalue⟩
    exact ⟨p, hp, hname, ProbeTarget.value?_outcome.mp hvalue⟩
  · rintro ⟨p, hp, hname, hshows⟩
    exact ⟨_, ⟨p, hp, rfl⟩, hname, ProbeTarget.value?_outcome.mpr hshows⟩

theorem find?_views_iff (hpods : CompletePods name servers i.pods) (hasked : Asked answers i)
    (hp : p ∈ i.pods) : i.views.find? p.name = some seen ↔ (answers p.name).Shows p.name seen := by
  rw [SortedMap.find?_eq_some_iff, mem_views_iff hpods hasked]
  constructor
  · rintro ⟨q, hq, hname, hshows⟩
    obtain rfl := hpods.eq_of_name hq hp hname
    exact hshows
  · exact fun hshows => ⟨p, hp, rfl, hshows⟩

theorem seesItself_views (hpods : CompletePods name servers i.pods) (hasked : Asked answers i) :
    i.views.SeesItself := by
  intro view hview
  obtain ⟨p, -, hname, table, -, hseen⟩ := (mem_views_iff hpods hasked).mp hview
  rw [← hname]
  exact QueryTable.mem_serverView hseen

/-- **The one class of a healthy cluster holds all pods, in the order of their ordinals.** -/
theorem classes_of_healthy (hdeployment : i.deployment = .cluster servers quorum)
    (hpods : CompletePods name servers i.pods) (hhealthy : i.health = .healthy) :
    i.classes = [(ordinals servers).map (podName name)] := by
  obtain ⟨-, hunknown, -, members, honly, -⟩ :=
    (health_eq_healthy_iff_class hdeployment).mp hhealthy
  have hready := ready_of_complete hdeployment hpods
  have hclass : equivalenceClasses i.known = [members] := classes_of_cluster hdeployment ▸ honly
  have hmem : ∀ pod, pod ∈ members ↔ pod ∈ i.pods.map (·.name) := by
    intro pod
    rw [← List.flatten_singleton (l := members), ← hclass, Views.mem_flatten_equivalenceClasses]
    constructor
    · intro hkey
      obtain ⟨-, p, hp, rfl⟩ := mem_keys_known.mp hkey
      exact List.mem_map_of_mem (hready ▸ hp)
    · -- No pod is unknown.
      intro hpod
      obtain ⟨p, hp, rfl⟩ := List.mem_map.mp hpod
      by_contra hmissing
      have hmem := (mem_unknown hdeployment).mpr ⟨⟨p, hready ▸ hp, rfl⟩, hmissing⟩
      rw [hunknown] at hmem
      cases hmem
  have hfirst : members ∈ equivalenceClasses i.known := hclass ▸ List.mem_singleton_self _
  have hperm : members.Perm ((ordinals servers).map (podName name)) := by
    refine .trans ?_ hpods.names_perm
    exact (List.perm_ext_iff_of_nodup (Views.nodup_of_mem_equivalenceClasses hfirst)
      hpods.nodup_names).mpr hmem
  obtain ⟨view, -, hsorted⟩ := Views.mem_equivalenceClasses_iff.mp hfirst
  rw [honly, hperm.eq_of_pairwise (fun a b _ _ => orderKey_antisymm)
    (hsorted ▸ pairwise_sortPods _) (pairwise_podNames name servers)]

/-- What can be said of the health of a cluster of which all pods serve, from what the servers
answer. Between the two cases lie answers in which a server is reported at an address of its name
but not at a host name that the cluster uses; of these nothing is said. -/
structure Recognises (i : DetectionInput) (name «namespace» : String) (servers : Int32)
    (answers : String → ProbeOutcome QueryTable) : Prop where
  /-- If every server reports every server, the cluster is healthy. -/
  complete : (∀ p ∈ i.pods, ∃ t, answers p.name = .answered t ∧ t.HasColumns ∧
      ∀ q ∈ i.pods, ∃ address, t.Lists address ∧ IsHostOf name «namespace» q.name address) →
    (classify i).health = .healthy ∧
      (classify i).classes = [(ordinals servers).map (podName name)]
  /-- If a server does not report another, the cluster is not healthy. -/
  missing : ∀ p ∈ i.pods, ∀ q ∈ i.pods, p ≠ q →
    (∀ t address, answers p.name = .answered t → t.Lists address → ¬ IsAddressOf q.name address) →
    (classify i).health ≠ .healthy

/-- **A complete cluster is recognised from the answers of its servers.** It starts from the tables
as the servers sent them: no step on the way, from addresses to names and from views to classes,
loses a server or adds one. -/
theorem recognises_of_complete (hname : Addressable name)
    (hdeployment : i.deployment = .cluster servers quorum) (htwo : 2 ≤ servers.toInt)
    (hpods : CompletePods name servers i.pods) (hasked : Asked answers i) :
    i.Recognises name «namespace» servers answers := by
  have hready := ready_of_complete hdeployment hpods
  have hwhole := health_eq_healthy_iff_whole hdeployment htwo (seesItself_views hpods hasked)
    hpods.nodup_names
  have hlength : (i.ready.length : Int) = i.deployment.servers.toInt := by
    have heq := hpods.numbered.length_eq
    rw [ordinals, List.length_map, List.length_map, List.length_range] at heq
    rw [hready, heq, hdeployment]
    show ((servers.toInt.toNat : Nat) : Int) = servers.toInt
    omega
  -- Health is to be whole, so both cases are about what each table lists: all pods at their host
  -- names, or one pod at no address at all.
  constructor
  case complete =>
    intro hreports
    have hhealthy : i.health = .healthy := by
      refine hwhole.mpr ⟨hlength, fun p hp => ?_⟩
      rw [hready] at hp
      obtain ⟨t, hanswer, hcolumns, hlists⟩ := hreports p hp
      obtain ⟨seen, hseen, hsees⟩ := t.exists_serverView hcolumns p.name
      refine ⟨seen, ⟨hready ▸ hp, ?_⟩, fun q hq => ?_⟩
      · exact (find?_views_iff hpods hasked hp).mpr ⟨t, hanswer, hseen⟩
      · rw [hready] at hq
        obtain ⟨address, hlisted, hhost⟩ := hlists q hq
        obtain ⟨haddressable, hknown⟩ := hpods.addressable hname hq
        exact hsees q.name address haddressable hknown hlisted hhost.isAddressOf
    exact ⟨hhealthy, classes_of_healthy hdeployment hpods hhealthy⟩
  case missing =>
    intro p hp q hq hne hnone hhealthy
    obtain ⟨-, hall⟩ := hwhole.mp hhealthy
    obtain ⟨seen, ⟨-, hview⟩, hsees⟩ := hall p (hready ▸ hp)
    obtain ⟨t, hanswer, hseen⟩ := (find?_views_iff hpods hasked hp).mp hview
    obtain ⟨haddressable, hknown⟩ := hpods.addressable hname hq
    obtain ⟨address, hlisted, haddress⟩ := QueryTable.exists_lists_of_mem haddressable hknown hseen
      (hsees q (hready ▸ hq)) fun hsame => hne (hpods.eq_of_name hp hq hsame.symm)
    exact hnone t address hanswer hlisted haddress

end DetectionInput

/-! ## Two servers -/

/-- What both servers of a pair report: each other, and a third that is not available. -/
def pairTable : QueryTable :=
  { columns := ["name", "health", "address"]
    rows := [
      [.str "a", .str "Available", .str (podHostIn "db" "data" "db-0" ++ ":" ++ "7687")],
      [.str "c", .str "Unavailable", .str (podHostIn "db" "data" "db-2")],
      [.str "b", .str "AVAILABLE", .str (podHostIn "db" "data" "db-1")],
      [.null]] }

/-- A report without rows. -/
def emptyTable : QueryTable := { columns := ["address", "health"], rows := [] }

def pairPods : List ServerPod :=
  [{ name := "db-1", ordinal := 1 }, { name := "db-0", ordinal := 0 }]

/-- What is detected of two servers that give answers. -/
def pairOf (answers : String → ProbeOutcome QueryTable) : DetectionInput where
  deployment := .cluster 2 2
  pods := pairPods
  views := collectAnswers
    ((probeTargets pairPods none).map fun t => (t.pod, t.outcome (answers t.pod)))
  previous := {}
  now := .epoch
  grace := 60

theorem lists_pairTable {q : ServerPod} (hq : q ∈ pairPods) :
    ∃ address, pairTable.Lists address ∧ IsHostOf "db" "data" q.name address := by
  rcases List.mem_pair.mp hq with rfl | rfl
  · refine ⟨_, ⟨"AVAILABLE", ⟨pairTable.rows[2], ?_, 2, 1, rfl, rfl, rfl, rfl⟩, by decide⟩, .host⟩
    exact List.getElem_mem _
  · refine ⟨_, ⟨"Available", ⟨pairTable.rows[0], ?_, 2, 1, rfl, rfl, rfl, rfl⟩, by decide⟩,
      .atPort "7687"⟩
    exact List.getElem_mem _

/-- Two servers are recognised if both report both, and not if one of them reports none. -/
theorem recognises_pair :
    Addressable "db" ∧ CompletePods "db" 2 pairPods ∧
      (classify (pairOf fun _ => .answered pairTable)).health = .healthy ∧
      (classify (pairOf fun _ => .answered pairTable)).classes = [["db-0", "db-1"]] ∧
      (classify (pairOf fun pod =>
        .answered (if pod = "db-1" then emptyTable else pairTable))).health ≠ .healthy := by
  have hname : Addressable "db" := ⟨by decide, by simp [isNameChar]⟩
  have hpods : CompletePods "db" 2 pairPods := ⟨by decide, by decide, by decide⟩
  have hasked (answers : String → ProbeOutcome QueryTable) : Asked answers (pairOf answers) :=
    ⟨none, _, rfl, .refl _⟩
  have hrecognises (answers : String → ProbeOutcome QueryTable) :
      (pairOf answers).Recognises "db" "data" 2 answers :=
    DetectionInput.recognises_of_complete hname rfl (by decide) hpods (hasked answers)
  have hhealthy := (hrecognises fun _ => .answered pairTable).complete fun p _ =>
    ⟨pairTable, rfl, ⟨by decide, by decide⟩, fun q hq => lists_pairTable hq⟩
  refine ⟨hname, hpods, hhealthy.1, ?_, ?_⟩
  · rw [hhealthy.2]
    decide
  · refine (hrecognises fun pod =>
        .answered (if pod = "db-1" then emptyTable else pairTable)).missing
      { name := "db-1", ordinal := 1 } (by decide) { name := "db-0", ordinal := 0 } (by decide)
      (by decide) fun t address hanswer hlists => ?_
    cases hanswer
    obtain ⟨_, ⟨_, hrow, -⟩, -⟩ := hlists
    cases hrow

end ClusterOperator
