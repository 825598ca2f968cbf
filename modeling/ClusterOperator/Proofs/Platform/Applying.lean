import ClusterOperator.Platform.Calls
import ClusterOperator.Proofs.Program.Runs

/-!
# How a manifest is applied

A manifest takes a request for each of its resources. A request that is not answered with success is
the last, and what it asked for may have been done or not: the platform may have refused it, or the
reply was lost. So an application that fails leaves a first part of the resources stored.

> **`runs_applyManifest`** — an application ends as one of the courses of `Applies` does.

> **`Applies.stored_prefix`** — what is stored is a first part of the resources, in their order, and
> all of them if the application succeeds.
-/

set_option autoImplicit false

namespace ClusterOperator.Platform

/-- That an exchange sends requests and is answered in a certain way, and how it ends. -/
def Exchange.Runs {α : Type} (exchange : Exchange α)
    (replies : List (Turn fun _ : Request => Reply)) (result : Except Failure α) : Prop :=
  Program.Runs exchange.run replies result

/-- The courses that applying some resources may take: how they end, and what they have stored. A
failure need not mean that nothing was stored: the platform may have done what it was asked before
the reply was lost. -/
inductive Applies (millis : Nat) («namespace» : String) :
    List Resource → Except Failure Unit → List Resource → Prop
  | done : Applies millis «namespace» [] (.ok ()) []
  | stored {resource : Resource} {rest kept : List Resource} {result : Except Failure Unit}
    {replies : List (Turn fun _ : Request => Reply)}
    (hrun : (applyResource millis «namespace» resource).Runs replies (.ok ()))
    (hrest : Applies millis «namespace» rest result kept) :
    Applies millis «namespace» (resource :: rest) result (resource :: kept)
  | refused {resource : Resource} {rest : List Resource} {f : Failure}
    {replies : List (Turn fun _ : Request => Reply)}
    (hrun : (applyResource millis «namespace» resource).Runs replies (.error f)) :
    Applies millis «namespace» (resource :: rest) (.error f) []
  /-- The resource was stored, but the reply that says so was lost. -/
  | unanswered {resource : Resource} {rest : List Resource} {f : Failure}
    {replies : List (Turn fun _ : Request => Reply)}
    (hrun : (applyResource millis «namespace» resource).Runs replies (.error f))
    (hsent : replies ≠ []) :
    Applies millis «namespace» (resource :: rest) (.error f) [resource]

section
variable {millis : Nat} {«namespace» : String} {resource : Resource}
  {resources stored : List Resource} {result : Except Failure Unit}

theorem runs_applyAll :
    (∃ replies, Exchange.Runs (resources.forM (applyResource millis «namespace»)) replies result) ↔
      ∃ stored, Applies millis «namespace» resources result stored := by
  -- By induction on the resources: each is applied by one exchange, and the next is not begun
  -- unless that succeeds.
  induction resources with
  | nil =>
    constructor
    · rintro ⟨replies, h⟩
      obtain ⟨-, rfl⟩ := Program.runs_done.mp h
      exact ⟨[], .done⟩
    · rintro ⟨stored, ⟨⟩⟩
      exact ⟨[], Program.runs_done.mpr ⟨rfl, rfl⟩⟩
  | cons resource rest ih =>
    constructor
    · rintro ⟨replies, h⟩
      rcases Program.runs_bind_except.mp h with ⟨f, rfl, hrun⟩ | ⟨first, _, later, rfl, hrun, hrest⟩
      · exact ⟨[], .refused hrun⟩
      · obtain ⟨stored, hstored⟩ := ih.mp ⟨later, hrest⟩
        exact ⟨_, .stored hrun hstored⟩
    · rintro ⟨stored, h⟩
      cases h with
      | stored hrun hrest =>
        obtain ⟨later, hlater⟩ := ih.mpr ⟨_, hrest⟩
        exact ⟨_, Program.runs_bind_except.mpr (.inr ⟨_, (), later, rfl, hrun, hlater⟩)⟩
      | refused hrun | unanswered hrun =>
        exact ⟨_, Program.runs_bind_except.mpr (.inl ⟨_, rfl, hrun⟩)⟩

/-- **A manifest is applied by the courses of `Applies`.** -/
theorem runs_applyManifest {cluster : Cluster} {manifest : Manifest} :
    (∃ replies, (applyManifest millis cluster manifest).Runs replies result) ↔
      ∃ stored, Applies millis (namespaceOf cluster) (manifestResources cluster manifest) result
        stored :=
  runs_applyAll

/-- **What is stored is a first part of the resources**, and all of them after a success. -/
theorem Applies.stored_prefix (h : Applies millis «namespace» resources result stored) :
    stored <+: resources ∧ (result = .ok () → stored = resources) := by
  induction h with
  | done => exact ⟨List.prefix_rfl, fun _ => rfl⟩
  | stored hrun hrest ih =>
    exact ⟨(List.prefix_cons_inj _).mpr ih.1, fun hok => by rw [ih.2 hok]⟩
  | refused hrun => exact ⟨List.nil_prefix, nofun⟩
  | unanswered hrun hsent => exact ⟨(List.prefix_cons_inj _).mpr List.nil_prefix, nofun⟩

/-! ## Courses that there are -/

/-- The request that applies a resource. -/
def applyRequest («namespace» : String) (resource : Resource) : Request :=
  { method := .apply
    path := (resource.collection «namespace»).path ++ "/" ++ resource.metadata.name
    query := "force=true&fieldManager=" ++ operatorName
    contentType := applyContent
    body := resource.toJson }

theorem runs_applyResource (hname : resource.metadata.name.isEmpty = false) (reply : Reply) :
    (applyResource millis «namespace» resource).Runs [⟨applyRequest «namespace» resource, reply⟩]
      (reply.body ⟨"apply " ++ resource.metadata.name, millis⟩ >>=
        decodeBody (resourceOf? resource.apiVersion resource.kind)) := by
  have hitem : (resource.collection «namespace»).item resource.metadata.name =
      pure ((resource.collection «namespace»).path ++ "/" ++ resource.metadata.name) := by
    unfold Collection.item
    rw [hname]
    rfl
  unfold applyResource
  dsimp only
  rw [hitem, pure_bind]
  exact Program.runs_bind.mpr ⟨_, reply, [], rfl, Program.runs_query.mpr rfl, .done _⟩

theorem exists_run_stored (hname : resource.metadata.name.isEmpty = false) :
    (applyResource millis «namespace» resource).Runs
      [⟨applyRequest «namespace» resource, .response 200 "\x7b\x7d"⟩] (.ok ()) :=
  runs_applyResource hname (.response 200 "\x7b\x7d")

theorem exists_run_silent (hname : resource.metadata.name.isEmpty = false) :
    (applyResource millis «namespace» resource).Runs
      [⟨applyRequest «namespace» resource, .silence⟩]
      (.error (.timeout ("apply " ++ resource.metadata.name) millis)) :=
  runs_applyResource hname .silence

theorem named_of_mem_manifestResources {cluster : Cluster} {manifest : Manifest}
    (hname : cluster.name.isEmpty = false) :
    ∀ resource ∈ manifestResources cluster manifest, resource.metadata.name.isEmpty = false := by
  have hnamed : ∀ ending, (cluster.name ++ ending).isEmpty = false := by simp_all
  simp only [manifestResources, List.forall_mem_cons]
  exact ⟨hnamed _, hnamed _, hname, hname, List.forall_mem_nil _⟩

theorem applies_stored (h : ∀ resource ∈ resources, resource.metadata.name.isEmpty = false) :
    Applies millis «namespace» resources (.ok ()) resources := by
  induction resources with
  | nil => exact .done
  | cons resource rest ih =>
    obtain ⟨hfirst, hrest⟩ := List.forall_mem_cons.mp h
    exact .stored (exists_run_stored hfirst) (ih hrest)

end

end ClusterOperator.Platform
