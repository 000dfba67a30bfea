import ClusterOperator.Api.Client
import ClusterOperator.Proofs.Convergence.Completion
import ClusterOperator.Proofs.Pass.Objects
import ClusterOperator.Proofs.Pass.Outcome
import ClusterOperator.Proofs.Pass.Published

/-!
# Patches of a status

A status is published as a merge patch, which cannot remove a member by leaving it out. No pass
needs that: whatever it publishes has every member of the status that is stored by then.

* `Entity.Supersedes` : a status takes the place of another one when it is merged into it;
* `ApiClient.publish_asks`, `ApiClient.publish_patches` : the patch that a publish sends;
* `ClusterReport.covers`, `QueryReport.covers` : what passes report has every member of the status
  before it; `Cluster.supersedes_of_publishes`, `Query.supersedes_of_publishes`;
* `PatchesReplace` : a patch replaces the status, and it does not matter how a status is written;
  `patchesReplace_of_account`, for passes whose reports take the place of what was there;
* `status_patch_replaces` : for clusters and queries.
-/

namespace ClusterOperator

open Dialogue Json

/-- Merged into a status that was there, the one of an entity takes its place. -/
def Entity.Supersedes {σ τ : Type} [Managed σ τ] (p : Entity σ τ) (old : Option τ) : Prop :=
  ∃ s, p.status = some s ∧
    ((old.map (Managed.encodeStatus σ)).getD .null).merge (Managed.encodeStatus σ s) =
      Managed.encodeStatus σ s

namespace ObjectWorld

variable {σ τ Q : Type} {A : Q → Type} [Managed σ τ]
  {call? : Exchange Q A → Option (EntityCall σ τ)}
  {pass : Dialogue Q A (Except PassError Requeue)} {o : ObjectWorld Q A} {w : PassWorld Q A σ τ}

/-! ## Patches -/

section

variable {key : Key} {seed : Entity σ τ → String → τ}
  {Reports : List (Exchange Q A) → Entity σ τ → τ → Except PassError Requeue → Prop}
  {Keeps : List (Exchange Q A) → Entity σ τ → Except PassError Requeue → Prop}

/-- A patch puts the status in the place of the old one if what is published takes its place. -/
theorem replaces_mergeStatus (hreads : Managed.ReadsStatus σ)
    (haccount : IsAccounted call? pass key seed Reports Keeps)
    (hmerges : ∀ {t x old p}, Publishes call? key seed Reports t x old p → p.Supersedes old)
    (hw : w.IsSound call? pass) (hshows : o.Shows w) : o.Replaces mergeStatus call? := by
  intro j hj t q next reply p written hgoes hcall
  obtain ⟨e, hstored, he⟩ := hshows.isStoredAs hj
  obtain ⟨stored, running⟩ := w
  cases hstored
  cases hshows.running.trans hgoes
  obtain ⟨s, hs, hmerge⟩ := hmerges (hw.publishes haccount hcall)
  exact ⟨s, hs, by rw [mergeStatus_eq he.status (hreads.encode_ne_null s), hmerge]⟩

end

end ObjectWorld

theorem ApiClient.publish_asks {σ τ : Type} [Managed σ τ] (e : Entity σ τ) {P : ApiCall → Prop}
    (h : P (.patchStatus (Resource.ofEntity σ) e.key (.obj [("status", e.sentStatus)]))) :
    (publish e).Asks P := by
  unfold publish sendNamed send
  dsimp only
  split
  · trivial
  · split
    · exact ⟨h, fun _ => trivial⟩
    · trivial

section

variable {σ τ Q : Type} {A : Q → Type} [Managed σ τ]

/-- The patch that a publish sends replaces the status of an object if merging the status does. -/
theorem ApiClient.publish_patches {e p : Entity σ τ} {j : Json} {s : τ} (hj : e.IsStoredAs j)
    (hs : p.status = some s)
    (hmerge : j.mergeStatus (Managed.encodeStatus σ s) =
      j.replaceStatus (Managed.encodeStatus σ s)) :
    (publish p).Asks fun call => ∃ patch, call = .patchStatus (Resource.ofEntity σ) p.key patch ∧
      (j.merge patch).find? "status" = some (Managed.encodeStatus σ s) ∧
      (j.merge patch).erase "status" = j.erase "status" := by
  have hsent : p.sentStatus = Managed.encodeStatus σ s := by
    unfold Entity.sentStatus
    rw [hs]
    rfl
  have hnew : (j.replaceStatus (Managed.encodeStatus σ s)).statuses = some (some _).toList :=
    statuses_replaceStatus hj.status
  refine publish_asks p ⟨_, rfl, ?_⟩
  rw [hsent]
  show (j.mergeStatus _).find? _ = _ ∧ (j.mergeStatus _).erase _ = _
  rw [hmerge]
  exact ⟨find?_of_statuses hnew, erase_replaceStatus⟩

/-- Passes over an object that has no status at first. What they publish is sent as a patch; merged
into the object, it takes the place of the status and leaves all else as it was. Whether the status
is merged or replaced, the same happens, and it happens to the entity that can be read from the
object. -/
structure PatchesReplace (call? : Exchange Q A → Option (EntityCall σ τ))
    (pass : Dialogue Q A (Except PassError Requeue)) : Prop where
  patched : ∀ first : Json, first.statuses = some [] → ∀ j t q next,
    ObjectWorld.Run mergeStatus call? pass ⟨some first, none⟩ ⟨some j, some (t, .ask q next)⟩ →
    ∀ reply p written, call? ⟨q, reply⟩ = some (.published p written) →
    ∃ (old : Option τ) (new : τ), j.find? "status" = old.map (Managed.encodeStatus σ) ∧
      p.status = some new ∧ (ApiClient.publish p).Asks fun call =>
        ∃ patch, call = .patchStatus (Resource.ofEntity σ) p.key patch ∧
          (j.merge patch).find? "status" = some (Managed.encodeStatus σ new) ∧
          (j.merge patch).erase "status" = j.erase "status"
  agree : ∀ first : Json, first.statuses = some [] → ∀ o,
    ObjectWorld.Run mergeStatus call? pass ⟨some first, none⟩ o ↔
      ObjectWorld.Run replaceStatus call? pass ⟨some first, none⟩ o
  entities : ∀ first : Json, first.statuses = some [] → ∀ e : Entity σ τ,
    Entity.decode? first = some e → ∀ o,
    ObjectWorld.Run mergeStatus call? pass ⟨some first, none⟩ o →
    ∃ w, PassWorld.Run call? pass ⟨some e, none⟩ w ∧ w.running = o.running ∧
      ∀ j ∈ o.stored, ∀ e' : Entity σ τ, Entity.decode? j = some e' → w.stored = some e'

theorem Entity.exists_isStoredAs [Nonempty σ] (hreads : Managed.ReadsStatus σ) {first : Json}
    (h : first.statuses = some []) : ∃ e : Entity σ τ, e.IsStoredAs first := by
  obtain ⟨spec⟩ := ‹Nonempty σ›
  have hempty : ({ spec } : Entity σ τ).IsStoredAs (.obj []) :=
    ⟨rfl, fun d hd => by
      have hnone : (Entity.decode? (.obj []) : Option (Entity σ τ)) = none := rfl
      cases hnone.symm.trans hd⟩
  obtain ⟨e, -, he⟩ := hempty.of_statuses hreads h
  exact ⟨e, he⟩

/-- Passes that publish what takes the place of the status before it, with every exchange accounted
for. -/
theorem patchesReplace_of_account [Nonempty σ] {call? : Exchange Q A → Option (EntityCall σ τ)}
    {pass : Dialogue Q A (Except PassError Requeue)} {key : Key} {seed : Entity σ τ → String → τ}
    {Reports : List (Exchange Q A) → Entity σ τ → τ → Except PassError Requeue → Prop}
    {Keeps : List (Exchange Q A) → Entity σ τ → Except PassError Requeue → Prop}
    (hreads : Managed.ReadsStatus σ)
    (haccount : IsAccounted call? pass key seed Reports Keeps)
    (hmerges : ∀ {t x old p}, Publishes call? key seed Reports t x old p → p.Supersedes old) :
    PatchesReplace call? pass := by
  have hwrite : ∀ {o : ObjectWorld Q A} {w : PassWorld Q A σ τ}, w.IsSound call? pass →
      o.Shows w → o.Replaces mergeStatus call? :=
    fun hw hshows => ObjectWorld.replaces_mergeStatus hreads haccount hmerges hw hshows
  refine ⟨fun first hfirst j t q next h reply p written hcall => ?_, fun first hfirst o => ?_,
    fun first hfirst e he o h => ?_⟩
  · obtain ⟨e, hstored⟩ := Entity.exists_isStoredAs (σ := σ) hreads hfirst
    obtain ⟨-, w, hw, hshows⟩ := h.shown hreads hwrite hstored
    obtain ⟨s, hs, hmerge⟩ :=
      hwrite ((PassWorld.IsSound.idle _).run hw) hshows j rfl t q next reply p written rfl hcall
    obtain ⟨e', -, hj⟩ := hshows.isStoredAs (Option.mem_some_self j)
    exact ⟨e'.status, s, find?_of_statuses hj.status, hs, ApiClient.publish_patches hj hs hmerge⟩
  · obtain ⟨e, hstored⟩ := Entity.exists_isStoredAs (σ := σ) hreads hfirst
    exact ObjectWorld.run_iff hreads hwrite hstored
  · obtain ⟨e₀, hstored⟩ := Entity.exists_isStoredAs (σ := σ) hreads hfirst
    cases hstored.read e he
    obtain ⟨-, w, hw, hshows⟩ := h.shown hreads hwrite hstored
    refine ⟨w, hw, hshows.running, fun j hj e' he' => ?_⟩
    obtain ⟨d, hd, hstored'⟩ := hshows.isStoredAs hj
    rw [hd, hstored'.read e' he']

end

/-! ## Clusters and queries -/

theorem ClusterSpec.readsStatus : Managed.ReadsStatus ClusterSpec := fun s =>
  Slot.optional_ofOption ClusterStatus.decode?_encode (fun s h => by cases h) (some s)

theorem QuerySpec.readsStatus : Managed.ReadsStatus QuerySpec := fun s =>
  Slot.optional_ofOption QueryStatus.decode?_encode (fun s h => by cases h) (some s)

theorem Cluster.covers_status {c : Cluster} {new : List (String × Option Json)}
    (h : Covers c.statusOrEmpty.members new) : ∀ s ∈ c.status, Covers s.members new := by
  intro s hs
  unfold statusOrEmpty at h
  rwa [Option.mem_def.1 hs] at h

theorem Query.covers_status {q : Query} {new : List (String × Option Json)}
    (h : Covers q.statusOrEmpty.members new) : ∀ s ∈ q.status, Covers s.members new := by
  intro s hs
  unfold statusOrEmpty at h
  rwa [Option.mem_def.1 hs] at h

theorem ClusterReport.covers {calls : List ChildExchange} {c : Cluster} {s : ClusterStatus}
    {result : Except PassError Requeue} (h : ClusterReport calls c s result) :
    Covers c.statusOrEmpty.members s.members := by
  cases h with
  | refused stamp | failed stamp => exact ClusterStatus.covers_failed _ stamp _ _
  | ready stamp _ hcalls =>
    exact ClusterStatus.covers_ready _ stamp _ (by
      simpa using refs_ne_nil_of_convergeChildren hcalls)

theorem QueryReport.covers {settings : RefreshSettings} {calls : List LookupExchange} {q : Query}
    {s : QueryStatus} {result : Except PassError Requeue}
    (h : QueryReport settings calls q s result) :
    Covers q.statusOrEmpty.members s.members := by
  cases h with
  | refused stamp | failed stamp => exact QueryStatus.covers_failed _ stamp _ _
  | answered stamp => exact QueryStatus.covers_answered _ stamp _ _ _

/-- What passes over a cluster publish takes the place of the status before it. -/
theorem Cluster.supersedes_of_publishes {key : Key} {t : List ClusterExchange} {x : ClusterExchange}
    {old : Option ClusterStatus} {p : Cluster}
    (h : Publishes ClusterExchange.call? key Cluster.seed
      (fun t => ClusterReport (t.filterMap ClusterExchange.child?)) t x old p) :
    p.Supersedes old := by
  cases h with
  | @seeded found stamp hfound =>
    have hcovers := covers_status (ClusterStatus.covers_started (statusOrEmpty found) stamp)
    exact ⟨_, rfl, ClusterStatus.merge_encode (hfound ▸ hcovers)⟩
  | reported _ hcopy hreport =>
    exact ⟨_, rfl, ClusterStatus.merge_encode (hcopy ▸ covers_status hreport.covers)⟩

theorem Query.supersedes_of_publishes {settings : RefreshSettings} {key : Key} {t : List QueryExchange}
    {x : QueryExchange} {old : Option QueryStatus} {p : Query}
    (h : Publishes QueryExchange.call? key Query.seed
      (fun t => QueryReport settings (t.filterMap QueryExchange.lookup?)) t x old p) :
    p.Supersedes old := by
  cases h with
  | @seeded found stamp hfound =>
    have hcovers := covers_status (QueryStatus.covers_started (statusOrEmpty found) stamp)
    exact ⟨_, rfl, QueryStatus.merge_encode (hfound ▸ hcovers)⟩
  | reported _ hcopy hreport =>
    exact ⟨_, rfl, QueryStatus.merge_encode (hcopy ▸ covers_status hreport.covers)⟩

/-- However the spec of a cluster or a query is edited and whatever fails, the patch by which a pass
publishes a status puts it in the place of the one that is stored and changes nothing else. An API
that merges the status so does as a store that replaces it. -/
theorem status_patch_replaces :
    (∀ key, PatchesReplace ClusterExchange.call? (reconcileCluster key)) ∧
    ∀ settings key, PatchesReplace QueryExchange.call? (reconcileQuery settings key) := by
  have hcluster : Nonempty ClusterSpec := ⟨{}⟩
  have hquery : Nonempty QuerySpec := ⟨{ query := .clusters }⟩
  refine ⟨fun key => ?_, fun settings key => ?_⟩
  · exact patchesReplace_of_account ClusterSpec.readsStatus (reconcileCluster_isAccounted key)
      Cluster.supersedes_of_publishes
  · exact patchesReplace_of_account QuerySpec.readsStatus
      (reconcileQuery_isAccounted settings key)
      Query.supersedes_of_publishes

open ObjectWorld in
/-- A cluster that names no image is refused. The patch of its second status puts that in the place
of the first one. -/
theorem status_patch_replaces_of_refused :
    ∃ j t q next reply p written,
      Run mergeStatus ClusterExchange.call? (reconcileCluster vagueCluster.key)
        ⟨some vagueCluster.encode, none⟩ ⟨some j, some (t, .ask q next)⟩ ∧
      Run replaceStatus ClusterExchange.call? (reconcileCluster vagueCluster.key)
        ⟨some vagueCluster.encode, none⟩ ⟨some j, some (t, .ask q next)⟩ ∧
      ClusterExchange.call? ⟨q, reply⟩ = some (.published p written) ∧
      j.find? "status" = some ((vagueCluster.seed "t").encode) ∧
      (ApiClient.publish p).result?.isNone ∧
      ∃ new, p.status = some new ∧ new.phase = some "Failed" ∧
        (ApiClient.publish p).Asks fun call => ∃ patch,
          call = .patchStatus Resource.clusters p.key patch ∧
          (j.merge patch).find? "status" = some new.encode ∧
          (j.merge patch).erase "status" = j.erase "status" := by
  have hfirst : vagueCluster.encode.statuses = some [] := by decide +kernel
  have h₁ : Run mergeStatus ClusterExchange.call? (reconcileCluster vagueCluster.key)
      ⟨some vagueCluster.encode, none⟩ _ := .single (.start _)
  have h₂ := h₁.tail (.exchange (.ok (some vagueCluster))
    (by exact .found _ (by decide +kernel)))
  have h₃ := h₂.tail (.exchange "t" (by exact rfl))
  have h₄ := h₃.tail (.exchange (.ok (vagueCluster.withStatus (vagueCluster.seed "t")))
    (by exact .stored (by decide +kernel)))
  have hreplaces := status_patch_replaces.1 vagueCluster.key
  have hreplaced := (hreplaces.agree _ hfirst _).1 h₄
  have hreply : Except StoreError Cluster := .ok vagueCluster
  obtain ⟨_, new, -, hnew, hasks⟩ := hreplaces.patched _ hfirst _ _ _ _ h₄ hreply _ _ rfl
  refine ⟨_, _, _, _, hreply, _, _, h₄, hreplaced, rfl, by decide +kernel, by decide +kernel,
    new, hnew, ?_, hasks⟩
  cases hnew
  rfl

end ClusterOperator
