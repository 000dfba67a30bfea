import ClusterOperator.Api.Server
import ClusterOperator.Proofs.Convergence.Replacement
import ClusterOperator.Proofs.Status.Decoding
import ClusterOperator.Proofs.Watch.Filter

/-!
# Children lead back to their cluster

A child is written so that the watch of the children hears of it, and takes it to the key under
which its cluster is known.

* `MeetsSelector` : labels meet a selector text; `meetsSelector_iff`;
* `Upserts.find?_eq` : an owner that was put in its place is found first, if nobody else is looked
  for;
* `ownerKey_eq` : the cluster that a child is taken to;
* `Manifest.LeadsBackTo` : the watch of the children hears of a child, and signals the key of a
  cluster; `leadsBackTo_of_isReplacement`;
* `written_children_lead_back` : every child that is written leads back to its cluster.
-/

namespace ClusterOperator

open Dialogue

/-! ## Selectors -/

/-- Labels meet a selector text: the label that is named before the first equals sign has the value
behind it. -/
def MeetsSelector (labels : Labels) (selector : String) : Prop :=
  labels.get? (String.ofList (selector.toList.takeWhile (· ≠ '='))) =
    some (String.ofList ((selector.toList.dropWhile (· ≠ '=')).drop 1))

theorem meetsSelector_iff {labels : Labels} {name value : String} (h : '=' ∉ name.toList) :
    MeetsSelector labels (name ++ "=" ++ value) ↔ labels.get? name = some value := by
  have hall : ∀ c ∈ name.toList, decide (c ≠ '=') := by
    intro c hc
    exact decide_eq_true fun heq => h (heq ▸ hc)
  have hlist : (name ++ "=" ++ value).toList = name.toList ++ '=' :: value.toList := by
    rw [String.toList_append, String.toList_append, List.append_assoc]
    rfl
  unfold MeetsSelector
  rw [hlist, List.takeWhile_append_of_pos hall, List.dropWhile_append_of_pos hall,
    List.takeWhile_cons_of_neg (by decide), List.dropWhile_cons_of_neg (by decide),
    List.append_nil, List.drop_one, List.tail_cons, String.ofList_toList, String.ofList_toList]

/-! ## Written labels -/

namespace Json

theorem find?_obj (name : String) (members : List (String × Json)) :
    find? name (.obj members) = (occurrences name members).getLast? :=
  lastMember?_eq name members

theorem occurrences_append (name : String) (members members' : List (String × Json)) :
    occurrences name (members ++ members') =
      occurrences name members ++ occurrences name members' := by
  unfold occurrences
  rw [List.filter_append, List.map_append]

/-- A record that was written has under each of its names what it was written with. -/
theorem find?_record {ms : List (String × Option Json)} (hnodup : (ms.map Prod.fst).Nodup)
    {m : String × Option Json} (hm : m ∈ ms) : find? m.1 (record ms) = m.2 := by
  rw [record_eq, find?_obj, occurrences_present hnodup hm]
  cases m.2 <;> rfl

end Json

namespace Children

/-- Only a label of another name may follow the label of this operator. -/
theorem entries_commonLabels (instanceName : String) (version : Option String) :
    ∃ stamp : List (String × String), (∀ e ∈ stamp, e.1 = labelVersion) ∧
      (commonLabels instanceName version).entries =
        [(labelName, applicationName), (labelInstance, instanceName), (labelPartOf, operatorName),
          (labelManagedBy, operatorName)] ++ stamp := by
  have hplain : (((selectorLabels instanceName).insert labelPartOf operatorName).insert
      labelManagedBy operatorName).entries = [(labelName, applicationName),
        (labelInstance, instanceName), (labelPartOf, operatorName),
        (labelManagedBy, operatorName)] := rfl
  unfold commonLabels
  cases version with
  | none => exact ⟨[], List.forall_mem_nil _, hplain⟩
  | some v =>
    by_cases hv : v.isEmpty
    · refine ⟨[], List.forall_mem_nil _, ?_⟩
      rw [List.append_nil, ← hplain]
      simp only [hv, if_true]
    · refine ⟨[(labelVersion, v)], by simp, ?_⟩
      simp only [hv, Bool.false_eq_true, if_false]
      rfl

theorem meetsSelector_commonLabels (instanceName : String) (version : Option String) :
    MeetsSelector (commonLabels instanceName version) managedBySelector := by
  obtain ⟨stamp, -, hentries⟩ := entries_commonLabels instanceName version
  unfold managedBySelector
  rw [meetsSelector_iff (by decide), Dict.get?, hentries, List.find?_append]
  rfl

theorem find?_ofDict_commonLabels (instanceName : String) (version : Option String) :
    (Json.ofDict (commonLabels instanceName version)).find? labelManagedBy =
      some (.str operatorName) := by
  obtain ⟨stamp, hstamp, hentries⟩ := entries_commonLabels instanceName version
  have hnone : ∀ f : String × String → String × Json, (∀ e, (f e).1 = e.1) →
      Json.occurrences labelManagedBy (stamp.map f) = [] := by
    intro f hf
    apply Json.occurrences_eq_nil
    intro m hm
    obtain ⟨e, he, rfl⟩ := List.mem_map.1 hm
    rw [hf, hstamp e he]
    decide
  unfold Json.ofDict
  rw [Json.find?_obj, hentries, List.map_append, Json.occurrences_append, hnone _ fun _ => rfl]
  rfl

end Children

theorem Metadata.find?_labels_encode (m : Metadata) :
    m.encode.find? "labels" = m.labels.map Json.ofDict := by
  unfold Metadata.encode
  exact Json.find?_record (m := ("labels", m.labels.map Json.ofDict)) (by simp) (by simp)

theorem Manifest.metadataOf_encode (m : Manifest) : m.encode.metadataOf = m.metadata.encode := by
  have hfind : m.encode.find? "metadata" = some m.metadata.encode := by
    unfold Manifest.encode
    exact Json.find?_record (m := ("metadata", some m.metadata.encode)) (by simp) (by simp)
  rw [Json.metadataOf, hfind, Option.getD_some]

/-- A child with the labels of a cluster is selected by the API as the text of the selector says. -/
theorem Manifest.bearsManagedLabel_encode {m : Manifest} {instanceName : String}
    {version : Option String}
    (h : m.metadata.labels = some (Children.commonLabels instanceName version)) :
    bearsManagedLabel m.encode := by
  unfold bearsManagedLabel
  rw [m.metadataOf_encode, Metadata.find?_labels_encode, h, Option.map_some, Option.bind_some,
    Children.find?_ofDict_commonLabels]
  exact decide_eq_true rfl

/-! ## Owners -/

namespace Metadata

/-- Nobody before the place of an owner has its identity, so it is found first wherever all that
are looked for have. -/
theorem Upserts.find?_eq {owner : OwnerReference} {rs rs' : List OwnerReference}
    {p : OwnerReference → Bool} (h : Upserts owner rs rs') (howner : p owner)
    (hp : ∀ r ∈ rs, p r → r.uid = owner.uid) : rs'.find? p = some owner := by
  cases h with
  | @replaced before after old hbefore hold =>
    have hnone : before.find? p = none := by
      apply List.find?_eq_none.2
      intro r hr hpr
      exact hbefore r hr (hp r (List.mem_append_left _ hr) hpr)
    rw [List.find?_append, hnone, Option.none_or, List.find?_cons_of_pos howner]
  | added hfresh =>
    have hnone : rs.find? p = none := by
      apply List.find?_eq_none.2
      intro r hr hpr
      exact hfresh r hr (hp r hr hpr)
    rw [List.find?_append, hnone, Option.none_or, List.find?_cons_of_pos howner]

end Metadata

theorem OwnerReference.hasControl_of_isControllingCluster {r : OwnerReference}
    (h : r.isControllingCluster) : r.hasControl := by
  unfold isControllingCluster at h
  rw [Bool.and_eq_true, Bool.and_eq_true] at h
  exact h.1.1

theorem ownerReference_isControllingCluster {c : Cluster} {owner : OwnerReference}
    (h : ownerReference c = .ok owner) : owner.isControllingCluster := by
  unfold ownerReference at h
  split at h
  · cases h
    rfl
  · cases h

theorem name_eq_of_ownerReference {c : Cluster} {owner : OwnerReference}
    (h : ownerReference c = .ok owner) : c.metadata.name = some owner.name := by
  unfold ownerReference at h
  split at h
  · next hname _ =>
    cases h
    exact hname
  · cases h

/-- A child is taken to the cluster that is found first among its owners. -/
theorem ownerKey_eq {m : Metadata} {namespaceName : String} {owner : OwnerReference}
    (hnamespace : m.namespaceName = some namespaceName)
    (howner : m.owners.find? (·.isControllingCluster) = some owner) :
    ownerKey m = some ⟨namespaceName, owner.name⟩ := by
  unfold Metadata.owners at howner
  cases hreferences : m.ownerReferences with
  | none =>
    rw [hreferences] at howner
    cases howner
  | some references =>
    rw [hreferences, Option.getD_some] at howner
    unfold ownerKey
    rw [hnamespace, hreferences]
    show (references.find? (·.isControllingCluster)).bind _ = _
    rw [howner]
    rfl

/-! ## The way back -/

/-- A cluster is known under a key: a watch of the clusters that begins signals it so, and so does
every watch when the cluster is deleted, and the store of entities finds it there. -/
structure Cluster.IsKnownAs (c : Cluster) (key : Key) : Prop where
  told : ∀ e : WatchEvent, e.object? = some c.metadata →
    (({} : GenerationFilter).handle e).1 = [key]
  deleted : ∀ f : GenerationFilter, (f.handle (.deleted c.metadata)).1 = [key]
  stored : ∀ (s : EntityStore ClusterSpec ClusterStatus) stamp,
    ((s.put c).answer stamp {} (.fetch key)).1 = .ok (some c)

theorem Cluster.isKnownAs_key (c : Cluster) : c.IsKnownAs c.key where
  told e he := by
    cases e with
    | listing | listingDone => cases he
    | listed m | applied m | deleted m =>
      cases he
      rfl
  deleted f := rfl
  stored s stamp := by
    show Except.ok ((s.objects.insert c.key c).get? c.key) = _
    rw [Dict.get?_insert, if_pos rfl]

/-- The watch of the children hears of a child, by the text of its selector and by what the API
selects, and whatever it tells of the child signals a key. -/
structure Manifest.LeadsBackTo (m : Manifest) (key : Key) : Prop where
  selected : ∃ labels, m.metadata.labels = some labels ∧
    MeetsSelector labels Children.managedBySelector
  listed : bearsManagedLabel m.encode
  owner : ownerKey m.metadata = some key
  signalled : ∀ e : WatchEvent, e.object? = some m.metadata → ownedSignals e = [key]

theorem ownedSignals_of_ownerKey {m : Metadata} {key : Key} (h : ownerKey m = some key)
    {e : WatchEvent} (he : e.object? = some m) : ownedSignals e = [key] := by
  cases e with
  | listing | listingDone => cases he
  | listed m | applied m | deleted m =>
    cases he
    show (ownerKey _).toList = [key]
    rw [h]
    rfl

section

variable {c : Cluster} {owner : OwnerReference} {wanted m : Manifest} {found : Option Manifest}

theorem Manifest.IsReplacement.labels_eq (h : m.IsReplacement found wanted owner) :
    m.metadata.labels = wanted.metadata.labels ∧
      m.metadata.namespaceName = wanted.metadata.namespaceName := by
  rw [← h.rest]
  cases m <;> exact ⟨rfl, rfl⟩

/-- What replaces a child leads back to the cluster, if nobody else controlled what was found. -/
theorem leadsBackTo_of_isReplacement (hwanted : wanted ∈ Children.wanted c)
    (howner : ownerReference c = .ok owner) (hnamespace : c.metadata.namespaceName.isSome)
    (h : m.IsReplacement found wanted owner)
    (hsole : ∀ live ∈ found, ∀ r ∈ live.metadata.controllers, r.uid = owner.uid) :
    m.LeadsBackTo c.key := by
  obtain ⟨hlabels, hplace⟩ := h.labels_eq
  have hmetadata : wanted.metadata = Children.childMetadata c := by
    rcases Children.mem_wanted.1 hwanted with rfl | ⟨rfl, -⟩ <;> rfl
  rw [hmetadata] at hlabels hplace
  obtain ⟨namespaceName, hname⟩ := Option.isSome_iff_exists.1 hnamespace
  have hfirst : m.metadata.owners.find? (·.isControllingCluster) = some owner := by
    apply h.owners.find?_eq (ownerReference_isControllingCluster howner)
    intro r hr hcontrolling
    cases found with
    | none => cases hr
    | some live =>
      apply hsole live rfl
      exact List.mem_filter.2 ⟨hr, r.hasControl_of_isControllingCluster hcontrolling⟩
  have hkey : ownerKey m.metadata = some c.key := by
    rw [ownerKey_eq (hplace.trans hname) hfirst]
    unfold Entity.key Metadata.key Metadata.anyNamespace Metadata.anyName
    rw [hname, name_eq_of_ownerReference howner]
    rfl
  exact ⟨⟨_, hlabels, Children.meetsSelector_commonLabels _ _⟩,
    Manifest.bearsManagedLabel_encode hlabels, hkey, fun e => ownedSignals_of_ownerKey hkey⟩

end

/-- Whatever answers the calls, every child of a cluster that is written, new or in place of one
that nobody else controls, leads back to the key under which the cluster is known. The references of
the live child may name the cluster by an earlier name, may name it more than once, and may be to
others without control. -/
theorem written_children_lead_back {c : Cluster} {uid : String}
    (hnamespace : c.metadata.namespaceName.isSome) (hname : c.metadata.name.isSome)
    (huid : c.metadata.uid = some uid) :
    c.IsKnownAs c.key ∧ ∃ owner, ownerReference c = .ok owner ∧
      ∀ wanted ∈ Children.wanted c, ∀ (t : List ChildExchange) rest,
        (convergeChild owner wanted).Reaches t rest →
        (∀ live, ⟨.get wanted.ref, .ok (some live)⟩ ∈ t →
          ∀ r ∈ live.metadata.controllers, r.uid = uid) →
        ∀ x ∈ t, ∀ m, x.1.written? = some m → m.LeadsBackTo c.key := by
  obtain ⟨owner, howner, rfl⟩ := exists_ownerReference hname huid
  refine ⟨c.isKnownAs_key, owner, howner, fun wanted hwanted t rest h hsole x hx m hm => ?_⟩
  obtain ⟨t₁, t₂, rfl⟩ := List.append_of_mem hx
  have hasks := convergeChild_writesOver owner (List.mem_singleton_self wanted) none
  obtain ⟨_, hself, found, hlast, hq⟩ := hasks.of_reaches h m hm
  obtain rfl := List.mem_singleton.1 hself
  rw [Option.or_none] at hlast
  rw [hq] at hm
  obtain ⟨-, hreplaces, -⟩ := isReplacement_of_writeOver hwanted hm
  apply leadsBackTo_of_isReplacement hwanted howner hnamespace hreplaces
  rintro live rfl r hr
  exact hsole live (List.mem_append_left _ (List.mem_of_getLast? hlast)) r hr

/-- A service with the references that are allowed of it: to another owner without control, and to
the cluster by two earlier names, one of them in control. -/
def renamedService : Manifest :=
  .service {
    metadata := {
      name := some "demo", namespaceName := some "ns", resourceVersion := some "1"
      ownerReferences := some [
        { kind := "Other", uid := "v" },
        { apiVersion, kind := "BssCluster", name := "old", uid := "u" },
        { apiVersion, kind := "BssCluster", name := "older", uid := "u",
          controller := some true }] } }

theorem written_children_lead_back_renamed :
    ∃ (t : List ChildExchange) (m : Manifest) (reply : Except StoreError Manifest),
      t = [⟨.get ⟨.service, "ns", "demo"⟩, .ok (some renamedService)⟩, ⟨.update m, reply⟩] ∧
      (∃ owner rest, ownerReference exposedCluster = .ok owner ∧
        (convergeChild owner (.service (Children.service exposedCluster))).Reaches t rest) ∧
      m.LeadsBackTo ⟨"ns", "demo"⟩ := by
  obtain ⟨-, owner, howner, hwritten⟩ := written_children_lead_back (c := exposedCluster)
    rfl rfl rfl
  have hdrifted : renamedService.needsUpdate ((renamedService.carryForward
      (.service (Children.service exposedCluster))).owned owner) owner = true := by
    cases howner
    decide
  obtain ⟨rest, hcourse⟩ := convergeChild_updates hdrifted (.error (.conflict "changed"))
  refine ⟨_, _, _, rfl, ⟨owner, rest, howner, hcourse⟩, ?_⟩
  refine hwritten _ List.mem_cons_self _ _ hcourse ?_ _ (List.mem_cons_of_mem _ List.mem_cons_self)
    _ rfl
  intro live hlive
  rcases List.mem_cons.1 hlive with h | h
  · cases h
    show ∀ r ∈ renamedService.metadata.controllers, r.uid = "u"
    decide
  · cases List.mem_singleton.1 h

end ClusterOperator
