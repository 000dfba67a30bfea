import ClusterOperator.Proofs.Convergence.Pass
import ClusterOperator.Proofs.Interleaving

/-!
# Dialogues that stay with a key

The children of a cluster are stored under its key. What converges them reads and writes nothing
else, and what it comes to depends on nothing else. Versions are the exception: the store counts
them for all keys together. But a convergence only hands back the version that it has just read, so
it does not depend on them either.

* `Manifest.unversioned` : a child without its version; `Manifest.replacement_of_unversioned`,
  drift and its repair do not depend on versions;
* `ClusterRequest.IsAbout`, `ClusterRequest.Honest` : the requests about a key, and the replies of
  a store that keeps a cluster under its key;
* `ClusterBench.LeavesAlone` : nothing of a key is changed; `leavesAlone_answer`;
* `ClusterBench.Alike` : the stores hold the same for a key, up to versions;
* `IsLocal` : a dialogue asks about a key only, and comes to the same over alike stores, whatever
  others do elsewhere; `IsLocal.bind`;
* `convergeChildren_isLocal` : the convergence of a cluster's children is local to its key.
-/

namespace ClusterOperator

open Dialogue

/-! ## Versions -/

namespace Manifest

def unversioned (m : Manifest) : Manifest :=
  m.withMetadata { m.metadata with resourceVersion := none }

@[simp] theorem unversioned_withVersion (m : Manifest) (version : String) :
    (m.withVersion version).unversioned = m.unversioned := by
  cases m <;> rfl

theorem unversioned_owned (m : Manifest) (owner : OwnerReference) :
    (m.owned owner).unversioned = m.unversioned.owned owner := by
  cases m <;> rfl

theorem unversioned_carryForward (live wanted : Manifest) :
    (live.carryForward wanted).unversioned = live.unversioned.carryForward wanted := by
  cases live <;> cases wanted <;> rfl

theorem isControlledBy_unversioned (m : Manifest) (uid : String) :
    m.unversioned.metadata.isControlledBy uid = m.metadata.isControlledBy uid := by
  cases m <;> rfl

theorem needsUpdate_unversioned (live next : Manifest) (owner : OwnerReference) :
    live.unversioned.needsUpdate next.unversioned owner = live.needsUpdate next owner := by
  cases live <;> cases next <;> rfl

/-- What replaces a child, and whether it is replaced, does not depend on its version. -/
theorem replacement_of_unversioned {live live' : Manifest}
    (h : live.unversioned = live'.unversioned) (wanted : Manifest) (owner : OwnerReference) :
    ((live.carryForward wanted).owned owner).unversioned =
        ((live'.carryForward wanted).owned owner).unversioned ∧
      live.needsUpdate ((live.carryForward wanted).owned owner) owner =
        live'.needsUpdate ((live'.carryForward wanted).owned owner) owner := by
  have hnext : ((live.carryForward wanted).owned owner).unversioned =
      ((live'.carryForward wanted).owned owner).unversioned := by
    rw [unversioned_owned, unversioned_owned, unversioned_carryForward, unversioned_carryForward, h]
  refine ⟨hnext, ?_⟩
  rw [← needsUpdate_unversioned, ← needsUpdate_unversioned live', h, hnext]

end Manifest

/-! ## Keys -/

def ChildRef.key (r : ChildRef) : Key :=
  ⟨r.namespaceName, r.name⟩

/-- The request is about what is stored for a key, or about the time. -/
def ClusterRequest.IsAbout (k : Key) : ClusterRequest → Prop
  | .entity .clock => True
  | .entity (.fetch l) => l = k
  | .entity (.publish c) => c.key = k
  | .child q => q.child.key = k

/-- The reply of a store that keeps every cluster under its key. -/
def ClusterRequest.Honest : (q : ClusterRequest) → q.Reply → Prop
  | .entity .clock, _ => True
  | .entity (.fetch k), reply => ∀ c, reply = .ok (some c) → c.key = k
  | .entity (.publish c), reply => ∀ d, reply = .ok d → d.key = c.key
  | .child _, _ => True

/-- The cluster that is stored under a key has it. -/
def EntityStore.IsKeyedAt {σ τ : Type} (s : EntityStore σ τ) (k : Key) : Prop :=
  ∀ e, s.objects.get? k = some e → e.key = k

/-! ## One call -/

theorem ChildStore.get?_answer_of_ne (q : ChildRequest) (s : ChildStore) {r : ChildRef}
    (h : r ≠ q.child) : (s.answer q).2.objects.get? r = s.objects.get? r := by
  cases q with
  | get child => rfl
  | create m =>
    have hm : r ≠ m.ref := h
    simp only [answer]
    split
    · rfl
    · exact (s.get?_put m r).trans (if_neg hm)
  | update m =>
    have hm : r ≠ m.ref := h
    simp only [answer]
    split
    · rfl
    · split
      · exact (s.get?_put m r).trans (if_neg hm)
      · rfl
  | delete child =>
    simp only [answer]
    split
    · rfl
    · exact (s.get?_drop child r).trans (if_neg h)

namespace ChildStore

variable {s : ChildStore} {m live : Manifest} {child : ChildRef}

theorem answer_create (h : s.objects.get? m.ref = none) :
    s.answer (.create m) = (.ok (s.put m).1, (s.put m).2) := by
  simp [answer, h]

theorem answer_update (h : s.objects.get? m.ref = some live)
    (hversion : m.metadata.resourceVersion = live.metadata.resourceVersion) :
    s.answer (.update m) = (.ok (s.put m).1, (s.put m).2) := by
  simp [answer, h, hversion]

theorem answer_delete (h : s.objects.get? child = some live) :
    s.answer (.delete child) = (.ok (), s.drop child) := by
  simp [answer, h]

end ChildStore

section

variable {k l : Key} {q : EntityRequest Cluster} {s s' : EntityStore ClusterSpec ClusterStatus}

theorem EntityStore.get?_answer_of_ne (stamp : String) (hq : ClusterRequest.IsAbout k (.entity q))
    (hl : l ≠ k) : (s.answer stamp {} q).2.objects.get? l = s.objects.get? l := by
  cases q with
  | clock => rfl
  | fetch key => rfl
  | publish c =>
    have hc : c.key = k := hq
    simp only [answer]
    split
    · rfl
    · exact (Dict.get?_insert _ _ _ _).trans (if_neg (hc ▸ hl))

/-- A store that keeps a cluster under its key is honest about it, and goes on so. -/
theorem EntityStore.IsKeyedAt.answer (h : s.IsKeyedAt k) (stamp : String)
    (hq : ClusterRequest.IsAbout k (.entity q)) :
    ClusterRequest.Honest (.entity q) (s.answer stamp {} q).1 ∧
      (s.answer stamp {} q).2.IsKeyedAt k := by
  cases q with
  | clock => exact ⟨trivial, h⟩
  | fetch key =>
    have hk : key = k := hq
    subst hk
    exact ⟨fun c hc => h c (Except.ok.inj hc), h⟩
  | publish c =>
    have hk : c.key = k := hq
    subst hk
    simp only [EntityStore.answer]
    split
    · exact ⟨fun d hd => (by cases hd), h⟩
    · next stored hstored =>
      have hkey : stored.key = c.key := h _ hstored
      refine ⟨fun d hd => ?_, fun d hd => ?_⟩
      · cases hd
        exact hkey
      · rw [Dict.get?_insert, if_pos rfl] at hd
        cases hd
        exact hkey

/-- Stores that hold the same cluster for a key answer the same about it, and go on to hold the
same. -/
theorem EntityStore.answer_congr (stamp : String) (hq : ClusterRequest.IsAbout k (.entity q))
    (h : s.objects.get? k = s'.objects.get? k) :
    (s.answer stamp {} q).1 = (s'.answer stamp {} q).1 ∧
      (s.answer stamp {} q).2.objects.get? k = (s'.answer stamp {} q).2.objects.get? k := by
  cases q with
  | clock => exact ⟨rfl, h⟩
  | fetch key =>
    have hk : key = k := hq
    subst hk
    exact ⟨congrArg Except.ok h, h⟩
  | publish c =>
    have hk : c.key = k := hq
    subst hk
    simp only [answer, ← h]
    split
    · exact ⟨rfl, h⟩
    · exact ⟨rfl, by rw [Dict.get?_insert, Dict.get?_insert, if_pos rfl, if_pos rfl]⟩

end

namespace ClusterBench

variable {b b' : ClusterBench} {k l : Key}

theorem answer_entity (hb : b.faults.AreSilent) (stamp : String) (q : EntityRequest Cluster) :
    ∃ c : ClusterBench, answer stamp (.entity q) b = ((b.entities.answer stamp {} q).1, c) ∧
      c.entities = (b.entities.answer stamp {} q).2 ∧ c.children = b.children ∧
      c.faults.AreSilent := by
  cases q with
  | clock => exact ⟨b, rfl, rfl, rfl, hb⟩
  | fetch key =>
    obtain ⟨g, hg, hs⟩ := hb.next .getEntity
    simp only [answer, Bench.entityAnswer, hg]
    exact ⟨_, rfl, rfl, rfl, hs⟩
  | publish c =>
    obtain ⟨g, hg, hs⟩ := hb.next .publish
    simp only [answer, Bench.entityAnswer, hg]
    exact ⟨_, rfl, rfl, rfl, hs⟩

/-- The stores `c` are those of `b` after a call that left the children `s`. -/
structure After (b : ClusterBench) (s : ChildStore) (c : ClusterBench) : Prop where
  children : c.children = s
  entities : c.entities = b.entities
  silent : c.faults.AreSilent

theorem answer_child (hb : b.faults.AreSilent) (q : ChildRequest) :
    ∃ c : ClusterBench, Bench.childAnswer q b = ((b.children.answer q).1, c) ∧
      b.After (b.children.answer q).2 c := by
  obtain ⟨c, hc, hchildren, hentities, hsilent⟩ := Bench.childAnswer_of_silent q hb
  exact ⟨c, hc, hchildren, hentities, hsilent⟩

/-! ## What is stored for a key -/

/-- Nothing that is stored for a key is changed. -/
structure LeavesAlone (k : Key) (b b' : ClusterBench) : Prop where
  entity : b'.entities.objects.get? k = b.entities.objects.get? k
  child : ∀ r : ChildRef, r.key = k → b'.children.objects.get? r = b.children.objects.get? r
  silent : b.faults.AreSilent → b'.faults.AreSilent

instance (k : Key) : IsPreorder ClusterBench (LeavesAlone k) where
  refl _ := ⟨rfl, fun _ _ => rfl, id⟩
  trans _ _ _ h h' := ⟨h'.entity.trans h.entity,
    fun r hr => (h'.child r hr).trans (h.child r hr), h'.silent ∘ h.silent⟩

theorem leavesAlone_answer (hb : b.faults.AreSilent) (stamp : String) {q : ClusterRequest}
    (hq : q.IsAbout k) (hl : l ≠ k) : LeavesAlone l b (answer stamp q b).2 := by
  cases q with
  | entity q =>
    obtain ⟨c, hc, hentities, hchildren, hsilent⟩ := answer_entity hb stamp q
    rw [hc]
    refine ⟨?_, fun r _ => by rw [hchildren], fun _ => hsilent⟩
    rw [hentities]
    exact EntityStore.get?_answer_of_ne stamp hq hl
  | child q =>
    obtain ⟨c, hc, hafter⟩ := answer_child hb q
    have hanswer : answer stamp (.child q) b = ((b.children.answer q).1, c) := hc
    rw [hanswer]
    refine ⟨by rw [hafter.entities], fun r hr => ?_, fun _ => hafter.silent⟩
    rw [hafter.children]
    refine ChildStore.get?_answer_of_ne q _ ?_
    rintro rfl
    exact hl (hr.symm.trans hq)

/-- The stores hold the same for a key, up to the versions of its children, and keep its cluster
under it. -/
structure Alike (k : Key) (b b' : ClusterBench) : Prop where
  silent : b.faults.AreSilent ∧ b'.faults.AreSilent
  entity : b.entities.objects.get? k = b'.entities.objects.get? k
  keyed : b.entities.IsKeyedAt k
  child : ∀ r : ChildRef, r.key = k → (b.children.objects.get? r).map Manifest.unversioned =
    (b'.children.objects.get? r).map Manifest.unversioned

theorem Alike.leavesAlone {c c' : ClusterBench} (h : Alike k b b') (hc : LeavesAlone k b c)
    (hc' : LeavesAlone k b' c') : Alike k c c' where
  silent := ⟨hc.silent h.silent.1, hc'.silent h.silent.2⟩
  entity := by rw [hc.entity, hc'.entity, h.entity]
  keyed := fun c hk => h.keyed c (hc.entity ▸ hk)
  child r hr := by rw [hc.child r hr, hc'.child r hr, h.child r hr]

theorem Alike.after {c c' : ClusterBench} {s s' : ChildStore} (h : Alike k b b') (hc : b.After s c)
    (hc' : b'.After s' c')
    (hs : ∀ r : ChildRef, r.key = k → (s.objects.get? r).map Manifest.unversioned =
      (s'.objects.get? r).map Manifest.unversioned) : Alike k c c' where
  silent := ⟨hc.silent, hc'.silent⟩
  entity := by rw [hc.entities, hc'.entities, h.entity]
  keyed := hc.entities ▸ h.keyed
  child r hr := by rw [hc.children, hc'.children, hs r hr]

theorem Alike.read {c c' : ClusterBench} (h : Alike k b b') (hc : b.After b.children c)
    (hc' : b'.After b'.children c') : Alike k c c' :=
  h.after hc hc' h.child

theorem Alike.put {c c' : ClusterBench} {m m' : Manifest} (h : Alike k b b') (href : m.ref = m'.ref)
    (hmm : m.unversioned = m'.unversioned) (hc : b.After (b.children.put m).2 c)
    (hc' : b'.After (b'.children.put m').2 c') : Alike k c c' := by
  refine h.after hc hc' fun r hr => ?_
  rw [ChildStore.get?_put, ChildStore.get?_put, href]
  split
  · simp [ChildStore.put, hmm]
  · exact h.child r hr

theorem Alike.drop {c c' : ClusterBench} {child : ChildRef} (h : Alike k b b')
    (hc : b.After (b.children.drop child) c) (hc' : b'.After (b'.children.drop child) c') :
    Alike k c c' := by
  refine h.after hc hc' fun r hr => ?_
  rw [ChildStore.get?_drop, ChildStore.get?_drop]
  split
  · rfl
  · exact h.child r hr

/-- What was read is still stored when nobody else writes it meanwhile. -/
theorem LeavesAlone.get?_of_read {u : ClusterBench} (h : LeavesAlone k b' u)
    (hread : b.After b.children b') {r : ChildRef} (hr : r.key = k) :
    u.children.objects.get? r = b.children.objects.get? r := by
  rw [h.child r hr, hread.children]

theorem Alike.finish {Q : Type} {A : Q → Type} {α : Type} {x a a' : α}
    {answer : (q : Q) → ClusterBench → A q × ClusterBench} {t t' : ClusterBench} (h : Alike k b b')
    (hrun : RunsAmid answer (LeavesAlone k) (.finish x) b a t)
    (hrun' : RunsAmid answer (LeavesAlone k) (.finish x) b' a' t') : a = a' ∧ Alike k t t' := by
  obtain ⟨rfl, ht⟩ := hrun.of_finish
  obtain ⟨rfl, ht'⟩ := hrun'.of_finish
  exact ⟨rfl, h.leavesAlone ht ht'⟩

theorem Alike.answer_entity (h : Alike k b b') (stamp : String) {q : EntityRequest Cluster}
    (hq : ClusterRequest.IsAbout k (.entity q)) :
    (answer stamp (.entity q) b).1 = (answer stamp (.entity q) b').1 ∧
      ClusterRequest.Honest (.entity q) (answer stamp (.entity q) b).1 ∧
      Alike k (answer stamp (.entity q) b).2 (answer stamp (.entity q) b').2 := by
  obtain ⟨c, hc, hentities, hchildren, hsilent⟩ := ClusterBench.answer_entity h.silent.1 stamp q
  obtain ⟨c', hc', hentities', hchildren', hsilent'⟩ :=
    ClusterBench.answer_entity h.silent.2 stamp q
  obtain ⟨hreply, hentity⟩ := EntityStore.answer_congr stamp hq h.entity
  obtain ⟨hhonest, hkeyed⟩ := h.keyed.answer stamp hq
  rw [hc, hc']
  refine ⟨hreply, hhonest, ⟨hsilent, hsilent'⟩, ?_, ?_, fun r hr => ?_⟩
  · rw [hentities, hentities', hentity]
  · rwa [hentities]
  · rw [hchildren, hchildren', h.child r hr]

end ClusterBench

/-! ## Local dialogues -/

open ClusterRequest ClusterBench

/-- As long as the replies are honest, all requests are about a key. Over stores that are alike for
the key the dialogue comes to the same, whatever others do elsewhere meanwhile, and leaves the
stores alike. -/
structure IsLocal {Q : Type} {A : Q → Type} {α : Type} (k : Key)
    (answer : (q : Q) → ClusterBench → A q × ClusterBench) (honest : (q : Q) → A q → Prop)
    (about : Q → Prop) (R : α → Prop) (d : Dialogue Q A α) : Prop where
  asks : d.AsksAmong honest about R
  steady : ∀ {b b' : ClusterBench} {a a' : α} {t t' : ClusterBench}, Alike k b b' →
    RunsAmid answer (LeavesAlone k) d b a t → RunsAmid answer (LeavesAlone k) d b' a' t' →
      a = a' ∧ R a ∧ Alike k t t'

namespace IsLocal

variable {Q : Type} {A : Q → Type} {α β : Type} {k : Key}
  {answer : (q : Q) → ClusterBench → A q × ClusterBench} {honest : (q : Q) → A q → Prop}
  {about : Q → Prop} {R : α → Prop} {S : β → Prop}

theorem finish {a : α} (h : R a) : IsLocal k answer honest about R (.finish a) where
  asks := h
  steady hb hrun hrun' := by
    obtain ⟨rfl, -⟩ := hrun.of_finish
    obtain ⟨heq, ht⟩ := hb.finish hrun hrun'
    exact ⟨heq, h, ht⟩

theorem bind {d : Dialogue Q A α} {f : α → Dialogue Q A β} (h : IsLocal k answer honest about R d)
    (hf : ∀ a, R a → IsLocal k answer honest about S (f a)) :
    IsLocal k answer honest about S (d.bind f) where
  asks := h.asks.bind fun a ha => (hf a ha).asks
  steady hb hrun hrun' := by
    obtain ⟨a, u, hfirst, hsecond⟩ := hrun.of_bind
    obtain ⟨a', u', hfirst', hsecond'⟩ := hrun'.of_bind
    obtain ⟨rfl, ha, hu⟩ := h.steady hb hfirst hfirst'
    exact (hf a ha).steady hu hsecond hsecond'

end IsLocal

abbrev ChildDialogue.IsLocal {α : Type} (k : Key) (d : ChildDialogue α) : Prop :=
  ClusterOperator.IsLocal k Bench.childAnswer (fun _ _ => True) (·.child.key = k) (fun _ => True) d

abbrev ClusterDialogue.IsLocal {α : Type} (k : Key) (stamp : String) (R : α → Prop)
    (d : ClusterDialogue α) : Prop :=
  ClusterOperator.IsLocal k (answer stamp) Honest (IsAbout k) R d

/-! ## Children -/

section

variable {α : Type} {k : Key} {owner : OwnerReference} {b b' t t' : ClusterBench} {a a' : α}

/-- A call about a child, over each of two stores, amid others that leave the key alone. -/
theorem ClusterBench.Alike.ask_child (h : Alike k b b') {q q' : ChildRequest}
    {f : q.Reply → ChildDialogue α} {f' : q'.Reply → ChildDialogue α}
    (hrun : RunsAmid Bench.childAnswer (LeavesAlone k) ((request q).bind f) b a t)
    (hrun' : RunsAmid Bench.childAnswer (LeavesAlone k) ((request q').bind f') b' a' t') :
    ∃ u u' c c' : ClusterBench, LeavesAlone k b u ∧ LeavesAlone k b' u' ∧ Alike k u u' ∧
      u.After (u.children.answer q).2 c ∧ u'.After (u'.children.answer q').2 c' ∧
      RunsAmid Bench.childAnswer (LeavesAlone k) (f (u.children.answer q).1) c a t ∧
      RunsAmid Bench.childAnswer (LeavesAlone k) (f' (u'.children.answer q').1) c' a' t' := by
  obtain ⟨u, hu, hrest⟩ := RunsAmid.of_ask hrun
  obtain ⟨u', hu', hrest'⟩ := RunsAmid.of_ask hrun'
  have halike := h.leavesAlone hu hu'
  obtain ⟨c, hc, hafter⟩ := answer_child halike.silent.1 q
  obtain ⟨c', hc', hafter'⟩ := answer_child halike.silent.2 q'
  rw [hc] at hrest
  rw [hc'] at hrest'
  exact ⟨u, u', c, c', hu, hu', halike, hafter, hafter', hrest, hrest'⟩

/-- A child that is read over each of two stores: it is missing in both, or the two copies differ
in their versions only. -/
theorem ClusterBench.Alike.read_cases (h : Alike k b b') {r : ChildRef} (hr : r.key = k) :
    b.children.objects.get? r = none ∧ b'.children.objects.get? r = none ∨
      ∃ live live', b.children.objects.get? r = some live ∧
        b'.children.objects.get? r = some live' ∧ live.unversioned = live'.unversioned := by
  have hchild := h.child r hr
  cases hlive : b.children.objects.get? r with
  | none =>
    rw [hlive, Option.map_none, eq_comm, Option.map_eq_none_iff] at hchild
    exact Or.inl ⟨rfl, hchild⟩
  | some live =>
    rw [hlive, Option.map_some, eq_comm, Option.map_eq_some_iff] at hchild
    obtain ⟨live', hlive', heq⟩ := hchild
    exact Or.inr ⟨live, live', rfl, hlive', heq.symm⟩

theorem convergeChild_steady {wanted : Manifest} (h : wanted.ref.key = k) (hb : Alike k b b')
    {a a' : Except ChildError ChildOutcome}
    (hrun : RunsAmid Bench.childAnswer (LeavesAlone k) (convergeChild owner wanted) b a t)
    (hrun' : RunsAmid Bench.childAnswer (LeavesAlone k) (convergeChild owner wanted) b' a' t') :
    a = a' ∧ Alike k t t' := by
  obtain ⟨u, u', c, c', -, -, hu, hc, hc', hrest, hrest'⟩ := hb.ask_child hrun hrun'
  have hread := hu.read hc hc'
  rcases hu.read_cases h with ⟨hnone, hnone'⟩ | ⟨live, live', hlive, hlive', hsame⟩
  · simp only [ChildStore.answer, hnone] at hrest
    simp only [ChildStore.answer, hnone'] at hrest'
    obtain ⟨v, v', d, d', hv, hv', hvv, hd, hd', hlast, hlast'⟩ := hread.ask_child hrest hrest'
    have hmissing : v.children.objects.get? (wanted.owned owner).ref = none :=
      (hv.get?_of_read hc (by simpa using h)).trans (by simpa using hnone)
    have hmissing' : v'.children.objects.get? (wanted.owned owner).ref = none :=
      (hv'.get?_of_read hc' (by simpa using h)).trans (by simpa using hnone')
    rw [ChildStore.answer_create hmissing] at hd hlast
    rw [ChildStore.answer_create hmissing'] at hd' hlast'
    exact (hvv.put rfl rfl hd hd').finish hlast hlast'
  · simp only [ChildStore.answer, hlive] at hrest
    simp only [ChildStore.answer, hlive'] at hrest'
    obtain ⟨hnext, hneeds⟩ := Manifest.replacement_of_unversioned hsame wanted owner
    rw [← hneeds] at hrest'
    split at hrest
    · next hdrift =>
      rw [if_pos hdrift] at hrest'
      obtain ⟨v, v', d, d', hv, hv', hvv, hd, hd', hlast, hlast'⟩ := hread.ask_child hrest hrest'
      -- the version that is handed back is still the stored one
      have hstored : v.children.objects.get? ((live.carryForward wanted).owned owner).ref =
          some live :=
        (hv.get?_of_read hc (by simpa using h)).trans (by simpa using hlive)
      have hstored' : v'.children.objects.get? ((live'.carryForward wanted).owned owner).ref =
          some live' :=
        (hv'.get?_of_read hc' (by simpa using h)).trans (by simpa using hlive')
      have hversion := live.resourceVersion_carryForward_owned wanted owner
      have hversion' := live'.resourceVersion_carryForward_owned wanted owner
      rw [ChildStore.answer_update hstored hversion] at hd hlast
      rw [ChildStore.answer_update hstored' hversion'] at hd' hlast'
      exact (hvv.put (by simp) hnext hd hd').finish hlast hlast'
    · next hdrift =>
      rw [if_neg hdrift] at hrest'
      exact hread.finish hrest hrest'

theorem removeChild_steady {child : ChildRef} (h : child.key = k) (hb : Alike k b b')
    {a a' : Except ChildError ChildOutcome}
    (hrun : RunsAmid Bench.childAnswer (LeavesAlone k) (removeChild owner child) b a t)
    (hrun' : RunsAmid Bench.childAnswer (LeavesAlone k) (removeChild owner child) b' a' t') :
    a = a' ∧ Alike k t t' := by
  obtain ⟨u, u', c, c', -, -, hu, hc, hc', hrest, hrest'⟩ := hb.ask_child hrun hrun'
  have hread := hu.read hc hc'
  rcases hu.read_cases h with ⟨hnone, hnone'⟩ | ⟨live, live', hlive, hlive', hsame⟩
  · simp only [ChildStore.answer, hnone] at hrest
    simp only [ChildStore.answer, hnone'] at hrest'
    exact hread.finish hrest hrest'
  · simp only [ChildStore.answer, hlive, ← live.isControlledBy_unversioned, hsame] at hrest
    simp only [ChildStore.answer, hlive', ← live'.isControlledBy_unversioned] at hrest'
    split at hrest
    · next hcontrol =>
      rw [if_pos hcontrol] at hrest'
      obtain ⟨v, v', d, d', hv, hv', hvv, hd, hd', hlast, hlast'⟩ := hread.ask_child hrest hrest'
      rw [ChildStore.answer_delete ((hv.get?_of_read hc h).trans hlive)] at hd hlast
      rw [ChildStore.answer_delete ((hv'.get?_of_read hc' h).trans hlive')] at hd' hlast'
      exact (hvv.drop hd hd').finish hlast hlast'
    · next hcontrol =>
      rw [if_neg hcontrol] at hrest'
      exact hread.finish hrest hrest'

theorem convergeChild_isLocal (owner : OwnerReference) {wanted : Manifest}
    (h : wanted.ref.key = k) : ChildDialogue.IsLocal k (convergeChild owner wanted) where
  asks := by
    refine ⟨h, fun found _ => ?_⟩
    obtain e | _ | live := found
    · trivial
    · refine ⟨by simpa [ChildRequest.child] using h, fun reply _ => ?_⟩
      cases reply <;> trivial
    · simp only [bind_eq, finish_bind]
      split
      · refine ⟨by simpa [ChildRequest.child] using h, fun reply _ => ?_⟩
        cases reply <;> trivial
      · trivial
  steady hb hrun hrun' :=
    have hsteady := convergeChild_steady h hb hrun hrun'
    ⟨hsteady.1, trivial, hsteady.2⟩

theorem removeChild_isLocal (owner : OwnerReference) {child : ChildRef} (h : child.key = k) :
    ChildDialogue.IsLocal k (removeChild owner child) where
  asks := by
    refine ⟨h, fun found _ => ?_⟩
    obtain e | _ | live := found
    · trivial
    · trivial
    · simp only [bind_eq, finish_bind]
      split
      · refine ⟨h, fun reply _ => ?_⟩
        cases reply <;> trivial
      · trivial
  steady hb hrun hrun' :=
    have hsteady := removeChild_steady h hb hrun hrun'
    ⟨hsteady.1, trivial, hsteady.2⟩

theorem convergeWanted_isLocal (owner : OwnerReference) {ms : List Manifest}
    (h : ∀ m ∈ ms, m.ref.key = k) : ChildDialogue.IsLocal k (convergeWanted owner ms) := by
  induction ms with
  | nil => exact .finish trivial
  | cons m ms ih =>
    obtain ⟨hm, hms⟩ := List.forall_mem_cons.1 h
    refine (convergeChild_isLocal owner hm).bind fun outcome _ => ?_
    cases outcome with
    | error e => exact .finish trivial
    | ok _ => exact (ih hms).bind fun reply _ => by cases reply <;> exact .finish trivial

theorem removeDropped_isLocal (owner : OwnerReference) {rs : List ChildRef}
    (h : ∀ r ∈ rs, r.key = k) : ChildDialogue.IsLocal k (removeDropped owner rs) := by
  induction rs with
  | nil => exact .finish trivial
  | cons r rs ih =>
    obtain ⟨hr, hrs⟩ := List.forall_mem_cons.1 h
    refine (removeChild_isLocal owner hr).bind fun outcome _ => ?_
    cases outcome with
    | error e => exact .finish trivial
    | ok _ => exact ih hrs

theorem Children.key_of_wanted {c : Cluster} {m : Manifest} (h : m ∈ wanted c) :
    m.ref.key = c.key := by
  rcases mem_wanted.1 h with rfl | ⟨rfl, -⟩ <;> rfl

theorem Children.key_of_dropped {c : Cluster} {r : ChildRef} (h : r ∈ dropped c) :
    r.key = c.key := by
  unfold dropped at h
  split at h
  · cases h
  · rw [List.mem_singleton.1 h]
    rfl

theorem convergeChildren_isLocal (c : Cluster) :
    ChildDialogue.IsLocal c.key (convergeChildren c) := by
  unfold convergeChildren
  split
  · exact .finish trivial
  · next owner _ =>
    refine (convergeWanted_isLocal owner fun m => Children.key_of_wanted).bind fun wanted _ => ?_
    cases wanted with
    | error e => exact .finish trivial
    | ok refs =>
      refine (removeDropped_isLocal owner fun r => Children.key_of_dropped).bind
        fun dropped _ => ?_
      cases dropped <;> exact .finish trivial

end

end ClusterOperator
