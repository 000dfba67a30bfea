import ClusterOperator.Proofs.Convergence.Locality

/-!
# Passes over different keys are independent

A pass stays with its key, so passes over two keys do not meet, however their calls take turns.

* `reconcileCluster_isLocal` : a pass is local to its key;
* `ClusterBench.SameContent` : the stores hold the same, up to the versions of the children;
* `ClusterBench.IsAmid` : the stores while passes over two keys take turns; `ClusterBench.serves`;
* `ClusterBench.ComesTo` : what two passes come to, each amid the other; `ComesTo.unique`, it does
  not depend on their turns;
* `independent_passes_commute` : two passes that take turns come to what they come to one after the
  other, in either order;
* `namesakes`, `independent_passes_commute_of_namesakes` : two clusters of one name.
-/

namespace ClusterOperator

open Dialogue ClusterRequest ClusterBench

/-! ## Passes -/

namespace ClusterDialogue

variable {α : Type} {k : Key} {stamp : String} {c : Cluster}

theorem entity_isLocal {q : EntityRequest Cluster} (hq : IsAbout k (.entity q)) :
    IsLocal k stamp (Honest (.entity q)) (request (ClusterRequest.entity q)) where
  asks := ⟨hq, fun _ hreply => hreply⟩
  steady hb hrun hrun' := by
    obtain ⟨u, hu, hrest⟩ := hrun.of_ask
    obtain ⟨u', hu', hrest'⟩ := hrun'.of_ask
    obtain ⟨rfl, ht⟩ := hrest.of_finish
    obtain ⟨rfl, ht'⟩ := hrest'.of_finish
    obtain ⟨hreply, hhonest, halike⟩ := (hb.leavesAlone hu hu').answer_entity stamp hq
    exact ⟨hreply, hhonest, halike.leavesAlone ht ht'⟩

theorem runsAmid_of_ofChild {d : ChildDialogue α} {others : ClusterBench → ClusterBench → Prop}
    {b t : ClusterBench} {a : α} (h : RunsAmid (answer stamp) others (ofChild d) b a t) :
    RunsAmid Bench.childAnswer others d b a t := by
  induction d generalizing b with
  | finish a =>
    obtain ⟨rfl, ht⟩ := RunsAmid.of_finish h
    exact .finish ht
  | ask q next ih =>
    obtain ⟨u, hu, hrest⟩ := RunsAmid.of_ask h
    exact .ask hu (ih _ hrest)

theorem asksAmong_ofChild {d : ChildDialogue α}
    (h : d.AsksAmong (fun _ _ => True) (·.child.key = k) fun _ => True) :
    (ofChild d).AsksAmong Honest (IsAbout k) fun _ => True := by
  induction d with
  | finish a => trivial
  | ask q next ih => exact ⟨h.1, fun reply _ => ih reply (h.2 reply trivial)⟩

theorem ofChild_isLocal {d : ChildDialogue α} (h : d.IsLocal k) :
    IsLocal k stamp (fun _ => True) (ofChild d) where
  asks := asksAmong_ofChild h.asks
  steady hb hrun hrun' := h.steady hb (runsAmid_of_ofChild hrun) (runsAmid_of_ofChild hrun')

theorem publish_isLocal (hc : c.key = k) :
    IsLocal k stamp (fun reply => ∀ d, reply = .ok d → d.key = k) (publish c) := by
  subst hc
  exact entity_isLocal (q := .publish c) rfl

end ClusterDialogue

open ClusterDialogue

section

variable {k : Key} {stamp : String} {c : Cluster}

theorem startCluster_isLocal (s : String) (hc : c.key = k) :
    ClusterDialogue.IsLocal k stamp (fun reply => ∀ d, reply = .ok d → d.key = k)
      (startCluster s c) := by
  unfold startCluster
  split
  · exact publish_isLocal hc
  · exact .finish fun d hd => Except.ok.inj hd ▸ hc

theorem reportCluster_isLocal (hc : c.key = k) (status : ClusterStatus)
    (outcome : Except PassError Requeue) :
    ClusterDialogue.IsLocal k stamp (fun _ => True) (reportCluster c status outcome) := by
  unfold reportCluster
  split
  · refine (publish_isLocal (c := c.withStatus status) hc).bind fun reply _ => ?_
    cases reply <;> exact .finish trivial
  · exact .finish trivial

theorem workOnCluster_isLocal (s : String) (hc : c.key = k) :
    ClusterDialogue.IsLocal k stamp (fun _ => True) (workOnCluster s c) := by
  unfold workOnCluster
  split
  · exact reportCluster_isLocal hc _ _
  · subst hc
    refine (ofChild_isLocal (convergeChildren_isLocal c)).bind fun reply _ => ?_
    cases reply <;> exact reportCluster_isLocal rfl _ _

/-- A pass asks about its key only, and what it comes to depends on nothing else. -/
theorem reconcileCluster_isLocal (stamp : String) (key : Key) :
    ClusterDialogue.IsLocal key stamp (fun _ => True) (reconcileCluster key) := by
  refine (entity_isLocal (q := .fetch key) rfl).bind fun found hfound => ?_
  obtain e | _ | c := found
  · exact .finish trivial
  · exact .finish trivial
  · have hc : c.key = key := hfound c rfl
    dsimp only
    split
    · exact .finish trivial
    · refine (entity_isLocal (q := .clock) trivial).bind fun s _ => ?_
      refine (startCluster_isLocal s hc).bind fun reply hreply => ?_
      cases reply with
      | error e => exact .finish trivial
      | ok d => exact workOnCluster_isLocal s (hreply d rfl)

end

/-! ## Two passes -/

namespace ClusterBench

/-- The stores hold the same, up to the versions of the children. -/
structure SameContent (b b' : ClusterBench) : Prop where
  entities : ∀ k, b.entities.objects.get? k = b'.entities.objects.get? k
  children : ∀ r, (b.children.objects.get? r).map Manifest.unversioned =
    (b'.children.objects.get? r).map Manifest.unversioned

/-- The stores `b` while passes over two keys take turns that started from `s`. -/
structure IsAmid (k l : Key) (s b : ClusterBench) : Prop where
  silent : b.faults.AreSilent
  keyed₁ : b.entities.IsKeyedAt k
  keyed₂ : b.entities.IsKeyedAt l
  elsewhere : ∀ m, m ≠ k → m ≠ l → LeavesAlone m s b

variable {k l : Key} {s b : ClusterBench}

theorem IsAmid.symm (h : IsAmid k l s b) : IsAmid l k s b :=
  ⟨h.silent, h.keyed₂, h.keyed₁, fun m hl hk => h.elsewhere m hk hl⟩

theorem honest_of_keyed (hb : b.faults.AreSilent) (hk : b.entities.IsKeyedAt k) (stamp : String)
    {q : ClusterRequest} (hq : q.IsAbout k) :
    q.Honest (answer stamp q b).1 ∧ (answer stamp q b).2.entities.IsKeyedAt k ∧
      (answer stamp q b).2.faults.AreSilent := by
  cases q with
  | entity q =>
    obtain ⟨c, hc, hentities, -, hsilent⟩ := answer_entity hb stamp q
    obtain ⟨hhonest, hkeyed⟩ := hk.answer stamp hq
    rw [hc]
    exact ⟨hhonest, hentities ▸ hkeyed, hsilent⟩
  | child q =>
    obtain ⟨c, hc, hafter⟩ := answer_child hb q
    have hanswer : answer stamp (.child q) b = ((b.children.answer q).1, c) := hc
    rw [hanswer]
    exact ⟨trivial, hafter.entities ▸ hk, hafter.silent⟩

/-- The calls of a pass over one key leave the other key alone. -/
theorem serves (hkl : k ≠ l) (s : ClusterBench) (stamp : String) :
    Serves (answer stamp) Honest (IsAmid k l s) (IsAbout k) (LeavesAlone l) := by
  intro q b hq hb
  obtain ⟨hhonest, hkeyed, hsilent⟩ := honest_of_keyed hb.silent hb.keyed₁ stamp hq
  have hother := leavesAlone_answer hb.silent stamp hq hkl.symm
  refine ⟨hhonest, ⟨hsilent, hkeyed, fun c hc => ?_, fun m hk hl => ?_⟩, hother⟩
  · rw [hother.entity] at hc
    exact hb.keyed₂ c hc
  · exact trans_of (LeavesAlone m) (hb.elsewhere m hk hl) (leavesAlone_answer hb.silent stamp hq hk)

/-- What passes over two keys come to, each amid the other. -/
structure ComesTo (k l : Key) (stamp₁ stamp₂ : String) (s : ClusterBench)
    (x y : Except PassError Requeue) (t : ClusterBench) : Prop where
  first : RunsAmid (answer stamp₁) (LeavesAlone k) (reconcileCluster k) s x t
  second : RunsAmid (answer stamp₂) (LeavesAlone l) (reconcileCluster l) s y t
  amid : IsAmid k l s t

variable {stamp₁ stamp₂ : String} {x y x' y' : Except PassError Requeue} {t t' : ClusterBench}

theorem ComesTo.symm (h : ComesTo k l stamp₁ stamp₂ s x y t) : ComesTo l k stamp₂ stamp₁ s y x t :=
  ⟨h.second, h.first, h.amid.symm⟩

theorem comesTo_of_interleave (hkl : k ≠ l) (hs : IsAmid k l s s) (turns : List Turn)
    (h : interleave (answer stamp₁) (answer stamp₂) turns (reconcileCluster k)
      (reconcileCluster l) s = ((x, y), t)) : ComesTo k l stamp₁ stamp₂ s x y t := by
  have hfirst := serves hkl s stamp₁
  have hsecond : Serves (answer stamp₂) Honest (IsAmid k l s) (IsAbout l) (LeavesAlone k) :=
    fun q b hq hb =>
      have hserves := serves hkl.symm s stamp₂ q b hq hb.symm
      ⟨hserves.1, hserves.2.1.symm, hserves.2.2⟩
  obtain ⟨hx, hy, ht⟩ := runsAmid_of_interleave hfirst hsecond turns
    (reconcileCluster_isLocal stamp₁ k).asks (reconcileCluster_isLocal stamp₂ l).asks hs h
  exact ⟨hx, hy, ht⟩

theorem comesTo_of_passes (hkl : k ≠ l) (hs : IsAmid k l s s) {u : ClusterBench}
    (hfirst : pass stamp₁ k s = (x, u)) (hsecond : pass stamp₂ l u = (y, t)) :
    ComesTo k l stamp₁ stamp₂ s x y t := by
  refine comesTo_of_interleave hkl hs [] ?_
  rw [pass] at hfirst hsecond
  rw [interleave, hfirst]
  dsimp only
  rw [hsecond]

/-- Two passes come to the same, whatever turns they take. -/
theorem ComesTo.unique (hs : IsAmid k l s s) (h : ComesTo k l stamp₁ stamp₂ s x y t)
    (h' : ComesTo k l stamp₁ stamp₂ s x' y' t') : x = x' ∧ y = y' ∧ t.SameContent t' := by
  have hk : Alike k s s := ⟨⟨hs.silent, hs.silent⟩, rfl, hs.keyed₁, fun _ _ => rfl⟩
  have hl : Alike l s s := ⟨⟨hs.silent, hs.silent⟩, rfl, hs.keyed₂, fun _ _ => rfl⟩
  obtain ⟨hx, -, htk⟩ := (reconcileCluster_isLocal stamp₁ k).steady hk h.first h'.first
  obtain ⟨hy, -, htl⟩ := (reconcileCluster_isLocal stamp₂ l).steady hl h.second h'.second
  refine ⟨hx, hy, fun m => ?_, fun r => ?_⟩
  · by_cases hmk : m = k
    · exact hmk ▸ htk.entity
    by_cases hml : m = l
    · exact hml ▸ htl.entity
    rw [(h.amid.elsewhere m hmk hml).entity, (h'.amid.elsewhere m hmk hml).entity]
  · by_cases hrk : r.key = k
    · exact htk.child r hrk
    by_cases hrl : r.key = l
    · exact htl.child r hrl
    rw [(h.amid.elsewhere _ hrk hrl).child r rfl, (h'.amid.elsewhere _ hrk hrl).child r rfl]

end ClusterBench

/-- Passes over two clusters with different keys, whose calls take turns in any order, come to the
results and, up to the versions of the children, to the stores that they come to one after the
other, in either order. No call is made to fail, and each pass has its own reading of the clock. -/
theorem independent_passes_commute {k l : Key} (hkl : k ≠ l) {b : ClusterBench}
    (hsilent : b.faults.AreSilent) (hk : b.entities.IsKeyedAt k) (hl : b.entities.IsKeyedAt l)
    (stamp₁ stamp₂ : String) (turns : List Turn) :
    ∃ x y t,
      interleave (answer stamp₁) (answer stamp₂) turns (reconcileCluster k) (reconcileCluster l) b =
        ((x, y), t) ∧
      (∃ u t', pass stamp₁ k b = (x, u) ∧ pass stamp₂ l u = (y, t') ∧ t.SameContent t') ∧
      ∃ u t', pass stamp₂ l b = (y, u) ∧ pass stamp₁ k u = (x, t') ∧ t.SameContent t' := by
  have hb : IsAmid k l b b := ⟨hsilent, hk, hl, fun m _ _ => refl_of (LeavesAlone m) b⟩
  rcases hturns : interleave (answer stamp₁) (answer stamp₂) turns (reconcileCluster k)
    (reconcileCluster l) b with ⟨⟨x, y⟩, t⟩
  have hamid := comesTo_of_interleave hkl hb turns hturns
  refine ⟨x, y, t, rfl, ?_, ?_⟩
  · rcases hfirst : pass stamp₁ k b with ⟨x', u⟩
    rcases hsecond : pass stamp₂ l u with ⟨y', t'⟩
    obtain ⟨rfl, rfl, hsame⟩ := hamid.unique hb (comesTo_of_passes hkl hb hfirst hsecond)
    exact ⟨u, t', rfl, hsecond, hsame⟩
  · rcases hfirst : pass stamp₂ l b with ⟨y', u⟩
    rcases hsecond : pass stamp₁ k u with ⟨x', t'⟩
    obtain ⟨rfl, rfl, hsame⟩ :=
      hamid.unique hb (comesTo_of_passes hkl.symm hb.symm hfirst hsecond).symm
    exact ⟨u, t', rfl, hsecond, hsame⟩

def namesake : Cluster where
  metadata := { name := some "demo", namespaceName := some "other", uid := some "v" }
  spec := { image := "a" }

/-- Both clusters are stored, one of them with leftovers. -/
def namesakes : ClusterBench :=
  { leftovers with entities := leftovers.entities.put namesake }

/-- The second pass gets as far as its deployment before the first pass writes one, so that the
versions come out the other way round. -/
theorem independent_passes_commute_of_namesakes :
    ∃ t u t',
      interleave (answer "t") (answer "u") (List.replicate 5 .second)
        (reconcileCluster hiddenCluster.key) (reconcileCluster namesake.key) namesakes =
          ((.ok .awaitChange, .ok .awaitChange), t) ∧
      pass "t" hiddenCluster.key namesakes = (.ok .awaitChange, u) ∧
      pass "u" namesake.key u = (.ok .awaitChange, t') ∧ t.SameContent t' ∧
      t.children.objects.get? ⟨.deployment, "ns", "demo"⟩ ≠
        t'.children.objects.get? ⟨.deployment, "ns", "demo"⟩ := by
  have hsilent : namesakes.faults.AreSilent := fun call e he => by cases he
  have hresults : (interleave (answer "t") (answer "u") (List.replicate 5 .second)
      (reconcileCluster hiddenCluster.key) (reconcileCluster namesake.key) namesakes).1 =
        (.ok .awaitChange, .ok .awaitChange) := by decide +kernel
  have hversions : ((interleave (answer "t") (answer "u") (List.replicate 5 .second)
      (reconcileCluster hiddenCluster.key) (reconcileCluster namesake.key)
        namesakes).2.children.objects.get? ⟨.deployment, "ns", "demo"⟩ ≠
      (pass "u" namesake.key (pass "t" hiddenCluster.key namesakes).2).2.children.objects.get?
        ⟨.deployment, "ns", "demo"⟩) := by decide +kernel
  obtain ⟨x, y, t, hturns, ⟨u, t', hfirst, hsecond, hsame⟩, -⟩ :=
    independent_passes_commute (k := hiddenCluster.key) (l := namesake.key) (by decide) hsilent
      (fun c hc => Option.some.inj hc ▸ rfl) (fun c hc => Option.some.inj hc ▸ rfl) "t" "u"
      (List.replicate 5 .second)
  rw [hturns] at hresults hversions
  cases hresults
  rw [hfirst, hsecond] at hversions
  exact ⟨t, u, t', hturns, hfirst, hsecond, hsame, hversions⟩

end ClusterOperator
