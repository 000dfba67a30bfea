import ClusterOperator.Proofs.Convergence.Control
import ClusterOperator.Proofs.Convergence.Failure
import ClusterOperator.Proofs.Course
import Mathlib.Data.List.Chain

/-!
# The calls of a convergence

What the convergence of a cluster's children asks of their store, up to any point and whatever is
replied.

* `ConvergeCalls`, `RemoveCalls` : the calls about one child, and the outcome when there is one;
  `convergeChild_creates`, `convergeChild_updates`, the calls that write it;
* `Stage`, `Round` : children with the calls that may write them, and the calls that go through all
  of them;
* `Follows` : a call may come after another one;
* `InOrder` : the calls go through some stages in order, up to the first that fails;
  `InOrder.bind_ok`, for composed dialogues;
* `convergeChildren_inOrder` : all calls of a convergence are in order; `convergeChildren_ends`,
  nothing is called after one that failed;
* `writeOver` : the call that writes a child over what was found; `written_over`, every child is
  written over what the call right before has found of it;
* `Manifest.IsSound` : a child has its replica count and its image, and its ports exist;
  `convergeChildren_asks`, what is written is sound if the spec is not refused.
-/

namespace ClusterOperator

open Dialogue

abbrev ChildExchange := Exchange ChildRequest ChildRequest.Reply

/-! ## One child -/

/-- The calls of the convergence of a child, and its outcome when there is one. -/
inductive ConvergeCalls (owner : OwnerReference) (wanted : Manifest) :
    List ChildExchange → Option (Except ChildError ChildOutcome) → Prop where
  | unread : ConvergeCalls owner wanted [] none
  | unanswered (error : StoreError) :
    ConvergeCalls owner wanted [⟨.get wanted.ref, .error error⟩]
      (some (.error (.get wanted.ref error)))
  | missing : ConvergeCalls owner wanted [⟨.get wanted.ref, .ok none⟩] none
  | uncreated (error : StoreError) :
    ConvergeCalls owner wanted
      [⟨.get wanted.ref, .ok none⟩, ⟨.create (wanted.owned owner), .error error⟩]
      (some (.error (.create wanted.ref error)))
  | created (stored : Manifest) :
    ConvergeCalls owner wanted
      [⟨.get wanted.ref, .ok none⟩, ⟨.create (wanted.owned owner), .ok stored⟩]
      (some (.ok .created))
  | drifted (live : Manifest) :
    ConvergeCalls owner wanted [⟨.get wanted.ref, .ok (some live)⟩] none
  | unchanged {live : Manifest}
      (h : live.needsUpdate ((live.carryForward wanted).owned owner) owner = false) :
    ConvergeCalls owner wanted [⟨.get wanted.ref, .ok (some live)⟩] (some (.ok .unchanged))
  | unreplaced (live : Manifest) (error : StoreError) :
    ConvergeCalls owner wanted
      [⟨.get wanted.ref, .ok (some live)⟩,
        ⟨.update ((live.carryForward wanted).owned owner), .error error⟩]
      (some (.error (.update wanted.ref error)))
  | updated (live stored : Manifest) :
    ConvergeCalls owner wanted
      [⟨.get wanted.ref, .ok (some live)⟩,
        ⟨.update ((live.carryForward wanted).owned owner), .ok stored⟩]
      (some (.ok .updated))

/-- The calls of the removal of a child, and its outcome when there is one. -/
inductive RemoveCalls (owner : OwnerReference) (child : ChildRef) :
    List ChildExchange → Option (Except ChildError ChildOutcome) → Prop where
  | unread : RemoveCalls owner child [] none
  | unanswered (error : StoreError) :
    RemoveCalls owner child [⟨.get child, .error error⟩] (some (.error (.get child error)))
  | absent : RemoveCalls owner child [⟨.get child, .ok none⟩] (some (.ok .absent))
  | foreign {live : Manifest} (h : live.metadata.isControlledBy owner.uid = false) :
    RemoveCalls owner child [⟨.get child, .ok (some live)⟩] (some (.ok .foreign))
  | controlled (live : Manifest) : RemoveCalls owner child [⟨.get child, .ok (some live)⟩] none
  | deleted {live : Manifest} (h : live.metadata.isControlledBy owner.uid = true) :
    RemoveCalls owner child [⟨.get child, .ok (some live)⟩, ⟨.delete child, .ok ()⟩]
      (some (.ok .deleted))
  | gone (live : Manifest) {error : StoreError} (h : error.isNotFound = true) :
    RemoveCalls owner child [⟨.get child, .ok (some live)⟩, ⟨.delete child, .error error⟩]
      (some (.ok .absent))
  | undeleted (live : Manifest) {error : StoreError} (h : error.isNotFound = false) :
    RemoveCalls owner child [⟨.get child, .ok (some live)⟩, ⟨.delete child, .error error⟩]
      (some (.error (.delete child error)))

section

variable {owner : OwnerReference} {t : List ChildExchange}
  {rest : ChildDialogue (Except ChildError ChildOutcome)}

theorem convergeChild_calls {wanted : Manifest} (h : (convergeChild owner wanted).Reaches t rest) :
    ConvergeCalls owner wanted t rest.result? := by
  unfold convergeChild at h
  rcases h.of_request_bind with ⟨rfl, hrest⟩ | ⟨found, t₁, rfl, h₁⟩
  · exact hrest ▸ .unread
  obtain error | _ | live := found
  · obtain ⟨rfl, rfl⟩ := h₁.of_finish
    exact .unanswered error
  · rcases h₁.of_request_bind with ⟨rfl, hrest⟩ | ⟨reply, t₂, rfl, h₂⟩
    · exact hrest ▸ .missing
    · cases reply with
      | error error =>
        obtain ⟨rfl, rfl⟩ := h₂.of_finish
        exact .uncreated error
      | ok stored =>
        obtain ⟨rfl, rfl⟩ := h₂.of_finish
        exact .created stored
  · dsimp only at h₁
    split at h₁
    · rcases h₁.of_request_bind with ⟨rfl, hrest⟩ | ⟨reply, t₂, rfl, h₂⟩
      · exact hrest ▸ .drifted live
      · cases reply with
        | error error =>
          obtain ⟨rfl, rfl⟩ := h₂.of_finish
          exact .unreplaced live error
        | ok stored =>
          obtain ⟨rfl, rfl⟩ := h₂.of_finish
          exact .updated live stored
    · next hsame =>
      obtain ⟨rfl, rfl⟩ := h₁.of_finish
      exact .unchanged (Bool.eq_false_iff.2 hsame)

theorem convergeChild_creates (owner : OwnerReference) (wanted : Manifest)
    (reply : Except StoreError Manifest) :
    ∃ left, (convergeChild owner wanted).Reaches
      [⟨.get wanted.ref, .ok none⟩, ⟨.create (wanted.owned owner), reply⟩] left :=
  ⟨_, .request_bind _ (.request_bind _ (.refl _))⟩

theorem convergeChild_updates {owner : OwnerReference} {wanted live : Manifest}
    (h : live.needsUpdate ((live.carryForward wanted).owned owner) owner = true)
    (reply : Except StoreError Manifest) :
    ∃ left, (convergeChild owner wanted).Reaches
      [⟨.get wanted.ref, .ok (some live)⟩,
        ⟨.update ((live.carryForward wanted).owned owner), reply⟩] left := by
  unfold convergeChild
  apply Exists.intro
  apply Reaches.request_bind
  dsimp only
  rw [if_pos h]
  exact .request_bind _ (.refl _)

theorem removeChild_calls {child : ChildRef} (h : (removeChild owner child).Reaches t rest) :
    RemoveCalls owner child t rest.result? := by
  unfold removeChild at h
  rcases h.of_request_bind with ⟨rfl, hrest⟩ | ⟨found, t₁, rfl, h₁⟩
  · exact hrest ▸ .unread
  obtain error | _ | live := found
  · obtain ⟨rfl, rfl⟩ := h₁.of_finish
    exact .unanswered error
  · obtain ⟨rfl, rfl⟩ := h₁.of_finish
    exact .absent
  · dsimp only at h₁
    split at h₁
    · next hcontrolled =>
      rcases h₁.of_request_bind with ⟨rfl, hrest⟩ | ⟨reply, t₂, rfl, h₂⟩
      · exact hrest ▸ .controlled live
      · cases reply with
        | error error =>
          obtain ⟨rfl, rfl⟩ := h₂.of_finish
          cases hgone : error.isNotFound with
          | true => simpa [hgone] using .gone live hgone
          | false => simpa [hgone] using .undeleted live hgone
        | ok _ =>
          obtain ⟨rfl, rfl⟩ := h₂.of_finish
          exact .deleted hcontrolled
    · next hforeign =>
      obtain ⟨rfl, rfl⟩ := h₁.of_finish
      exact .foreign (Bool.eq_false_iff.2 hforeign)

end

/-! ## Calls in order -/

/-- A child with the calls that may write it. -/
abbrev Stage := ChildRef × List CallName

/-- The calls that go through all stages: each child is read, and then written once at most. -/
inductive Round : List Stage → List (CallName × ChildRef) → Prop where
  | nil : Round [] []
  | read {r : ChildRef} {writes : List CallName} {stages : List Stage}
      {calls : List (CallName × ChildRef)} (h : Round stages calls) :
    Round ((r, writes) :: stages) ((.get, r) :: calls)
  | written {r : ChildRef} {writes : List CallName} {stages : List Stage} {write : CallName}
      {calls : List (CallName × ChildRef)} (hwrite : write ∈ writes) (h : Round stages calls) :
    Round ((r, writes) :: stages) ((.get, r) :: (write, r) :: calls)

namespace Round

variable {stages stages' : List Stage} {calls calls' : List (CallName × ChildRef)}

theorem append (h : Round stages calls) (h' : Round stages' calls') :
    Round (stages ++ stages') (calls ++ calls') := by
  induction h with
  | nil => exact h'
  | read _ ih => exact .read ih
  | written hwrite _ ih => exact .written hwrite ih

/-- Nothing has to be written. -/
theorem exists_round (stages : List Stage) : ∃ calls, Round stages calls := by
  induction stages with
  | nil => exact ⟨[], .nil⟩
  | cons stage stages ih =>
    obtain ⟨calls, h⟩ := ih
    exact ⟨_, .read h⟩

theorem mem {name : CallName} {r : ChildRef} (h : Round stages calls) (hcall : (name, r) ∈ calls) :
    name = .get ∨ ∃ writes, (r, writes) ∈ stages ∧ name ∈ writes := by
  induction h with
  | nil => cases hcall
  | read _ ih =>
    rcases List.mem_cons.1 hcall with h | h
    · cases h
      exact Or.inl rfl
    · exact (ih h).imp_right fun ⟨writes, hw, hn⟩ => ⟨writes, List.mem_cons_of_mem _ hw, hn⟩
  | written hwrite _ ih =>
    rcases List.mem_cons.1 hcall with h | h
    · cases h
      exact Or.inl rfl
    rcases List.mem_cons.1 h with h | h
    · cases h
      exact Or.inr ⟨_, List.mem_cons_self, hwrite⟩
    · exact (ih h).imp_right fun ⟨writes, hw, hn⟩ => ⟨writes, List.mem_cons_of_mem _ hw, hn⟩

theorem head (h : Round stages calls) : ∀ call ∈ calls.head?, call.1 = .get := by
  cases h <;> simp

end Round

/-- The names of calls, with the children that they are about. -/
def callNames (t : List ChildExchange) : List (CallName × ChildRef) :=
  t.map fun x => (x.1.callName, x.1.child)

/-- A call may come after another one: that one did not fail, a child is created after it was not
found, and updated or deleted after it was. -/
def Follows (last next : ChildExchange) : Prop :=
  ¬ last.1.Fails last.2 ∧
    match next.1 with
    | .get _ => True
    | .create m => last = ⟨.get m.ref, .ok none⟩
    | .update m => ∃ live, last = ⟨.get m.ref, .ok (some live)⟩
    | .delete child => ∃ live, last = ⟨.get child, .ok (some live)⟩

theorem follows_of_get {last next : ChildExchange} (h : ¬ last.1.Fails last.2)
    (hnext : next.1.callName = .get) : Follows last next := by
  obtain ⟨q, reply⟩ := next
  cases q with
  | get => exact ⟨h, trivial⟩
  | create | update | delete => cases hnext

theorem not_fails_get (child : ChildRef) (found : Option Manifest) :
    ¬ (ChildRequest.get child).Fails (.ok found) := by
  rintro ⟨e, he⟩
  cases he

theorem follows_create {m : Manifest} {r : ChildRef} (h : m.ref = r)
    (reply : Except StoreError Manifest) : Follows ⟨.get r, .ok none⟩ ⟨.create m, reply⟩ := by
  subst h
  exact ⟨not_fails_get _ _, rfl⟩

theorem follows_update {m : Manifest} {r : ChildRef} (h : m.ref = r) (live : Manifest)
    (reply : Except StoreError Manifest) :
    Follows ⟨.get r, .ok (some live)⟩ ⟨.update m, reply⟩ := by
  subst h
  exact ⟨not_fails_get _ _, live, rfl⟩

theorem follows_delete (r : ChildRef) (live : Manifest) (reply : Except StoreError Unit) :
    Follows ⟨.get r, .ok (some live)⟩ ⟨.delete r, reply⟩ :=
  ⟨not_fails_get _ _, live, rfl⟩

/-- The calls go through the stages in order, to the end if they succeed and else up to a call that
fails. -/
structure InOrder {ε α : Type} (stages : List Stage) (t : List ChildExchange)
    (result? : Option (Except ε α)) : Prop where
  ordered : ∃ calls, Round stages calls ∧ callNames t <+: calls
  follows : t.IsChain Follows
  completed : ∀ a, result? = some (.ok a) →
    Round stages (callNames t) ∧ ∀ x ∈ t, ¬ x.1.Fails x.2
  failed : ∀ e, result? = some (.error e) → ∃ x ∈ t, x.1.Fails x.2

namespace InOrder

variable {ε ε' α β : Type} {stages stages' : List Stage}

/-- A dialogue that goes on only from a success goes through its stages after those of the first
part. -/
theorem bind_ok {d : ChildDialogue (Except ε α)} {f : Except ε α → ChildDialogue (Except ε' β)}
    {t : List ChildExchange} {rest : ChildDialogue (Except ε' β)} (h : (d.bind f).Reaches t rest)
    (hd : ∀ {t rest}, d.Reaches t rest → InOrder stages t rest.result?)
    (hok : ∀ a {t rest}, (f (.ok a)).Reaches t rest → InOrder stages' t rest.result?)
    (herror : ∀ e, ∃ e', f (.error e) = .finish (.error e')) :
    InOrder (stages ++ stages') t rest.result? := by
  have hpart : ∀ {t₁ : List ChildExchange} {left : ChildDialogue (Except ε α)},
      d.Reaches t₁ left → ∃ calls, Round (stages ++ stages') calls ∧ callNames t₁ <+: calls := by
    intro t₁ left h₁
    obtain ⟨calls, hround, hpre⟩ := (hd h₁).ordered
    obtain ⟨calls', hround'⟩ := Round.exists_round stages'
    exact ⟨_, hround.append hround', hpre.trans (List.prefix_append _ _)⟩
  rcases h.of_bind with ⟨hrest, left, hleft, hnone⟩ | ⟨a, t₁, t₂, rfl, h₁, h₂⟩
  · refine ⟨hpart hleft, (hd hleft).follows, ?_, ?_⟩ <;> simp [hrest]
  have hfirst := hd h₁
  cases a with
  | error e =>
    obtain ⟨e', he⟩ := herror e
    rw [he] at h₂
    obtain ⟨rfl, rfl⟩ := h₂.of_finish
    rw [List.append_nil]
    exact ⟨hpart h₁, hfirst.follows, by simp, fun _ _ => hfirst.failed e rfl⟩
  | ok a =>
    obtain ⟨hround, hgood⟩ := hfirst.completed a rfl
    have hrest := hok _ h₂
    obtain ⟨calls, hcalls, hpre⟩ := hrest.ordered
    have hnames : callNames (t₁ ++ t₂) = callNames t₁ ++ callNames t₂ := List.map_append
    refine ⟨⟨_, hround.append hcalls, ?_⟩, ?_, fun b hb => ?_, fun e he => ?_⟩
    · rw [hnames]
      exact (List.prefix_append_right_inj _).2 hpre
    · refine List.isChain_append.2 ⟨hfirst.follows, hrest.follows, fun x hx y hy => ?_⟩
      -- the second part starts by reading
      refine follows_of_get (hgood x (List.mem_of_getLast? hx)) ?_
      obtain ⟨tail, rfl⟩ := hpre
      cases t₂ with
      | nil => cases hy
      | cons z t₂ =>
        cases hy
        exact hcalls.head _ rfl
    · obtain ⟨hround', hgood'⟩ := hrest.completed b hb
      rw [hnames]
      refine ⟨hround.append hround', fun x hx => ?_⟩
      exact (List.mem_append.1 hx).elim (hgood x) (hgood' x)
    · obtain ⟨x, hx, hfails⟩ := hrest.failed e he
      exact ⟨x, List.mem_append_right _ hx, hfails⟩

theorem finish_ok {a : α} {t : List ChildExchange} {rest : ChildDialogue (Except ε α)}
    (h : (finish (.ok a) : ChildDialogue (Except ε α)).Reaches t rest) :
    InOrder [] t rest.result? := by
  obtain ⟨rfl, rfl⟩ := h.of_finish
  exact ⟨⟨[], .nil, List.prefix_rfl⟩, .nil, fun _ _ => ⟨.nil, by simp⟩, by simp⟩

variable {r : ChildRef} {writes : List CallName} {result? : Option (Except ε α)}

theorem unread (stages : List Stage) : InOrder stages [] (none : Option (Except ε α)) := by
  obtain ⟨calls, h⟩ := Round.exists_round stages
  exact ⟨⟨calls, h, List.nil_prefix⟩, .nil, by simp, by simp⟩

theorem read (reply : Except StoreError (Option Manifest))
    (hok : ∀ a, result? = some (.ok a) → ∀ e, reply ≠ .error e)
    (herror : ∀ e, result? = some (.error e) → ∃ e, reply = .error e) :
    InOrder [(r, writes)] [⟨.get r, reply⟩] result? where
  ordered := ⟨_, .read .nil, List.prefix_rfl⟩
  follows := .singleton _
  completed a ha := by
    refine ⟨.read .nil, fun x hx => ?_⟩
    rw [List.mem_singleton.1 hx]
    rintro ⟨e, he⟩
    exact hok a ha e he
  failed e he := ⟨_, List.mem_singleton_self _, herror e he⟩

theorem written {found : Option Manifest} {q : ChildRequest} {reply : q.Reply}
    (hwrite : q.callName ∈ writes) (hchild : q.child = r)
    (hfollows : Follows ⟨.get r, .ok found⟩ ⟨q, reply⟩)
    (hok : ∀ a, result? = some (.ok a) → ¬ q.Fails reply)
    (herror : ∀ e, result? = some (.error e) → q.Fails reply) :
    InOrder [(r, writes)] [⟨.get r, .ok found⟩, ⟨q, reply⟩] result? := by
  have hround : Round [(r, writes)] (callNames [⟨.get r, .ok found⟩, ⟨q, reply⟩]) := by
    subst hchild
    exact .written hwrite .nil
  refine ⟨⟨_, hround, List.prefix_rfl⟩, ?_, fun a ha => ⟨hround, fun x hx => ?_⟩, fun e he => ?_⟩
  · exact List.isChain_pair.2 hfollows
  · rcases List.mem_cons.1 hx with rfl | hx
    · exact hfollows.1
    · rw [List.mem_singleton.1 hx]
      exact hok a ha
  · exact ⟨⟨q, reply⟩, by simp, herror e he⟩

end InOrder

section

variable {owner : OwnerReference} {t : List ChildExchange}

theorem convergeChild_inOrder {wanted : Manifest}
    {rest : ChildDialogue (Except ChildError ChildOutcome)}
    (h : (convergeChild owner wanted).Reaches t rest) :
    InOrder [(wanted.ref, [.create, .update])] t rest.result? := by
  have hcreate : (wanted.owned owner).ref = wanted.ref := wanted.ref_owned owner
  have hupdate : ∀ live : Manifest, ((live.carryForward wanted).owned owner).ref = wanted.ref := by
    simp
  have hcalls := convergeChild_calls h
  generalize rest.result? = result? at hcalls ⊢
  cases hcalls with
  | unread => exact .unread _
  | unanswered error => exact .read _ (by simp) (by simp)
  | missing => exact .read _ (by simp) (by simp)
  | uncreated error =>
    exact .written (by simp [ChildRequest.callName]) hcreate (follows_create hcreate _) (by simp)
      fun _ _ => ⟨error, rfl⟩
  | created stored =>
    refine .written (by simp [ChildRequest.callName]) hcreate (follows_create hcreate _) ?_
      (by simp)
    rintro _ _ ⟨e, he⟩
    cases he
  | drifted live => exact .read _ (by simp) (by simp)
  | unchanged _ => exact .read _ (by simp) (by simp)
  | unreplaced live error =>
    exact .written (by simp [ChildRequest.callName]) (hupdate live)
      (follows_update (hupdate live) live _) (by simp) fun _ _ => ⟨error, rfl⟩
  | updated live stored =>
    refine .written (by simp [ChildRequest.callName]) (hupdate live)
      (follows_update (hupdate live) live _) ?_ (by simp)
    rintro _ _ ⟨e, he⟩
    cases he

theorem removeChild_inOrder {child : ChildRef}
    {rest : ChildDialogue (Except ChildError ChildOutcome)}
    (h : (removeChild owner child).Reaches t rest) :
    InOrder [(child, [.delete])] t rest.result? := by
  have hcalls := removeChild_calls h
  generalize rest.result? = result? at hcalls ⊢
  cases hcalls with
  | unread => exact .unread _
  | unanswered error => exact .read _ (by simp) (by simp)
  | absent => exact .read _ (by simp) (by simp)
  | foreign _ => exact .read _ (by simp) (by simp)
  | controlled live => exact .read _ (by simp) (by simp)
  | deleted _ =>
    refine .written (by simp [ChildRequest.callName]) rfl (follows_delete _ _ _) ?_ (by simp)
    rintro _ _ ⟨e, he, -⟩
    cases he
  | gone live hgone =>
    -- a delete that finds nothing succeeds
    refine .written (by simp [ChildRequest.callName]) rfl (follows_delete _ _ _) ?_ (by simp)
    rintro _ _ ⟨e, he, hne⟩
    cases he
    rw [hgone] at hne
    cases hne
  | undeleted live hne =>
    exact .written (by simp [ChildRequest.callName]) rfl (follows_delete _ _ _) (by simp)
      fun _ _ => ⟨_, rfl, hne⟩

theorem convergeWanted_inOrder {ms : List Manifest}
    {rest : ChildDialogue (Except ChildError (List ChildRef))}
    (h : (convergeWanted owner ms).Reaches t rest) :
    InOrder (ms.map fun m => (m.ref, [.create, .update])) t rest.result? := by
  induction ms generalizing t rest with
  | nil => exact .finish_ok h
  | cons m ms ih =>
    refine InOrder.bind_ok h convergeChild_inOrder (fun _ {_ _} h' => ?_) fun e => ⟨e, rfl⟩
    have hrest := InOrder.bind_ok h' ih (fun _ {_ _} => .finish_ok) fun e => ⟨e, rfl⟩
    rwa [List.append_nil] at hrest

theorem removeDropped_inOrder {rs : List ChildRef} {rest : ChildDialogue (Except ChildError Unit)}
    (h : (removeDropped owner rs).Reaches t rest) :
    InOrder (rs.map fun r => (r, [.delete])) t rest.result? := by
  induction rs generalizing t rest with
  | nil => exact .finish_ok h
  | cons r rs ih =>
    exact InOrder.bind_ok h removeChild_inOrder (fun _ {_ _} => ih) fun e => ⟨e, rfl⟩

end

/-- The children of a cluster in the order in which they are visited, with the calls that may write
them: the service before the deployment that it fronts, or after it when it is to be removed. -/
def stages (c : Cluster) : List Stage :=
  if c.spec.isExposed then
    [(Children.refOf c .service, [.create, .update]),
      (Children.refOf c .deployment, [.create, .update])]
  else
    [(Children.refOf c .deployment, [.create, .update]), (Children.refOf c .service, [.delete])]

theorem stages_eq (c : Cluster) :
    stages c = (Children.wanted c).map (fun m => (m.ref, [.create, .update])) ++
      (Children.dropped c).map fun r => (r, [.delete]) := by
  unfold stages Children.wanted Children.dropped
  split <;> rfl

/-- The calls of a convergence are in order. If it asks nothing and fails, the cluster has no
identity. -/
theorem convergeChildren_inOrder {c : Cluster} {t : List ChildExchange}
    {rest : ChildDialogue (Except ChildError (List ChildRef))}
    (h : (convergeChildren c).Reaches t rest) :
    InOrder (stages c) t rest.result? ∨
      t = [] ∧ ∃ e, ownerReference c = .error e ∧ rest = .finish (.error e) := by
  unfold convergeChildren at h
  split at h
  · next e he =>
    obtain ⟨rfl, rfl⟩ := h.of_finish
    exact Or.inr ⟨rfl, e, he, rfl⟩
  · next owner _ =>
    rw [stages_eq]
    refine Or.inl (InOrder.bind_ok h convergeWanted_inOrder (fun refs {_ _} h' => ?_)
      fun e => ⟨e, rfl⟩)
    have hrest := InOrder.bind_ok h' removeDropped_inOrder (fun _ {_ _} => .finish_ok)
      fun e => ⟨e, rfl⟩
    rwa [List.append_nil] at hrest

theorem convergeChildren_ends {c : Cluster} {t t' : List ChildExchange} {x : ChildExchange}
    {rest : ChildDialogue (Except ChildError (List ChildRef))}
    (h : (convergeChildren c).Reaches (t ++ x :: t') rest) (hx : x.1.Fails x.2) : t' = [] := by
  have horder := (convergeChildren_inOrder h).resolve_right fun hnone =>
    absurd hnone.1 (List.append_ne_nil_of_right_ne_nil _ (List.cons_ne_nil _ _))
  have hchain := (List.isChain_append.1 horder.follows).2.1
  cases t' with
  | nil => rfl
  | cons y t' => exact absurd hx (List.isChain_cons_cons.1 hchain).1.1

theorem convergeChildren_first {c : Cluster} {owner : OwnerReference} {m : Manifest}
    {ms : List Manifest} {t : List ChildExchange}
    {left : ChildDialogue (Except ChildError ChildOutcome)} (howner : ownerReference c = .ok owner)
    (hwanted : Children.wanted c = m :: ms) (h : (convergeChild owner m).Reaches t left) :
    ∃ rest, (convergeChildren c).Reaches t rest := by
  unfold convergeChildren
  rw [howner, hwanted]
  exact ⟨_, (h.bind _).bind _⟩

theorem not_mem_convergeWanted {owner : OwnerReference} {ms : List Manifest}
    {t : List ChildExchange} {rest : ChildDialogue (Except ChildError (List ChildRef))}
    (h : (convergeWanted owner ms).Reaches t rest) (r : ChildRef)
    (reply : Except StoreError Unit) : (⟨.delete r, reply⟩ : ChildExchange) ∉ t := by
  intro hx
  obtain ⟨calls, hround, hpre⟩ := (convergeWanted_inOrder h).ordered
  have hcall : (CallName.delete, r) ∈ callNames t := List.mem_map.2 ⟨_, hx, rfl⟩
  rcases hround.mem (hpre.subset hcall) with hget | ⟨writes, hstage, hdelete⟩
  · cases hget
  · obtain ⟨m, -, hm⟩ := List.mem_map.1 hstage
    cases hm
    cases hdelete with
    | tail _ h => cases h with
      | tail _ h => cases h

theorem RemoveCalls.result_of_gone {owner : OwnerReference} {child r : ChildRef}
    {t : List ChildExchange} {result? : Option (Except ChildError ChildOutcome)}
    (h : RemoveCalls owner child t result?) {error : StoreError}
    (hx : (⟨.delete r, .error error⟩ : ChildExchange) ∈ t) (hgone : error.isNotFound = true) :
    result? = some (.ok .absent) := by
  cases h with
  | gone => rfl
  | undeleted live hne =>
    rcases List.mem_pair.1 hx with h | h
    · cases h
    · cases h
      rw [hgone] at hne
      cases hne
  | deleted =>
    rcases List.mem_pair.1 hx with h | h <;> cases h
  | _ => simp at hx

theorem removeDropped_gone {owner : OwnerReference} {child : ChildRef} {t : List ChildExchange}
    {rest : ChildDialogue (Except ChildError Unit)}
    (h : (removeDropped owner [child]).Reaches t rest) {r : ChildRef} {error : StoreError}
    (hx : (⟨.delete r, .error error⟩ : ChildExchange) ∈ t) (hgone : error.isNotFound = true) :
    rest = .finish (.ok ()) := by
  rcases h.of_bind_last (fun outcome => by cases outcome <;> exact ⟨_, rfl⟩) with
    ⟨-, left, hleft, hnone⟩ | ⟨outcome, hdone, rfl⟩
  · rw [(removeChild_calls hleft).result_of_gone hx hgone] at hnone
    cases hnone
  · cases (removeChild_calls hdone).result_of_gone hx hgone
    rfl

/-- A delete that finds nothing is the last call of a convergence that succeeds. -/
theorem convergeChildren_gone {c : Cluster} {t : List ChildExchange}
    {rest : ChildDialogue (Except ChildError (List ChildRef))}
    (h : (convergeChildren c).Reaches t rest) {r : ChildRef} {error : StoreError}
    (hx : (⟨.delete r, .error error⟩ : ChildExchange) ∈ t) (hgone : error.isNotFound = true) :
    ∃ refs, rest = .finish (.ok refs) := by
  unfold convergeChildren at h
  split at h
  · obtain ⟨rfl, rfl⟩ := h.of_finish
    cases hx
  rcases h.of_bind with ⟨-, left, hleft, -⟩ | ⟨refs, t₁, t₂, rfl, h₁, h₂⟩
  · exact absurd hx (not_mem_convergeWanted hleft r _)
  cases refs with
  | error e =>
    obtain ⟨rfl, rfl⟩ := h₂.of_finish
    rw [List.append_nil] at hx
    exact absurd hx (not_mem_convergeWanted h₁ r _)
  | ok refs =>
    replace hx := (List.mem_append.1 hx).resolve_left (not_mem_convergeWanted h₁ r _)
    have hdropped : Children.dropped c = [] ∨ ∃ child, Children.dropped c = [child] := by
      unfold Children.dropped
      split
      · exact Or.inl rfl
      · exact Or.inr ⟨_, rfl⟩
    rcases hdropped with hdropped | ⟨child, hdropped⟩ <;> rw [hdropped] at h₂
    · obtain ⟨rfl, rfl⟩ := Reaches.of_finish h₂
      cases hx
    · rcases h₂.of_bind_last (fun removed => by cases removed <;> exact ⟨_, rfl⟩) with
        ⟨-, left, hleft, hnone⟩ | ⟨removed, hdone, rfl⟩
      · rw [removeDropped_gone hleft hx hgone] at hnone
        cases hnone
      · cases removeDropped_gone hdone hx hgone
        exact ⟨refs, rfl⟩

/-! ## Every write -/

/-- The call that writes a wanted child over what was found of it. -/
def writeOver (owner : OwnerReference) (wanted : Manifest) : Option Manifest → ChildRequest
  | none => .create (wanted.owned owner)
  | some live => .update ((live.carryForward wanted).owned owner)

/-- If a call writes a child, it writes one of the wanted ones over what the call before has found
of it. -/
def WritesOver (owner : OwnerReference) (ws : List Manifest) (last : Option ChildExchange)
    (q : ChildRequest) : Prop :=
  ∀ m, q.written? = some m → ∃ wanted ∈ ws, ∃ found : Option Manifest,
    last = some ⟨.get wanted.ref, .ok found⟩ ∧ q = writeOver owner wanted found

theorem WritesOver.of_none {owner : OwnerReference} {ws : List Manifest}
    {last : Option ChildExchange} {q : ChildRequest} (h : q.written? = none) :
    WritesOver owner ws last q := by
  intro m hm
  rw [h] at hm
  cases hm

section

variable (owner : OwnerReference) {ws : List Manifest}

theorem convergeChild_writesOver {wanted : Manifest} (h : wanted ∈ ws)
    (last : Option ChildExchange) :
    (convergeChild owner wanted).AsksAfter (WritesOver owner ws) last := by
  refine .request_bind (.of_none rfl) fun found => ?_
  obtain error | _ | live := found
  · trivial
  · refine .request_bind ?_ fun reply => by cases reply <;> trivial
    intro m _
    exact ⟨wanted, h, none, rfl, rfl⟩
  · dsimp only
    split
    · refine .request_bind ?_ fun reply => by cases reply <;> trivial
      intro m _
      exact ⟨wanted, h, some live, rfl, rfl⟩
    · trivial

theorem removeChild_writesOver (child : ChildRef) (last : Option ChildExchange) :
    (removeChild owner child).AsksAfter (WritesOver owner ws) last := by
  refine .request_bind (.of_none rfl) fun found => ?_
  obtain error | _ | live := found
  · trivial
  · trivial
  · dsimp only
    split
    · exact .request_bind (.of_none rfl) fun reply => by cases reply <;> trivial
    · trivial

theorem convergeWanted_writesOver {ms : List Manifest} (h : ms ⊆ ws)
    (last : Option ChildExchange) :
    (convergeWanted owner ms).AsksAfter (WritesOver owner ws) last := by
  induction ms generalizing last with
  | nil => trivial
  | cons m ms ih =>
    obtain ⟨hm, hms⟩ := List.cons_subset.1 h
    refine (convergeChild_writesOver owner hm last).bind fun outcome last' => ?_
    cases outcome with
    | error e => trivial
    | ok _ => exact (ih hms last').bind fun reply _ => by cases reply <;> trivial

theorem removeDropped_writesOver (rs : List ChildRef) (last : Option ChildExchange) :
    (removeDropped owner rs).AsksAfter (WritesOver owner ws) last := by
  induction rs generalizing last with
  | nil => trivial
  | cons r rs ih =>
    refine (removeChild_writesOver owner r last).bind fun outcome last' => ?_
    cases outcome with
    | error e => trivial
    | ok _ => exact ih last'

end

theorem convergeChildren_writesOver {c : Cluster} {owner : OwnerReference}
    (h : ownerReference c = .ok owner) :
    (convergeChildren c).AsksAfter (WritesOver owner (Children.wanted c)) none := by
  unfold convergeChildren
  rw [h]
  refine (convergeWanted_writesOver owner (List.Subset.refl _) none).bind fun refs last => ?_
  cases refs with
  | error e => trivial
  | ok refs =>
    exact (removeDropped_writesOver owner _ last).bind fun reply _ => by cases reply <;> trivial

theorem exists_owner_of_call {c : Cluster} {t t' : List ChildExchange} {x : ChildExchange}
    {rest : ChildDialogue (Except ChildError (List ChildRef))}
    (h : (convergeChildren c).Reaches (t ++ x :: t') rest) :
    ∃ owner, ownerReference c = .ok owner := by
  unfold convergeChildren at h
  split at h
  · exact absurd h.of_finish.1 (List.append_ne_nil_of_right_ne_nil _ (List.cons_ne_nil _ _))
  · next owner howner => exact ⟨owner, howner⟩

/-- Every child is written over what the call right before has found of it. -/
theorem written_over {c : Cluster} {t t' : List ChildExchange} {x : ChildExchange}
    {rest : ChildDialogue (Except ChildError (List ChildRef))} {m : Manifest}
    (h : (convergeChildren c).Reaches (t ++ x :: t') rest) (hm : x.1.written? = some m) :
    ∃ owner, ownerReference c = .ok owner ∧ ∃ wanted ∈ Children.wanted c,
      ∃ found : Option Manifest, t.getLast? = some ⟨.get wanted.ref, .ok found⟩ ∧
        x.1 = writeOver owner wanted found := by
  obtain ⟨owner, howner⟩ := exists_owner_of_call h
  have hasks := convergeChildren_writesOver howner
  obtain ⟨wanted, hwanted, found, hlast, hx⟩ := hasks.of_reaches h m hm
  rw [Option.or_none] at hlast
  exact ⟨owner, howner, wanted, hwanted, found, hlast, hx⟩

/-! ## What is written -/

def IsPort (n : Int32) : Prop :=
  1 ≤ n ∧ n ≤ 65535

instance : DecidablePred IsPort := fun n => inferInstanceAs (Decidable (1 ≤ n ∧ n ≤ 65535))

def Deployment.containers (d : Deployment) : List Container :=
  ((d.spec.bind (·.template.spec)).map (·.containers)).getD []

namespace Manifest

/-- A child has a replica count that is not negative and runs images that are named, and all its
ports exist. -/
def IsSound : Manifest → Prop
  | .deployment d => (∃ n, d.replicas = some n ∧ 0 ≤ n) ∧ d.containers ≠ [] ∧
    ∀ k ∈ d.containers, (∃ image, k.image = some image ∧ Text.isBlankText image = false) ∧
      ∀ p ∈ k.portList, IsPort p.containerPort ∧ ∀ n ∈ p.hostPort, IsPort n
  | .service s => ∀ p ∈ s.ports, IsPort p.port ∧ (∃ n, p.targetPort = some (.number n) ∧ IsPort n) ∧
      ∀ n ∈ p.nodePort, IsPort n

theorem IsSound.withMetadata {m : Manifest} (h : m.IsSound) (x : Metadata) :
    (m.withMetadata x).IsSound := by
  cases m <;> exact h

theorem IsSound.carryForward {wanted : Manifest} (h : wanted.IsSound) (live : Manifest) :
    (live.carryForward wanted).IsSound := by
  cases live with
  | deployment l => cases wanted <;> exact h
  | service l =>
    cases wanted with
    | deployment w => exact h
    | service w =>
      obtain ⟨lm, ls⟩ := l
      obtain ⟨wm, ws⟩ := w
      cases ls <;> cases ws <;> exact h

theorem IsSound.writeOver {wanted m : Manifest} (h : wanted.IsSound) {owner : OwnerReference}
    {found : Option Manifest} (hm : (writeOver owner wanted found).written? = some m) :
    m.IsSound := by
  cases found with
  | none =>
    obtain rfl : wanted.owned owner = m := Option.some.inj hm
    exact h.withMetadata _
  | some live =>
    obtain rfl : (live.carryForward wanted).owned owner = m := Option.some.inj hm
    exact (h.carryForward live).withMetadata _

end Manifest

theorem ClusterSpec.validate_eq_ok {s : ClusterSpec} (h : s.validate = .ok ()) :
    Text.isBlankText s.image = false ∧ 0 ≤ s.replicaCount ∧ IsPort s.portNumber := by
  unfold validate at h
  split at h
  · cases h
  next himage =>
  split at h
  · cases h
  next hreplicas =>
  split at h
  · cases h
  next hport =>
  refine ⟨Bool.eq_false_iff.2 himage, ?_, ?_⟩
  · unfold replicaCount
    cases hn : s.replicas with
    | none => decide
    | some n => simpa [hn, Int32.not_lt] using hreplicas
  · unfold portNumber
    cases hn : s.port with
    | none => decide
    | some n => simpa [hn, IsPort, Int32.not_lt] using hport

theorem Children.isSound_of_wanted {c : Cluster} {m : Manifest} (h : c.spec.validate = .ok ())
    (hm : m ∈ wanted c) : m.IsSound := by
  obtain ⟨himage, hreplicas, hport⟩ := ClusterSpec.validate_eq_ok h
  rcases mem_wanted.1 hm with rfl | ⟨rfl, -⟩
  · refine ⟨⟨_, rfl, hreplicas⟩, List.cons_ne_nil _ _, fun k hk => ?_⟩
    rw [List.mem_singleton.1 hk]
    refine ⟨⟨_, rfl, himage⟩, fun p hp => ?_⟩
    rw [List.mem_singleton.1 hp]
    exact ⟨hport, by simp⟩
  · intro p hp
    rw [List.mem_singleton.1 hp]
    exact ⟨hport, ⟨_, rfl, hport⟩, by simp⟩

def ChildRequest.WritesSound (q : ChildRequest) : Prop :=
  ∀ m, q.written? = some m → m.IsSound

theorem convergeChildren_asks {c : Cluster} (h : c.spec.validate = .ok ()) :
    (convergeChildren c).Asks ChildRequest.WritesSound := by
  cases howner : ownerReference c with
  | error e =>
    unfold convergeChildren
    rw [howner]
    trivial
  | ok owner =>
    apply (convergeChildren_writesOver howner).asks
    intro last q hq m hm
    obtain ⟨wanted, hwanted, found, -, rfl⟩ := hq m hm
    exact (Children.isSound_of_wanted h hwanted).writeOver hm

end ClusterOperator
