import ClusterOperator.Proofs.Pass.Account

/-!
# The endpoint of a lookup

A spec is validated by its endpoint without the blanks around it, and looked up at its endpoint as
it stands.

* `Text.trimChars_prefix` : what trimming leaves of a text without blanks in front;
* `hasWebScheme_iff` : which texts start with the scheme of a web address;
* `LookupRequest.endpoint` : where a call to the inventory service goes;
* `workOnQuery_asks`, `workOnQuery_connects`, `reconcileQuery_works` : where the calls of a pass go,
  and that an accepted spec is looked up;
* `endpoint_taken_as_given` : which endpoints are handed to the inventory service.
-/

namespace ClusterOperator

open Dialogue QueryExchange

/-! ## Blanks in front -/

theorem Text.trimChars_prefix {s : List Char} (h : ∀ c ∈ s.head?, isBlank c = false) :
    trimChars s <+: s := by
  have hdrop : dropBlank s = s := by
    cases s with
    | nil => rfl
    | cons c rest => exact List.dropWhile_cons_of_neg (by simp [h c rfl])
  unfold trimChars
  rw [hdrop, ← List.reverse_suffix, List.reverse_reverse]
  exact List.dropWhile_suffix isBlank

theorem hasWebScheme_iff {s : List Char} :
    hasWebScheme s = true ↔ "http://".toList <+: s ∨ "https://".toList <+: s := by
  simp [hasWebScheme]

theorem not_isBlank_of_hasWebScheme {s : List Char} (h : hasWebScheme s = true) :
    ∀ c ∈ s.head?, Text.isBlank c = false := by
  have hhead : s.head? = some 'h' := by
    rcases hasWebScheme_iff.1 h with ⟨rest, rfl⟩ | ⟨rest, rfl⟩ <;> rfl
  rw [hhead]
  rintro c ⟨⟩
  decide

/-- A text that starts with a scheme once it is trimmed does so as it stands exactly if there is no
blank in front. -/
theorem hasWebScheme_iff_of_trimChars {s : List Char} (h : hasWebScheme (Text.trimChars s) = true) :
    hasWebScheme s = true ↔ ∀ c ∈ s.head?, Text.isBlank c = false := by
  refine ⟨not_isBlank_of_hasWebScheme, fun hfront => ?_⟩
  have hprefix := Text.trimChars_prefix hfront
  rw [hasWebScheme_iff] at h ⊢
  exact h.imp (·.trans hprefix) (·.trans hprefix)

/-- An accepted endpoint starts with a scheme once it is trimmed. -/
theorem QuerySpec.hasWebScheme_of_validate {s : QuerySpec} (h : s.validate = .ok ()) :
    hasWebScheme (Text.trimChars s.apiEndpoint.toList) = true := by
  unfold validate at h
  dsimp only at h
  split at h
  · cases h
  · split at h
    · cases h
    · next hscheme => simpa using hscheme

/-! ## Calls to the inventory service -/

def LookupRequest.endpoint : LookupRequest → String
  | .connect endpoint | .find endpoint _ | .list endpoint => endpoint

theorem Plan.lookUp_asks (endpoint : String) (p : Plan) :
    (p.lookUp endpoint).Asks (·.endpoint = endpoint) := by
  refine ⟨rfl, fun connected => ?_⟩
  cases connected with
  | error e => trivial
  | ok _ =>
    cases p with
    | single id => exact ⟨rfl, fun reply => by obtain e | _ | r := reply <;> trivial⟩
    | all => exact ⟨rfl, fun reply => by cases reply <;> trivial⟩

section

variable {settings : RefreshSettings} {key : Key} {q : Query}

/-- A call to the inventory service is made for an accepted spec, and goes to its endpoint. -/
def QuerySpec.Admits (s : QuerySpec) (r : QueryRequest) : Prop :=
  ∀ x, r = .lookup x → s.validate = .ok () ∧ x.endpoint = s.apiEndpoint

theorem QuerySpec.admits_entity (s : QuerySpec) (r : EntityRequest Query) :
    s.Admits (.entity r) :=
  fun _ h => by cases h

theorem reportQuery_asks (status : QueryStatus) (outcome : Except PassError Requeue) :
    (reportQuery q status outcome).Asks q.spec.Admits :=
  ⟨q.spec.admits_entity _, fun reply => by cases reply <;> trivial⟩

theorem workOnQuery_asks (settings : RefreshSettings) (q : Query) :
    (workOnQuery settings q).Asks q.spec.Admits := by
  unfold workOnQuery
  split
  · exact ⟨q.spec.admits_entity _, fun stamp => reportQuery_asks _ _⟩
  · next hspec =>
    refine Asks.bind (Asks.interpret ?_) fun answer =>
      ⟨q.spec.admits_entity _, fun stamp => ?_⟩
    · refine (q.spec.plan.lookUp_asks q.spec.apiEndpoint).imp fun x hx y hy => ?_
      cases hy
      exact ⟨hspec, hx⟩
    · cases answer <;> exact reportQuery_asks _ _

theorem workOnQuery_connects (settings : RefreshSettings) (hspec : q.spec.validate = .ok ()) :
    ∃ next, workOnQuery settings q = .ask (.lookup (.connect q.spec.apiEndpoint)) next := by
  unfold workOnQuery
  rw [hspec]
  exact ⟨_, rfl⟩

theorem reconcileQuery_works (settings : RefreshSettings)
    {calls : List (EntityCall QuerySpec QueryStatus)} (h : Starts key Query.seed calls q) :
    ∃ t, t.filterMap call? = calls ∧
      (reconcileQuery settings key).Reaches t (workOnQuery settings q) := by
  unfold reconcileQuery
  cases h with
  | known hlive hc =>
    refine ⟨[⟨.entity (.fetch key), .ok (some q)⟩], rfl, .request_bind _ ?_⟩
    have hstart : startQuery q = .finish (.ok q) := by
      unfold startQuery
      rw [if_neg (by simpa using hc)]
      rfl
    simp only [hlive, hstart]
    exact .refl _
  | @seeded e _ stamp hlive hc =>
    have hseed : (startQuery e).Reaches [⟨.entity .clock, stamp⟩,
        ⟨.entity (.publish (Query.withStatus e (Query.seed e stamp))), .ok q⟩]
        (.finish (.ok q)) := by
      unfold startQuery
      rw [if_pos (by simpa using hc)]
      refine Reaches.request_bind (A := QueryRequest.Reply) (q := .entity .clock) stamp ?_
      exact Reaches.ask (A := QueryRequest.Reply) (q := .entity (.publish _)) (Except.ok q)
        (.refl _)
    refine ⟨⟨.entity (.fetch key), .ok (some e)⟩ :: [⟨.entity .clock, stamp⟩,
      ⟨.entity (.publish (Query.withStatus e (Query.seed e stamp))), .ok q⟩], rfl,
      .request_bind _ ?_⟩
    simp only [hlive]
    exact hseed.bind _

end

/-! ## Every pass -/

/-- Every call of a pass to the inventory service is made for the copy of the spec that the pass
came to, which is accepted, and goes to its endpoint as it stands; for every accepted spec a client
is asked for. An accepted endpoint starts with a scheme exactly if there is no blank in front of
it. -/
theorem endpoint_taken_as_given (settings : RefreshSettings) (key : Key) :
    (∀ t rest x reply, (reconcileQuery settings key).Reaches t rest →
      (⟨.lookup x, reply⟩ : QueryExchange) ∈ t →
      ∃ calls copy, calls <+: t.filterMap call? ∧ Starts key Query.seed calls copy ∧
        copy.spec.validate = .ok () ∧ x.endpoint = copy.spec.apiEndpoint) ∧
    (∀ calls copy, Starts key Query.seed calls copy → copy.spec.validate = .ok () →
      ∃ t next, t.filterMap call? = calls ∧ (reconcileQuery settings key).Reaches t
        (.ask (.lookup (.connect copy.spec.apiEndpoint)) next)) ∧
    ∀ s : QuerySpec, s.validate = .ok () →
      ("http://".toList <+: s.apiEndpoint.toList ∨ "https://".toList <+: s.apiEndpoint.toList ↔
        ∀ c ∈ s.apiEndpoint.toList.head?, Text.isBlank c = false) := by
  refine ⟨fun t rest x reply h hx => ?_, fun calls copy hstarts hspec => ?_, fun s hspec => ?_⟩
  · rcases reconcileQuery_reaches h with ⟨hnone, -⟩ | ⟨copy, t₁, t₂, rfl, h₁, hstarts, h₂⟩
    · have hmem : (⟨x, reply⟩ : LookupExchange) ∈ t.filterMap lookup? :=
        List.mem_filterMap.2 ⟨_, hx, rfl⟩
      rw [hnone] at hmem
      cases hmem
    · refine ⟨_, copy, (List.prefix_append t₁ t₂).filterMap call?, hstarts, ?_⟩
      rcases List.mem_append.1 hx with hx | hx
      · have hmem : (⟨x, reply⟩ : LookupExchange) ∈ t₁.filterMap lookup? :=
          List.mem_filterMap.2 ⟨_, hx, rfl⟩
        rw [h₁] at hmem
        cases hmem
      · exact (workOnQuery_asks settings copy).of_reaches h₂ _ hx x rfl
  · obtain ⟨t, ht, hreaches⟩ := reconcileQuery_works settings hstarts
    obtain ⟨next, hnext⟩ := workOnQuery_connects settings hspec
    exact ⟨t, next, ht, hnext ▸ hreaches⟩
  · rw [← hasWebScheme_iff]
    exact hasWebScheme_iff_of_trimChars (QuerySpec.hasWebScheme_of_validate hspec)

/-- A query for all clusters at an endpoint, that a pass has started on before. -/
def listingAt (endpoint : String) : Query where
  metadata := { name := some "q", namespaceName := some "team-a" }
  spec := { apiEndpoint := endpoint, query := .clusters }
  status := some { conditions := [⟨.available, .unknown, none, none, none⟩] }

theorem starts_listingAt (endpoint : String) : Starts (listingAt endpoint).key Query.seed
    [.fetched (listingAt endpoint).key (.ok (some (listingAt endpoint)))] (listingAt endpoint) :=
  .known rfl (by exact List.cons_ne_nil _ _)

/-- A blank at the end of an endpoint is handed over with it. -/
theorem endpoint_taken_as_given_with_blank_at_end :
    ∃ t next, (reconcileQuery {} (listingAt "http://bss ").key).Reaches t
        (.ask (.lookup (.connect "http://bss ")) next) ∧
      "http://".toList <+: "http://bss ".toList := by
  have hspec : (listingAt "http://bss ").spec.validate = .ok () := by decide +kernel
  obtain ⟨-, hasked, hscheme⟩ := endpoint_taken_as_given {} (listingAt "http://bss ").key
  have hfront : ∀ c ∈ "http://bss ".toList.head?, Text.isBlank c = false := by
    rintro c ⟨⟩
    decide
  obtain ⟨t, next, -, hreaches⟩ := hasked _ _ (starts_listingAt "http://bss ") hspec
  refine ⟨t, next, hreaches, ?_⟩
  rcases (hscheme _ hspec).2 hfront with h | h
  · exact h
  · exact absurd h (by decide)

/-- A query with a no-break space in front of its endpoint is accepted, and a client is asked for at
an address that starts with no scheme. -/
theorem connects_without_scheme :
    (listingAt "\u00a0http://bss").spec.validate = .ok () ∧
    (∃ t next, (reconcileQuery {} (listingAt "\u00a0http://bss").key).Reaches t
      (.ask (.lookup (.connect "\u00a0http://bss")) next)) ∧
    ¬ ("http://".toList <+: "\u00a0http://bss".toList ∨
      "https://".toList <+: "\u00a0http://bss".toList) := by
  have hspec : (listingAt "\u00a0http://bss").spec.validate = .ok () := by decide +kernel
  obtain ⟨t, -, hworks⟩ := reconcileQuery_works {} (starts_listingAt "\u00a0http://bss")
  obtain ⟨next, hnext⟩ := workOnQuery_connects {} hspec
  exact ⟨hspec, ⟨t, next, hnext ▸ hworks⟩, by decide⟩

end ClusterOperator
