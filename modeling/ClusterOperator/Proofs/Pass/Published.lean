import ClusterOperator.Proofs.Pass.Stored

/-!
# What passes publish

A pass publishes the first condition of what it read, or a report of the copy that it works on. It is
the only one that writes the status meanwhile, so what it publishes is made of the status that is
stored by then.

* `Publishes` : what a pass publishes over a stored status;
* `PassWorld.IsSound.publishes` : what a pass under way publishes;
* `PassWorld.Step.status_cases` : a step leaves the stored status, or stores what is published;
* `PassWorld.IsSound.status_invariant` : what first conditions and reports keep holds of every
  stored status.
-/

namespace ClusterOperator

open Dialogue

section

variable {σ τ Q : Type} {A : Q → Type} [Managed σ τ] (call? : Exchange Q A → Option (EntityCall σ τ))
  (key : Key) (seed : Entity σ τ → String → τ)
  (Reports : List (Exchange Q A) → Entity σ τ → τ → Except PassError Requeue → Prop)

/-- What a pass publishes by its exchange `x`, after the exchanges `t`, while the status `old` is
stored. -/
inductive Publishes (t : List (Exchange Q A)) (x : Exchange Q A) (old : Option τ) :
    Entity σ τ → Prop where
  | seeded {found : Entity σ τ} (stamp : String) (hfound : found.status = old)
      (hempty : found.conditions = []) :
    Publishes t x old { found with status := some (seed found stamp) }
  | reported {copy : Entity σ τ} {s : τ} {result : Except PassError Requeue}
      (hstarts : Starts key seed (t.filterMap call?) copy) (hcopy : copy.status = old)
      (hreport : Reports (t ++ [x]) copy s result) :
    Publishes t x old { copy with status := some s }

end

section

variable {σ τ Q : Type} {A : Q → Type} [Managed σ τ] {call? : Exchange Q A → Option (EntityCall σ τ)}
  {pass : Dialogue Q A (Except PassError Requeue)} {key : Key} {seed : Entity σ τ → String → τ}
  {Reports : List (Exchange Q A) → Entity σ τ → τ → Except PassError Requeue → Prop}
  {Keeps : List (Exchange Q A) → Entity σ τ → Except PassError Requeue → Prop}
  {w w' : PassWorld Q A σ τ}

namespace PassWorld

theorem IsSound.publishes
    (haccount : IsAccounted call? pass key seed Reports Keeps)
    {current : Entity σ τ} {t : List (Exchange Q A)} {q : Q}
    {next : A q → Dialogue Q A (Except PassError Requeue)}
    (hw : IsSound call? pass ⟨some current, some (t, .ask q next)⟩) {reply : A q} {p : Entity σ τ}
    {written : Except StoreError (Entity σ τ)}
    (hcall : call? ⟨q, reply⟩ = some (.published p written)) :
    Publishes call? key seed Reports t ⟨q, reply⟩ current.status p := by
  obtain ⟨hcourse, htells⟩ := hw t _ rfl
  have hreached := haccount _ _ (hcourse.snoc reply)
  rw [List.filterMap_append, List.filterMap_cons_some hcall, List.filterMap_nil] at hreached
  rcases hreached.published_cases with
    ⟨found, stamp, hcalls, hempty, rfl⟩ | ⟨copy, s, result, hstarts, hreport, rfl⟩
  · rw [hcalls] at htells
    exact .seeded stamp (htells _ rfl _ rfl) hempty
  · exact .reported hstarts (hstarts.status fun call hlast => htells call hlast _ rfl) hreport

theorem Step.status_cases
    (haccount : IsAccounted call? pass key seed Reports Keeps)
    (hw : IsSound call? pass w) (h : Step call? pass w w') {e' : Entity σ τ}
    (he' : e' ∈ w'.stored) :
    ∃ e ∈ w.stored, e'.status = e.status ∨
      ∃ t x rest p reply, w'.running = some (t ++ [x], rest) ∧
        call? x = some (.published p reply) ∧
        Publishes call? key seed Reports t x e.status p ∧ e'.status = p.status := by
  cases h with
  | @edit e _ running hstatus =>
    cases he'
    exact ⟨e, rfl, Or.inl hstatus⟩
  | remove => cases he'
  | start | leave => exact ⟨e', he', Or.inl rfl⟩
  | exchange reply hallows =>
    rcases hallows.stored_cases with rfl | ⟨p, written, current, hcall, rfl, rfl⟩
    · exact ⟨e', he', Or.inl rfl⟩
    · cases he'
      exact ⟨current, rfl, Or.inr ⟨_, _, _, p, written, rfl, hcall,
        hw.publishes haccount hcall, rfl⟩⟩

/-- What first conditions and reports keep holds of the stored status however often passes run. -/
theorem IsSound.status_invariant {P : Option τ → Prop}
    (haccount : IsAccounted call? pass key seed Reports Keeps)
    (hseed : ∀ {found : Entity σ τ} stamp, found.conditions = [] → P found.status →
      P (some (seed found stamp)))
    (hreport : ∀ {t copy s result}, Reports t copy s result → P copy.status → P (some s))
    (hw : IsSound call? pass w) (h : Run call? pass w w') (hP : ∀ e ∈ w.stored, P e.status) :
    ∀ e ∈ w'.stored, P e.status := by
  induction h with
  | refl => exact hP
  | tail hsteps hstep ih =>
    intro e' he'
    obtain ⟨e, he, hsame | ⟨_, _, _, p, _, -, -, hp, hstored⟩⟩ :=
      hstep.status_cases haccount (hw.run hsteps) he'
    · rw [hsame]
      exact ih e he
    · have hold := ih e he
      rw [hstored]
      cases hp with
      | seeded stamp hfound hempty => exact hseed stamp hempty (hfound ▸ hold)
      | reported hstarts hcopy hreports => exact hreport hreports (hcopy ▸ hold)

end PassWorld

end

end ClusterOperator
