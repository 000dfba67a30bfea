import ClusterOperator.Proofs.Pass.Account
import Mathlib.Logic.Relation

/-!
# Passes over a stored entity

One entity is kept in a store. Passes over it go on one at a time; they read it and write its
status, and nobody else writes the status. Others edit all the rest at any time, and may remove the
entity. Any call may fail, a write also after it took effect, and a pass may be given up at any
point.

* `EntityCall.Allowed` : what the store replies to a call, and what it then holds;
* `PassWorld`, `PassWorld.Step` : the stored entity with the pass under way, and what happens to
  them; `PassWorld.Run`, several steps;
* `EntityCall.Tells` : a call shows which status is stored;
* `PassWorld.IsSound` : a pass goes its course, and the status is as its last call showed;
  `IsSound.step`, `IsSound.run`.
-/

namespace ClusterOperator

open Dialogue

section

variable {σ τ : Type}

/-- What the store of one entity replies to a call, given what it holds before and after. A status
is written to the entity that is stored by then. -/
inductive EntityCall.Allowed : Option (Entity σ τ) → EntityCall σ τ → Option (Entity σ τ) → Prop where
  | found (stored : Option (Entity σ τ)) (key : Key) :
    Allowed stored (.fetched key (.ok stored)) stored
  | unfetched (stored : Option (Entity σ τ)) (key : Key) (error : StoreError) :
    Allowed stored (.fetched key (.error error)) stored
  | stored (e current : Entity σ τ) :
    Allowed (some current) (.published e (.ok { current with status := e.status }))
      (some { current with status := e.status })
  | refused (stored : Option (Entity σ τ)) (e : Entity σ τ) (error : StoreError) :
    Allowed stored (.published e (.error error)) stored
  /-- The status is stored, but the reply does not arrive. -/
  | lost (e current : Entity σ τ) (error : StoreError) :
    Allowed (some current) (.published e (.error error)) (some { current with status := e.status })

def EntityCall.Tells (status : Option τ) : EntityCall σ τ → Prop
  | .fetched _ (.ok (some e)) => e.status = status
  | .published e (.ok copy) => e.status = status ∧ copy.status = status
  | _ => True

theorem EntityCall.Allowed.tells {before after : Option (Entity σ τ)} {call : EntityCall σ τ}
    (h : call.Allowed before after) : ∀ e ∈ after, call.Tells e.status := by
  rintro e he
  cases h with
  | found key =>
    cases he
    rfl
  | stored e' current =>
    cases he
    exact ⟨rfl, rfl⟩
  | unfetched | refused | lost => trivial

theorem EntityCall.Allowed.stored_cases {before after : Option (Entity σ τ)} {call : EntityCall σ τ}
    (h : call.Allowed before after) :
    after = before ∨ ∃ e reply current, call = .published e reply ∧ before = some current ∧
      after = some { current with status := e.status } := by
  cases h with
  | found | unfetched | refused => exact Or.inl rfl
  | stored e current | lost e current => exact Or.inr ⟨e, _, current, rfl, rfl, rfl⟩

end

/-- A stored entity, and the exchanges of the pass over it that is under way, with what is left of
that pass. -/
structure PassWorld (Q : Type) (A : Q → Type) (σ τ : Type) where
  stored : Option (Entity σ τ)
  running : Option (List (Exchange Q A) × Dialogue Q A (Except PassError Requeue))

namespace PassWorld

variable {σ τ Q : Type} {A : Q → Type} (call? : Exchange Q A → Option (EntityCall σ τ))
  (pass : Dialogue Q A (Except PassError Requeue))

/-- An exchange is allowed if it is none with the store of the entity, which then holds what it
held. -/
def Allows (before : Option (Entity σ τ)) (x : Exchange Q A) (after : Option (Entity σ τ)) : Prop :=
  match call? x with
  | none => after = before
  | some call => call.Allowed before after

section

variable {call?} {before after : Option (Entity σ τ)} {x : Exchange Q A}

theorem allows_iff_of_none (h : call? x = none) : Allows call? before x after ↔ after = before := by
  unfold Allows
  rw [h]

theorem allows_iff_of_some {call : EntityCall σ τ} (h : call? x = some call) :
    Allows call? before x after ↔ call.Allowed before after := by
  unfold Allows
  rw [h]

theorem Allows.stored_cases (h : Allows call? before x after) :
    after = before ∨ ∃ e reply current, call? x = some (.published e reply) ∧
      before = some current ∧ after = some { current with status := e.status } := by
  cases hcall : call? x with
  | none => exact Or.inl ((allows_iff_of_none hcall).1 h)
  | some call =>
    have hallowed := (allows_iff_of_some hcall).1 h
    exact hallowed.stored_cases.imp_right fun ⟨e, reply, current, hx, hrest⟩ =>
      ⟨e, reply, current, congrArg some hx, hrest⟩

end

/-- What happens: an edit of all but the status, the removal of the entity, and the beginning, the
next exchange and the end of a pass. -/
inductive Step : PassWorld Q A σ τ → PassWorld Q A σ τ → Prop where
  | edit {e e' : Entity σ τ} (running : Option (List (Exchange Q A) × Dialogue Q A _))
      (h : e'.status = e.status) : Step ⟨some e, running⟩ ⟨some e', running⟩
  | remove (e : Entity σ τ) (running : Option (List (Exchange Q A) × Dialogue Q A _)) :
    Step ⟨some e, running⟩ ⟨none, running⟩
  | start (stored : Option (Entity σ τ)) : Step ⟨stored, none⟩ ⟨stored, some ([], pass)⟩
  | exchange {stored stored' : Option (Entity σ τ)} {t : List (Exchange Q A)} {q : Q}
      {next : A q → Dialogue Q A (Except PassError Requeue)} (reply : A q)
      (h : Allows call? stored ⟨q, reply⟩ stored') :
    Step ⟨stored, some (t, .ask q next)⟩ ⟨stored', some (t ++ [⟨q, reply⟩], next reply)⟩
  | leave (stored : Option (Entity σ τ)) (under : List (Exchange Q A) × Dialogue Q A _) :
    Step ⟨stored, some under⟩ ⟨stored, none⟩

abbrev Run : PassWorld Q A σ τ → PassWorld Q A σ τ → Prop :=
  Relation.ReflTransGen (Step call? pass)

/-- The pass under way goes the course of a pass, and its last call shows the stored status. -/
def IsSound (w : PassWorld Q A σ τ) : Prop :=
  ∀ t rest, w.running = some (t, rest) →
    pass.Reaches t rest ∧ ∀ call ∈ (t.filterMap call?).getLast?, ∀ e ∈ w.stored, call.Tells e.status

variable {call? pass} {w w' : PassWorld Q A σ τ}

theorem IsSound.step (hw : IsSound call? pass w) (h : Step call? pass w w') :
    IsSound call? pass w' := by
  intro t rest hrun
  cases h with
  | edit running he =>
    obtain ⟨hcourse, htells⟩ := hw t rest hrun
    refine ⟨hcourse, fun call hcall e' he' => ?_⟩
    cases he'
    rw [he]
    exact htells call hcall _ rfl
  | remove e running => exact ⟨(hw t rest hrun).1, fun call _ e he => by cases he⟩
  | start stored =>
    cases hrun
    exact ⟨.refl pass, fun call hcall => by cases hcall⟩
  | @exchange stored stored' t' q next reply hallows =>
    cases hrun
    obtain ⟨hcourse, htells⟩ := hw t' _ rfl
    refine ⟨hcourse.snoc reply, ?_⟩
    rw [List.filterMap_append]
    cases hcall : call? ⟨q, reply⟩ with
    | none =>
      obtain rfl := (allows_iff_of_none hcall).1 hallows
      rw [List.filterMap_cons_none hcall, List.filterMap_nil, List.append_nil]
      exact htells
    | some call =>
      rw [List.filterMap_cons_some hcall, List.filterMap_nil, List.getLast?_concat]
      intro last hlast
      cases hlast
      exact ((allows_iff_of_some hcall).1 hallows).tells
  | leave stored under => cases hrun

theorem IsSound.run (hw : IsSound call? pass w) (h : Run call? pass w w') :
    IsSound call? pass w' := by
  induction h with
  | refl => exact hw
  | tail _ hstep ih => exact ih.step hstep

theorem Step.stored_before (h : Step call? pass w w') {e' : Entity σ τ} (he' : e' ∈ w'.stored) :
    ∃ e, e ∈ w.stored := by
  cases h with
  | @edit e => exact ⟨e, rfl⟩
  | remove => cases he'
  | start | leave => exact ⟨e', he'⟩
  | exchange reply hallows =>
    rcases hallows.stored_cases with rfl | ⟨_, _, current, -, rfl, -⟩
    · exact ⟨e', he'⟩
    · exact ⟨current, rfl⟩

theorem IsSound.idle (stored : Option (Entity σ τ)) : IsSound call? pass ⟨stored, none⟩ :=
  fun _ _ h => by cases h

end PassWorld

/-- The copy that a pass works on has the status that its last call showed. -/
theorem Starts.status {σ τ : Type} [Managed σ τ] {key : Key} {seed : Entity σ τ → String → τ}
    {calls : List (EntityCall σ τ)} {copy : Entity σ τ} {status : Option τ}
    (h : Starts key seed calls copy) (htells : ∀ call ∈ calls.getLast?, call.Tells status) :
    copy.status = status := by
  cases h with
  | known => exact htells _ rfl
  | seeded => exact (htells _ rfl).2

end ClusterOperator
