import ClusterOperator.Proofs.Pass.Published

/-!
# What a pass leaves

From its beginning to its end a pass is the only one that writes the status. When a write that fails
has no effect, the status that is stored in the end is the one that its last successful write
carried, or the one that was there before.

* `EntityCall.after`, `statusAfter` : the status that is stored after a call, and after several;
* `Told` : every call shows the status that is stored by then;
* `PassWorld.During` : what happens while a pass is under way and no failed write has an effect;
  `PassWorld.During.status`, the status that is stored meanwhile;
* `Starts.status_cases` : the copy that a pass works on, and the status that is stored then.
-/

namespace ClusterOperator

open Dialogue

section

variable {σ τ : Type} {status : Option τ} {call : EntityCall σ τ} {calls : List (EntityCall σ τ)}

def EntityCall.after (status : Option τ) : EntityCall σ τ → Option τ
  | .published e (.ok _) => e.status
  | _ => status

theorem EntityCall.after_refused (status : Option τ) (e : Entity σ τ) (error : StoreError) :
    (EntityCall.published e (.error error)).after status = status := rfl

def statusAfter (status : Option τ) (calls : List (EntityCall σ τ)) : Option τ :=
  calls.foldl EntityCall.after status

/-- Every call shows the status that is stored by then. -/
def Told (status : Option τ) : List (EntityCall σ τ) → Prop
  | [] => True
  | call :: calls => call.Tells (call.after status) ∧ Told (call.after status) calls

theorem statusAfter_concat :
    statusAfter status (calls ++ [call]) = call.after (statusAfter status calls) := by
  simp [statusAfter]

theorem told_concat :
    Told status (calls ++ [call]) ↔
      Told status calls ∧ call.Tells (statusAfter status (calls ++ [call])) := by
  induction calls generalizing status with
  | nil => simp [Told, statusAfter]
  | cons first rest ih =>
    simp only [List.cons_append, Told, ih, and_assoc]
    rfl

theorem EntityCall.Allowed.after_eq {before stored : Option (Entity σ τ)}
    (h : call.Allowed before stored)
    (hfails : ∀ e error, call = .published e (.error error) → stored = before)
    (hbefore : ∀ e ∈ before, e.status = status) :
    (∀ e ∈ stored, e.status = call.after status) ∧ call.Tells (call.after status) := by
  cases h with
  | found =>
    refine ⟨hbefore, ?_⟩
    cases before with
    | none => trivial
    | some e => exact hbefore e rfl
  | unfetched | refused => exact ⟨hbefore, trivial⟩
  | stored e current =>
    refine ⟨fun e' he' => ?_, rfl, rfl⟩
    cases he'
    rfl
  | lost e current error =>
    rw [hfails e error rfl]
    exact ⟨hbefore, trivial⟩

end

namespace PassWorld

variable {σ τ Q : Type} {A : Q → Type} (call? : Exchange Q A → Option (EntityCall σ τ))
  (pass : Dialogue Q A (Except PassError Requeue))

/-- A write that fails in a step has no effect. -/
def FailsCleanly (w w' : PassWorld Q A σ τ) : Prop :=
  ∀ t x rest e error, w.running.map (·.1) = some t → w'.running = some (t ++ [x], rest) →
    call? x = some (.published e (.error error)) → w'.stored = w.stored

/-- What happens while a pass is under way and no failed write has an effect. -/
abbrev During : PassWorld Q A σ τ → PassWorld Q A σ τ → Prop :=
  Relation.ReflTransGen fun w w' =>
    Step call? pass w w' ∧ w'.running.isSome ∧ FailsCleanly call? w w'

variable {call? pass} {w w' : PassWorld Q A σ τ} {stored : Option (Entity σ τ)}

theorem During.stored_before (h : During call? pass w w') {e' : Entity σ τ} (he' : e' ∈ w'.stored) :
    ∃ e, e ∈ w.stored := by
  induction h generalizing e' with
  | refl => exact ⟨e', he'⟩
  | tail _ hstep ih =>
    obtain ⟨e, he⟩ := hstep.1.stored_before he'
    exact ih he

/-- A pass goes on with an exchange that has no effect when it is a failed write. -/
theorem During.exchange {stored' : Option (Entity σ τ)} {t : List (Exchange Q A)} {q : Q}
    {next : A q → Dialogue Q A (Except PassError Requeue)}
    (h : During call? pass w ⟨stored, some (t, .ask q next)⟩) (reply : A q)
    (hallows : Allows call? stored ⟨q, reply⟩ stored')
    (hclean : ∀ e error, call? ⟨q, reply⟩ = some (.published e (.error error)) →
      stored' = stored) :
    During call? pass w ⟨stored', some (t ++ [⟨q, reply⟩], next reply)⟩ := by
  refine h.tail ⟨.exchange reply hallows, rfl, fun t' x rest e error ht hx hcall => ?_⟩
  cases ht
  obtain ⟨-, hlast⟩ := List.append_singleton_inj.1 (congrArg Prod.fst (Option.some.inj hx))
  cases hlast
  exact hclean e error hcall

theorem During.exchange_of_none {t : List (Exchange Q A)} {q : Q}
    {next : A q → Dialogue Q A (Except PassError Requeue)}
    (h : During call? pass w ⟨stored, some (t, .ask q next)⟩) (reply : A q)
    (hcall : call? ⟨q, reply⟩ = none) :
    During call? pass w ⟨stored, some (t ++ [⟨q, reply⟩], next reply)⟩ :=
  h.exchange reply ((allows_iff_of_none hcall).2 rfl) fun _ _ _ => rfl

/-- What is stored while a pass is under way has the status of its last write, and the calls of the
pass have shown it. -/
theorem During.status (h : During call? pass ⟨stored, some ([], pass)⟩ w) :
    ∃ t rest, w.running = some (t, rest) ∧ pass.Reaches t rest ∧
      Told (stored.bind Entity.status) (t.filterMap call?) ∧
      ∀ e ∈ w.stored, e.status = statusAfter (stored.bind Entity.status) (t.filterMap call?) := by
  induction h with
  | refl => exact ⟨[], pass, rfl, .refl pass, trivial, fun e he => by cases he; rfl⟩
  | tail _ hstep ih =>
    obtain ⟨t, rest, hrunning, hcourse, htold, hstored⟩ := ih
    obtain ⟨hstep, hgoes, hclean⟩ := hstep
    cases hstep with
    | edit running hstatus =>
      refine ⟨t, rest, hrunning, hcourse, htold, fun e he => ?_⟩
      cases he
      exact hstatus.trans (hstored _ rfl)
    | remove => exact ⟨t, rest, hrunning, hcourse, htold, fun e he => by cases he⟩
    | start => cases hrunning
    | leave => cases hgoes
    | @exchange before after t' q next reply hallows =>
      cases hrunning
      refine ⟨_, _, rfl, hcourse.snoc reply, ?_⟩
      rw [List.filterMap_append]
      cases hcall : call? ⟨q, reply⟩ with
      | none =>
        obtain rfl := (allows_iff_of_none hcall).1 hallows
        rw [List.filterMap_cons_none hcall, List.filterMap_nil, List.append_nil]
        exact ⟨htold, hstored⟩
      | some call =>
        rw [List.filterMap_cons_some hcall, List.filterMap_nil, told_concat, statusAfter_concat]
        obtain ⟨hafter, htells⟩ := ((allows_iff_of_some hcall).1 hallows).after_eq
          (fun e error he => hclean t _ _ e error rfl rfl (hcall.trans (congrArg some he))) hstored
        exact ⟨⟨htold, htells⟩, hafter⟩

end PassWorld

/-- A pass works on what it read, or publishes its first condition and adopts the stored copy. -/
theorem Starts.status_cases {σ τ : Type} [Managed σ τ] {key : Key} {seed : Entity σ τ → String → τ}
    {calls : List (EntityCall σ τ)} {copy : Entity σ τ} {status : Option τ}
    (h : Starts key seed calls copy) (htold : Told status calls) :
    statusAfter status calls = copy.status ∧
      (copy.status = status ∨ ∃ found stamp, found.status = status ∧ found.conditions = [] ∧
        copy.status = some (seed found stamp)) := by
  cases h with
  | known => exact ⟨htold.1.symm, Or.inl htold.1⟩
  | @seeded found _ stamp _ hempty =>
    obtain ⟨hfound, ⟨-, hcopy⟩, -⟩ := htold
    exact ⟨hcopy.symm, Or.inr ⟨found, stamp, hfound, hempty, hcopy⟩⟩

end ClusterOperator
