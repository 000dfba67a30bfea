import ClusterOperator.Dialogue

/-!
# The course of a dialogue

A dialogue leaves it open who replies to it and what. What it does is therefore said of all
exchanges that it can have, up to any point: whatever was replied, and also when nobody goes on.

* `Exchange` : a request with its reply;
* `Dialogue.Reaches` : some exchanges lead from a dialogue to what is left of it;
* `Dialogue.result?` : the result, when nothing is left to ask;
* `Reaches.of_bind`, `Reaches.of_request`, `Reaches.of_interpret` : the exchanges of composed
  dialogues, from those of their parts; `Reaches.bind`, `Reaches.interpret`, the other way;
* `Reaches.transcript` : what is asked under a state is one course of many;
* `Dialogue.Asks` : all requests are of a kind; `Dialogue.AsksAfter`, each one may come after the
  exchange before it.
-/

namespace ClusterOperator

abbrev Exchange (Q : Type) (A : Q → Type) := (q : Q) × A q

namespace Dialogue

variable {Q R : Type} {A : Q → Type} {B : R → Type} {α β σ : Type}

/-- The exchanges lead from a dialogue to what is left of it. -/
inductive Reaches : Dialogue Q A α → List (Exchange Q A) → Dialogue Q A α → Prop where
  | refl (d : Dialogue Q A α) : Reaches d [] d
  | ask {q : Q} {next : A q → Dialogue Q A α} {t : List (Exchange Q A)} {rest : Dialogue Q A α}
      (reply : A q) (h : Reaches (next reply) t rest) : Reaches (.ask q next) (⟨q, reply⟩ :: t) rest

/-- The result of a dialogue that has nothing left to ask. -/
def result? : Dialogue Q A α → Option α
  | .finish a => some a
  | .ask _ _ => none

@[simp] theorem result?_finish (a : α) : (finish a : Dialogue Q A α).result? = some a := rfl

@[simp] theorem result?_ask (q : Q) (next : A q → Dialogue Q A α) : (ask q next).result? = none :=
  rfl

theorem result?_eq_some {d : Dialogue Q A α} {a : α} : d.result? = some a ↔ d = .finish a := by
  cases d <;> simp

variable {d rest : Dialogue Q A α} {t t' : List (Exchange Q A)}

namespace Reaches

theorem trans {mid : Dialogue Q A α} (h : d.Reaches t mid) (h' : mid.Reaches t' rest) :
    d.Reaches (t ++ t') rest := by
  induction h with
  | refl d => exact h'
  | ask reply _ ih => exact .ask reply (ih h')

theorem snoc {q : Q} {next : A q → Dialogue Q A α} (h : d.Reaches t (.ask q next)) (reply : A q) :
    d.Reaches (t ++ [⟨q, reply⟩]) (next reply) :=
  h.trans (.ask reply (.refl _))

/-- A course passes through every one of its points. -/
theorem split (h : d.Reaches (t ++ t') rest) :
    ∃ mid, d.Reaches t mid ∧ mid.Reaches t' rest := by
  induction t generalizing d with
  | nil => exact ⟨d, .refl d, h⟩
  | cons x t ih =>
    cases h with
    | ask reply h =>
      obtain ⟨mid, hmid, hrest⟩ := ih h
      exact ⟨mid, .ask reply hmid, hrest⟩

theorem of_finish {a : α} (h : (finish a : Dialogue Q A α).Reaches t rest) :
    t = [] ∧ rest = .finish a := by
  cases h
  exact ⟨rfl, rfl⟩

theorem of_request {q : Q} {rest : Dialogue Q A (A q)}
    (h : (request q : Dialogue Q A (A q)).Reaches t rest) :
    t = [] ∧ rest.result? = none ∨ ∃ reply, t = [⟨q, reply⟩] ∧ rest = .finish reply := by
  cases h with
  | refl => exact Or.inl ⟨rfl, rfl⟩
  | ask reply h =>
    obtain ⟨rfl, rfl⟩ := h.of_finish
    exact Or.inr ⟨reply, rfl, rfl⟩

/-- Either the request is not replied to yet, or the dialogue goes on from the reply. -/
theorem of_request_bind {q : Q} {f : A q → Dialogue Q A β} {rest : Dialogue Q A β}
    (h : ((request q : Dialogue Q A (A q)).bind f).Reaches t rest) :
    t = [] ∧ rest.result? = none ∨
      ∃ reply t', t = ⟨q, reply⟩ :: t' ∧ (f reply).Reaches t' rest := by
  cases h with
  | refl => exact Or.inl ⟨rfl, rfl⟩
  | ask reply h => exact Or.inr ⟨reply, _, rfl, h⟩

theorem request_bind {q : Q} {f : A q → Dialogue Q A β} {rest : Dialogue Q A β} (reply : A q)
    (h : (f reply).Reaches t rest) :
    ((request q : Dialogue Q A (A q)).bind f).Reaches (⟨q, reply⟩ :: t) rest :=
  .ask reply h

/-- Either the first part goes on asking, or it has finished and the second part goes on. -/
theorem of_bind {f : α → Dialogue Q A β} {rest : Dialogue Q A β}
    (h : (d.bind f).Reaches t rest) :
    rest.result? = none ∧ (∃ left, d.Reaches t left ∧ left.result? = none) ∨
      ∃ a t₁ t₂, t = t₁ ++ t₂ ∧ d.Reaches t₁ (.finish a) ∧ (f a).Reaches t₂ rest := by
  induction d generalizing t with
  | finish a => exact Or.inr ⟨a, [], t, rfl, .refl _, h⟩
  | ask q next ih =>
    cases h with
    | refl => exact Or.inl ⟨rfl, _, .refl _, rfl⟩
    | ask reply h =>
      rcases ih reply h with ⟨hrest, left, hleft, hnone⟩ | ⟨a, t₁, t₂, rfl, h₁, h₂⟩
      · exact Or.inl ⟨hrest, left, .ask reply hleft, hnone⟩
      · exact Or.inr ⟨a, ⟨q, reply⟩ :: t₁, t₂, rfl, .ask reply h₁, h₂⟩

theorem of_bind_finish {f : α → Dialogue Q A β} {b : β}
    (h : (d.bind f).Reaches t (.finish b)) :
    ∃ a t₁ t₂, t = t₁ ++ t₂ ∧ d.Reaches t₁ (.finish a) ∧ (f a).Reaches t₂ (.finish b) := by
  rcases h.of_bind with ⟨hnone, -⟩ | h
  · cases hnone
  · exact h

theorem bind (h : d.Reaches t rest) (f : α → Dialogue Q A β) :
    (d.bind f).Reaches t (rest.bind f) := by
  induction h with
  | refl d => exact .refl _
  | ask reply _ ih => exact .ask reply ih

theorem of_bind_last {f : α → Dialogue Q A β} {rest : Dialogue Q A β}
    (h : (d.bind f).Reaches t rest) (hf : ∀ a, ∃ b, f a = .finish b) :
    (rest.result? = none ∧ ∃ left, d.Reaches t left ∧ left.result? = none) ∨
      ∃ a, d.Reaches t (.finish a) ∧ rest = f a := by
  rcases h.of_bind with hfirst | ⟨a, t₁, t₂, rfl, h₁, h₂⟩
  · exact Or.inl hfirst
  · obtain ⟨b, hb⟩ := hf a
    rw [hb] at h₂
    obtain ⟨rfl, rfl⟩ := h₂.of_finish
    exact Or.inr ⟨a, by rwa [List.append_nil], hb.symm⟩

/-- A dialogue that is passed on request by request has the exchanges of the one behind it. -/
theorem of_interpret {g : Q → R} {d : Dialogue Q (fun q => B (g q)) α}
    {t : List (Exchange R B)} {rest : Dialogue R B α}
    (h : (d.interpret fun q => request (g q)).Reaches t rest) :
    ∃ ts left, d.Reaches ts left ∧ t = ts.map (fun x => ⟨g x.1, x.2⟩) ∧
      rest.result? = left.result? := by
  induction d generalizing t with
  | finish a =>
    obtain ⟨rfl, rfl⟩ := h.of_finish
    exact ⟨[], _, .refl _, rfl, rfl⟩
  | ask q next ih =>
    cases h with
    | refl => exact ⟨[], _, .refl _, rfl, rfl⟩
    | ask reply h =>
      obtain ⟨ts, left, hleft, rfl, hrest⟩ := ih reply h
      have hask : (Dialogue.ask q next).Reaches (⟨q, reply⟩ :: ts) left := .ask _ hleft
      exact ⟨_, left, hask, rfl, hrest⟩

theorem interpret {g : Q → R} {d rest : Dialogue Q (fun q => B (g q)) α}
    {t : List (Exchange Q fun q => B (g q))} (h : d.Reaches t rest) :
    (d.interpret fun q => request (g q)).Reaches (t.map fun x => (⟨g x.1, x.2⟩ : Exchange R B))
      (rest.interpret fun q => request (g q)) := by
  induction h with
  | refl d => exact .refl _
  | ask reply _ ih => exact .ask reply ih

end Reaches

/-- What is asked under a state is a course of the dialogue, and leads to its result. -/
theorem Reaches.transcript (answer : (q : Q) → σ → A q × σ) (d : Dialogue Q A α) (s : σ) :
    d.Reaches (d.transcript answer s) (.finish (d.run answer s).1) := by
  induction d generalizing s with
  | finish a => exact .refl _
  | ask q next ih => exact .ask _ (ih _ _)

/-! ## Requests of a kind -/

/-- Whatever is replied, all requests are of a kind. -/
def Asks (P : Q → Prop) : Dialogue Q A α → Prop
  | .finish _ => True
  | .ask q next => P q ∧ ∀ reply, (next reply).Asks P

theorem Asks.of_reaches {P : Q → Prop} (h : d.Asks P) (ht : d.Reaches t rest) :
    ∀ x ∈ t, P x.1 := by
  induction ht with
  | refl d => simp
  | ask reply _ ih => exact List.forall_mem_cons.2 ⟨h.1, ih (h.2 reply)⟩

theorem Asks.imp {P P' : Q → Prop} (h : d.Asks P) (hP : ∀ q, P q → P' q) : d.Asks P' := by
  induction d with
  | finish a => trivial
  | ask q next ih => exact ⟨hP q h.1, fun reply => ih reply (h.2 reply)⟩

theorem Asks.bind {P : Q → Prop} {f : α → Dialogue Q A β} (h : d.Asks P)
    (hf : ∀ a, (f a).Asks P) : (d.bind f).Asks P := by
  induction d with
  | finish a => exact hf a
  | ask q next ih => exact ⟨h.1, fun reply => ih reply (h.2 reply)⟩

theorem Asks.interpret {P : R → Prop} {g : Q → R} {d : Dialogue Q (fun q => B (g q)) α}
    (h : d.Asks fun q => P (g q)) : (d.interpret fun q => request (g q)).Asks P := by
  induction d with
  | finish a => trivial
  | ask q next ih => exact ⟨h.1, fun reply => ih reply (h.2 reply)⟩

/-- Whatever is replied, each request may come after the exchange right before it; there may have
been one before the first. -/
def AsksAfter (P : Option (Exchange Q A) → Q → Prop) :
    Option (Exchange Q A) → Dialogue Q A α → Prop
  | _, .finish _ => True
  | last, .ask q next => P last q ∧ ∀ reply, AsksAfter P (some ⟨q, reply⟩) (next reply)

section

variable {P : Option (Exchange Q A) → Q → Prop} {last : Option (Exchange Q A)}

theorem AsksAfter.request_bind {q : Q} {f : A q → Dialogue Q A β} (h : P last q)
    (hf : ∀ reply, (f reply).AsksAfter P (some ⟨q, reply⟩)) :
    ((request q : Dialogue Q A (A q)).bind f).AsksAfter P last :=
  ⟨h, hf⟩

theorem AsksAfter.bind {f : α → Dialogue Q A β} (h : d.AsksAfter P last)
    (hf : ∀ a last', (f a).AsksAfter P last') : (d.bind f).AsksAfter P last := by
  induction d generalizing last with
  | finish a => exact hf a last
  | ask q next ih => exact ⟨h.1, fun reply => ih reply (h.2 reply)⟩

theorem AsksAfter.asks {R : Q → Prop} (h : d.AsksAfter P last) (hP : ∀ last q, P last q → R q) :
    d.Asks R := by
  induction d generalizing last with
  | finish a => trivial
  | ask q next ih => exact ⟨hP last q h.1, fun reply => ih reply (h.2 reply)⟩

theorem AsksAfter.of_reaches {x : Exchange Q A} (h : d.AsksAfter P last)
    (ht : d.Reaches (t ++ x :: t') rest) : P (t.getLast?.or last) x.1 := by
  induction t generalizing d last with
  | nil =>
    cases ht
    exact h.1
  | cons y t ih =>
    cases ht with
    | ask reply ht =>
      have hnext := ih (h.2 reply) ht
      rw [List.getLast?_cons, Option.some_or]
      cases hlast : t.getLast? with
      | none => rwa [hlast] at hnext
      | some z => rwa [hlast] at hnext

end

end Dialogue

end ClusterOperator
