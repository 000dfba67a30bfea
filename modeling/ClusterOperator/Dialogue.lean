/-!
# Dialogues

A dialogue is a computation that asks requests of its surroundings, one at a time, and goes on
from each reply. One definition of a pass so serves every kind of store: what answers the requests
is chosen where the dialogue is run.

* `Dialogue Q A α` : a dialogue with the requests `Q`, where `q` is answered by an `A q`;
* `Dialogue.request` : the dialogue of one request;
* `Dialogue.interpret` : each request answered by a dialogue of other requests;
* `Dialogue.run` : the requests answered one after the other by a state;
* `Dialogue.transcript` : the requests that are asked under a state.
-/

namespace ClusterOperator

/-- A computation that asks requests and goes on from the replies. -/
inductive Dialogue (Q : Type) (A : Q → Type) (α : Type) : Type where
  | finish (a : α)
  | ask (q : Q) (next : A q → Dialogue Q A α)

namespace Dialogue

variable {Q R : Type} {A : Q → Type} {B : R → Type} {α β σ : Type}

/-- The dialogue that goes on with `f` where `d` finishes. -/
def bind (d : Dialogue Q A α) (f : α → Dialogue Q A β) : Dialogue Q A β :=
  match d with
  | .finish a => f a
  | .ask q next => .ask q fun reply => (next reply).bind f

instance : Monad (Dialogue Q A) where
  pure := .finish
  bind := bind

def request (q : Q) : Dialogue Q A (A q) :=
  .ask q .finish

/-- The dialogue in which every request is answered by a dialogue of other requests. -/
def interpret (f : (q : Q) → Dialogue R B (A q)) : Dialogue Q A α → Dialogue R B α
  | .finish a => .finish a
  | .ask q next => (f q).bind fun reply => (next reply).interpret f

/-- The result of a dialogue whose requests are answered by a state, and the last state. -/
def run (answer : (q : Q) → σ → A q × σ) : Dialogue Q A α → σ → α × σ
  | .finish a, s => (a, s)
  | .ask q next, s =>
    let (reply, s) := answer q s
    (next reply).run answer s

/-- The requests of a dialogue, each with its reply, when a state answers them. -/
def transcript (answer : (q : Q) → σ → A q × σ) : Dialogue Q A α → σ → List ((q : Q) × A q)
  | .finish _, _ => []
  | .ask q next, s =>
    let (reply, s) := answer q s
    ⟨q, reply⟩ :: (next reply).transcript answer s

@[simp] theorem pure_eq (a : α) : (pure a : Dialogue Q A α) = .finish a := rfl

@[simp] theorem bind_eq (d : Dialogue Q A α) (f : α → Dialogue Q A β) : d >>= f = d.bind f := rfl

@[simp] theorem finish_bind (a : α) (f : α → Dialogue Q A β) : (finish a).bind f = f a := rfl

@[simp] theorem ask_bind (q : Q) (next : A q → Dialogue Q A α) (f : α → Dialogue Q A β) :
    (ask q next).bind f = .ask q fun reply => (next reply).bind f := rfl

theorem bind_finish (d : Dialogue Q A α) : d.bind .finish = d := by
  induction d with
  | finish a => rfl
  | ask q next ih => simp [ih]

theorem bind_assoc {γ : Type} (d : Dialogue Q A α) (f : α → Dialogue Q A β)
    (g : β → Dialogue Q A γ) : (d.bind f).bind g = d.bind fun a => (f a).bind g := by
  induction d with
  | finish a => rfl
  | ask q next ih => simp [ih]

theorem run_bind (answer : (q : Q) → σ → A q × σ) (d : Dialogue Q A α) (f : α → Dialogue Q A β)
    (s : σ) : (d.bind f).run answer s = (f (d.run answer s).1).run answer (d.run answer s).2 := by
  induction d generalizing s with
  | finish a => rfl
  | ask q next ih => simp [run, ih]

end Dialogue

end ClusterOperator
