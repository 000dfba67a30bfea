import ClusterOperator.Dialogue
import Mathlib.Order.Defs.Unbundled

/-!
# Dialogues that take turns

Two dialogues ask one state in turns, one request a turn. Each of them goes on as it would if
somebody changed the state between its requests, and within what that somebody may do.

* `Turn`, `Dialogue.interleave` : the results of two dialogues that take turns, and the last state;
* `Dialogue.RunsAmid` : a run among others, who change the state by steps of a relation;
  `RunsAmid.of_finish`, `RunsAmid.of_ask`, `RunsAmid.of_bind`, the parts of such a run;
* `Dialogue.AsksAmong` : as long as the replies are honest, all requests are of a kind;
  `AsksAmong.bind`;
* `Dialogue.Serves` : the replies are honest, and the changes are what others allow;
* `Dialogue.runsAmid_of_interleave` : each of two dialogues that take turns runs amid the other.
-/

namespace ClusterOperator

inductive Turn where
  | first
  | second
  deriving DecidableEq, Repr

namespace Dialogue

variable {Q : Type} {A : Q → Type} {α β σ : Type}

/-- The results of two dialogues, and the last state. They take turns, one request a turn; after the
last turn the first goes on to its end, and then the second. Nothing happens in the turn of a
dialogue that has finished. -/
def interleave (answer₁ answer₂ : (q : Q) → σ → A q × σ) :
    List Turn → Dialogue Q A α → Dialogue Q A β → σ → (α × β) × σ
  | [], d, e, s =>
    let (a, s) := d.run answer₁ s
    let (b, s) := e.run answer₂ s
    ((a, b), s)
  | .first :: turns, .ask q next, e, s =>
    let (reply, s) := answer₁ q s
    interleave answer₁ answer₂ turns (next reply) e s
  | .first :: turns, .finish a, e, s => interleave answer₁ answer₂ turns (.finish a) e s
  | .second :: turns, d, .ask q next, s =>
    let (reply, s) := answer₂ q s
    interleave answer₁ answer₂ turns d (next reply) s
  | .second :: turns, d, .finish b, s => interleave answer₁ answer₂ turns d (.finish b) s

/-! ## Runs among others -/

/-- A run of a dialogue among others, who change the state before each request and at the end. -/
inductive RunsAmid (answer : (q : Q) → σ → A q × σ) (others : σ → σ → Prop) :
    Dialogue Q A α → σ → α → σ → Prop where
  | finish {a : α} {s t : σ} (h : others s t) : RunsAmid answer others (.finish a) s a t
  | ask {q : Q} {next : A q → Dialogue Q A α} {s u t : σ} {a : α} (h : others s u)
      (rest : RunsAmid answer others (next (answer q u).1) (answer q u).2 a t) :
      RunsAmid answer others (.ask q next) s a t

namespace RunsAmid

variable {answer : (q : Q) → σ → A q × σ} {others : σ → σ → Prop} {d : Dialogue Q A α} {s t u : σ}
  {a : α}

theorem of_finish {b : α} (h : RunsAmid answer others (.finish b) s a t) : a = b ∧ others s t := by
  cases h with
  | finish h => exact ⟨rfl, h⟩

theorem of_ask {q : Q} {next : A q → Dialogue Q A α}
    (h : RunsAmid answer others (.ask q next) s a t) :
    ∃ u, others s u ∧ RunsAmid answer others (next (answer q u).1) (answer q u).2 a t := by
  cases h with
  | ask h rest => exact ⟨_, h, rest⟩

variable [IsPreorder σ others]

/-- A run of a composed dialogue is one of the first part, and then one of the second. -/
theorem of_bind {f : α → Dialogue Q A β} {b : β} (h : RunsAmid answer others (d.bind f) s b t) :
    ∃ a u, RunsAmid answer others d s a u ∧ RunsAmid answer others (f a) u b t := by
  induction d generalizing s with
  | finish a => exact ⟨a, s, .finish (refl_of others s), h⟩
  | ask q next ih =>
    obtain ⟨v, hv, rest⟩ := h.of_ask
    obtain ⟨a, u, hfirst, hsecond⟩ := ih _ rest
    exact ⟨a, u, .ask hv hfirst, hsecond⟩

/-- What others do before a run is part of it. -/
theorem after (hs : others s u) (h : RunsAmid answer others d u a t) :
    RunsAmid answer others d s a t := by
  cases h with
  | finish h => exact .finish (trans_of others hs h)
  | ask h rest => exact .ask (trans_of others hs h) rest

/-- What others do after a run is part of it. -/
theorem before (h : RunsAmid answer others d s a u) (ht : others u t) :
    RunsAmid answer others d s a t := by
  induction h with
  | finish h => exact .finish (trans_of others h ht)
  | ask h _ ih => exact .ask h (ih ht)

end RunsAmid

/-! ## Requests of a kind -/

/-- As long as the replies are honest, all requests are of a kind, and so is the result. -/
def AsksAmong (honest : (q : Q) → A q → Prop) (P : Q → Prop) (R : α → Prop) :
    Dialogue Q A α → Prop
  | .finish a => R a
  | .ask q next => P q ∧ ∀ reply, honest q reply → (next reply).AsksAmong honest P R

theorem AsksAmong.bind {honest : (q : Q) → A q → Prop} {P : Q → Prop} {R : α → Prop} {S : β → Prop}
    {d : Dialogue Q A α} {f : α → Dialogue Q A β} (h : d.AsksAmong honest P R)
    (hf : ∀ a, R a → (f a).AsksAmong honest P S) : (d.bind f).AsksAmong honest P S := by
  induction d with
  | finish a => exact hf a h
  | ask q next ih => exact ⟨h.1, fun reply hreply => ih reply (h.2 reply hreply)⟩

/-! ## Turns -/

/-- Requests of a kind are answered honestly, keep a state sound, and do nothing to it but what
others allow. -/
def Serves (answer : (q : Q) → σ → A q × σ) (honest : (q : Q) → A q → Prop) (sound : σ → Prop)
    (P : Q → Prop) (allowed : σ → σ → Prop) : Prop :=
  ∀ q s, P q → sound s → honest q (answer q s).1 ∧ sound (answer q s).2 ∧ allowed s (answer q s).2

variable {honest : (q : Q) → A q → Prop} {sound : σ → Prop}

/-- A dialogue that runs alone does nothing but what others allow. -/
theorem Serves.run {answer : (q : Q) → σ → A q × σ} {P : Q → Prop} {R : α → Prop}
    (others : σ → σ → Prop) {allowed : σ → σ → Prop} [IsPreorder σ others] [IsPreorder σ allowed]
    (h : Serves answer honest sound P allowed) {d : Dialogue Q A α} (hd : d.AsksAmong honest P R)
    {s : σ} (hs : sound s) :
    RunsAmid answer others d s (d.run answer s).1 (d.run answer s).2 ∧
      sound (d.run answer s).2 ∧ allowed s (d.run answer s).2 := by
  induction d generalizing s with
  | finish a => exact ⟨.finish (refl_of others s), hs, refl_of allowed s⟩
  | ask q next ih =>
    obtain ⟨hreply, hsound, hstep⟩ := h q s hd.1 hs
    obtain ⟨hrun, hlast, hrest⟩ := ih _ (hd.2 _ hreply) hsound
    exact ⟨.ask (refl_of others s) hrun, hlast, trans_of allowed hstep hrest⟩

variable {answer₁ answer₂ : (q : Q) → σ → A q × σ} {P₁ P₂ : Q → Prop} {R₁ : α → Prop}
  {R₂ : β → Prop} {others₁ others₂ : σ → σ → Prop} [IsPreorder σ others₁] [IsPreorder σ others₂]

/-- Each of two dialogues that take turns runs amid the other. -/
theorem runsAmid_of_interleave (h₁ : Serves answer₁ honest sound P₁ others₂)
    (h₂ : Serves answer₂ honest sound P₂ others₁) (turns : List Turn) {d : Dialogue Q A α}
    {e : Dialogue Q A β} (hd : d.AsksAmong honest P₁ R₁) (he : e.AsksAmong honest P₂ R₂) {s : σ}
    (hs : sound s) {a : α} {b : β} {t : σ}
    (h : interleave answer₁ answer₂ turns d e s = ((a, b), t)) :
    RunsAmid answer₁ others₁ d s a t ∧ RunsAmid answer₂ others₂ e s b t ∧ sound t := by
  induction turns generalizing d e s with
  | nil =>
    rw [interleave] at h
    cases h
    obtain ⟨hrun₁, hs₁, hstep₁⟩ := h₁.run others₁ hd hs
    obtain ⟨hrun₂, hs₂, hstep₂⟩ := h₂.run others₂ he hs₁
    exact ⟨hrun₁.before hstep₂, hrun₂.after hstep₁, hs₂⟩
  | cons turn turns ih =>
    cases turn with
    | first =>
      cases d with
      | finish a => exact ih hd he hs h
      | ask q next =>
        obtain ⟨hreply, hsound, hstep⟩ := h₁ q s hd.1 hs
        obtain ⟨hfirst, hsecond, hlast⟩ := ih (hd.2 _ hreply) he hsound h
        exact ⟨.ask (refl_of others₁ s) hfirst, hsecond.after hstep, hlast⟩
    | second =>
      cases e with
      | finish b => exact ih hd he hs h
      | ask q next =>
        obtain ⟨hreply, hsound, hstep⟩ := h₂ q s he.1 hs
        obtain ⟨hfirst, hsecond, hlast⟩ := ih hd (he.2 _ hreply) hsound h
        exact ⟨hfirst.after hstep, .ask (refl_of others₂ s) hsecond, hlast⟩

end Dialogue

end ClusterOperator
