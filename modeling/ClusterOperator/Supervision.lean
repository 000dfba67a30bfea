/-!
# Supervision of components

The components of the operator run side by side and share a token that stops them. The first
failure cancels the token, and then all of them are awaited.

* `Ending`, `Component` : how something ends, and when and how a component does;
* `Supervision` : the components that run, and what is known of those that ended;
* `Supervision.awaitEnd`, `Supervision.step` : a component that ends is awaited, and the one that
  ends next;
* `supervise` : the outcome, when every component has ended.

Times are milliseconds since the start.
-/

namespace ClusterOperator

inductive Failure where
  | error (message : String)
  | crash
  deriving DecidableEq, Repr

/-- How something ends: after some time, and with a failure or without. -/
structure Ending where
  after : Nat := 0
  failure : Option Failure := none
  deriving DecidableEq, Repr

/-- An ending whose time is counted from a given one. -/
def Ending.since (t : Nat) (e : Ending) : Ending :=
  { e with after := t + e.after }

/-- A component and how it ends, by itself or once the token is cancelled. -/
structure Component extends Ending where
  /-- It runs until the token is cancelled, and its ending is counted from there. -/
  untilCancelled : Bool := false
  /-- How it ends, from the cancellation, when the token is cancelled before it has ended by
  itself. A component without this does not mind the token. -/
  interrupted : Option Ending := none
  deriving DecidableEq, Repr

/-- The time at which a component ends, and how, when the token is cancelled at a given time. -/
def Component.ending (c : Component) (cancelAt : Option Nat) : Option Ending :=
  if c.untilCancelled then cancelAt.map fun t => c.toEnding.since t
  else
    match cancelAt, c.interrupted with
    | some t, some e => some (if t < c.after then e.since t else c.toEnding)
    | _, _ => some c.toEnding

structure Supervision where
  running : List Component
  /-- The time at which the token is cancelled, as far as it is known. -/
  cancelAt : Option Nat := none
  /-- The first failure, in the order in which components ended. -/
  failure : Option Failure := none
  now : Nat := 0
  deriving DecidableEq, Repr

namespace Supervision

/-- The component that ends first, with its ending, and the others. Of several that end at the same
time the first in the list counts. -/
def pickNext (cancelAt : Option Nat) :
    List Component → Option ((Ending × Component) × List Component)
  | [] => none
  | c :: rest =>
    match c.ending cancelAt, pickNext cancelAt rest with
    | none, none => none
    | some e, none => some ((e, c), rest)
    | none, some (first, others) => some (first, c :: others)
    | some e, some (first, others) =>
      if e.after ≤ first.1.after then some ((e, c), rest) else some (first, c :: others)

/-- A component ends and is awaited, while the others go on. Its failure counts if it is the first
one, and then cancels the token. -/
def awaitEnd (s : Supervision) (e : Ending) (others : List Component) : Supervision :=
  match s.failure, e.failure with
  | none, some f =>
    { running := others, now := e.after, failure := some f
      cancelAt := some (match s.cancelAt with
        | some cancel => min cancel e.after
        | none => e.after) }
  | _, _ => { s with running := others, now := e.after }

/-- The component that ends next is awaited. Nothing happens when no component ends. -/
def step (s : Supervision) : Supervision :=
  match pickNext s.cancelAt s.running with
  | none => s
  | some ((e, _), others) => s.awaitEnd e others

def iterate : Nat → Supervision → Supervision
  | 0, s => s
  | n + 1, s => iterate n s.step

end Supervision

/-- The state after every component has ended, when the token is cancelled from outside at a given
time or not at all. -/
def supervise (components : List Component) (cancelAt : Option Nat) : Supervision :=
  Supervision.iterate components.length { running := components, cancelAt }

def Supervision.isCancelled (s : Supervision) : Bool :=
  s.cancelAt.any (· ≤ s.now)

end ClusterOperator
