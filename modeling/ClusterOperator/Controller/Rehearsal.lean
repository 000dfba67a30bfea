import ClusterOperator.Controller.Basic
import ClusterOperator.Store.Faulty

/-!
# Rehearsals of controllers

A controller is run over an API in memory, on a clock that moves only when nothing is left to do
at the present time. A pass takes no time, and what it writes is announced before it goes on.

* `Happening` : what others do to the API;
* `ControllerBench` : a controller, its API, the time, and what is still to happen;
* `ControllerBench.answer` : the replies of the platform to a pass;
* `ControllerBench.start` : the followers list and watch for the first time;
* `ControllerBench.runUntil` : what happens up to a time.

Times are nanoseconds since the start of the clock.
-/

namespace ClusterOperator

/-- What others do to the API. -/
inductive Happening where
  | put (r : Resource) (object : Json) (loudness : ApiServer.Loudness)
  | remove (place : Place) (loudness : ApiServer.Loudness)
  | patch (place : Place) (change : Json) (loudness : ApiServer.Loudness)
  /-- The watches of a resource end. -/
  | endWatches (r : Resource) (how : WatchEnd)
  | fault (f : ApiFault)

structure ControllerBench where
  controller : Controller
  api : ApiServer := {}
  inventory : ScriptedInventory := {}
  /-- The text of a time, as statuses carry it. -/
  stamp : Nat → String
  now : Nat := 0
  /-- What is still to happen, in order. -/
  happenings : List (Nat × Happening) := []

namespace ControllerBench

/-- The followers advance, and the controller hears of what they bring. -/
def hear (b : ControllerBench) : ControllerBench :=
  let (controller, api) := b.controller.hear b.now b.api
  { b with controller, api }

/-- The reply of the platform, and the bench after it. -/
def answer : (q : PlatformRequest) → ControllerBench → q.Reply × ControllerBench
  | .clock, b => (b.stamp b.now, b)
  | .call c, b =>
    let (reply, api) := b.api.answer b.now c
    (reply, hear { b with api })
  | .lookup q, b =>
    let (reply, inventory) := b.inventory.answer q
    (reply, { b with inventory })

def mapPool (b : ControllerBench) (change : Pool Key → Pool Key) : ControllerBench :=
  { b with controller := { b.controller with pool := change b.controller.pool } }

/-- A worker asks for keys and makes their passes, `n` of them at most, until it has to wait. -/
def turn (worker : Nat) : Nat → ControllerBench → ControllerBench
  | 0, b => b
  | n + 1, b =>
    let b := b.mapPool (·.ask worker)
    match b.controller.pool.workers[worker]? with
    | some (.working key) =>
      let (outcome, b) := (b.controller.pass key).run answer b
      turn worker n (b.mapPool (·.finish b.now worker (.returned outcome)))
    | _ => b

/-- The most passes that are made at one time, in turn and in all. -/
def passLimit : Nat := 10000

/-- The woken workers take turns, `n` of them at most, until all of them wait. -/
def settle : Nat → ControllerBench → ControllerBench
  | 0, b => b
  | n + 1, b =>
    match b.controller.pool.queue.room.woken with
    | [] => b
    | worker :: _ => settle n (turn worker passLimit b)

/-- The controller hears of what is new, and the woken workers run. -/
def rest (b : ControllerBench) : ControllerBench :=
  settle passLimit b.hear

/-- The workers ask, and the followers list and watch, for the first time. -/
def start (b : ControllerBench) : ControllerBench :=
  let workers := List.range b.controller.pool.workers.length
  rest (workers.foldl (fun b worker => b.mapPool (·.ask worker)) b)

def happen (b : ControllerBench) : Happening → ControllerBench
  | .put r object loudness => { b with api := b.api.put r object loudness }
  | .remove place loudness => { b with api := b.api.remove place loudness }
  | .patch place change loudness => { b with api := b.api.patch place change loudness }
  | .endWatches r how =>
    let change (f : Follower) : Follower := f.endWatch b.api.announcements.length how
    { b with controller := b.controller.mapFollowers r change }
  | .fault f => { b with api := { b.api with faults := b.api.faults ++ [f] } }

inductive Next where
  | alarm (a : Alarm Key)
  | pauseEnd (time : Nat)
  | happening (time : Nat) (h : Happening) (others : List (Nat × Happening))

def Next.time : Next → Nat
  | .alarm a => a.deadline
  | .pauseEnd t => t
  | .happening t _ _ => t

/-- The one of two that comes first; of two at one time, the first one. -/
def Next.earlier : Option Next → Option Next → Option Next
  | none, n => n
  | some x, none => some x
  | some x, some y => if x.time ≤ y.time then some x else some y

/-- What happens next: the earliest of the alarms, the ends of pauses and the happenings. -/
def next? (b : ControllerBench) : Option Next :=
  let alarm := b.controller.pool.queue.nextAlarm?.map Next.alarm
  let pauseEnd := (b.controller.nextPauseEnd? b.now).map Next.pauseEnd
  let happening := match b.happenings with
    | [] => none
    | (t, h) :: others => some (Next.happening t h others)
  Next.earlier (Next.earlier alarm pauseEnd) happening

/-- The clock moves to what happens next, and it happens. -/
def step (b : ControllerBench) (n : Next) : ControllerBench :=
  let b : ControllerBench := { b with now := max b.now n.time }
  match n with
  | .alarm a => rest (b.mapPool fun p => { p with queue := p.queue.sound a })
  | .pauseEnd _ => b.rest
  | .happening _ h others => rest (happen { b with happenings := others } h)

/-- What happens up to a time, in `n` steps at most. -/
def runUntil (time : Nat) : Nat → ControllerBench → ControllerBench
  | 0, b => b
  | n + 1, b =>
    match b.next? with
    | none => { b with now := max b.now time }
    | some x =>
      if x.time ≤ time then runUntil time n (b.step x) else { b with now := max b.now time }

/-- The time up to which a rehearsal goes on: no happening is left out. -/
def closingTime (b : ControllerBench) (time : Nat) : Nat :=
  b.happenings.foldl (fun t (happeningTime, _) => max t happeningTime) time

/-- A bound on the steps up to a time: no delay is shorter than a millisecond, and each object has
a few delays at a time. -/
def stepBound (b : ControllerBench) (time : Nat) : Nat :=
  (time / nanosPerMilli + 2) * 4 *
    (b.api.objects.entries.length + b.controller.children.length + b.happenings.length + 2)

/-- The controller from its start up to a time. -/
def rehearse (b : ControllerBench) (time : Nat) : ControllerBench :=
  let close := b.closingTime time
  b.start.runUntil close (b.stepBound close)

end ControllerBench

/-- The controllers, one after the other, from their start until they rest, without any delay. -/
def rehearseAll (stamp : Nat → String) (inventory : ScriptedInventory) (api : ApiServer)
    (controllers : List Controller) : ApiServer :=
  controllers.foldl (fun api controller =>
    (ControllerBench.start { controller, api, inventory, stamp }).api) api

end ClusterOperator
