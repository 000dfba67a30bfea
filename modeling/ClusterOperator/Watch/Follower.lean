import ClusterOperator.Api.Server
import ClusterOperator.Queue.Backoff
import ClusterOperator.Watch.Event

/-!
# Followers

A follower keeps up with the objects of a selection. It lists them, then watches, and lists again
when the API has forgotten where it was. After a failure it pauses, longer with each failure in a
row; an event or a long time without a failure ends the row. A watch tells what is announced while
it is open; what is announced while there is none is not heard of.

* `WatchStream` : an open watch, or one that has ended but is not read to its end;
* `FollowPhase` : what a follower does next;
* `Follower` : the selection, the phase, and the pause after a failure;
* `Follower.pauseAfter`, `Follower.fail` : the pauses, and how failures are counted;
* `Follower.advance` : everything that can be done at a time, and the events that it brings;
* `Follower.endWatch` : its watch ends.

Times are nanoseconds since the start of the clock.
-/

namespace ClusterOperator

inductive WatchEnd where
  /-- The connection is closed; the follower watches again. -/
  | closed
  /-- The API has forgotten where the watch was; the follower lists again. -/
  | outdated
  deriving DecidableEq, Repr

/-- A watch: how many announcements were made before its next one, and, once it has ended, how many
were made before its end. -/
structure WatchStream where
  point : Nat
  ending : Option (Nat × WatchEnd) := none
  deriving DecidableEq, Repr

def WatchStream.unread (w : WatchStream) (announcements : List Announcement) :
    List Announcement :=
  match w.ending with
  | none => announcements.drop w.point
  | some (last, _) => (announcements.take last).drop w.point

inductive FollowPhase where
  /-- It lists the objects. -/
  | unlisted
  /-- It starts to watch. -/
  | listed
  | watching (w : WatchStream)
  deriving DecidableEq, Repr

/-- One who keeps up with the objects of a selection. -/
structure Follower where
  selection : Selection
  /-- The metadata of an object, if the object can be read. -/
  decode? : Json → Option Metadata
  phase : FollowPhase := .unlisted
  /-- The failures since the last event. -/
  failures : Nat := 0
  /-- The time of the last failure. -/
  failedAt : Nat := 0
  /-- The end of the pause after the last failure. -/
  resumeAt : Nat := 0

namespace Follower

/-- The pauses after failures: the first one, and the longest. -/
def pauses : BackoffPolicy where
  base := Duration.ofMillis 800
  longest := Duration.ofSecs 30

/-- What a pause that was doubled is too long by: it is a little more than the double of the one
before it, and the clock waits for the whole millisecond after that. -/
def excess : Nat := nanosPerMilli

def pauseAfter (failures : Nat) : Nat :=
  if failures ≤ 1 then pauses.base.nanos
  else min ((pauses.delayFor failures).nanos + excess) pauses.longest.nanos

/-- The time after which a failure is forgotten. -/
def memory : Duration := Duration.ofSecs 120

/-- The follower after a failure. It counts the failures before, unless the last one is
forgotten. -/
def fail (f : Follower) (now : Nat) : Follower :=
  let failures := if f.failedAt + memory.nanos < now then 1 else f.failures + 1
  { f with failures, failedAt := now, resumeAt := now + pauseAfter failures }

/-- The follower after an event. -/
def succeed (f : Follower) (phase : FollowPhase) : Follower :=
  { f with phase, failures := 0 }

/-- The objects are listed. A single object that cannot be read makes the listing fail. -/
def list (f : Follower) (now : Nat) (api : ApiServer) : List WatchEvent × Follower × ApiServer :=
  let f := f.succeed .unlisted
  let (fault, api) := api.meetFault "LIST" f.selection.resource
  match fault, Json.readAll? (fun (_, object) => f.decode? object) (api.listing f.selection) with
  | none, some objects =>
    (.listing :: objects.map .listed ++ [.listingDone],
      f.succeed .listed, api)
  | _, _ => ([.listing], f.fail now, api)

def connect (f : Follower) (now : Nat) (api : ApiServer) : Follower × ApiServer :=
  let (fault, api) := api.meetFault "WATCH" f.selection.resource
  match fault with
  | some _ => (f.fail now, api)
  | none => ({ f with phase := .watching { point := api.announcements.length } }, api)

/-- The watch has nothing more to tell. -/
def finish (f : Follower) (now : Nat) (w : WatchStream) : Follower :=
  match w.ending with
  | none => { f with phase := .watching w }
  | some (_, .closed) => { f with phase := .listed }
  | some (_, .outdated) => { f with phase := .unlisted }.fail now

/-- What a watch has still to tell is read. An object that cannot be read is skipped after a
pause. -/
def read (f : Follower) (now : Nat) (w : WatchStream) :
    List Announcement → List WatchEvent × Follower
  | [] => ([], f.finish now w)
  | a :: rest =>
    let w := { w with point := w.point + 1 }
    if f.selection.selects a.place a.object then
      match f.decode? a.object with
      | none => ([], { f with phase := .watching w }.fail now)
      | some object =>
        let event := if a.isDeletion then WatchEvent.deleted object else .applied object
        let (events, f) := read (f.succeed (.watching w)) now w rest
        (event :: events, f)
    else read f now w rest

/-- A follower that does not pause lists if it has to. -/
def advanceListing (f : Follower) (now : Nat) (api : ApiServer) :
    List WatchEvent × Follower × ApiServer :=
  match f.phase with
  | .unlisted => if f.resumeAt ≤ now then f.list now api else ([], f, api)
  | _ => ([], f, api)

def advanceConnecting (f : Follower) (now : Nat) (api : ApiServer) : Follower × ApiServer :=
  match f.phase with
  | .listed => if f.resumeAt ≤ now then f.connect now api else (f, api)
  | _ => (f, api)

def advanceReading (f : Follower) (now : Nat) (api : ApiServer) : List WatchEvent × Follower :=
  match f.phase with
  | .watching w =>
    if f.resumeAt ≤ now then f.read now w (w.unread api.announcements) else ([], f)
  | _ => ([], f)

/-- Everything that a follower can do at a time, and the events that it brings. A watch that was
read to its end is started again. -/
def advance (f : Follower) (now : Nat) (api : ApiServer) :
    List WatchEvent × Follower × ApiServer :=
  let (told, f) := f.advanceReading now api
  let (listed, f, api) := f.advanceListing now api
  let (f, api) := f.advanceConnecting now api
  (told ++ listed, f, api)

/-- The watch ends after so many announcements. One that has ended already does not end again. -/
def endWatch (f : Follower) (announced : Nat) (how : WatchEnd) : Follower :=
  match f.phase with
  | .watching { point, ending := none } =>
    { f with phase := .watching { point, ending := some (announced, how) } }
  | _ => f

def pauseEnd? (f : Follower) (now : Nat) : Option Nat :=
  if now < f.resumeAt then some f.resumeAt else none

end Follower

end ClusterOperator
