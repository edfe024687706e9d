import DatasetProvisioner.Event

/-!
# Watch loops

A watch loop keeps one watch open. It opens the watch, takes change after change from it and turns
each into an event for the queue; when the watch ends or fails it pauses and opens it anew. A
failure of the session has the session set up anew before the pause. A change that cannot be
turned into an event is skipped.
-/
namespace DatasetProvisioner.Controller

/-- What a watch loop is doing. -/
inductive WatchPhase where
  | opening
  | reading
  /-- Setting up the session anew. -/
  | resetting
  | pausing
  | stopped
  deriving Repr, DecidableEq

/-- What a watch loop waits for. -/
inductive WatchInput (Object : Type) where
  /-- The watch is open, or could not be opened. -/
  | opened (result : Except Failure Unit)
  | changed (change : Change) (object : Object)
  /-- The watch ended, by itself or by a failure. -/
  | ended (failure : Option Failure)
  /-- The session was set up anew, or not, which changes nothing here. -/
  | sessionReset (result : Except Failure Unit)
  /-- The pause is over. -/
  | resumed
  /-- The controller is stopping. -/
  | cancelled

namespace WatchPhase

/-- What follows a failure. -/
def afterFailure (failure : Failure) : WatchPhase :=
  match failure.action with
  | .resetSession => .resetting
  | .dropEvent => .pausing

/-- The next phase, and the event that goes into the queue. An input that the loop does not wait
for changes nothing. -/
def next {Object Event : Type} (translate : Change → Object → Except Failure Event) :
    WatchPhase → WatchInput Object → WatchPhase × Option Event
  | .opening, .opened (.ok ()) => (.reading, none)
  | .opening, .opened (.error failure) => (afterFailure failure, none)
  | .reading, .changed change object => (.reading, (translate change object).toOption)
  | .reading, .ended none => (.pausing, none)
  | .reading, .ended (some failure) => (afterFailure failure, none)
  | .resetting, .sessionReset _ => (.pausing, none)
  | .pausing, .resumed => (.opening, none)
  -- A session that is being set up is waited for.
  | .opening, .cancelled | .reading, .cancelled | .pausing, .cancelled => (.stopped, none)
  | phase, _ => (phase, none)

end WatchPhase

end DatasetProvisioner.Controller
