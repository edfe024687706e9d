import DatasetProvisioner.EventQueue
import DatasetProvisioner.Failure

/-!
# Notification loops

A notification loop takes event after event from its queue and has each handled. An event whose
handling fails is dropped and counted; where the session failed it is set up anew. With the queue
empty the loop idles until an event arrives or some time has passed.
-/
namespace DatasetProvisioner.Controller

/-- What a notification loop is doing. -/
inductive NotificationPhase (Event : Type) where
  /-- About to take an event. -/
  | taking
  | handling (event : Event)
  /-- Setting up the session anew. -/
  | resetting
  /-- Waiting for an event, or for some time to pass. -/
  | idle
  | stopped
  deriving Repr, DecidableEq

/-- What a notification loop waits for. -/
inductive NotificationInput (Event : Type) where
  /-- The oldest event of the queue, if there is one. -/
  | taken (event : Option Event)
  | handled (result : Except Failure Unit)
  /-- The session was set up anew, or not, which changes nothing here. -/
  | sessionReset (result : Except Failure Unit)
  /-- An event arrived, or enough time has passed. -/
  | roused
  /-- The controller is stopping. -/
  | cancelled

namespace NotificationPhase

variable {Event : Type}

/-- What follows a failure. -/
def afterFailure (failure : Failure) : NotificationPhase Event :=
  match failure.action with
  | .resetSession => .resetting
  | .dropEvent => .taking

/-- The next phase, and whether an event was dropped. A controller that is stopping handles no
further event. An input that the loop does not wait for changes nothing. -/
def next (isStopping : Bool) :
    NotificationPhase Event → NotificationInput Event → NotificationPhase Event × Bool
  | .taking, .taken none => (.idle, false)
  | .taking, .taken (some event) => (if isStopping then .stopped else .handling event, false)
  | .handling _, .handled (.ok ()) => (.taking, false)
  | .handling _, .handled (.error failure) => (afterFailure failure, true)
  | .resetting, .sessionReset _ => (.taking, false)
  | .idle, .roused => (.taking, false)
  | .idle, .cancelled => (.stopped, false)
  | phase, _ => (phase, false)

end NotificationPhase

end DatasetProvisioner.Controller
