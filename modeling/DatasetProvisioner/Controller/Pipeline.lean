import DatasetProvisioner.Controller.NotificationLoop
import DatasetProvisioner.Controller.WatchLoop

/-!
# Pipelines

A watch loop, the queue that it fills, and the notification loop that empties it. The loops share
nothing else, and either may move at any time.
-/
namespace DatasetProvisioner.Controller

/-- The timing of the loops, in milliseconds. -/
structure LoopSettings where
  /-- How long a notification loop idles, and how long a watch loop pauses. -/
  pollInterval : Nat := 500
  /-- How long a shutdown waits for the loops. -/
  shutdownTimeout : Nat := 30000
  deriving Repr, DecidableEq

structure Pipeline (Event : Type) where
  watch : WatchPhase := .opening
  queue : EventQueue Event := {}
  notification : NotificationPhase Event := .taking
  /-- Whether the controller is stopping. -/
  isStopping : Bool := false
  deriving Repr, DecidableEq

namespace Pipeline

variable {Event Object : Type}

/-- The one consumer of a queue. -/
def consumer : Nat := 0

/-- Give the watch loop an input. -/
def onWatch (translate : Change → Object → Except Failure Event) (pipeline : Pipeline Event)
    (input : WatchInput Object) : Pipeline Event :=
  let (watch, event?) := pipeline.watch.next translate input
  match event? with
  | some event => { pipeline with watch, queue := pipeline.queue.enqueue event }
  | none => { pipeline with watch }

/-- Give the notification loop an input; says whether an event was dropped. -/
def onNotification (pipeline : Pipeline Event) (input : NotificationInput Event) :
    Pipeline Event × Bool :=
  let (notification, dropped) := pipeline.notification.next pipeline.isStopping input
  ({ pipeline with notification }, dropped)

/-- Have the notification loop take the oldest event. -/
def take (pipeline : Pipeline Event) : Pipeline Event :=
  match pipeline.notification with
  | .taking =>
    let (event?, queue) := pipeline.queue.dequeue?
    ({ pipeline with queue }.onNotification (.taken event?)).1
  | _ => pipeline

/-- Have the notification loop begin to wait for an event; says whether it need not. -/
def await (pipeline : Pipeline Event) : Bool × Pipeline Event :=
  let (isOver, queue) := pipeline.queue.await consumer
  (isOver, { pipeline with queue })

/-- Rouse the notification loop, which waits no longer. -/
def rouse (pipeline : Pipeline Event) : Pipeline Event :=
  match pipeline.notification with
  | .idle =>
    let (isOver, queue) := pipeline.queue.poll consumer
    let queue := if isOver then queue else queue.cancel consumer
    ({ pipeline with queue }.onNotification .roused).1
  | _ => pipeline

/-- Begin to stop: a loop that waits stops at once, the others when they wait or take the next
event. -/
def cancel (translate : Change → Object → Except Failure Event) (pipeline : Pipeline Event) :
    Pipeline Event :=
  let pipeline := { pipeline with isStopping := true }.onWatch translate .cancelled
  (pipeline.take.onNotification .cancelled).1

/-- Whether both loops have stopped. -/
def hasStopped (pipeline : Pipeline Event) : Bool :=
  match pipeline.watch, pipeline.notification with
  | .stopped, .stopped => true
  | _, _ => false

end Pipeline

end DatasetProvisioner.Controller
