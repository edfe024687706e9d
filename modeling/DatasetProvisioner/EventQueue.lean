/-!
# Event queues

A first-in, first-out queue between a watch and the loop that handles its events, with a signal
that wakes the consumer. The signal holds at most one permit: an item that arrives while nobody
waits leaves a permit, so that the next wait returns at once. A wait that was woken but is given
up before it noticed passes the wake-up on.
-/
namespace DatasetProvisioner

/-- A signal between producers and waiting consumers, who are known by number. -/
structure Signal where
  permit : Bool := false
  /-- Those who wait, the longest first. -/
  waiting : List Nat := []
  /-- Those who were woken and have not noticed yet. -/
  woken : List Nat := []
  deriving Repr, DecidableEq

namespace Signal

/-- Wake whoever has waited longest, or leave a permit. -/
def notify (signal : Signal) : Signal :=
  match signal.waiting with
  | id :: waiting => { signal with waiting, woken := signal.woken ++ [id] }
  | [] => { signal with permit := true }

/-- Take the permit, or begin to wait. Says whether the wait is over. -/
def await (signal : Signal) (id : Nat) : Bool × Signal :=
  if signal.permit then (true, { signal with permit := false })
  else (false, { signal with waiting := signal.waiting ++ [id] })

/-- Look whether a wait is over. -/
def poll (signal : Signal) (id : Nat) : Bool × Signal :=
  if id ∈ signal.woken then (true, { signal with woken := signal.woken.erase id })
  else (false, signal)

/-- Give a wait up. -/
def cancel (signal : Signal) (id : Nat) : Signal :=
  if id ∈ signal.woken then { signal with woken := signal.woken.erase id }.notify
  else { signal with waiting := signal.waiting.erase id }

end Signal

/-- A queue of events with its signal. -/
structure EventQueue (α : Type) where
  items : List α := []
  signal : Signal := {}
  deriving Repr, DecidableEq

namespace EventQueue

variable {α : Type}

/-- Append an item and signal it. -/
def enqueue (queue : EventQueue α) (item : α) : EventQueue α where
  items := queue.items ++ [item]
  signal := queue.signal.notify

/-- Take the oldest item. -/
def dequeue? (queue : EventQueue α) : Option α × EventQueue α :=
  match queue.items with
  | item :: items => (some item, { queue with items })
  | [] => (none, queue)

def size (queue : EventQueue α) : Nat :=
  queue.items.length

def isEmpty (queue : EventQueue α) : Bool :=
  queue.items.isEmpty

/-- Begin to wait for an item. A queue that holds one ends the wait at once and leaves the signal
alone. -/
def await (queue : EventQueue α) (id : Nat) : Bool × EventQueue α :=
  if queue.isEmpty then
    let (isOver, signal) := queue.signal.await id
    (isOver, { queue with signal })
  else (true, queue)

/-- Look whether a wait is over. -/
def poll (queue : EventQueue α) (id : Nat) : Bool × EventQueue α :=
  let (isOver, signal) := queue.signal.poll id
  (isOver, { queue with signal })

/-- Give a wait up. -/
def cancel (queue : EventQueue α) (id : Nat) : EventQueue α :=
  { queue with signal := queue.signal.cancel id }

end EventQueue

end DatasetProvisioner
