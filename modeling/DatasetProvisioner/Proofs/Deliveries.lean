import DatasetProvisioner.Proofs.ClaimRuns
import DatasetProvisioner.Proofs.Sample
import DatasetProvisioner.Proofs.VolumeRuns
import DatasetProvisioner.Simulation.Schedule

/-!
# Deliveries

A watch loop and a notification loop with the queue between them, each moving whenever it likes. The
watch may fail to open, break or end at any time and tell of anything; every peer may answer
anything; the controller may begin to stop between any two moves. Taking an event from the queue and
handing it over are moves of their own, and so is every call that is made while it is handled.

The proofs balance each move: an event that arrives leaves the queue once, in its turn; an error
that asks for a new session gets one, once.
-/
namespace DatasetProvisioner.Controller.Delivery

open Manifest Reconciler Simulation

/-! ## The moves of the two loops -/

structure State (Event : Type) where
  pipeline : Pipeline Event := {}
  /-- An event that was taken from the queue and is not handed over yet. -/
  hand : Option Event := none
  /-- What is left to do for the event that is being handled. -/
  task : Option (Program Reconciler.interface (Except Failure Unit)) := none
  tally : Tally := {}

variable {Event Object : Type}

/-- Give the notification loop an input; an event that is dropped is counted. -/
def State.onLoop (s : State Event) (input : NotificationInput Event) : State Event :=
  { s with
    pipeline := (s.pipeline.onNotification input).1
    tally := if (s.pipeline.onNotification input).2 then s.tally.add .eventsDropped 1
      else s.tally }

def counted (tally : Tally) : Reconciler.Call → Tally
  | .count counter => tally.add counter 1
  | _ => tally

/-- What is seen of a move. -/
inductive Occurrence (Event Object : Type) where
  | watched (input : WatchInput Object)
  | handed (event : Event)
  /-- An event was taken while the controller was stopping. -/
  | discarded (event : Event)
  | called (exchange : Exchange Reconciler.interface)
  | finished (event : Event) (result : Except Failure Unit)
  /-- The notification loop set up the session anew. -/
  | reset (result : Except Failure Unit)
  | unseen

/-- What a watch loop waits for in each phase. -/
inductive Awaits (isStopping : Bool) : WatchPhase → WatchInput Object → Prop where
  | opened (result : Except Failure Unit) : Awaits isStopping .opening (.opened result)
  | changed (change : Change) (object : Object) :
    Awaits isStopping .reading (.changed change object)
  | ended (failure : Option Failure) : Awaits isStopping .reading (.ended failure)
  | reset (result : Except Failure Unit) : Awaits isStopping .resetting (.sessionReset result)
  | resumed : Awaits isStopping .pausing .resumed
  | cancelled {phase : WatchPhase} (stopping : isStopping = true) (free : phase ≠ .resetting) :
    Awaits isStopping phase .cancelled

inductive Step (kind : Kind Event Object) (settings : Settings) (s : State Event) :
    Occurrence Event Object → State Event → Prop where
  | watched (input : WatchInput Object)
      (awaited : Awaits s.pipeline.isStopping s.pipeline.watch input) :
    Step kind settings s (.watched input)
      { s with pipeline := s.pipeline.onWatch kind.translate input }
  | taken (event : Event) (queue : EventQueue Event) (free : s.pipeline.notification = .taking)
      (empty : s.hand = none) (first : s.pipeline.queue.dequeue? = (some event, queue)) :
    Step kind settings s .unseen
      { s with pipeline := { s.pipeline with queue }, hand := some event }
  | idled (free : s.pipeline.notification = .taking) (empty : s.hand = none)
      (nothing : s.pipeline.queue.items = []) :
    Step kind settings s .unseen (s.onLoop (.taken none))
  | handed (event : Event) (free : s.pipeline.notification = .taking) (held : s.hand = some event)
      (going : s.pipeline.isStopping = false) :
    Step kind settings s (.handed event)
      { s.onLoop (.taken (some event)) with
        hand := none, task := some (kind.handle settings event) }
  | discarded (event : Event) (free : s.pipeline.notification = .taking)
      (held : s.hand = some event) (stopping : s.pipeline.isStopping = true) :
    Step kind settings s (.discarded event)
      { s.onLoop (.taken (some event)) with hand := none }
  /-- A call that is made for the event is answered. -/
  | called (c : Reconciler.Call)
      (next : c.Answer → Program Reconciler.interface (Except Failure Unit))
      (waiting : s.task = some (.ask (I := Reconciler.interface) c next)) (answer : c.Answer) :
    Step kind settings s (.called ⟨c, answer⟩)
      { s with task := some (next answer), tally := counted s.tally c }
  | finished (event : Event) (result : Except Failure Unit)
      (busy : s.pipeline.notification = .handling event) (done : s.task = some (.done result)) :
    Step kind settings s (.finished event result)
      { s.onLoop (.handled result) with task := none }
  | reset (result : Except Failure Unit) (broken : s.pipeline.notification = .resetting) :
    Step kind settings s (.reset result) (s.onLoop (.sessionReset result))
  | awaited (idle : s.pipeline.notification = .idle) :
    Step kind settings s .unseen { s with pipeline := s.pipeline.await.2 }
  | roused (idle : s.pipeline.notification = .idle) :
    Step kind settings s .unseen { s with pipeline := s.pipeline.rouse }
  | halted (idle : s.pipeline.notification = .idle) (stopping : s.pipeline.isStopping = true) :
    Step kind settings s .unseen (s.onLoop .cancelled)
  | stopping :
    Step kind settings s .unseen { s with pipeline := { s.pipeline with isStopping := true } }

/-- A state that the loops have come to, and what was seen until then. -/
inductive Course (kind : Kind Event Object) (settings : Settings) :
    State Event → List (Occurrence Event Object) → Prop where
  | start : Course kind settings {} []
  | step {s next : State Event} {course : List (Occurrence Event Object)}
      {o : Occurrence Event Object} (before : Course kind settings s course)
      (move : Step kind settings s o next) : Course kind settings next (course ++ [o])

/-! ## What is seen of a course -/

namespace Occurrence

def item? : Occurrence Event Object → Option (Change × Object)
  | watched (.changed change object) => some (change, object)
  | _ => none

def handed? : Occurrence Event Object → Option Event
  | handed event => some event
  | _ => none

/-- An event that is not held any more, handed over or not. -/
def left? : Occurrence Event Object → Option Event
  | handed event => some event
  | discarded event => some event
  | _ => none

def finished? : Occurrence Event Object → Option (Event × Except Failure Unit)
  | finished event result => some (event, result)
  | _ => none

def error? : Occurrence Event Object → Option Failure
  | finished _ (.error failure) => some failure
  | _ => none

/-- A watch that could not be opened or that broke. -/
def break? : Occurrence Event Object → Option Failure
  | watched (.opened (.error failure)) => some failure
  | watched (.ended (some failure)) => some failure
  | _ => none

def isWatchReset : Occurrence Event Object → Bool
  | watched (.sessionReset _) => true
  | _ => false

def isLoopReset : Occurrence Event Object → Bool
  | reset _ => true
  | _ => false

/-- A call to set up the session anew, by whomever. -/
def isReset : Occurrence Event Object → Bool
  | watched (.sessionReset _) => true
  | reset _ => true
  | called ⟨.cluster .resetSession, _⟩ => true
  | _ => false

end Occurrence

def asksReset (failure : Failure) : Bool :=
  decide (failure.action = .resetSession)

variable {kind : Kind Event Object} {settings : Settings} {s next : State Event}
  {o : Occurrence Event Object} {course : List (Occurrence Event Object)}

/-- The events that the watch has brought: what could be translated of all that it told of. -/
def delivered (kind : Kind Event Object) (course : List (Occurrence Event Object)) : List Event :=
  (course.filterMap Occurrence.item?).filterMap fun item =>
    (kind.translate item.1 item.2).toOption

def handed (course : List (Occurrence Event Object)) : List Event :=
  course.filterMap Occurrence.handed?

def finished (course : List (Occurrence Event Object)) : List (Event × Except Failure Unit) :=
  course.filterMap Occurrence.finished?

def errors (course : List (Occurrence Event Object)) : List Failure :=
  course.filterMap Occurrence.error?

def breaks (course : List (Occurrence Event Object)) : List Failure :=
  course.filterMap Occurrence.break?

/-! ## Balances -/

theorem filterMap_snoc {α β : Type} (f : α → Option β) (history : List α) (last : α) :
    (history ++ [last]).filterMap f = history.filterMap f ++ (f last).toList := by
  rw [List.filterMap_append, List.filterMap_cons]
  cases f last <;> rfl

theorem countP_snoc {α : Type} (p : α → Bool) (history : List α) (last : α) :
    (history ++ [last]).countP p = history.countP p + (p last).toNat := by
  rw [List.countP_append, List.countP_singleton]
  cases p last <;> rfl

/-- What arrives has left or is there, in order, if every move keeps it so. -/
theorem Course.balanced {α : Type} {stock : State Event → List α}
    {arrives leaves : Occurrence Event Object → Option α} (initially : stock {} = [])
    (law : ∀ {s o next}, Step kind settings s o next →
      stock s ++ (arrives o).toList = (leaves o).toList ++ stock next)
    (run : Course kind settings s course) :
    course.filterMap leaves ++ stock s = course.filterMap arrives := by
  induction run with
  | start => exact initially
  | @step s next course o before move ih =>
    rw [filterMap_snoc, filterMap_snoc, ← ih, List.append_assoc, List.append_assoc, law move]

/-- The same of numbers. -/
theorem Course.settled {stock : State Event → Nat} {arises settles : Occurrence Event Object → Bool}
    (initially : stock {} = 0)
    (law : ∀ {s o next}, Step kind settings s o next →
      stock s + (arises o).toNat = (settles o).toNat + stock next)
    (run : Course kind settings s course) :
    course.countP settles + stock s = course.countP arises := by
  induction run with
  | start =>
    rw [List.countP_nil, List.countP_nil, initially]
  | @step s next course o before move ih =>
    have hlaw := law move
    rw [countP_snoc, countP_snoc]
    omega

/-! ## What the moves do to a pipeline -/

theorem onWatch_parts (pipeline : Pipeline Event)
    (translate : Change → Object → Except Failure Event) (input : WatchInput Object) :
    (pipeline.onWatch translate input).watch = (pipeline.watch.next translate input).1 ∧
      (pipeline.onWatch translate input).queue.items =
        pipeline.queue.items ++ (pipeline.watch.next translate input).2.toList ∧
      (pipeline.onWatch translate input).notification = pipeline.notification ∧
      (pipeline.onWatch translate input).isStopping = pipeline.isStopping := by
  unfold Pipeline.onWatch
  rcases pipeline.watch.next translate input with ⟨watch, _ | event⟩
  · exact ⟨rfl, (List.append_nil _).symm, rfl, rfl⟩
  · exact ⟨rfl, rfl, rfl, rfl⟩

theorem dequeue?_eq_some {queue rest : EventQueue Event} {event : Event}
    (h : queue.dequeue? = (some event, rest)) : queue.items = event :: rest.items := by
  unfold EventQueue.dequeue? at h
  split at h
  · next first items hitems =>
    cases h
    exact hitems
  · cases h

theorem await_parts (pipeline : Pipeline Event) :
    pipeline.await.2.watch = pipeline.watch ∧
      pipeline.await.2.queue.items = pipeline.queue.items ∧
      pipeline.await.2.notification = pipeline.notification ∧
      pipeline.await.2.isStopping = pipeline.isStopping := by
  unfold Pipeline.await EventQueue.await
  cases pipeline.queue.isEmpty <;> exact ⟨rfl, rfl, rfl, rfl⟩

theorem rouse_parts {pipeline : Pipeline Event} (idle : pipeline.notification = .idle) :
    pipeline.rouse.watch = pipeline.watch ∧
      pipeline.rouse.queue.items = pipeline.queue.items ∧
      pipeline.rouse.notification = .taking ∧
      pipeline.rouse.isStopping = pipeline.isStopping := by
  have settled (isOver : Bool) (queue : EventQueue Event) :
      (if isOver then queue else queue.cancel Pipeline.consumer).items = queue.items := by
    cases isOver <;> rfl
  simp only [Pipeline.rouse, idle]
  exact ⟨rfl, settled _ _, rfl, rfl⟩

/-! ## Events are neither lost nor doubled nor overtaken -/

/-- The events that have arrived and not left. -/
def waiting (s : State Event) : List Event :=
  s.hand.toList ++ s.pipeline.queue.items

/-- The event that an occurrence brings. -/
def Occurrence.delivery? (kind : Kind Event Object) (o : Occurrence Event Object) : Option Event :=
  o.item?.bind fun item => (kind.translate item.1 item.2).toOption

theorem delivered_eq (kind : Kind Event Object) (course : List (Occurrence Event Object)) :
    course.filterMap (Occurrence.delivery? kind) = delivered kind course :=
  List.filterMap_filterMap.symm

theorem next_of_awaits (kind : Kind Event Object) {isStopping : Bool} {phase : WatchPhase}
    {input : WatchInput Object} (awaited : Awaits isStopping phase input) :
    (phase.next kind.translate input).2 = (Occurrence.watched input).delivery? kind := by
  cases awaited with
  | opened result => rcases result with _ | _ <;> rfl
  | changed change object => rfl
  | ended failure => rcases failure with _ | _ <;> rfl
  | reset result => rfl
  | resumed => rfl
  | cancelled => cases phase <;> rfl

theorem waiting_law (move : Step kind settings s o next) :
    waiting s ++ (o.delivery? kind).toList = o.left?.toList ++ waiting next := by
  cases move with
  | watched input awaited =>
    obtain ⟨-, hitems, -, -⟩ := onWatch_parts s.pipeline kind.translate input
    have harrives := next_of_awaits kind awaited
    simp only [waiting, hitems, harrives, List.append_assoc]
    rfl
  | taken event queue free empty first =>
    have hitems := dequeue?_eq_some first
    simp only [waiting, empty, hitems]
    exact List.append_nil _
  | idled => exact List.append_nil _
  | handed event free held going =>
    simp only [waiting, held]
    exact List.append_nil _
  | discarded event free held stopping =>
    simp only [waiting, held]
    exact List.append_nil _
  | called => exact List.append_nil _
  | finished => exact List.append_nil _
  | reset => exact List.append_nil _
  | awaited idle =>
    obtain ⟨-, hitems, -, -⟩ := await_parts s.pipeline
    simp only [waiting, hitems]
    exact List.append_nil _
  | roused idle =>
    obtain ⟨-, hitems, -, -⟩ := rouse_parts idle
    simp only [waiting, hitems]
    exact List.append_nil _
  | halted => exact List.append_nil _
  | stopping => exact List.append_nil _

theorem left_of_step (move : Step kind settings s o next) :
    o.left? = o.handed? ∨ o.handed? = none ∧
      next.pipeline.isStopping = true ∧ next.pipeline.notification = .stopped := by
  cases move with
  | discarded event free held stopping =>
    refine .inr ⟨rfl, stopping, ?_⟩
    simp only [State.onLoop, Pipeline.onNotification, free, NotificationPhase.next, stopping,
      if_true]
  | watched => exact .inl rfl
  | taken => exact .inl rfl
  | idled => exact .inl rfl
  | handed => exact .inl rfl
  | called => exact .inl rfl
  | finished => exact .inl rfl
  | reset => exact .inl rfl
  | awaited => exact .inl rfl
  | roused => exact .inl rfl
  | halted => exact .inl rfl
  | stopping => exact .inl rfl

/-- A loop that has stopped lets go of no event. -/
theorem stopped_of_step (move : Step kind settings s o next)
    (stopping : s.pipeline.isStopping = true) (stopped : s.pipeline.notification = .stopped) :
    o.left? = none ∧ next.pipeline.isStopping = true ∧ next.pipeline.notification = .stopped := by
  cases move with
  | watched input =>
    obtain ⟨-, -, hnotification, hstopping⟩ := onWatch_parts s.pipeline kind.translate input
    exact ⟨rfl, hstopping.trans stopping, hnotification.trans stopped⟩
  | called => exact ⟨rfl, stopping, stopped⟩
  | stopping => exact ⟨rfl, rfl, stopped⟩
  | taken _ _ free => exact absurd (stopped.symm.trans free) (by simp)
  | idled free => exact absurd (stopped.symm.trans free) (by simp)
  | handed _ free => exact absurd (stopped.symm.trans free) (by simp)
  | discarded _ free => exact absurd (stopped.symm.trans free) (by simp)
  | finished _ _ busy => exact absurd (stopped.symm.trans busy) (by simp)
  | reset _ broken => exact absurd (stopped.symm.trans broken) (by simp)
  | awaited idle => exact absurd (stopped.symm.trans idle) (by simp)
  | roused idle => exact absurd (stopped.symm.trans idle) (by simp)
  | halted idle => exact absurd (stopped.symm.trans idle) (by simp)

/-- All events that left were handed over, except one at most: the one on which the loop stopped. -/
theorem left_of_course (run : Course kind settings s course) :
    course.filterMap Occurrence.left? = handed course ∨
      s.pipeline.isStopping = true ∧ s.pipeline.notification = .stopped ∧
        ∃ event, course.filterMap Occurrence.left? = handed course ++ [event] := by
  induction run with
  | start => exact .inl rfl
  | @step s next course o before move ih =>
    rw [handed, filterMap_snoc, filterMap_snoc]
    -- A loop that stopped on an event takes no other, so the second alternative stays.
    rcases ih with same | ⟨stopping, stopped, event, hleft⟩
    · rcases left_of_step move with hsame | ⟨hnone, stopping, stopped⟩
      · left
        rw [hsame, same, handed]
      · rw [hnone, same, handed]
        cases hleft : o.left? with
        | none => exact .inl rfl
        | some event => exact .inr ⟨stopping, stopped, event, by simp⟩
    · obtain ⟨hnone, stopping', stopped'⟩ := stopped_of_step move stopping stopped
      have hhanded : o.handed? = none := by
        rcases left_of_step move with hsame | ⟨hhanded, -⟩
        · exact hsame.symm.trans hnone
        · exact hhanded
      rw [hnone, hhanded, hleft, handed]
      exact .inr ⟨stopping', stopped', event, by simp⟩

/-! ## The phases of the notification loop -/

/-- A phase in which no event is handled and no session set up. -/
def IsCalm : NotificationPhase Event → Prop
  | .handling _ => False
  | .resetting => False
  | _ => True

/-- An occurrence that neither begins nor ends the handling of an event, nor sets up a session for
the notification loop. -/
def Occurrence.IsAside : Occurrence Event Object → Prop
  | handed _ => False
  | finished _ _ => False
  | reset _ => False
  | _ => True

/-- What a move does to the phase of the notification loop. -/
inductive Turn :
    NotificationPhase Event → Occurrence Event Object → NotificationPhase Event → Prop where
  | still (phase : NotificationPhase Event) {o : Occurrence Event Object} (aside : o.IsAside) :
    Turn phase o phase
  | calm {phase next : NotificationPhase Event} {o : Occurrence Event Object} (aside : o.IsAside)
      (before : IsCalm phase) (after : IsCalm next) : Turn phase o next
  | begun (event : Event) : Turn .taking (.handed event) (.handling event)
  | ended (event : Event) : Turn (.handling event) (.finished event (.ok ())) .taking
  | failed (event : Event) (failure : Failure) :
    Turn (.handling event) (.finished event (.error failure)) (.afterFailure failure)
  | repaired (result : Except Failure Unit) : Turn .resetting (.reset result) .taking

theorem turn_of_step (move : Step kind settings s o next) :
    Turn s.pipeline.notification o next.pipeline.notification := by
  have looped (input : NotificationInput Event) : (s.onLoop input).pipeline.notification =
      (s.pipeline.notification.next s.pipeline.isStopping input).1 := rfl
  cases move with
  | watched input =>
    obtain ⟨-, -, hnotification, -⟩ := onWatch_parts s.pipeline kind.translate input
    simp only [hnotification]
    exact .still _ trivial
  | taken => exact .still _ trivial
  | called => exact .still _ trivial
  | stopping => exact .still _ trivial
  | idled free =>
    rw [looped, free]
    exact .calm trivial trivial trivial
  | handed event free held going =>
    simp only [looped, free, NotificationPhase.next, going]
    exact .begun event
  | discarded event free held stopping =>
    simp only [looped, free, NotificationPhase.next, stopping]
    exact .calm trivial trivial trivial
  | finished event result busy =>
    simp only [looped, busy]
    rcases result with failure | _
    · exact .failed event failure
    · exact .ended event
  | reset result broken =>
    rw [looped, broken]
    exact .repaired result
  | awaited =>
    obtain ⟨-, -, hnotification, -⟩ := await_parts s.pipeline
    simp only [hnotification]
    exact .still _ trivial
  | roused idle =>
    obtain ⟨-, -, hnotification, -⟩ := rouse_parts idle
    simp only [hnotification, idle]
    exact .calm trivial trivial trivial
  | halted idle =>
    rw [looped, idle]
    exact .calm trivial trivial trivial

theorem afterFailure_eq (failure : Failure) :
    (NotificationPhase.afterFailure failure : NotificationPhase Event) =
      if asksReset failure then .resetting else .taking := by
  unfold NotificationPhase.afterFailure asksReset
  cases failure.action <;> rfl

/-- The event that is being handled. -/
def current : NotificationPhase Event → List Event
  | .handling event => [event]
  | _ => []

theorem current_of_turn {phase after : NotificationPhase Event} (turn : Turn phase o after) :
    current phase ++ o.handed?.toList = (o.finished?.map Prod.fst).toList ++ current after := by
  have quiet {o : Occurrence Event Object} (aside : o.IsAside) :
      o.handed? = none ∧ o.finished? = none := by
    cases o with
    | handed => exact aside.elim
    | finished => exact aside.elim
    | _ => exact ⟨rfl, rfl⟩
  have idle {phase : NotificationPhase Event} (calm : IsCalm phase) : current phase = [] := by
    cases phase with
    | handling => exact calm.elim
    | _ => rfl
  cases turn with
  | still _ aside =>
    obtain ⟨hhanded, hfinished⟩ := quiet aside
    rw [hhanded, hfinished]
    exact List.append_nil _
  | calm aside before after =>
    obtain ⟨hhanded, hfinished⟩ := quiet aside
    rw [hhanded, hfinished, idle before, idle after]
    rfl
  | begun event => rfl
  | ended event => rfl
  | repaired result => rfl
  | failed event failure =>
    rw [afterFailure_eq]
    cases asksReset failure <;> rfl

/-- How many sessions the loop is setting up. -/
def owed : NotificationPhase Event → Nat
  | .resetting => 1
  | _ => 0

theorem owed_of_turn {phase after : NotificationPhase Event} (turn : Turn phase o after) :
    owed phase + (o.error?.any asksReset).toNat = o.isLoopReset.toNat + owed after := by
  have quiet {o : Occurrence Event Object} (aside : o.IsAside) :
      o.error? = none ∧ o.isLoopReset = false := by
    cases o with
    | finished => exact aside.elim
    | reset => exact aside.elim
    | _ => exact ⟨rfl, rfl⟩
  have settled {phase : NotificationPhase Event} (calm : IsCalm phase) : owed phase = 0 := by
    cases phase with
    | resetting => exact calm.elim
    | _ => rfl
  cases turn with
  | still _ aside =>
    obtain ⟨herror, hreset⟩ := quiet aside
    rw [herror, hreset]
    exact Nat.add_comm _ _
  | calm aside before after =>
    obtain ⟨herror, hreset⟩ := quiet aside
    rw [herror, hreset, settled before, settled after]
    rfl
  | begun event => rfl
  | ended event => rfl
  | repaired result => rfl
  | failed event failure =>
    have herror : (Occurrence.finished event (.error failure) :
      Occurrence Event Object).error? = some failure := rfl
    rw [afterFailure_eq, herror, Option.any_some]
    cases asksReset failure <;> rfl

/-! ## The phases of the watch loop -/

def owedByWatch : WatchPhase → Nat
  | .resetting => 1
  | _ => 0

theorem owed_of_awaits {isStopping : Bool} {phase : WatchPhase} {input : WatchInput Object}
    (translate : Change → Object → Except Failure Event) (awaited : Awaits isStopping phase input) :
    owedByWatch phase + ((Occurrence.watched input : Occurrence Event Object).break?.any
        asksReset).toNat =
      (Occurrence.watched input : Occurrence Event Object).isWatchReset.toNat +
        owedByWatch (phase.next translate input).1 := by
  have broken (failure : Failure) :
      (asksReset failure).toNat = owedByWatch (WatchPhase.afterFailure failure) := by
    unfold WatchPhase.afterFailure asksReset
    cases failure.action <;> rfl
  cases awaited with
  | opened result =>
    rcases result with failure | _
    · exact (Nat.zero_add _).trans ((broken failure).trans (Nat.zero_add _).symm)
    · rfl
  | ended failure =>
    rcases failure with _ | failure
    · rfl
    · exact (Nat.zero_add _).trans ((broken failure).trans (Nat.zero_add _).symm)
  | changed => rfl
  | reset => rfl
  | resumed => rfl
  | cancelled stopping free =>
    cases phase with
    | resetting => exact absurd rfl free
    | _ => rfl

theorem watch_law (move : Step kind settings s o next) :
    owedByWatch s.pipeline.watch + (o.break?.any asksReset).toNat =
      o.isWatchReset.toNat + owedByWatch next.pipeline.watch := by
  cases move with
  | watched input awaited =>
    obtain ⟨hwatch, -, -, -⟩ := onWatch_parts s.pipeline kind.translate input
    simp only [hwatch]
    exact owed_of_awaits kind.translate awaited
  | awaited =>
    obtain ⟨hwatch, -, -, -⟩ := await_parts s.pipeline
    simp only [hwatch]
    exact Nat.add_comm _ _
  | roused idle =>
    obtain ⟨hwatch, -, -, -⟩ := rouse_parts idle
    simp only [hwatch]
    exact Nat.add_comm _ _
  | taken => exact Nat.add_comm _ _
  | idled => exact Nat.add_comm _ _
  | handed => exact Nat.add_comm _ _
  | discarded => exact Nat.add_comm _ _
  | called => exact Nat.add_comm _ _
  | finished => exact Nat.add_comm _ _
  | reset => exact Nat.add_comm _ _
  | halted => exact Nat.add_comm _ _
  | stopping => exact Nat.add_comm _ _

/-! ## The calls that are made for an event -/

/-- A call that is neither for a new session nor counts an event as dropped. -/
def IsOrdinary : Reconciler.Call → Prop
  | .cluster .resetSession => False
  | .count .eventsDropped => False
  | _ => True

theorem ordinary_of_isRead {c : Reconciler.Call} (h : c.isRead = true) : IsOrdinary c := by
  unfold Reconciler.Call.isRead at h
  split at h
  · trivial
  · trivial
  · cases h

theorem ordinary_of_claimRun {event : ClaimEvent} {trace : Trace}
    {outcome : Except Failure ClaimOutcome} (run : ClaimRun settings event trace outcome) :
    ∀ x ∈ trace, IsOrdinary x.call := by
  have reading {provider : Provider} {scope : TransientScope} {reads : Trace} {uuid : Uuid}
      {result : Except Failure TransientScope}
      (run : ScopeRun settings event provider scope reads result) :
      ∀ x ∈ onUuid uuid :: reads, IsOrdinary x.call :=
    List.forall_mem_cons.mpr ⟨trivial, fun x hx => ordinary_of_isRead (isRead_of_scopeRun run x hx)⟩
  cases run with
  | stale => simp
  | foreign => simp
  | unclaimed => exact List.forall_mem_singleton.mpr trivial
  | unserved => exact List.forall_mem_singleton.mpr trivial
  | served addressed provider served run =>
    refine List.forall_mem_cons.mpr ⟨trivial, ?_⟩
    cases run with
    | refused uuid run => exact reading run
    | declined uuid run =>
      exact List.forall_mem_append.mpr ⟨reading run, by simp [IsOrdinary]⟩
    | rejected uuid run =>
      exact List.forall_mem_append.mpr ⟨reading run, by simp [IsOrdinary]⟩
    | provisioned uuid run =>
      exact List.forall_mem_append.mpr ⟨reading run, by simp [IsOrdinary]⟩

theorem ordinary_of_volumeRun {event : VolumeEvent} {trace : Trace}
    {outcome : Except Failure VolumeOutcome} (run : VolumeRun settings event trace outcome) :
    ∀ x ∈ trace, IsOrdinary x.call := by
  cases run with
  | retained _ _ _ _ run => cases run <;> simp [IsOrdinary]
  | _ => simp [IsOrdinary, removal]

/-- Handling an event leaves the session and the count of dropped events to the loop. -/
def Discreet (kind : Kind Event Object) (settings : Settings) : Prop :=
  ∀ event trace result, Program.Runs (kind.handle settings event) trace result →
    ∀ x ∈ trace, IsOrdinary x.call

theorem discreet_claimKind (settings : Settings) : Discreet claimKind settings := by
  intro event trace result run
  obtain ⟨part, outcome, _, rfl, hclaim, hafter⟩ := Program.runs_bind.mp run
  obtain ⟨rfl, rfl⟩ := Program.runs_pure.mp hafter
  rw [List.append_nil]
  exact ordinary_of_claimRun (runs_handleClaim.mp hclaim)

theorem discreet_volumeKind (settings : Settings) : Discreet volumeKind settings := by
  intro event trace result run
  obtain ⟨part, outcome, _, rfl, hvolume, hafter⟩ := Program.runs_bind.mp run
  obtain ⟨rfl, rfl⟩ := Program.runs_pure.mp hafter
  rw [List.append_nil]
  exact ordinary_of_volumeRun (volumeRun_of_runs hvolume)

/-- What is left to do is left of handling an event. -/
theorem remains_of_course (run : Course kind settings s course) :
    ∀ program, s.task = some program →
      ∃ event trace, Program.Remains (kind.handle settings event) trace program := by
  induction run with
  | start => simp
  | @step s next course o before move ih =>
    intro program htask
    cases move with
    | handed event =>
      cases htask
      exact ⟨event, [], .start⟩
    | called c after waiting answer =>
      obtain ⟨event, trace, remains⟩ := ih _ waiting
      cases htask
      exact ⟨event, _, remains.answered answer⟩
    | finished => cases htask
    | watched => exact ih program htask
    | taken => exact ih program htask
    | idled => exact ih program htask
    | discarded => exact ih program htask
    | reset => exact ih program htask
    | awaited => exact ih program htask
    | roused => exact ih program htask
    | halted => exact ih program htask
    | stopping => exact ih program htask

theorem ordinary_of_called (discreet : Discreet kind settings) (run : Course kind settings s course)
    {c : Reconciler.Call} {after : c.Answer → Program Reconciler.interface (Except Failure Unit)}
    (waiting : s.task = some (.ask (I := Reconciler.interface) c after)) : IsOrdinary c := by
  obtain ⟨event, trace, remains⟩ := remains_of_course run _ waiting
  -- Whatever is answered from now on, the call belongs to some run of the handling.
  have run := remains.runs (Program.runs_from
    (Sample.answer {} (Simulation.Peers.numberedUuid 1)) _)
  exact discreet event _ _ run _ (List.mem_append_right _ List.mem_cons_self)

/-! ## The count of dropped events -/

theorem dropped_of_counted {c : Reconciler.Call} (ordinary : IsOrdinary c) (tally : Tally) :
    (counted tally c).count .eventsDropped = tally.count .eventsDropped := by
  cases c with
  | count counter =>
    cases counter with
    | eventsDropped => exact ordinary.elim
    | _ => rfl
  | _ => rfl

theorem tally_onLoop {input : NotificationInput Event}
    (h : ∀ failure, input ≠ .handled (.error failure)) (s : State Event) :
    (s.onLoop input).tally = s.tally := by
  have kept : (s.pipeline.notification.next s.pipeline.isStopping input).2 = false := by
    unfold NotificationPhase.next
    split
    · rfl
    · rfl
    · rfl
    · exact absurd rfl (h _)
    all_goals rfl
  simp only [State.onLoop, Pipeline.onNotification, kept, Bool.false_eq_true, if_false]

theorem dropped_of_step (discreet : Discreet kind settings) (run : Course kind settings s course)
    (move : Step kind settings s o next) :
    next.tally.count .eventsDropped =
      if o.error?.isSome then (s.tally.count .eventsDropped + 1) % Width.values 64
      else s.tally.count .eventsDropped := by
  have looped {input : NotificationInput Event} (h : ∀ failure, input ≠ .handled (.error failure)) :
      (s.onLoop input).tally.count .eventsDropped = s.tally.count .eventsDropped := by
    rw [tally_onLoop h]
  cases move with
  -- While an event is handled other things are counted, but never a dropped event.
  | called c after waiting => exact dropped_of_counted (ordinary_of_called discreet run waiting) _
  | finished event result busy =>
    rcases result with failure | _
    · simp only [State.onLoop, Pipeline.onNotification, busy, NotificationPhase.next, Tally.add,
        Occurrence.error?, Option.isSome_some, if_true]
    · exact looped (by simp)
  | idled => exact looped (by simp)
  | handed => exact looped (by simp)
  | discarded => exact looped (by simp)
  | reset => exact looped (by simp)
  | halted => exact looped (by simp)
  | watched => rfl
  | taken => rfl
  | awaited => rfl
  | roused => rfl
  | stopping => rfl

theorem dropped_of_course (discreet : Discreet kind settings)
    (run : Course kind settings s course) :
    s.tally.count .eventsDropped = (errors course).length % Width.values 64 := by
  induction run with
  | start => rfl
  | @step s next course o before move ih =>
    have hsplit : errors (course ++ [o]) = errors course ++ o.error?.toList :=
      filterMap_snoc _ _ _
    rw [dropped_of_step discreet before move, ih, hsplit]
    cases herror : o.error? with
    | none => simp
    | some failure => simp [Nat.add_mod]

/-- The two loops alone set the session up anew. -/
theorem resets_of_course (discreet : Discreet kind settings)
    (run : Course kind settings s course) :
    course.countP Occurrence.isReset =
      course.countP Occurrence.isWatchReset + course.countP Occurrence.isLoopReset := by
  induction run with
  | start => rfl
  | @step s next course o before move ih =>
    have single : o.isReset.toNat = o.isWatchReset.toNat + o.isLoopReset.toNat := by
      cases move with
      | called c after waiting answer =>
        have ordinary := ordinary_of_called discreet before waiting
        cases c with
        | cluster c =>
          cases c with
          | resetSession => exact ordinary.elim
          | _ => rfl
        | _ => rfl
      | watched input => cases input <;> rfl
      | _ => rfl
    rw [countP_snoc, countP_snoc, countP_snoc, ih, single]
    omega

/-! ## What is kept -/

/-- What holds of the loops whenever it is looked. -/
structure Kept (kind : Kind Event Object) (s : State Event)
    (course : List (Occurrence Event Object)) : Prop where
  inOrder : s.pipeline.isStopping = false →
    handed course ++ s.hand.toList ++ s.pipeline.queue.items = delivered kind course
  begun : handed course <+: delivered kind course
  once : handed course =
    (finished course).map Prod.fst ++ current s.pipeline.notification
  dropped : s.tally.count .eventsDropped = (errors course).length % Width.values 64
  watchRepaired : s.pipeline.watch ≠ .resetting →
    course.countP Occurrence.isWatchReset = (breaks course).countP asksReset
  loopRepaired : s.pipeline.notification ≠ .resetting →
    course.countP Occurrence.isLoopReset = (errors course).countP asksReset
  noneElse : course.countP Occurrence.isReset =
    course.countP Occurrence.isWatchReset + course.countP Occurrence.isLoopReset

theorem countP_asksReset (failure? : Occurrence Event Object → Option Failure)
    (course : List (Occurrence Event Object)) :
    (course.filterMap failure?).countP asksReset =
      course.countP fun o => (failure? o).any asksReset := by
  rw [List.countP_filterMap]
  congr 1
  funext o
  cases failure? o <;> rfl

theorem kept_of_course (discreet : Discreet kind settings) (run : Course kind settings s course) :
    Kept kind s course := by
  -- One balance carries the order before the loops begin to stop and the prefix afterwards.
  have line : course.filterMap Occurrence.left? ++ waiting s = delivered kind course := by
    rw [← delivered_eq]
    exact run.balanced rfl waiting_law
  refine ⟨fun going => ?_, ?_, ?_, dropped_of_course discreet run, fun free => ?_, fun free => ?_,
    resets_of_course discreet run⟩
  · rcases left_of_course run with same | ⟨stopping, -⟩
    · rw [← line, same, List.append_assoc]
      rfl
    · rw [going] at stopping
      cases stopping
  · rw [← line]
    rcases left_of_course run with same | ⟨-, -, event, hleft⟩
    · rw [same]
      exact List.prefix_append _ _
    · rw [hleft, List.append_assoc]
      exact List.prefix_append _ _
  · have balance := run.balanced rfl fun move => current_of_turn (turn_of_step move)
    rw [finished, List.map_filterMap]
    exact balance.symm
  · have balance := run.settled rfl watch_law
    -- Outside of its resetting phase the loop owes no session.
    have none : owedByWatch s.pipeline.watch = 0 := by
      cases hwatch : s.pipeline.watch with
      | resetting => exact absurd hwatch free
      | _ => rfl
    rw [breaks, countP_asksReset, ← balance, none]
    rfl
  · have balance := run.settled rfl fun move => owed_of_turn (turn_of_step move)
    have none : owed s.pipeline.notification = 0 := by
      cases hphase : s.pipeline.notification with
      | resetting => exact absurd hphase free
      | _ => rfl
    rw [errors, countP_asksReset, ← balance, none]
    rfl

/-- Whatever the watches, the cluster and all other peers do, and however the loops interleave:
until the controller begins to stop, the events handed over, the one in hand and those in the queue
are, in order, all that the watch brought; each event that is handed over is handled once, and what
fails is counted and dropped; the session is set up anew once for each error that asks for it.
Afterwards what was handed over is still the beginning of what the watch brought. -/
theorem deliveries_are_kept (settings : Settings) :
    (∀ s course, Course claimKind settings s course → Kept claimKind s course) ∧
      ∀ s course, Course volumeKind settings s course → Kept volumeKind s course :=
  ⟨fun _ _ run => kept_of_course (discreet_claimKind settings) run,
    fun _ _ run => kept_of_course (discreet_volumeKind settings) run⟩

/-- A volume of ours that its claim let go of and that is retained. -/
def Sample.released (volumeName : String) : Volume where
  metadata := {
    name := some volumeName
    annotations := some ((∅ : Annotations).insert Key.managedBy Key.defaultIdentity
      |>.insert Key.storageClass "zfs-basic"
      |>.insert Key.reclaimPolicy "Retain") }
  status := some { phase := some "Released" }

def Sample.release (volumeName : String) : VolumeEvent where
  volumeName
  change := .modified
  phase := .released
  phaseMessage := none
  phaseReason := none
  accessModes := []
  annotations := (∅ : Annotations).insert Key.managedBy Key.defaultIdentity
    |>.insert Key.storageClass "zfs-basic"
    |>.insert Key.reclaimPolicy "Retain"
  labels := ∅
  spec := none
  reclaimPolicy := none

/-- The watch opens at the second attempt and tells of two volumes, and in between of one with no
name. The first is handled while the second comes, and fails for want of an answer. -/
theorem sample_deliveries_are_kept :
    ∃ s course, Course volumeKind Sample.settings s course ∧ Kept volumeKind s course ∧
      handed course = [Sample.release "pv-a"] ∧ s.hand = some (Sample.release "pv-b") ∧
      delivered volumeKind course = [Sample.release "pv-a", Sample.release "pv-b"] ∧
      s.tally.count .eventsDropped = 1 ∧ course.countP Occurrence.isReset = 2 := by
  have r : Course volumeKind Sample.settings {} [] := .start
  have r := r.step (.watched (.opened (.error (.cluster .noAnswer))) (.opened _))
  have r := r.step (.watched (.sessionReset (.ok ())) (.reset _))
  have r := r.step (.watched .resumed .resumed)
  have r := r.step (.watched (.opened (.ok ())) (.opened _))
  have r := r.step (.watched (.changed .modified (Sample.released "pv-a")) (.changed _ _))
  have r := r.step (.watched (.changed .added {}) (.changed _ _))
  have r := r.step (.taken (Sample.release "pv-a") _ rfl rfl rfl)
  have r := r.step (.handed (Sample.release "pv-a") rfl rfl rfl)
  have r := r.step (.watched (.changed .modified (Sample.released "pv-b")) (.changed _ _))
  have r := r.step (.called (.cluster (.readVolume "pv-a")) _ rfl (.error (.cluster .noAnswer)))
  have r := r.step (.finished (Sample.release "pv-a") (.error (.cluster .noAnswer)) rfl rfl)
  have r := r.step (.reset (.ok ()) rfl)
  have r := r.step (.taken (Sample.release "pv-b") _ rfl rfl rfl)
  exact ⟨_, _, r, (deliveries_are_kept Sample.settings).2 _ _ r, rfl, rfl, rfl, rfl, rfl⟩

end DatasetProvisioner.Controller.Delivery
