import DatasetProvisioner.Controller.Pipeline
import DatasetProvisioner.Reconciler.Volumes
import DatasetProvisioner.Simulation.Peers

/-!
# The controller on a virtual clock

The four loops of the controller run against scripted peers, one at a time, each until it waits.
No call takes time; when every loop waits, the clock jumps to the next deadline. Loops that become
ready run in the order in which they became so.
-/
namespace DatasetProvisioner.Simulation

open Cluster (Watched)
open Controller Manifest

inductive Loop where
  | claimWatch
  | volumeWatch
  | claimLoop
  | volumeLoop
  deriving Repr, DecidableEq

/-! ## Scripted watches -/

/-- What an open watch does next. -/
inductive StreamItem (Object : Type) where
  | changed (change : Change) (object : Object)
  | broken (failure : Failure)
  /-- Nothing for some milliseconds. -/
  | delay (duration : Nat)

/-- What an open watch gives before it ends or falls silent. -/
structure Stream (Object : Type) where
  items : List (StreamItem Object) := []
  ends : Bool := false

/-- How an attempt to open a watch ends. -/
inductive Opening (Object : Type) where
  | refused (failure : Failure)
  | opened (stream : Stream Object)

/-- The change that a script names. -/
def changeNamed? : String → Option Change
  | "Added" => some .added
  | "Modified" => some .modified
  | "Deleted" => some .deleted
  | _ => none

section

variable {Object : Type} (decode : Json → Option Object)

/-- Read an item: the failure that breaks the watch, a delay, or a change to an object. -/
def StreamItem.ofJson? (value : Json) : Option (StreamItem Object) :=
  match (value.field? "error").bind Json.string?, (value.field? "delay").bind Json.int64? with
  | some name, _ => some (.broken (failureNamed name))
  | none, some duration => some (.delay duration.toNat)
  | none, none => do
    let change ← ((← value.field? "type").string?).bind changeNamed?
    return .changed change (← decode (← value.field? "object"))

/-- Read an attempt to open a watch: the failure that it meets, or what the watch gives. -/
def Opening.ofJson? (value : Json) : Option (Opening Object) :=
  match (value.field? "open_error").bind Json.string? with
  | some name => some (.refused (failureNamed name))
  | none => do
    let items := ((value.field? "items").bind Json.array?).getD []
    return .opened {
      items := ← items.mapM (StreamItem.ofJson? decode)
      ends := ((value.field? "end").bind Json.bool?).getD false }

end

/-! ## The two sides of the controller -/

/-- What distinguishes the pipeline of claims from that of volumes. -/
structure Kind (Event Object : Type) where
  watched : Watched
  translate : Change → Object → Except Failure Event
  handle : Reconciler.Settings → Event → Program Reconciler.interface (Except Failure Unit)

def claimKind : Kind ClaimEvent Claim where
  watched := .claims
  translate := ClaimEvent.ofClaim
  handle settings event := do return (← Reconciler.handleClaim settings event).map fun _ => ()

def volumeKind : Kind VolumeEvent Volume where
  watched := .volumes
  translate := VolumeEvent.ofVolume
  handle settings event := do return (← Reconciler.handleVolume settings event).map fun _ => ()

/-- A pipeline with the watches that it will open and the one that is open. -/
structure Side (Event Object : Type) where
  pipeline : Pipeline Event := {}
  openings : List (Opening Object) := []
  stream : Stream Object := {}

/-- How a loop goes on. -/
inductive Rest where
  | again
  /-- It waits until a deadline, unless something rouses it before. -/
  | sleep (deadline : Nat)
  /-- It waits without a deadline. -/
  | wait
  deriving Repr, DecidableEq

namespace Side

variable {Event Object : Type}

/-- Give the watch loop an input; it goes on at once unless it pauses now. -/
def giveWatch (kind : Kind Event Object) (pauseEnd : Nat) (side : Side Event Object)
    (input : WatchInput Object) : Side Event Object × Rest :=
  let pipeline := side.pipeline.onWatch kind.translate input
  ({ side with pipeline }, if pipeline.watch = .pausing then .sleep pauseEnd else .again)

/-- One step of the watch loop. `now` is the time and `pauseEnd` the end of a pause that begins
now. -/
def watchStep (kind : Kind Event Object) (now pauseEnd : Nat) (side : Side Event Object)
    (peers : Peers) : (Side Event Object × Rest) × Peers :=
  match side.pipeline.watch with
  | .opening =>
    let peers := peers.record (.watch kind.watched)
    match side.openings with
    | [] => ({ side with stream := {} }.giveWatch kind pauseEnd (.opened (.ok ())), peers)
    | .opened stream :: openings =>
      ({ side with openings, stream }.giveWatch kind pauseEnd (.opened (.ok ())), peers)
    | .refused failure :: openings =>
      ({ side with openings }.giveWatch kind pauseEnd (.opened (.error failure)), peers)
  | .reading =>
    match side.stream.items with
    | [] =>
      if side.stream.ends then (side.giveWatch kind pauseEnd (.ended none), peers)
      else ((side, .wait), peers)
    | item :: items =>
      let side := { side with stream := { side.stream with items } }
      match item with
      | .changed change object => (side.giveWatch kind pauseEnd (.changed change object), peers)
      | .broken failure => (side.giveWatch kind pauseEnd (.ended (some failure)), peers)
      | .delay duration => ((side, .sleep (now + duration)), peers)
  | .resetting =>
    let (answer, peers) := peers.onCluster .resetSession
    (side.giveWatch kind pauseEnd (.sessionReset answer), peers)
  | .pausing => (side.giveWatch kind pauseEnd .resumed, peers)
  | .stopped => ((side, .wait), peers)

/-- Take an event, or begin to idle. -/
def takeStep (idleEnd : Nat) (side : Side Event Object) : Side Event Object × Rest :=
  let pipeline := side.pipeline.take
  match pipeline.notification with
  | .idle =>
    let (isOver, pipeline) := pipeline.await
    if isOver then ({ side with pipeline := pipeline.rouse }, .again)
    else ({ side with pipeline }, .sleep idleEnd)
  | _ => ({ side with pipeline }, .again)

/-- One step of the notification loop. `idleEnd` is the end of a wait that begins now. -/
def notificationStep (kind : Kind Event Object) (settings : Reconciler.Settings) (idleEnd : Nat)
    (side : Side Event Object) (peers : Peers) : (Side Event Object × Rest) × Peers :=
  match side.pipeline.notification with
  | .taking => (side.takeStep idleEnd, peers)
  | .handling event =>
    match peers.runReconciler (kind.handle settings event) with
    | (none, peers) => ((side, .wait), peers)
    | (some result, peers) =>
      let (pipeline, dropped) := side.pipeline.onNotification (.handled result)
      let tally := if dropped then peers.tally.add .eventsDropped 1 else peers.tally
      (({ side with pipeline }, .again), { peers with tally })
  | .resetting =>
    let (answer, peers) := peers.onCluster .resetSession
    let (pipeline, _) := side.pipeline.onNotification (.sessionReset answer)
    (({ side with pipeline }, .again), peers)
  | .idle => (({ side with pipeline := side.pipeline.rouse }, .again), peers)
  | .stopped => ((side, .wait), peers)

/-- Whether the notification loop was roused by an event and has not noticed yet. -/
def isRoused (side : Side Event Object) : Bool :=
  Pipeline.consumer ∈ side.pipeline.queue.signal.woken

/-- How much a side can still give its loops to do. -/
def workload (side : Side Event Object) : Nat :=
  let items : Opening Object → Nat
    | .refused _ => 1
    | .opened stream => stream.items.length + 1
  side.openings.foldl (fun n opening => n + items opening) 0

end Side

/-! ## The schedule -/

/-- The controller with its peers at a point of virtual time. -/
structure Schedule where
  settings : LoopSettings
  reconciler : Reconciler.Settings
  peers : Peers
  claims : Side ClaimEvent Claim
  volumes : Side VolumeEvent Volume
  now : Nat := 0
  /-- The loops that can go on, the one that has been able to for longest first. -/
  ready : List Loop := [.claimWatch, .volumeWatch, .claimLoop, .volumeLoop]
  /-- Who waits until when, in the order in which they began to. -/
  timers : List (Nat × Loop) := []
  /-- The calls of each loop with their times, the latest first. -/
  log : List (Loop × Nat × Entry) := []

namespace Schedule

/-- One step of a loop. -/
def loopStep (s : Schedule) (loop : Loop) : Rest × Schedule :=
  let later := s.now + s.settings.pollInterval
  match loop with
  | .claimWatch =>
    let ((claims, rest), peers) := s.claims.watchStep claimKind s.now later s.peers
    (rest, { s with claims, peers })
  | .volumeWatch =>
    let ((volumes, rest), peers) := s.volumes.watchStep volumeKind s.now later s.peers
    (rest, { s with volumes, peers })
  | .claimLoop =>
    let ((claims, rest), peers) := s.claims.notificationStep claimKind s.reconciler later s.peers
    (rest, { s with claims, peers })
  | .volumeLoop =>
    let ((volumes, rest), peers) :=
      s.volumes.notificationStep volumeKind s.reconciler later s.peers
    (rest, { s with volumes, peers })

/-- Move the calls that a loop made from the journal to the log. -/
def keepLog (s : Schedule) (loop : Loop) : Schedule :=
  let (entries, peers) := s.peers.takeJournal
  { s with peers, log := (entries.map fun entry => (loop, s.now, entry)).reverse ++ s.log }

/-- Make a loop ready, unless it is. -/
def enlist (loop : Loop) (s : Schedule) : Schedule :=
  if loop ∈ s.ready then s else { s with ready := s.ready ++ [loop] }

/-- Make the notification loops ready that an event roused. -/
def enlistRoused (s : Schedule) : Schedule :=
  let s := if s.claims.isRoused then s.enlist .claimLoop else s
  if s.volumes.isRoused then s.enlist .volumeLoop else s

/-- Have the loop that comes next take one step. -/
def step (s : Schedule) : Schedule :=
  match s.ready with
  | [] => s
  | loop :: others =>
    let s := { s with timers := s.timers.filter fun timer => timer.2 ≠ loop }
    let (rest, s) := s.loopStep loop
    let s := s.keepLog loop
    let s :=
      match rest with
      | .again => s
      | .wait => { s with ready := others }
      | .sleep deadline =>
        if deadline ≤ s.now then s
        else { s with ready := others, timers := s.timers ++ [(deadline, loop)] }
    s.enlistRoused

/-- The next deadline. -/
def nextDeadline? (s : Schedule) : Option Nat :=
  (s.timers.map (·.1)).min?

/-- Jump to a deadline. -/
def advance (s : Schedule) (time : Nat) : Schedule :=
  let (due, timers) := s.timers.partition fun timer => timer.1 ≤ time
  { s with now := time, timers, ready := due.map (·.2) }

/-- Run until a time is reached, or nothing more can happen before. -/
def runSteps (endTime : Nat) : Nat → Schedule → Schedule
  | 0, s => s
  | fuel + 1, s =>
    if endTime ≤ s.now then s
    else if s.ready.isEmpty then
      match s.nextDeadline? with
      | none => s
      | some time => if time < endTime then runSteps endTime fuel (s.advance time) else s
    else runSteps endTime fuel s.step

/-- How many steps a run can have: at each point of time every loop takes a few, and each item of
a watch and each event a few more. -/
def stepBound (s : Schedule) (endTime : Nat) : Nat :=
  64 * (endTime + 1) + 16 * (s.claims.workload + s.volumes.workload)

/-- Run until a time, then tell the loops to stop. -/
def run (s : Schedule) (endTime : Nat) : Schedule :=
  let s := runSteps endTime (s.stepBound endTime) s
  { s with
    claims := { s.claims with pipeline := s.claims.pipeline.cancel claimKind.translate }
    volumes := { s.volumes with pipeline := s.volumes.pipeline.cancel volumeKind.translate } }

/-- How long a shutdown takes: none of it where all loops have stopped, else all of the time that
it may. -/
def shutdownTime (s : Schedule) : Nat :=
  if s.claims.pipeline.hasStopped && s.volumes.pipeline.hasStopped then 0
  else s.settings.shutdownTimeout

/-- The calls of a loop with their times. -/
def callsOf (s : Schedule) (loop : Loop) : List (Nat × Entry) :=
  s.log.reverse.filterMap fun (l, time, entry) => if l = loop then some (time, entry) else none

end Schedule

end DatasetProvisioner.Simulation
