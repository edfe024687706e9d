import DatasetProvisioner.Proofs.Deliveries
import DatasetProvisioner.Proofs.PeerRuns

/-!
# Schedules

The controller on its virtual clock makes no move that the two loops could not make by themselves:
whatever the scripts say, each pipeline is always where a course leads. What is kept along courses
is therefore kept in every run of the schedule.
-/
namespace DatasetProvisioner.Controller.Delivery

open Manifest Reconciler Simulation

variable {Event Object : Type} {kind : Kind Event Object} {settings : Settings} {s : State Event}
  {course : List (Occurrence Event Object)} {pipeline : Pipeline Event}

/-! ## Pipelines between two turns of their loops -/

/-- Nothing is in hand, and no call was made yet for the event that is being handled. -/
structure Rests (kind : Kind Event Object) (settings : Settings) (s : State Event) : Prop where
  emptyHanded : s.hand = none
  untouched : ∀ event, s.pipeline.notification = .handling event →
    s.task = some (kind.handle settings event)

def Reached (kind : Kind Event Object) (settings : Settings) (pipeline : Pipeline Event) : Prop :=
  ∃ s course, Course kind settings s course ∧ Rests kind settings s ∧ s.pipeline = pipeline

theorem reached_start : Reached kind settings {} :=
  ⟨{}, [], .start, ⟨rfl, fun _ busy => by cases busy⟩, rfl⟩

/-- A course goes on by every call that is made for an event. -/
theorem Course.answered {p : Program Reconciler.interface (Except Failure Unit)} {trace : Trace}
    {result : Except Failure Unit} (calls : Program.Runs p trace result)
    (run : Course kind settings s course) (waiting : s.task = some p) :
    ∃ tally, Course kind settings { s with task := some (.done result), tally }
      (course ++ trace.map .called) := by
  induction calls generalizing s course with
  | done result =>
    refine ⟨s.tally, ?_⟩
    rw [List.map_nil, List.append_nil, ← waiting]
    exact run
  | @ask c next trace result answer rest ih =>
    obtain ⟨tally, run⟩ := ih (run.step (.called c next waiting answer)) rfl
    refine ⟨tally, ?_⟩
    rw [List.map_cons, ← List.singleton_append, ← List.append_assoc]
    exact run

theorem Reached.watch (reached : Reached kind settings pipeline) {input : WatchInput Object}
    (awaited : Awaits pipeline.isStopping pipeline.watch input) :
    Reached kind settings (pipeline.onWatch kind.translate input) := by
  obtain ⟨s, course, run, rests, rfl⟩ := reached
  obtain ⟨-, -, hnotification, -⟩ := onWatch_parts s.pipeline kind.translate input
  refine ⟨_, _, run.step (.watched input awaited), ⟨rests.emptyHanded, fun event busy => ?_⟩, rfl⟩
  exact rests.untouched event (hnotification.symm.trans busy)

theorem Reached.take (reached : Reached kind settings pipeline) :
    Reached kind settings pipeline.take := by
  obtain ⟨s, course, run, rests, rfl⟩ := reached
  cases hphase : s.pipeline.notification with
  | taking =>
    cases hitems : s.pipeline.queue.items with
    | nil =>
      refine ⟨_, _, run.step (.idled hphase rests.emptyHanded hitems), ⟨rests.emptyHanded, ?_⟩, ?_⟩
      · intro event busy
        simp [State.onLoop, Pipeline.onNotification, hphase, NotificationPhase.next] at busy
      · simp only [State.onLoop, Pipeline.take, hphase, EventQueue.dequeue?, hitems]
        rw [← hphase]
    | cons event items =>
      have first : s.pipeline.queue.dequeue? =
          (some event, { s.pipeline.queue with items }) := by
        simp only [EventQueue.dequeue?, hitems]
      -- The clock takes an event and hands it over in one step, which is two moves.
      have run := run.step (.taken event _ hphase rests.emptyHanded first)
      have htake : s.pipeline.take = (Pipeline.onNotification
          { s.pipeline with queue := { s.pipeline.queue with items } }
          (.taken (some event))).1 := by
        simp only [Pipeline.take, hphase, first]
      cases hstopping : s.pipeline.isStopping with
      | false =>
        refine ⟨_, _, run.step (.handed event hphase rfl hstopping), ⟨rfl, ?_⟩, htake.symm⟩
        intro other busy
        simp only [State.onLoop, Pipeline.onNotification, hphase, NotificationPhase.next,
          hstopping] at busy
        cases busy
        rfl
      | true =>
        refine ⟨_, _, run.step (.discarded event hphase rfl hstopping), ⟨rfl, ?_⟩, htake.symm⟩
        intro other busy
        simp [State.onLoop, Pipeline.onNotification, hphase, NotificationPhase.next,
          hstopping] at busy
  | _ =>
    refine ⟨s, course, run, rests, ?_⟩
    simp only [Pipeline.take, hphase]

theorem Reached.await (reached : Reached kind settings pipeline)
    (idle : pipeline.notification = .idle) : Reached kind settings pipeline.await.2 := by
  obtain ⟨s, course, run, rests, rfl⟩ := reached
  obtain ⟨-, -, hnotification, -⟩ := await_parts s.pipeline
  refine ⟨_, _, run.step (.awaited idle), ⟨rests.emptyHanded, fun event busy => ?_⟩, rfl⟩
  exact rests.untouched event (hnotification.symm.trans busy)

theorem Reached.rouse (reached : Reached kind settings pipeline)
    (idle : pipeline.notification = .idle) : Reached kind settings pipeline.rouse := by
  obtain ⟨s, course, run, rests, rfl⟩ := reached
  obtain ⟨-, -, hnotification, -⟩ := rouse_parts idle
  refine ⟨_, _, run.step (.roused idle), ⟨rests.emptyHanded, fun event busy => ?_⟩, rfl⟩
  rw [hnotification] at busy
  cases busy

theorem Reached.handled (reached : Reached kind settings pipeline) {event : Event}
    (busy : pipeline.notification = .handling event) {trace : Trace}
    {result : Except Failure Unit}
    (calls : Program.Runs (kind.handle settings event) trace result) :
    Reached kind settings (pipeline.onNotification (.handled result)).1 := by
  obtain ⟨s, course, run, rests, rfl⟩ := reached
  obtain ⟨tally, run⟩ := run.answered calls (rests.untouched event busy)
  refine ⟨_, _, run.step (.finished event result busy rfl), ⟨rests.emptyHanded, ?_⟩, rfl⟩
  intro other again
  simp only [State.onLoop, Pipeline.onNotification, busy] at again
  rcases result with failure | _
  · simp only [NotificationPhase.next, afterFailure_eq] at again
    cases hreset : asksReset failure <;> simp [hreset] at again
  · cases again

theorem Reached.reset (reached : Reached kind settings pipeline)
    (broken : pipeline.notification = .resetting) (result : Except Failure Unit) :
    Reached kind settings (pipeline.onNotification (.sessionReset result)).1 := by
  obtain ⟨s, course, run, rests, rfl⟩ := reached
  refine ⟨_, _, run.step (.reset result broken), ⟨rests.emptyHanded, ?_⟩, rfl⟩
  intro event busy
  simp [State.onLoop, Pipeline.onNotification, broken, NotificationPhase.next] at busy

theorem Reached.cancelled (reached : Reached kind settings pipeline)
    (stopping : pipeline.isStopping = true) :
    Reached kind settings (pipeline.onNotification .cancelled).1 := by
  obtain ⟨s, course, run, rests, rfl⟩ := reached
  cases hphase : s.pipeline.notification with
  | idle =>
    refine ⟨_, _, run.step (.halted hphase stopping), ⟨rests.emptyHanded, ?_⟩, rfl⟩
    intro event busy
    simp [State.onLoop, Pipeline.onNotification, hphase, NotificationPhase.next] at busy
  | _ =>
    refine ⟨s, course, run, rests, ?_⟩
    simp only [Pipeline.onNotification, hphase, NotificationPhase.next]
    rw [← hphase]

theorem isStopping_take (pipeline : Pipeline Event) :
    pipeline.take.isStopping = pipeline.isStopping := by
  unfold Pipeline.take
  cases pipeline.notification <;> rfl

theorem Reached.cancel (reached : Reached kind settings pipeline) :
    Reached kind settings (pipeline.cancel kind.translate) := by
  have stopping : Reached kind settings { pipeline with isStopping := true } := by
    obtain ⟨s, course, run, rests, rfl⟩ := reached
    exact ⟨_, _, run.step .stopping, ⟨rests.emptyHanded, rests.untouched⟩, rfl⟩
  have unwatched : Reached kind settings
      ({ pipeline with isStopping := true }.onWatch kind.translate .cancelled) := by
    by_cases hphase : pipeline.watch = .resetting
    · -- A session that is being set up is waited for: the watch loop stays where it is.
      simpa only [Pipeline.onWatch, hphase, WatchPhase.next] using stopping
    · exact stopping.watch (.cancelled rfl hphase)
  refine unwatched.take.cancelled ?_
  rw [isStopping_take]
  exact (onWatch_parts _ kind.translate _).2.2.2

/-! ## The two loops of a side -/

theorem Reached.watchStep {side : Side Event Object} (reached : Reached kind settings side.pipeline)
    (now pauseEnd : Nat) (peers : Peers) :
    Reached kind settings (side.watchStep kind now pauseEnd peers).1.1.pipeline := by
  unfold Side.watchStep
  split
  · next hphase =>
    have opened (result : Except Failure Unit) : @Awaits Object side.pipeline.isStopping
        side.pipeline.watch (.opened result) := by
      rw [hphase]
      exact .opened result
    split
    · exact reached.watch (opened _)
    · exact reached.watch (opened _)
    · exact reached.watch (opened _)
  · next hphase =>
    have ended (failure : Option Failure) : @Awaits Object side.pipeline.isStopping
        side.pipeline.watch (.ended failure) := by
      rw [hphase]
      exact .ended failure
    split
    · split
      · exact reached.watch (ended none)
      · exact reached
    · dsimp only
      split
      · exact reached.watch (hphase ▸ .changed _ _)
      · exact reached.watch (ended (some _))
      · exact reached
  · next hphase => exact reached.watch (hphase ▸ .reset _)
  · next hphase => exact reached.watch (hphase ▸ .resumed)
  · exact reached

theorem Reached.takeStep {side : Side Event Object} (reached : Reached kind settings side.pipeline)
    (idleEnd : Nat) : Reached kind settings (side.takeStep idleEnd).1.pipeline := by
  unfold Side.takeStep
  dsimp only
  split
  · next idle =>
    have awaiting := reached.take.await idle
    split
    · exact awaiting.rouse ((await_parts _).2.2.1.trans idle)
    · exact awaiting
  · exact reached.take

theorem Reached.notificationStep {side : Side Event Object}
    (reached : Reached kind settings side.pipeline) (idleEnd : Nat) (peers : Peers) :
    Reached kind settings (side.notificationStep kind settings idleEnd peers).1.1.pipeline := by
  unfold Side.notificationStep
  split
  · exact reached.takeStep idleEnd
  · next event busy =>
    split
    · -- A peer fell silent: the loop stays where it is, and the course with it.
      exact reached
    · next result after answered =>
      obtain ⟨whole, hwhole⟩ := Program.runs_of_runWith answered
      obtain ⟨trace, calls, -⟩ := runs_onPeers.mp hwhole
      exact reached.handled busy calls
  · next broken => exact reached.reset broken _
  · next idle => exact reached.rouse idle
  · exact reached

end DatasetProvisioner.Controller.Delivery

namespace DatasetProvisioner.Simulation.Schedule

open Controller Controller.Delivery

/-- Either pipeline is where a course leads. -/
structure OnCourse (s : Schedule) : Prop where
  claims : Reached claimKind s.reconciler s.claims.pipeline
  volumes : Reached volumeKind s.reconciler s.volumes.pipeline

variable {s : Schedule}

/-- The rest of a schedule has no part in it. -/
theorem OnCourse.congr {t : Schedule} (h : s.OnCourse) (reconciler : t.reconciler = s.reconciler)
    (claims : t.claims = s.claims) (volumes : t.volumes = s.volumes) : t.OnCourse := by
  constructor
  · rw [reconciler, claims]
    exact h.claims
  · rw [reconciler, volumes]
    exact h.volumes

theorem OnCourse.loopStep (h : s.OnCourse) (loop : Loop) : (s.loopStep loop).2.OnCourse := by
  cases loop with
  | claimWatch => exact ⟨h.claims.watchStep _ _ _, h.volumes⟩
  | volumeWatch => exact ⟨h.claims, h.volumes.watchStep _ _ _⟩
  | claimLoop => exact ⟨h.claims.notificationStep _ _, h.volumes⟩
  | volumeLoop => exact ⟨h.claims, h.volumes.notificationStep _ _⟩

theorem OnCourse.enlist (h : s.OnCourse) (loop : Loop) : (s.enlist loop).OnCourse := by
  unfold Schedule.enlist
  split
  · exact h
  · exact h.congr rfl rfl rfl

theorem OnCourse.enlistRoused (h : s.OnCourse) : s.enlistRoused.OnCourse := by
  unfold Schedule.enlistRoused
  dsimp only
  split
  · split
    · exact (h.enlist _).enlist _
    · exact h.enlist _
  · split
    · exact h.enlist _
    · exact h

theorem OnCourse.step (h : s.OnCourse) : s.step.OnCourse := by
  cases hready : s.ready with
  | nil =>
    simp only [Schedule.step, hready]
    exact h
  | cons loop others =>
    have moved := OnCourse.loopStep
      (s := { s with timers := s.timers.filter fun timer => timer.2 ≠ loop })
      (h.congr rfl rfl rfl) loop
    rw [hready] at moved
    simp only [Schedule.step, hready]
    generalize Schedule.loopStep _ loop = result at moved ⊢
    obtain ⟨rest, t⟩ := result
    refine OnCourse.enlistRoused ?_
    cases rest with
    | again => exact moved.congr rfl rfl rfl
    | wait => exact moved.congr rfl rfl rfl
    | sleep deadline =>
      dsimp only
      split
      · exact moved.congr rfl rfl rfl
      · exact moved.congr rfl rfl rfl

theorem OnCourse.runSteps (endTime fuel : Nat) (h : s.OnCourse) :
    (s.runSteps endTime fuel).OnCourse := by
  induction fuel generalizing s with
  | zero => exact h
  | succ fuel ih =>
    unfold Schedule.runSteps
    split
    · exact h
    · split
      · split
        · exact h
        · next time _ =>
          split
          · exact ih (h.congr rfl rfl rfl)
          · exact h
      · exact ih h.step

theorem OnCourse.run (h : s.OnCourse) (endTime : Nat) : (s.run endTime).OnCourse := by
  have ran := h.runSteps endTime (s.stepBound endTime)
  exact ⟨ran.claims.cancel, ran.volumes.cancel⟩

/-- However long a schedule runs and whatever the scripts say, what its pipelines have come to is
what courses lead to, along which all is kept. -/
theorem kept_of_run (claims : s.claims.pipeline = {}) (volumes : s.volumes.pipeline = {})
    (endTime : Nat) :
    (∃ state course, Kept claimKind state course ∧
        state.pipeline = (s.run endTime).claims.pipeline) ∧
      ∃ state course, Kept volumeKind state course ∧
        state.pipeline = (s.run endTime).volumes.pipeline := by
  have begun : s.OnCourse := ⟨claims ▸ reached_start, volumes ▸ reached_start⟩
  obtain ⟨⟨state, course, run, -, hclaims⟩, ⟨state', course', run', -, hvolumes⟩⟩ :=
    begun.run endTime
  exact ⟨⟨state, course, kept_of_course (discreet_claimKind _) run, hclaims⟩,
    ⟨state', course', kept_of_course (discreet_volumeKind _) run', hvolumes⟩⟩

end DatasetProvisioner.Simulation.Schedule
