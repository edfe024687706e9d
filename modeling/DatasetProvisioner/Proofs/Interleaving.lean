import DatasetProvisioner.Cluster.Store
import DatasetProvisioner.Controller.Pipeline
import DatasetProvisioner.Proofs.Runs
import DatasetProvisioner.Reconciler.Volumes

/-!
# Volumes change while notices wait

A cluster's other clients write to it whenever they like: between a volume's change and the notice
of it, while the notice waits in the queue, and between two calls that are made for it. The moves
below leave all of that open. What they fix is where notices come from and in which order a
pipeline handles them.

A watch may tell of any object that was stored at some time, as often as it likes; nothing here
says that it tells of every change.
-/
namespace DatasetProvisioner.Controller

open Manifest Reconciler

/-- The objects of a cluster, the pipeline of volume notices, and what is left to do for the notice
that is being handled. -/
structure Moment where
  store : Cluster.Store
  pipeline : Pipeline VolumeEvent := {}
  task : Option (Program Reconciler.interface (Except Failure VolumeOutcome)) := none

/-- What is to be done for a notice that was taken. -/
def begun (settings : Settings) :
    NotificationPhase VolumeEvent →
      Option (Program Reconciler.interface (Except Failure VolumeOutcome))
  | .handling event => some (handleVolume settings event)
  | _ => none

/-- What may come next, given the present and the past. -/
inductive Move (settings : Settings) (m : Moment) (past : List Moment) : Moment → Prop where
  /-- Another client writes to the cluster. -/
  | written (store : Cluster.Store) : Move settings m past { m with store }
  /-- The watch tells of a volume that is stored or was. -/
  | told (change : Change) (volume : Volume) (volumeName : String) (earlier : Moment)
      (named : volume.metadata.name = some volumeName) (known : earlier ∈ m :: past)
      (stored : earlier.store.volume? volumeName = some volume) :
      Move settings m past
        { m with pipeline := m.pipeline.onWatch VolumeEvent.ofVolume (.changed change volume) }
  | watched (input : WatchInput Volume) (silent : ∀ change volume, input ≠ .changed change volume) :
      Move settings m past { m with pipeline := m.pipeline.onWatch VolumeEvent.ofVolume input }
  | taken (free : m.pipeline.notification = .taking) :
      Move settings m past
        { m with
          pipeline := m.pipeline.take
          task := begun settings m.pipeline.take.notification }
  /-- The cluster does what it is asked to. -/
  | carriedOut (c : Cluster.Call)
      (next : c.Answer → Program Reconciler.interface (Except Failure VolumeOutcome))
      (waiting : m.task = some (.ask (I := Reconciler.interface) (.cluster c) next)) :
      Move settings m past
        { m with store := (m.store.perform c).2, task := some (next (m.store.perform c).1) }
  /-- Another peer answers, or the cluster does without doing anything. -/
  | answered (c : Reconciler.Call)
      (next : c.Answer → Program Reconciler.interface (Except Failure VolumeOutcome))
      (waiting : m.task = some (.ask (I := Reconciler.interface) c next)) (answer : c.Answer) :
      Move settings m past { m with task := some (next answer) }
  | finished (result : Except Failure VolumeOutcome) (done : m.task = some (.done result)) :
      Move settings m past
        { m with
          pipeline := (m.pipeline.onNotification (.handled (result.map fun _ => ()))).1
          task := none }
  | reset (result : Except Failure Unit) :
      Move settings m past
        { m with pipeline := (m.pipeline.onNotification (.sessionReset result)).1 }
  | awaited : Move settings m past { m with pipeline := m.pipeline.await.2 }
  | roused : Move settings m past { m with pipeline := m.pipeline.rouse }
  | cancelled :
      Move settings m past { m with pipeline := m.pipeline.cancel VolumeEvent.ofVolume }

/-- A moment, and all that went before it, the latest first. -/
inductive History (settings : Settings) : Moment → List Moment → Prop where
  | start (store : Cluster.Store) : History settings { store } []
  | move {m next : Moment} {past : List Moment} (before : History settings m past)
      (move : Move settings m past next) : History settings next (m :: past)

/-! ## Where notices come from -/

/-- A notice is of a volume that was stored under its name at one of some moments. -/
def Noticed (moments : List Moment) (event : VolumeEvent) : Prop :=
  ∃ earlier ∈ moments, ∃ volume, volume.metadata.name = some event.volumeName ∧
    earlier.store.volume? event.volumeName = some volume ∧
    VolumeEvent.ofVolume event.change volume = .ok event

theorem Noticed.later {moments : List Moment} {event : VolumeEvent} (h : Noticed moments event)
    (m : Moment) : Noticed (m :: moments) event := by
  obtain ⟨earlier, hearlier, hvolume⟩ := h
  exact ⟨earlier, List.mem_cons_of_mem m hearlier, hvolume⟩

theorem name_and_change {change : Change} {volume : Volume} {event : VolumeEvent}
    (h : VolumeEvent.ofVolume change volume = .ok event) :
    volume.metadata.name = some event.volumeName ∧ event.change = change := by
  unfold VolumeEvent.ofVolume at h
  cases hname : volume.metadata.name with
  | none => simp [hname] at h
  | some volumeName =>
    simp only [hname, Except.ok.injEq] at h
    subst h
    exact ⟨rfl, rfl⟩

theorem noticed_of_ofVolume {moments : List Moment} {earlier : Moment} {change : Change}
    {volume : Volume} {volumeName : String} {event : VolumeEvent}
    (named : volume.metadata.name = some volumeName) (known : earlier ∈ moments)
    (stored : earlier.store.volume? volumeName = some volume)
    (h : VolumeEvent.ofVolume change volume = .ok event) : Noticed moments event := by
  obtain ⟨hname, rfl⟩ := name_and_change h
  obtain rfl := Option.some.inj (hname.symm.trans named)
  exact ⟨earlier, known, volume, hname, stored, h⟩

/-- What is known of a moment from its past: every notice that waits or is handled is of a volume
that was stored before, and what is left to do is left of handling the notice. -/
structure Grounded (settings : Settings) (m : Moment) (past : List Moment) : Prop where
  queued : ∀ event ∈ m.pipeline.queue.items, Noticed past event
  handled : ∀ event, m.pipeline.notification = .handling event → Noticed past event
  task : ∀ program, m.task = some program →
    ∃ event trace, m.pipeline.notification = .handling event ∧
      Program.Remains (handleVolume settings event) trace program

/-! ## How a pipeline moves -/

/-- A change to a pipeline that brings no new notice, and neither begins nor ends the handling of
one. -/
structure Quiet (before after : Pipeline VolumeEvent) : Prop where
  queue : after.queue.items ⊆ before.queue.items
  handling : ∀ event, after.notification = .handling event ↔ before.notification = .handling event

theorem Quiet.trans {first second third : Pipeline VolumeEvent} (h : Quiet first second)
    (h' : Quiet second third) : Quiet first third where
  queue := List.Subset.trans h'.queue h.queue
  handling event := (h'.handling event).trans (h.handling event)

section

variable {pipeline : Pipeline VolumeEvent}

/-- A watch loop brings the notice of what it was told of, and no other. -/
theorem event_of_next {phase : WatchPhase} {input : WatchInput Volume} {event : VolumeEvent}
    (h : (phase.next VolumeEvent.ofVolume input).2 = some event) :
    ∃ change volume, input = .changed change volume ∧
      VolumeEvent.ofVolume change volume = .ok event := by
  unfold WatchPhase.next at h
  split at h
  · cases h
  · cases h
  · next change volume =>
    cases hevent : VolumeEvent.ofVolume change volume with
    | error failure => simp [hevent, Except.toOption] at h
    | ok event' =>
      simp only [hevent, Except.toOption, Option.some.injEq] at h
      exact ⟨change, volume, rfl, h ▸ hevent⟩
  all_goals cases h

theorem onWatch_eq (pipeline : Pipeline VolumeEvent) (input : WatchInput Volume) :
    (pipeline.onWatch VolumeEvent.ofVolume input).notification = pipeline.notification ∧
      ∀ event ∈ (pipeline.onWatch VolumeEvent.ofVolume input).queue.items,
        event ∈ pipeline.queue.items ∨ ∃ change volume, input = .changed change volume ∧
          VolumeEvent.ofVolume change volume = .ok event := by
  unfold Pipeline.onWatch
  rcases hnext : pipeline.watch.next VolumeEvent.ofVolume input with ⟨watch, _ | event⟩
  · exact ⟨rfl, fun event h => .inl h⟩
  · refine ⟨rfl, fun other h => ?_⟩
    rcases List.mem_append.mp h with h | h
    · exact .inl h
    · rw [List.mem_singleton.mp h]
      exact .inr (event_of_next (by rw [hnext]))

theorem quiet_onWatch (pipeline : Pipeline VolumeEvent) (input : WatchInput Volume)
    (silent : ∀ change volume, input ≠ .changed change volume) :
    Quiet pipeline (pipeline.onWatch VolumeEvent.ofVolume input) := by
  obtain ⟨hnotification, hqueue⟩ := onWatch_eq pipeline input
  constructor
  · intro event hevent
    rcases hqueue event hevent with h | ⟨change, volume, hinput, -⟩
    · exact h
    · exact absurd hinput (silent change volume)
  · intro event
    rw [hnotification]

theorem handling_afterFailure {failure : Failure} {event : VolumeEvent} :
    NotificationPhase.afterFailure failure ≠ .handling event := by
  unfold NotificationPhase.afterFailure
  split <;> simp

/-- Only an end of the handling ends it, and only a notice that is taken begins it. -/
theorem quiet_onNotification (pipeline : Pipeline VolumeEvent)
    (input : NotificationInput VolumeEvent)
    (untaken : ∀ event, input ≠ .taken event) (unhandled : ∀ result, input ≠ .handled result) :
    Quiet pipeline (pipeline.onNotification input).1 := by
  refine ⟨fun _ h => h, fun event => ?_⟩
  change (pipeline.notification.next pipeline.isStopping input).1 = _ ↔ _
  cases input with
  | taken event => exact absurd rfl (untaken event)
  | handled result => exact absurd rfl (unhandled result)
  | sessionReset result => cases pipeline.notification <;> simp [NotificationPhase.next]
  | roused => cases pipeline.notification <;> simp [NotificationPhase.next]
  | cancelled => cases pipeline.notification <;> simp [NotificationPhase.next]

theorem quiet_await : Quiet pipeline pipeline.await.2 := by
  refine ⟨?_, fun _ => Iff.rfl⟩
  unfold Pipeline.await EventQueue.await
  cases pipeline.queue.isEmpty <;> exact List.Subset.refl _

theorem quiet_rouse : Quiet pipeline pipeline.rouse := by
  obtain ⟨watch, queue, phase, stopping⟩ := pipeline
  cases phase with
  | idle =>
    have queued (queue' : EventQueue VolumeEvent) (h : queue'.items = queue.items) :
        Quiet ⟨watch, queue, .idle, stopping⟩
          (Pipeline.onNotification ⟨watch, queue', .idle, stopping⟩ .roused).1 := by
      have same : Quiet ⟨watch, queue, .idle, stopping⟩ ⟨watch, queue', .idle, stopping⟩ :=
        ⟨fun event hevent => h ▸ hevent, fun _ => Iff.rfl⟩
      exact same.trans (quiet_onNotification _ .roused (by simp) (by simp))
    have settled (isOver : Bool) (queue : EventQueue VolumeEvent) :
        (if isOver then queue else queue.cancel Pipeline.consumer).items = queue.items := by
      cases isOver <;> rfl
    exact queued _ (settled (queue.poll Pipeline.consumer).1 (queue.poll Pipeline.consumer).2)
  | taking => exact ⟨List.Subset.refl _, fun _ => Iff.rfl⟩
  | handling => exact ⟨List.Subset.refl _, fun _ => Iff.rfl⟩
  | resetting => exact ⟨List.Subset.refl _, fun _ => Iff.rfl⟩
  | stopped => exact ⟨List.Subset.refl _, fun _ => Iff.rfl⟩

theorem take_of_busy (busy : pipeline.notification ≠ .taking) : pipeline.take = pipeline := by
  unfold Pipeline.take
  split
  · next free => exact absurd free busy
  · rfl

/-- What is handled once a notice was taken was in the queue. -/
theorem take_of_free (free : pipeline.notification = .taking) :
    pipeline.take.queue.items ⊆ pipeline.queue.items ∧
      ∀ event, pipeline.take.notification = .handling event →
        pipeline.isStopping = false ∧ event ∈ pipeline.queue.items := by
  simp only [Pipeline.take, free, EventQueue.dequeue?]
  rcases hitems : pipeline.queue.items with _ | ⟨first, rest⟩
  · refine ⟨?_, fun event h => ?_⟩
    · simp [Pipeline.onNotification, hitems]
    · simp [Pipeline.onNotification, NotificationPhase.next] at h
  · refine ⟨List.subset_cons_self first rest, fun event h => ?_⟩
    cases hstopping : pipeline.isStopping with
    | true => simp [Pipeline.onNotification, NotificationPhase.next, hstopping] at h
    | false =>
      simp only [Pipeline.onNotification, NotificationPhase.next, hstopping,
        Bool.false_eq_true, if_false, NotificationPhase.handling.injEq] at h
      exact ⟨rfl, h ▸ List.mem_cons_self⟩

/-- A pipeline that is being stopped begins the handling of no notice. -/
theorem quiet_take (stopping : pipeline.isStopping = true) : Quiet pipeline pipeline.take := by
  by_cases free : pipeline.notification = .taking
  · obtain ⟨hqueue, hhandling⟩ := take_of_free free
    refine ⟨hqueue, fun event => ⟨fun h => ?_, fun h => ?_⟩⟩
    · rw [stopping] at hhandling
      exact absurd (hhandling event h).1 (by decide)
    · rw [free] at h
      cases h
  · rw [take_of_busy free]
    exact ⟨List.Subset.refl _, fun _ => Iff.rfl⟩

theorem quiet_cancel : Quiet pipeline (pipeline.cancel VolumeEvent.ofVolume) := by
  have same : Quiet pipeline { pipeline with isStopping := true } :=
    ⟨List.Subset.refl _, fun _ => Iff.rfl⟩
  have watched := same.trans (quiet_onWatch _ .cancelled (by simp))
  have stopping : ({ pipeline with isStopping := true }.onWatch
      VolumeEvent.ofVolume .cancelled).isStopping = true := by
    unfold Pipeline.onWatch
    split
    split <;> rfl
  exact (watched.trans (quiet_take stopping)).trans
    (quiet_onNotification _ .cancelled (by simp) (by simp))

end

/-! ## What is known along a history -/

theorem Grounded.quiet {settings : Settings} {m : Moment} {past : List Moment}
    {pipeline : Pipeline VolumeEvent} (grounded : Grounded settings m past)
    (quiet : Quiet m.pipeline pipeline) : Grounded settings { m with pipeline } (m :: past) where
  queued event h := (grounded.queued event (quiet.queue h)).later m
  handled event h := (grounded.handled event ((quiet.handling event).mp h)).later m
  task program h := by
    obtain ⟨event, trace, hhandling, remains⟩ := grounded.task program h
    exact ⟨event, trace, (quiet.handling event).mpr hhandling, remains⟩

/-- A call that gets an answer leaves the rest of the same handling to be done. -/
theorem Grounded.answered {settings : Settings} {m : Moment} {past : List Moment}
    (grounded : Grounded settings m past) {c : Reconciler.Call}
    {next : c.Answer → Program Reconciler.interface (Except Failure VolumeOutcome)}
    (waiting : m.task = some (.ask (I := Reconciler.interface) c next)) (answer : c.Answer)
    (store : Cluster.Store) :
    Grounded settings { m with store, task := some (next answer) } (m :: past) where
  queued event h := (grounded.queued event h).later m
  handled event h := (grounded.handled event h).later m
  task program h := by
    obtain ⟨event, trace, hhandling, remains⟩ := grounded.task _ waiting
    cases h
    exact ⟨event, _, hhandling, remains.answered answer⟩

theorem Grounded.move {settings : Settings} {m next : Moment} {past : List Moment}
    (grounded : Grounded settings m past) (move : Move settings m past next) :
    Grounded settings next (m :: past) := by
  cases move with
  | written store =>
    exact ⟨fun event h => (grounded.queued event h).later m,
      fun event h => (grounded.handled event h).later m, grounded.task⟩
  | told change volume volumeName earlier named known stored =>
    -- The only move that brings a new notice, and the notice is made of what was stored.
    obtain ⟨hnotification, hqueue⟩ := onWatch_eq m.pipeline (.changed change volume)
    refine ⟨fun event h => ?_, fun event h => ?_, fun program h => ?_⟩
    · rcases hqueue event h with h | ⟨change', volume', hinput, hevent⟩
      · exact (grounded.queued event h).later m
      · cases hinput
        exact noticed_of_ofVolume named known stored hevent
    · rw [hnotification] at h
      exact (grounded.handled event h).later m
    · rw [hnotification]
      exact grounded.task program h
  | watched input silent => exact grounded.quiet (quiet_onWatch _ input silent)
  | taken free =>
    obtain ⟨hqueue, hhandling⟩ := take_of_free free
    refine ⟨fun event h => (grounded.queued event (hqueue h)).later m,
      fun event h => (grounded.queued event (hhandling event h).2).later m, fun program h => ?_⟩
    simp only [begun] at h
    split at h
    · next event hevent =>
      -- The handling begins here: no call of it is made yet.
      cases h
      exact ⟨event, [], hevent, .start⟩
    · cases h
  | carriedOut c next waiting => exact grounded.answered waiting _ _
  | answered c next waiting answer => exact grounded.answered waiting answer _
  | finished result done =>
    obtain ⟨event, trace, hhandling, -⟩ := grounded.task _ done
    refine ⟨fun event h => (grounded.queued event h).later m, fun event h => ?_, by simp⟩
    simp only [Pipeline.onNotification, hhandling] at h
    cases result with
    | error failure => exact absurd h handling_afterFailure
    | ok outcome => cases h
  | reset result =>
    exact grounded.quiet (quiet_onNotification _ (.sessionReset result) (by simp) (by simp))
  | awaited => exact grounded.quiet quiet_await
  | roused => exact grounded.quiet quiet_rouse
  | cancelled => exact grounded.quiet quiet_cancel

theorem History.grounded {settings : Settings} {m : Moment} {past : List Moment}
    (history : History settings m past) : Grounded settings m past := by
  induction history with
  | start store =>
    exact ⟨by simp, by simp, by simp⟩
  | move before move ih => exact ih.move move

end DatasetProvisioner.Controller
