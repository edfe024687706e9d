import DatasetProvisioner.Proofs.Trace

/-!
# What handling a volume can do

The runs of the volume path, read off once: which calls are made in which order, under which
conditions on the event, and what the outcome is. The answers are those of any peers.
-/
namespace DatasetProvisioner.Reconciler

open Manifest Storage

/-- A volume of ours that is still there and that its claim has let go of, with the provider of its
class. -/
structure Releasing (settings : Settings) (event : VolumeEvent) (provider : Provider) : Prop where
  managed : event.isManagedBy settings.identity = true
  kept : event.change ≠ .deleted
  released : event.phase = .released ∨ event.phase = .failed
  served : providerFor settings event = .ok provider

def policyOf (event : VolumeEvent) (provider : Provider) : ReclaimPolicy :=
  effectivePolicy event.annotations provider.reclaimPolicy

/-- A notice that calls for a mark and carries none is answered by marking the volume. -/
theorem handleVolume_of_releasing {settings : Settings} {event : VolumeEvent} {provider : Provider}
    (releasing : Releasing settings event provider)
    (retains : (policyOf event provider).destroysVolume = false)
    (h : Key.releasedAt ∉ event.annotations) :
    handleVolume settings event = markReleased event := by
  obtain ⟨managed, kept, released, served⟩ := releasing
  rw [policyOf] at retains
  simp only [handleVolume, managed, Bool.not_true, Bool.false_eq_true, if_false, kept, released,
    if_true, reclaim, served, retains, h]

/-- One that carries a mark already is not looked into. -/
theorem handleVolume_of_marked {settings : Settings} {event : VolumeEvent} {provider : Provider}
    (releasing : Releasing settings event provider)
    (retains : (policyOf event provider).destroysVolume = false)
    (h : Key.releasedAt ∈ event.annotations) :
    handleVolume settings event = .done (.ok .alreadyRetained) := by
  obtain ⟨managed, kept, released, served⟩ := releasing
  rw [policyOf] at retains
  simp only [handleVolume, managed, Bool.not_true, Bool.false_eq_true, if_false, kept, released,
    if_true, reclaim, served, retains, h]

/-- Marking a volume that is stored without a mark: a look, the time, and the mark. -/
theorem exists_ask_of_markReleased (event : VolumeEvent) {stored : Volume}
    (h : Key.releasedAt ∉ stored.annotations) :
    ∃ looked, markReleased event =
        .ask (I := interface) (.cluster (.readVolume event.volumeName)) looked ∧
      ∃ timed, looked (.ok (some stored)) = .ask (I := interface) .clock timed ∧
        ∀ now : Timestamp, ∃ marked, timed now = .ask (I := interface)
          (.cluster (.annotateVolume event.volumeName Key.releasedAt (toString now.seconds)))
          marked ∧
          marked (.ok ()) = .ask (I := interface) (.count .volumesRetained)
            fun _ => .done (.ok .retained) := by
  refine ⟨_, rfl, ?_⟩
  simp only [Program.bind, h, if_false]
  exact ⟨_, rfl, fun now => ⟨_, rfl, rfl⟩⟩

/-- The calls that remove what was made for a volume. -/
def removal (provider : Provider) (event : VolumeEvent) (answer : Except Failure Unit) : Trace :=
  [onCount .backendRemovals, onRemove provider.backend event.annotations answer]

theorem runs_removeDataset {provider : Provider} {event : VolumeEvent} {trace : Trace}
    {result : Except Failure Unit} :
    Program.Runs (removeDataset provider event) trace result ↔
      trace = removal provider event result := by
  unfold removeDataset
  rw [runs_count]
  constructor
  · rintro ⟨rest, rfl, hremove⟩
    rw [(Program.runs_call (I := interface)).mp hremove]
    rfl
  · rintro rfl
    exact ⟨_, rfl, (Program.runs_call (I := interface)).mpr rfl⟩

/-- Marking a volume as released: the stored object is read, and only an object that is there and
carries no mark is written to. -/
inductive MarkRun (event : VolumeEvent) : Trace → Except Failure VolumeOutcome → Prop where
  | unread (failure : Failure) :
    MarkRun event [onCluster (.readVolume event.volumeName) (.error failure)] (.error failure)
  | gone :
    MarkRun event [onCluster (.readVolume event.volumeName) (.ok none)] (.ok .alreadyRetained)
  | marked (stored : Volume) (h : Key.releasedAt ∈ stored.annotations) :
    MarkRun event [onCluster (.readVolume event.volumeName) (.ok (some stored))]
      (.ok .alreadyRetained)
  | refused (stored : Volume) (now : Timestamp) (failure : Failure)
      (h : Key.releasedAt ∉ stored.annotations) :
    MarkRun event
      [onCluster (.readVolume event.volumeName) (.ok (some stored)), onClock now,
        onCluster (.annotateVolume event.volumeName Key.releasedAt (toString now.seconds))
          (.error failure)]
      (.error failure)
  | written (stored : Volume) (now : Timestamp) (h : Key.releasedAt ∉ stored.annotations) :
    MarkRun event
      [onCluster (.readVolume event.volumeName) (.ok (some stored)), onClock now,
        onCluster (.annotateVolume event.volumeName Key.releasedAt (toString now.seconds)) (.ok ()),
        onCount .volumesRetained]
      (.ok .retained)

theorem markRun_of_runs {event : VolumeEvent} {trace : Trace}
    {outcome : Except Failure VolumeOutcome}
    (run : Program.Runs (markReleased event) trace outcome) : MarkRun event trace outcome := by
  unfold markReleased at run
  obtain ⟨answer, rest, rfl, hread⟩ := runs_askCluster.mp run
  rcases answer with failure | _ | stored
  · obtain ⟨rfl, rfl⟩ := Program.runs_pure.mp hread
    exact .unread failure
  · obtain ⟨rfl, rfl⟩ := Program.runs_pure.mp hread
    exact .gone
  · by_cases hmark : Key.releasedAt ∈ stored.annotations
    · simp only [hmark, if_true] at hread
      obtain ⟨rfl, rfl⟩ := Program.runs_pure.mp hread
      exact .marked stored hmark
    · simp only [hmark, if_false] at hread
      obtain ⟨now, rest, rfl, hnow⟩ := runs_callThen.mp hread
      obtain ⟨answer, rest, rfl, hwrite⟩ := runs_askCluster.mp hnow
      rcases answer with failure | _
      · obtain ⟨rfl, rfl⟩ := Program.runs_pure.mp hwrite
        exact .refused stored now failure hmark
      · obtain ⟨rest, rfl, hcount⟩ := runs_count.mp hwrite
        obtain ⟨rfl, rfl⟩ := Program.runs_pure.mp hcount
        exact .written stored now hmark

/-- Handling a change to a volume. Only `removed` and `destroyed` reach the backend, and only
`undeleted` and `destroyed` ask for a deletion. -/
inductive VolumeRun (settings : Settings) (event : VolumeEvent) :
    Trace → Except Failure VolumeOutcome → Prop where
  | foreign (h : event.isManagedBy settings.identity = false) :
    VolumeRun settings event [] (.ok .notManaged)
  | observed (kept : event.change ≠ .deleted)
      (calm : ¬(event.phase = .released ∨ event.phase = .failed)) :
    VolumeRun settings event [] (.ok .observed)
  | unserved (failure : Failure) (h : providerFor settings event = .error failure) :
    VolumeRun settings event [] (.error failure)
  | removed (provider : Provider) (managed : event.isManagedBy settings.identity = true)
      (deleted : event.change = .deleted) (served : providerFor settings event = .ok provider)
      (answer : Except Failure Unit) :
    VolumeRun settings event (removal provider event answer) (answer.map fun _ => .removed)
  | undeleted (provider : Provider) (releasing : Releasing settings event provider)
      (destroys : (policyOf event provider).destroysVolume = true) (failure : Failure) :
    VolumeRun settings event [onCluster (.deleteVolume event.volumeName) (.error failure)]
      (.error failure)
  | destroyed (provider : Provider) (releasing : Releasing settings event provider)
      (destroys : (policyOf event provider).destroysVolume = true)
      (answer : Except Failure Unit) :
    VolumeRun settings event
      (onCluster (.deleteVolume event.volumeName) (.ok ()) :: onCount .volumesDeleted ::
        removal provider event answer)
      (answer.map fun _ => .deleted)
  | marked (provider : Provider) (releasing : Releasing settings event provider)
      (retains : (policyOf event provider).destroysVolume = false)
      (h : Key.releasedAt ∈ event.annotations) :
    VolumeRun settings event [] (.ok .alreadyRetained)
  | retained (provider : Provider) (releasing : Releasing settings event provider)
      (retains : (policyOf event provider).destroysVolume = false)
      (h : Key.releasedAt ∉ event.annotations) {trace : Trace}
      {outcome : Except Failure VolumeOutcome} (run : MarkRun event trace outcome) :
    VolumeRun settings event trace outcome

/-- What follows a removal depends on nothing but its answer. -/
theorem runs_afterRemoval {provider : Provider} {event : VolumeEvent} (outcome : VolumeOutcome)
    {next : Except Failure Unit → Program interface (Except Failure VolumeOutcome)}
    (hnext : ∀ answer, next answer = pure (answer.map fun _ => outcome)) {trace : Trace}
    {result : Except Failure VolumeOutcome}
    (run : Program.Runs (removeDataset provider event >>= next) trace result) :
    ∃ answer, trace = removal provider event answer ∧ result = answer.map fun _ => outcome := by
  obtain ⟨_, answer, _, rfl, hremove, hafter⟩ := Program.runs_bind.mp run
  rw [hnext] at hafter
  obtain ⟨rfl, rfl⟩ := Program.runs_pure.mp hafter
  exact ⟨answer, by rw [runs_removeDataset.mp hremove, List.append_nil], rfl⟩

theorem volumeRun_of_destroy {settings : Settings} {event : VolumeEvent} {provider : Provider}
    (releasing : Releasing settings event provider)
    (destroys : (policyOf event provider).destroysVolume = true) {trace : Trace}
    {outcome : Except Failure VolumeOutcome}
    (run : Program.Runs (destroy provider event) trace outcome) :
    VolumeRun settings event trace outcome := by
  unfold destroy at run
  obtain ⟨answer, rest, rfl, hdelete⟩ := runs_askCluster.mp run
  rcases answer with failure | _
  · obtain ⟨rfl, rfl⟩ := Program.runs_pure.mp hdelete
    exact .undeleted provider releasing destroys failure
  · obtain ⟨rest, rfl, hcount⟩ := runs_count.mp hdelete
    obtain ⟨answer, rfl, rfl⟩ := runs_afterRemoval .deleted (by rintro (_ | _) <;> rfl) hcount
    exact .destroyed provider releasing destroys answer

theorem volumeRun_of_reclaim {settings : Settings} {event : VolumeEvent}
    (managed : event.isManagedBy settings.identity = true) (kept : event.change ≠ .deleted)
    (released : event.phase = .released ∨ event.phase = .failed) {trace : Trace}
    {outcome : Except Failure VolumeOutcome}
    (run : Program.Runs (reclaim settings event) trace outcome) :
    VolumeRun settings event trace outcome := by
  unfold reclaim at run
  cases served : providerFor settings event with
  | error failure =>
    simp only [served] at run
    obtain ⟨rfl, rfl⟩ := Program.runs_done.mp run
    exact .unserved failure served
  | ok provider =>
    have releasing : Releasing settings event provider := ⟨managed, kept, released, served⟩
    simp only [served] at run
    cases destroys : (policyOf event provider).destroysVolume with
    | true =>
      rw [policyOf] at destroys
      simp only [destroys, if_true] at run
      exact volumeRun_of_destroy releasing destroys run
    | false =>
      have retains := destroys
      rw [policyOf] at destroys
      simp only [destroys, Bool.false_eq_true, if_false] at run
      by_cases hmark : Key.releasedAt ∈ event.annotations
      · simp only [hmark, if_true] at run
        obtain ⟨rfl, rfl⟩ := Program.runs_done.mp run
        exact .marked provider releasing retains hmark
      · simp only [hmark, if_false] at run
        exact .retained provider releasing retains hmark (markRun_of_runs run)

theorem volumeRun_of_runs {settings : Settings} {event : VolumeEvent} {trace : Trace}
    {outcome : Except Failure VolumeOutcome}
    (run : Program.Runs (handleVolume settings event) trace outcome) :
    VolumeRun settings event trace outcome := by
  unfold handleVolume at run
  cases managed : event.isManagedBy settings.identity with
  | false =>
    simp only [managed, Bool.not_false, if_true] at run
    obtain ⟨rfl, rfl⟩ := Program.runs_done.mp run
    exact .foreign managed
  | true =>
    simp only [managed, Bool.not_true, Bool.false_eq_true, if_false] at run
    by_cases deleted : event.change = .deleted
    · simp only [deleted, if_true] at run
      cases served : providerFor settings event with
      | error failure =>
        simp only [served] at run
        obtain ⟨rfl, rfl⟩ := Program.runs_done.mp run
        exact .unserved failure served
      | ok provider =>
        simp only [served] at run
        obtain ⟨answer, rfl, rfl⟩ := runs_afterRemoval .removed (by rintro (_ | _) <;> rfl) run
        exact .removed provider managed deleted served answer
    · simp only [deleted, if_false] at run
      by_cases released : event.phase = .released ∨ event.phase = .failed
      · simp only [released, if_true] at run
        exact volumeRun_of_reclaim managed deleted released run
      · simp only [released, if_false] at run
        obtain ⟨rfl, rfl⟩ := Program.runs_done.mp run
        exact .observed deleted released

end DatasetProvisioner.Reconciler
