import DatasetProvisioner.Proofs.Runs
import DatasetProvisioner.Storage.ShellBackend

/-!
# What the shell backend can do

The runs of a creation and of a removal by commands, read off once: which commands are run in
which order and what the annotations hold afterwards, for any behaviour of the host.
-/
namespace DatasetProvisioner.Storage

open Dataset

abbrev StorageTrace := List (Exchange interface)

abbrev onExec (host : String) (command : Shell.Command) (answer : Except Failure CommandOutput) :
    Exchange interface :=
  ⟨.exec host command, answer⟩

abbrev onManagement (c : Management.Call) (answer : c.Answer) : Exchange interface :=
  ⟨.management c, answer⟩

abbrev onStorageClock (now : Timestamp) : Exchange interface :=
  ⟨.clock, now⟩

theorem runs_storageCall {α : Type} {c : Call} {next : c.Answer → Program interface α}
    {trace : StorageTrace} {a : α} :
    Program.Runs (Program.call (I := interface) c >>= next) trace a ↔
      ∃ answer rest, trace = ⟨c, answer⟩ :: rest ∧ Program.Runs (next answer) rest a :=
  Program.runs_ask (I := interface) (c := c)

namespace ShellBackend

variable {backend : ShellBackend}

/-- What a backend makes of a command's end: only the exit status zero is a success. -/
def judged (command : Shell.Command) : Except Failure CommandOutput → Except Failure Unit
  | .error failure => .error failure
  | .ok output =>
    if output.succeeded then .ok ()
    else .error (.remoteCommand command.text output.exitStatus (Text.trim output.output))

theorem runs_run {command : Shell.Command} {trace : StorageTrace} {result : Except Failure Unit} :
    Program.Runs (backend.run command) trace result ↔
      ∃ answer, trace = [onExec backend.host command answer] ∧ result = judged command answer := by
  unfold run
  rw [runs_storageCall]
  refine exists_congr fun answer => ?_
  rcases answer with failure | output
  · simp [judged]
  · by_cases hzero : output.succeeded = true
    · simp [judged, hzero]
    · simp [judged, hzero]

def snapshotFor (placement : Placement) (source : String) (now : Timestamp) : String :=
  source ++ "@" ++ Snapshot.name placement.volumeRef now

/-- Making the dataset of a volume: fresh by one command, or as a clone of a snapshot that a first
command takes. -/
inductive MakeRun (backend : ShellBackend) (placement : Placement) (size : Nat)
    (annotations : Annotations) : StorageTrace → Annotations × Except Failure Unit → Prop where
  | fresh (h : placement.source = none) (answer : Except Failure CommandOutput) :
    MakeRun backend placement size annotations
      [onExec backend.host (backend.createCommand (backend.layout.datasetPath placement.uuid)
        placement.volumeRef size (Options.ofAnnotations annotations)) answer]
      (annotations, judged (backend.createCommand (backend.layout.datasetPath placement.uuid)
        placement.volumeRef size (Options.ofAnnotations annotations)) answer)
  | unsnapped (source : String) (h : placement.source = some source) (now : Timestamp)
      (answer : Except Failure CommandOutput) (failure : Failure)
      (hfail : judged (backend.snapshotCommand (snapshotFor placement source now)
        placement.volumeRef) answer = .error failure) :
    MakeRun backend placement size annotations
      [onStorageClock now,
        onExec backend.host (backend.snapshotCommand (snapshotFor placement source now)
          placement.volumeRef) answer]
      (annotations, .error failure)
  | cloned (source : String) (h : placement.source = some source) (now : Timestamp)
      (taken : Except Failure CommandOutput)
      (htaken : judged (backend.snapshotCommand (snapshotFor placement source now)
        placement.volumeRef) taken = .ok ())
      (answer : Except Failure CommandOutput) :
    MakeRun backend placement size annotations
      [onStorageClock now,
        onExec backend.host (backend.snapshotCommand (snapshotFor placement source now)
          placement.volumeRef) taken,
        onExec backend.host (backend.cloneCommand (snapshotFor placement source now)
          (backend.layout.datasetPath placement.uuid) placement.volumeRef size
          (Options.ofAnnotations annotations)) answer]
      (annotations.insert Key.cloneSnapshot (snapshotFor placement source now),
        judged (backend.cloneCommand (snapshotFor placement source now)
          (backend.layout.datasetPath placement.uuid) placement.volumeRef size
          (Options.ofAnnotations annotations)) answer)

theorem runs_makeDataset {placement : Placement} {size : Nat} {annotations : Annotations}
    {trace : StorageTrace} {result : Annotations × Except Failure Unit} :
    Program.Runs (backend.makeDataset placement size annotations) trace result ↔
      MakeRun backend placement size annotations trace result := by
  unfold makeDataset
  constructor
  · intro run
    cases hsource : placement.source with
    | none =>
      simp only [hsource] at run
      obtain ⟨first, made, _, rfl, hcreate, hafter⟩ := Program.runs_bind.mp run
      obtain ⟨answer, rfl, rfl⟩ := runs_run.mp hcreate
      obtain ⟨rfl, rfl⟩ := Program.runs_pure.mp hafter
      exact .fresh hsource answer
    | some source =>
      simp only [hsource] at run
      obtain ⟨now, _, rfl, hsnapshot⟩ := runs_storageCall.mp run
      obtain ⟨first, taken, _, rfl, hrun, hafter⟩ := Program.runs_bind.mp hsnapshot
      obtain ⟨answer, rfl, rfl⟩ := runs_run.mp hrun
      cases hjudged : judged (backend.snapshotCommand (snapshotFor placement source now)
          placement.volumeRef) answer with
      | error failure =>
        rw [← snapshotFor] at hafter
        simp only [hjudged] at hafter
        obtain ⟨rfl, rfl⟩ := Program.runs_pure.mp hafter
        exact .unsnapped source hsource now answer failure hjudged
      | ok =>
        rw [← snapshotFor] at hafter
        simp only [hjudged] at hafter
        obtain ⟨second, made, _, rfl, hclone, hlast⟩ := Program.runs_bind.mp hafter
        obtain ⟨copied, rfl, rfl⟩ := runs_run.mp hclone
        obtain ⟨rfl, rfl⟩ := Program.runs_pure.mp hlast
        exact .cloned source hsource now answer hjudged copied
  · intro run
    cases run with
    | fresh h answer =>
      simp only [h]
      exact (runs_run.mpr ⟨answer, rfl, rfl⟩).bind (.done _)
    | unsnapped source h now answer failure hfail =>
      simp only [h]
      refine runs_storageCall.mpr ⟨now, _, rfl, ?_⟩
      refine (runs_run.mpr ⟨answer, rfl, rfl⟩).bind (?_ : Program.Runs _ [] _)
      rw [← snapshotFor, hfail]
      exact .done _
    | cloned source h now taken htaken answer =>
      simp only [h]
      refine runs_storageCall.mpr ⟨now, _, rfl, ?_⟩
      refine (runs_run.mpr ⟨taken, rfl, rfl⟩).bind ?_
      rw [← snapshotFor, htaken]
      exact (runs_run.mpr ⟨answer, rfl, rfl⟩).bind (.done _)

inductive PermissionRun (backend : ShellBackend) (path : String) :
    StorageTrace → Except Failure Unit → Prop where
  | unset (h : backend.unixMode = none) : PermissionRun backend path [] (.ok ())
  | set (mode : Nat) (h : backend.unixMode = some mode) (answer : Except Failure CommandOutput) :
    PermissionRun backend path [onExec backend.host (backend.changeModeCommand path mode) answer]
      (judged (backend.changeModeCommand path mode) answer)

theorem runs_setPermissions {path : String} {trace : StorageTrace} {result : Except Failure Unit} :
    Program.Runs (backend.setPermissions path) trace result ↔
      PermissionRun backend path trace result := by
  unfold setPermissions
  constructor
  · intro run
    cases hmode : backend.unixMode with
    | none =>
      simp only [hmode] at run
      obtain ⟨rfl, rfl⟩ := Program.runs_done.mp run
      exact .unset hmode
    | some mode =>
      simp only [hmode] at run
      obtain ⟨answer, rfl, rfl⟩ := runs_run.mp run
      exact .set mode hmode answer
  · intro run
    cases run with
    | unset h =>
      simp only [h]
      exact .done _
    | set mode h answer =>
      simp only [h]
      exact runs_run.mpr ⟨answer, rfl, rfl⟩

def described (backend : ShellBackend) (placement : Placement) : Descriptor where
  exportHost := backend.layout.host
  exportPath := backend.layout.exportPath placement.uuid
  readOnly := false
  assignedName := placement.volumeRef
  reclaimPolicy := none

/-- Making a volume: nothing is run for a request that fails a check. -/
inductive CreateRun (backend : ShellBackend) (annotations : Annotations) (size : Nat) :
    StorageTrace → Annotations × Except Failure Descriptor → Prop where
  | unready (after : Annotations) (failure : Failure)
      (h : prepare backend.layout annotations = (after, .error failure)) :
    CreateRun backend annotations size [] (after, .error failure)
  | unmade (recorded : Annotations) (placement : Placement)
      (h : prepare backend.layout annotations = (recorded, .ok placement))
      {making : StorageTrace} {after : Annotations} {failure : Failure}
      (run : MakeRun backend placement size recorded making (after, .error failure)) :
    CreateRun backend annotations size making (after, .error failure)
  | made (recorded : Annotations) (placement : Placement)
      (h : prepare backend.layout annotations = (recorded, .ok placement))
      {making setting : StorageTrace} {after : Annotations} {result : Except Failure Unit}
      (run : MakeRun backend placement size recorded making (after, .ok ()))
      (permissions : PermissionRun backend (backend.layout.exportPath placement.uuid) setting
        result) :
    CreateRun backend annotations size (making ++ setting)
      (after, result.map fun _ => backend.described placement)

theorem runs_create {annotations : Annotations} {size : Nat} {trace : StorageTrace}
    {result : Annotations × Except Failure Descriptor} :
    Program.Runs (backend.create annotations size) trace result ↔
      CreateRun backend annotations size trace result := by
  unfold create
  constructor
  · intro run
    rcases hprepare : prepare backend.layout annotations with ⟨recorded, failure | placement⟩
    · simp only [hprepare] at run
      obtain ⟨rfl, rfl⟩ := Program.runs_done.mp run
      exact .unready recorded failure hprepare
    · simp only [hprepare] at run
      obtain ⟨making, ⟨after, made⟩, rest, rfl, hmake, hafter⟩ := Program.runs_bind.mp run
      have hmade := runs_makeDataset.mp hmake
      rcases made with failure | _
      · obtain ⟨rfl, rfl⟩ := Program.runs_pure.mp hafter
        rw [List.append_nil]
        exact .unmade recorded placement hprepare hmade
      · obtain ⟨setting, set, last, rfl, hset, hlast⟩ := Program.runs_bind.mp hafter
        have hpermissions := runs_setPermissions.mp hset
        rcases set with failure | _
        · obtain ⟨rfl, rfl⟩ := Program.runs_pure.mp hlast
          rw [List.append_nil]
          exact .made recorded placement hprepare hmade hpermissions
        · obtain ⟨rfl, rfl⟩ := Program.runs_pure.mp hlast
          rw [List.append_nil]
          exact .made recorded placement hprepare hmade hpermissions
  · intro run
    cases run with
    | unready after failure h =>
      simp only [h]
      exact .done _
    | unmade recorded placement h hmade =>
      simp only [h]
      rw [← List.append_nil trace]
      exact (runs_makeDataset.mpr hmade).bind (.done _)
    | @made recorded placement h making setting after set hmade hpermissions =>
      simp only [h]
      refine (runs_makeDataset.mpr hmade).bind ?_
      rw [← List.append_nil setting]
      refine (runs_setPermissions.mpr hpermissions).bind ?_
      rcases set with failure | _
      · exact .done _
      · exact .done _

/-- What a creation that succeeds is made of. -/
theorem created_of_createRun {annotations after : Annotations} {size : Nat} {trace : StorageTrace}
    {descriptor : Descriptor}
    (run : CreateRun backend annotations size trace (after, .ok descriptor)) :
    ∃ recorded placement making setting set,
      prepare backend.layout annotations = (recorded, .ok placement) ∧ trace = making ++ setting ∧
      MakeRun backend placement size recorded making (after, .ok ()) ∧
      PermissionRun backend (backend.layout.exportPath placement.uuid) setting set ∧
      descriptor = backend.described placement := by
  generalize hresult : (after, Except.ok descriptor) = result at run
  cases run with
  | unready => simp at hresult
  | unmade => simp at hresult
  | @made recorded placement h making setting last set run permissions =>
    rw [Prod.mk.injEq] at hresult
    obtain ⟨rfl, hdone⟩ := hresult
    rcases set with failure | _
    · cases hdone
    · exact ⟨recorded, placement, making, setting, _, h, rfl, run, permissions,
        Except.ok.inj hdone⟩

/-- Removing a volume: its dataset, then the snapshot recorded for it. -/
inductive RemoveRun (backend : ShellBackend) (annotations : Annotations) :
    StorageTrace → Except Failure Unit → Prop where
  | unnamed (failure : Failure) (h : volumeUuid annotations = .error failure) :
    RemoveRun backend annotations [] (.error failure)
  | dataset (uuid : Uuid) (h : volumeUuid annotations = .ok uuid)
      (clean : removableSnapshot backend.layout annotations = none)
      (answer : Except Failure CommandOutput) :
    RemoveRun backend annotations
      [onExec backend.host (backend.destroyCommand (backend.layout.datasetPath uuid)) answer]
      (.ok ())
  | both (uuid : Uuid) (h : volumeUuid annotations = .ok uuid) (snapshot : String)
      (recorded : removableSnapshot backend.layout annotations = some snapshot)
      (answer last : Except Failure CommandOutput) :
    RemoveRun backend annotations
      [onExec backend.host (backend.destroyCommand (backend.layout.datasetPath uuid)) answer,
        onExec backend.host (backend.destroyCommand snapshot) last]
      (.ok ())

theorem removeRun_of_runs {annotations : Annotations} {trace : StorageTrace}
    {result : Except Failure Unit}
    (run : Program.Runs (backend.remove annotations) trace result) :
    RemoveRun backend annotations trace result := by
  unfold remove at run
  cases huuid : volumeUuid annotations with
  | error failure =>
    simp only [huuid] at run
    obtain ⟨rfl, rfl⟩ := Program.runs_done.mp run
    exact .unnamed failure huuid
  | ok uuid =>
    simp only [huuid] at run
    obtain ⟨_, _, rest, rfl, hdestroy, hafter⟩ := Program.runs_bind.mp run
    obtain ⟨answer, rfl, rfl⟩ := runs_run.mp hdestroy
    cases hsnapshot : removableSnapshot backend.layout annotations with
    | none =>
      simp only [hsnapshot] at hafter
      obtain ⟨rfl, rfl⟩ := Program.runs_pure.mp hafter
      exact .dataset uuid huuid hsnapshot answer
    | some snapshot =>
      simp only [hsnapshot] at hafter
      obtain ⟨_, _, _, rfl, hlast, hdone⟩ := Program.runs_bind.mp hafter
      obtain ⟨last, rfl, rfl⟩ := runs_run.mp hlast
      obtain ⟨rfl, rfl⟩ := Program.runs_pure.mp hdone
      exact .both uuid huuid snapshot hsnapshot answer last

end ShellBackend

end DatasetProvisioner.Storage
