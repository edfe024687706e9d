import DatasetProvisioner.Dataset.Layout
import DatasetProvisioner.Dataset.Options
import DatasetProvisioner.Dataset.Quota
import DatasetProvisioner.Dataset.Request
import DatasetProvisioner.Storage.Call
import DatasetProvisioner.Storage.Placement

/-!
# The shell backend

Volumes are made and removed by commands on the storage host. Creation stops at the first command
that fails; removal goes through all of its commands whatever they do.
-/
namespace DatasetProvisioner.Storage

open Dataset

structure ShellBackend where
  name : String
  layout : Layout
  /-- The host on which commands run. -/
  host : String
  becomeRoot : Bool := false
  quotaMode : QuotaMode := .standard
  /-- The permissions given to a new export. -/
  unixMode : Option Nat := none
  deriving Repr, DecidableEq

namespace ShellBackend

/-- The properties of a new dataset: the name of its volume, its quota, then its options. -/
def datasetProperties (backend : ShellBackend) (volumeRef : String) (size : Nat)
    (options : Options) : List (String × String) :=
  (trackingProperty, volumeRef) ::
    ((Quota.ofSize backend.quotaMode size).properties.map fun p => (p.1, Text.decimal p.2)) ++
    options.properties

def command (backend : ShellBackend) (action : Shell.Action) : Shell.Command :=
  ⟨backend.becomeRoot, action⟩

/-- The command that makes a fresh dataset. -/
def createCommand (backend : ShellBackend) (dataset volumeRef : String) (size : Nat)
    (options : Options) : Shell.Command :=
  backend.command (.create dataset (backend.datasetProperties volumeRef size options))

/-- The command that takes a snapshot for a volume. -/
def snapshotCommand (backend : ShellBackend) (snapshot volumeRef : String) : Shell.Command :=
  backend.command (.snapshot snapshot [(trackingProperty, volumeRef)])

/-- The command that clones a snapshot. Case sensitivity is fixed when a dataset is first made and
cannot be set on a clone. -/
def cloneCommand (backend : ShellBackend) (snapshot dataset volumeRef : String) (size : Nat)
    (options : Options) : Shell.Command :=
  backend.command (.clone snapshot dataset
    (backend.datasetProperties volumeRef size (options.without .caseSensitivity)))

/-- The command that sets the permissions of an export. -/
def changeModeCommand (backend : ShellBackend) (path : String) (mode : Nat) : Shell.Command :=
  backend.command (.changeMode path mode)

/-- The command that destroys a dataset or a snapshot. -/
def destroyCommand (backend : ShellBackend) (target : String) : Shell.Command :=
  backend.command (.destroy target)

/-- Run a command, which must exit with status zero. -/
def run (backend : ShellBackend) (command : Shell.Command) :
    Program interface (Except Failure Unit) := do
  match ← Program.call (I := interface) (.exec backend.host command) with
  | .error failure => return .error failure
  | .ok output =>
    if output.succeeded then return .ok ()
    else
      return .error (.remoteCommand command.text output.exitStatus (Text.trim output.output))

/-- Make the dataset, fresh or as a clone. A snapshot that was taken is recorded even where the
clone fails. -/
def makeDataset (backend : ShellBackend) (placement : Placement) (size : Nat)
    (annotations : Annotations) : Program interface (Annotations × Except Failure Unit) := do
  let dataset := backend.layout.datasetPath placement.uuid
  let options := Options.ofAnnotations annotations
  match placement.source with
  | none =>
    let result ← backend.run (backend.createCommand dataset placement.volumeRef size options)
    return (annotations, result)
  | some source =>
    let now ← Program.call (I := interface) .clock
    let snapshot := source ++ "@" ++ Snapshot.name placement.volumeRef now
    match ← backend.run (backend.snapshotCommand snapshot placement.volumeRef) with
    | .error failure => return (annotations, .error failure)
    | .ok () =>
      let annotations := annotations.insert Key.cloneSnapshot snapshot
      let result ← backend.run
        (backend.cloneCommand snapshot dataset placement.volumeRef size options)
      return (annotations, result)

/-- Set the permissions of an export, where a mode is configured. -/
def setPermissions (backend : ShellBackend) (path : String) :
    Program interface (Except Failure Unit) :=
  match backend.unixMode with
  | none => .done (.ok ())
  | some mode => backend.run (backend.changeModeCommand path mode)

/-- Make a volume for the request in the annotations, and give the annotations after it. -/
def create (backend : ShellBackend) (annotations : Annotations) (size : Nat) :
    Program interface (Annotations × Except Failure Descriptor) :=
  match prepare backend.layout annotations with
  | (annotations, .error failure) => .done (annotations, .error failure)
  | (annotations, .ok placement) => do
    let (annotations, made) ← backend.makeDataset placement size annotations
    match made with
    | .error failure => return (annotations, .error failure)
    | .ok () =>
      let exportPath := backend.layout.exportPath placement.uuid
      match ← backend.setPermissions exportPath with
      | .error failure => return (annotations, .error failure)
      | .ok () =>
        return (annotations, .ok {
          exportHost := backend.layout.host
          exportPath
          readOnly := false
          assignedName := placement.volumeRef
          reclaimPolicy := none })

/-- Destroy the dataset of a volume, then the snapshot it was cloned from. Only a missing or
malformed identifier is a failure. -/
def remove (backend : ShellBackend) (annotations : Annotations) :
    Program interface (Except Failure Unit) :=
  match volumeUuid annotations with
  | .error failure => .done (.error failure)
  | .ok uuid => do
    let _ ← backend.run (backend.destroyCommand (backend.layout.datasetPath uuid))
    match removableSnapshot backend.layout annotations with
    | none => return .ok ()
    | some snapshot =>
      let _ ← backend.run (backend.destroyCommand snapshot)
      return .ok ()

end ShellBackend

end DatasetProvisioner.Storage
