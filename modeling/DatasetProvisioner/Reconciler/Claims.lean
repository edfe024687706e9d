import DatasetProvisioner.Event
import DatasetProvisioner.NameTemplate
import DatasetProvisioner.Reconciler.Call

/-!
# Provisioning

A claim that was added and is pending, and that names this controller or names none and resolves
to a configured class, gets a dataset and a volume object bound to it in advance. The annotations of
a claim or a volume, its object and the registry together decide the class and the reclaim policy.
-/
namespace DatasetProvisioner.Reconciler

open Manifest Storage

/-- The identity of this controller and the classes it serves. -/
structure Settings where
  identity : String
  registry : Registry

/-- The class that annotations and an object name, the annotation first; empty counts as none. -/
def requestedClass (annotations : Annotations) (objectClass : Option String) : Option String :=
  Registry.named (annotations[Key.storageClass]? <|> objectClass)

/-- The policy that annotations name, or the default of the class. -/
def effectivePolicy (annotations : Annotations) (classDefault : ReclaimPolicy) : ReclaimPolicy :=
  (annotations[Key.reclaimPolicy]?.bind ReclaimPolicy.ofString?).getD classDefault

inductive ClaimOutcome where
  /-- The claim is not new, not pending, or nobody's in particular and of no configured class. -/
  | skipped
  | foreignProvisioner (name : String)
  | provisioned (volumeName : String)
  deriving Repr, DecidableEq

/-- Why a claim cannot be cloned. -/
inductive CloneRefusal where
  | claimNotFound
  | claimNotBound
  | volumeNotFound (volumeName : String)
  | volumeNotManaged (volumeName identity : String)
  | noLocation (volumeName : String)
  | foreignDataset (host path storageClass : String)
  deriving Repr, DecidableEq

def CloneRefusal.message : CloneRefusal → String
  | .claimNotFound => "claim not found"
  | .claimNotBound => "claim is not bound"
  | .volumeNotFound volumeName => s!"volume {volumeName} not found"
  | .volumeNotManaged volumeName identity => s!"volume {volumeName} is not managed by {identity}"
  | .noLocation volumeName => s!"volume {volumeName} carries no dataset location"
  | .foreignDataset host path storageClass =>
    s!"dataset {host}:{path} does not belong to storage class {storageClass}"

/-- The clone reference that a volume's annotations give, if its dataset may be cloned by a
provider. -/
def cloneRefOf (identity : String) (provider : Provider) (volumeName : String)
    (annotations : Annotations) : Except CloneRefusal String :=
  if annotations[Key.managedBy]? ≠ some identity then
    .error (.volumeNotManaged volumeName identity)
  else
    match annotations[Key.exportHost]?, annotations[Key.datasetPath]? with
    | some host, some path =>
      if provider.backend.isLocal host path then .ok (host ++ ":" ++ path)
      else .error (.foreignDataset host path provider.storageClass)
    | _, _ => .error (.noLocation volumeName)

/-- Find the dataset of the volume that a claim of a namespace is bound to. -/
def resolveCloneSource (identity claimNamespace sourceClaim : String) (provider : Provider) :
    Program interface (Except Failure String) := do
  let refuse (refusal : CloneRefusal) : Failure :=
    .cloneSource claimNamespace sourceClaim refusal.message
  match ← ask (.readClaim claimNamespace sourceClaim) with
  | .error failure => return .error failure
  | .ok none => return .error (refuse .claimNotFound)
  | .ok (some claim) =>
    match (claim.spec.bind (·.volumeName)).filter (· ≠ "") with
    | none => return .error (refuse .claimNotBound)
    | some volumeName =>
      match ← ask (.readVolume volumeName) with
      | .error failure => return .error failure
      | .ok none => return .error (refuse (.volumeNotFound volumeName))
      | .ok (some volume) =>
        match cloneRefOf identity provider volumeName volume.annotations with
        | .error refusal => return .error (refuse refusal)
        | .ok ref => return .ok ref

/-- How many characters of a volume's identifier go into its name. -/
def tagLength : Nat := 8

/-- The working set of an attempt before its transient keys: what the claim supplies, less what it
may not, and what the controller sets itself. -/
def workingSet (identity : String) (event : ClaimEvent) (provider : Provider) (uuid : Uuid) :
    Annotations :=
  let supplied := (Annotations.ofClaim event.claimNamespace event.claimName
    event.annotations).stripInternal
  let (_, allowed) := Annotations.withhold provider.blocked.toList supplied
  let owned := allowed.insert Key.managedBy identity
    |>.insert Key.volumeUuid uuid.toString
    |>.insert Key.storageClass provider.storageClass
  match event.volumeMode with
  | some mode => owned.insert Key.volumeMode mode
  | none => owned

/-- The first characters of an identifier. -/
def volumeTag (uuid : Uuid) : String :=
  String.ofList (uuid.toChars.take tagLength)

/-- Add the reference to the dataset to clone, where the annotations ask for a clone. -/
def withCloneSource (settings : Settings) (event : ClaimEvent) (provider : Provider)
    (scope : TransientScope) : Program interface (Except Failure TransientScope) := do
  match scope.annotations[Key.cloneFrom]?.filter (· ≠ "") with
  | none => return .ok scope
  | some source =>
    match ← resolveCloneSource settings.identity event.claimNamespace source provider with
    | .error failure => return .error failure
    | .ok ref => return .ok (scope.insertTransient Key.cloneRef ref)

/-- The volume object for a claim, bound to it in advance. -/
def volumeFor (event : ClaimEvent) (descriptor : Descriptor) (annotations : Annotations) :
    Volume where
  metadata := { name := some descriptor.assignedName, annotations := some annotations }
  spec := some {
    capacity := some ((∅ : Annotations).insert "storage" event.requestedStorage)
    accessModes := some event.accessModes
    claimRef := some {
      apiVersion := some "v1"
      kind := some "PersistentVolumeClaim"
      objectNamespace := some event.claimNamespace
      name := some event.claimName
      uid := if event.uid = "" then none else some event.uid }
    exportSource := some
      ⟨descriptor.exportHost, descriptor.exportPath, some descriptor.readOnly⟩
    -- The cluster itself never reclaims such a volume.
    clusterReclaimPolicy := some "Retain"
    -- The cluster binds a volume only if these agree with the claim's.
    storageClassName := event.storageClassName
    volumeMode := event.volumeMode }

/-- Make a volume for a claim and submit its object. -/
def provision (settings : Settings) (event : ClaimEvent) (provider : Provider) :
    Program interface (Except Failure ClaimOutcome) := do
  let uuid ← Program.call (I := interface) .newUuid
  let scope : TransientScope := { annotations := workingSet settings.identity event provider uuid }
  let scope := scope.insertTransient Key.volumeTag (volumeTag uuid)
  match ← withCloneSource settings event provider scope with
  | .error failure => return .error failure
  | .ok scope =>
    let volumeName := NameTemplate.render provider.nameFormat scope.annotations
    let scope := scope.insertTransient Key.volumeRef volumeName
    let (annotations, descriptor?) ← Program.call (I := interface)
      (.create provider.backend scope.annotations event.requestedBytes)
    let scope := { scope with annotations }
    match descriptor? with
    | none =>
      count .provisioningFailures
      return .error
        (.backendDeclined provider.storageClass event.claimNamespace event.claimName)
    | some descriptor =>
      let policy := effectivePolicy scope.annotations provider.reclaimPolicy
      let scope := scope.insert Key.reclaimPolicy policy.name
      let volume := volumeFor event { descriptor with reclaimPolicy := some policy } scope.close
      match ← ask (.createVolume volume) with
      | .ok _ =>
        count .volumesProvisioned
        return .ok (.provisioned descriptor.assignedName)
      | .error failure =>
        count .provisioningFailures
        return .error failure

/-- Handle a change to a claim. -/
def handleClaim (settings : Settings) (event : ClaimEvent) :
    Program interface (Except Failure ClaimOutcome) :=
  if event.change ≠ .added ∨ event.phase ≠ .pending then .done (.ok .skipped)
  else
    let provisioner := event.annotations.provisioner?
    match provisioner.filter (· ≠ settings.identity) with
    | some name => .done (.ok (.foreignProvisioner name))
    | none => do
      count .claimsProcessed
      let supplied := (Annotations.ofClaim event.claimNamespace event.claimName
        event.annotations).stripInternal
      let storageClass := requestedClass supplied event.storageClassName
      match settings.registry.resolve storageClass with
      | some provider => provision settings event provider
      | none =>
        if provisioner.isNone then return .ok .skipped
        else return .error (.noStorageClass (storageClass.getD ""))

end DatasetProvisioner.Reconciler
