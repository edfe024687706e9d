import DatasetProvisioner.Manifest.Metadata

/-!
# Volumes

A volume object as the cluster stores it. The parts this controller writes or reads are typed; the
rest of an object is kept in canonical form.
-/
namespace DatasetProvisioner.Manifest

section

open Shape

def referenceShape : Shape :=
  .record
    [optional "apiVersion" .text, optional "fieldPath" .text, optional "kind" .text,
      optional "name" .text, optional "namespace" .text, optional "resourceVersion" .text,
      optional "uid" .text]

def secretShape : Shape :=
  .record [optional "name" .text, optional "namespace" .text]

def selectorTermsShape : Shape :=
  .list (.record
    [required "key" .text, required "operator" .text, optional "values" texts])

/-- The kinds of storage other than an export that a volume may stand for. -/
def sourceFields : List (String × Presence × Shape) :=
  [optional "awsElasticBlockStore" (.record
      [optional "fsType" .text, optional "partition" int32, optional "readOnly" .flag,
        required "volumeID" .text]),
    optional "azureDisk" (.record
      [optional "cachingMode" .text, required "diskName" .text, required "diskURI" .text,
        optional "fsType" .text, optional "kind" .text, optional "readOnly" .flag]),
    optional "azureFile" (.record
      [optional "readOnly" .flag, required "secretName" .text, optional "secretNamespace" .text,
        required "shareName" .text]),
    optional "cephfs" (.record
      [required "monitors" texts, optional "path" .text, optional "readOnly" .flag,
        optional "secretFile" .text, optional "secretRef" secretShape, optional "user" .text]),
    optional "cinder" (.record
      [optional "fsType" .text, optional "readOnly" .flag, optional "secretRef" secretShape,
        required "volumeID" .text]),
    optional "csi" (.record
      [optional "controllerExpandSecretRef" secretShape,
        optional "controllerPublishSecretRef" secretShape, required "driver" .text,
        optional "fsType" .text, optional "nodeExpandSecretRef" secretShape,
        optional "nodePublishSecretRef" secretShape, optional "nodeStageSecretRef" secretShape,
        optional "readOnly" .flag, optional "volumeAttributes" (.dictionary .text),
        required "volumeHandle" .text]),
    optional "fc" (.record
      [optional "fsType" .text, optional "lun" int32, optional "readOnly" .flag,
        optional "targetWWNs" texts, optional "wwids" texts]),
    optional "flexVolume" (.record
      [required "driver" .text, optional "fsType" .text, optional "options" (.dictionary .text),
        optional "readOnly" .flag, optional "secretRef" secretShape]),
    optional "flocker" (.record [optional "datasetName" .text, optional "datasetUUID" .text]),
    optional "gcePersistentDisk" (.record
      [optional "fsType" .text, optional "partition" int32, required "pdName" .text,
        optional "readOnly" .flag]),
    optional "glusterfs" (.record
      [required "endpoints" .text, optional "endpointsNamespace" .text, required "path" .text,
        optional "readOnly" .flag]),
    optional "hostPath" (.record [required "path" .text, optional "type" .text]),
    optional "iscsi" (.record
      [optional "chapAuthDiscovery" .flag, optional "chapAuthSession" .flag,
        optional "fsType" .text, optional "initiatorName" .text, required "iqn" .text,
        optional "iscsiInterface" .text, required "lun" int32, optional "portals" texts,
        optional "readOnly" .flag, optional "secretRef" secretShape,
        required "targetPortal" .text]),
    optional "local" (.record [optional "fsType" .text, required "path" .text]),
    optional "photonPersistentDisk" (.record [optional "fsType" .text, required "pdID" .text]),
    optional "portworxVolume" (.record
      [optional "fsType" .text, optional "readOnly" .flag, required "volumeID" .text]),
    optional "quobyte" (.record
      [optional "group" .text, optional "readOnly" .flag, required "registry" .text,
        optional "tenant" .text, optional "user" .text, required "volume" .text]),
    optional "rbd" (.record
      [optional "fsType" .text, required "image" .text, optional "keyring" .text,
        required "monitors" texts, optional "pool" .text, optional "readOnly" .flag,
        optional "secretRef" secretShape, optional "user" .text]),
    optional "scaleIO" (.record
      [optional "fsType" .text, required "gateway" .text, optional "protectionDomain" .text,
        optional "readOnly" .flag, required "secretRef" secretShape, optional "sslEnabled" .flag,
        optional "storageMode" .text, optional "storagePool" .text, required "system" .text,
        optional "volumeName" .text]),
    optional "storageos" (.record
      [optional "fsType" .text, optional "readOnly" .flag, optional "secretRef" referenceShape,
        optional "volumeName" .text, optional "volumeNamespace" .text]),
    optional "vsphereVolume" (.record
      [optional "fsType" .text, optional "storagePolicyID" .text,
        optional "storagePolicyName" .text, required "volumePath" .text])]

/-- The shape of a volume. -/
def volumeShape : Shape :=
  .record
    (kindFields "PersistentVolume" ++
      [optional "spec" (.record
        ([optional "accessModes" texts, optional "capacity" (.dictionary .text),
          optional "claimRef" referenceShape, optional "mountOptions" texts,
          optional "nfs" (.record
            [required "path" .text, optional "readOnly" .flag, required "server" .text]),
          optional "nodeAffinity" (.record
            [optional "required" (.record
              [required "nodeSelectorTerms" (.list (.record
                [optional "matchExpressions" selectorTermsShape,
                  optional "matchFields" selectorTermsShape]))])]),
          optional "persistentVolumeReclaimPolicy" .text, optional "storageClassName" .text,
          optional "volumeAttributesClassName" .text, optional "volumeMode" .text] ++
          sourceFields)),
      optional "status" (.record
        [optional "lastPhaseTransitionTime" .time, optional "message" .text,
          optional "phase" .text, optional "reason" .text])])

end

/-- A reference to another object. -/
structure Reference where
  apiVersion : Option String := none
  kind : Option String := none
  objectNamespace : Option String := none
  name : Option String := none
  uid : Option String := none
  others : List (String × Json) := []

namespace Reference

def ofCanonical (value : Json) : Reference where
  apiVersion := textOf "apiVersion" value
  kind := textOf "kind" value
  objectNamespace := textOf "namespace" value
  name := textOf "name" value
  uid := textOf "uid" value
  others := further ["apiVersion", "kind", "namespace", "name", "uid"] value

def toJson (r : Reference) : Json :=
  .object <|
    member "apiVersion" (r.apiVersion.map .string) ++ member "kind" (r.kind.map .string) ++
    member "namespace" (r.objectNamespace.map .string) ++ member "name" (r.name.map .string) ++
    member "uid" (r.uid.map .string) ++ r.others

end Reference

/-- An exported directory. -/
structure ExportSource where
  server : String
  path : String
  readOnly : Option Bool := none
  deriving Repr, DecidableEq

namespace ExportSource

def ofCanonical (value : Json) : ExportSource where
  server := (textOf "server" value).getD ""
  path := (textOf "path" value).getD ""
  readOnly := (value.field? "readOnly").bind Json.bool?

def toJson (e : ExportSource) : Json :=
  .object <|
    [("server", .string e.server), ("path", .string e.path)] ++
    member "readOnly" (e.readOnly.map .bool)

end ExportSource

/-- What a volume offers. -/
structure VolumeSpec where
  capacity : Option Annotations := none
  accessModes : Option (List String) := none
  /-- The claim that the volume is bound to. -/
  claimRef : Option Reference := none
  exportSource : Option ExportSource := none
  /-- What the cluster itself shall do with a released volume. -/
  clusterReclaimPolicy : Option String := none
  storageClassName : Option String := none
  volumeMode : Option String := none
  others : List (String × Json) := []

namespace VolumeSpec

def ofCanonical (value : Json) : VolumeSpec where
  capacity := dictionaryOf "capacity" value
  accessModes := textsOf "accessModes" value
  claimRef := (value.field? "claimRef").map Reference.ofCanonical
  exportSource := (value.field? "nfs").map ExportSource.ofCanonical
  clusterReclaimPolicy := textOf "persistentVolumeReclaimPolicy" value
  storageClassName := textOf "storageClassName" value
  volumeMode := textOf "volumeMode" value
  others :=
    further ["capacity", "accessModes", "claimRef", "nfs", "persistentVolumeReclaimPolicy",
      "storageClassName", "volumeMode"] value

def toJson (s : VolumeSpec) : Json :=
  .object <|
    member "accessModes" (s.accessModes.map Json.ofStrings) ++
    member "capacity" (s.capacity.map ofDictionary) ++
    member "claimRef" (s.claimRef.map Reference.toJson) ++
    member "nfs" (s.exportSource.map ExportSource.toJson) ++
    member "persistentVolumeReclaimPolicy" (s.clusterReclaimPolicy.map .string) ++
    member "storageClassName" (s.storageClassName.map .string) ++
    member "volumeMode" (s.volumeMode.map .string) ++ s.others

end VolumeSpec

/-- The state the cluster reports for a volume. -/
structure VolumeStatus where
  phase : Option String := none
  message : Option String := none
  reason : Option String := none
  others : List (String × Json) := []

namespace VolumeStatus

def ofCanonical (value : Json) : VolumeStatus where
  phase := textOf "phase" value
  message := textOf "message" value
  reason := textOf "reason" value
  others := further ["phase", "message", "reason"] value

def toJson (s : VolumeStatus) : Json :=
  .object <|
    member "phase" (s.phase.map .string) ++ member "message" (s.message.map .string) ++
    member "reason" (s.reason.map .string) ++ s.others

end VolumeStatus

structure Volume where
  metadata : Metadata := {}
  spec : Option VolumeSpec := none
  status : Option VolumeStatus := none

namespace Volume

def ofCanonical (value : Json) : Volume where
  metadata := Metadata.ofCanonical ((value.field? "metadata").getD .null)
  spec := (value.field? "spec").map VolumeSpec.ofCanonical
  status := (value.field? "status").map VolumeStatus.ofCanonical

/-- Read a volume, every member of which must have its shape. -/
def read (depth : Nat) (draft : Json.Draft) : Json.Outcome Volume :=
  (volumeShape.read depth draft).map ofCanonical

/-- Read a volume from a plain value. -/
def ofJson? : Json → Option Volume :=
  ofPlain? read

def toJson (v : Volume) : Json :=
  .object <|
    [("apiVersion", .string "v1"), ("kind", .string "PersistentVolume"),
      ("metadata", v.metadata.toJson)] ++
    member "spec" (v.spec.map VolumeSpec.toJson) ++
    member "status" (v.status.map VolumeStatus.toJson)

/-- The annotations, none where the object has none. -/
def annotations (v : Volume) : Annotations :=
  v.metadata.annotations.getD ∅

end Volume

end DatasetProvisioner.Manifest
