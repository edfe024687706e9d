import DatasetProvisioner.Manifest.Metadata

/-!
# Claims

A request for a volume as the cluster stores it. Claims are read and never written here, so only
the fields that matter to provisioning are kept; all others must still have their shape.
-/
namespace DatasetProvisioner.Manifest

open Shape in
/-- The shape of a claim. -/
def claimShape : Shape :=
  .record
    (kindFields "PersistentVolumeClaim" ++
      [optional "spec" (.record
        [optional "accessModes" texts,
          optional "dataSource" (.record
            [optional "apiGroup" .text, required "kind" .text, required "name" .text]),
          optional "dataSourceRef" (.record
            [optional "apiGroup" .text, required "kind" .text, required "name" .text,
              optional "namespace" .text]),
          optional "resources" (.record
            [optional "limits" (.dictionary .text), optional "requests" (.dictionary .text)]),
          optional "selector" (.record
            [optional "matchExpressions" (.list (.record
              [required "key" .text, required "operator" .text, optional "values" texts])),
              optional "matchLabels" (.dictionary .text)]),
          optional "storageClassName" .text, optional "volumeAttributesClassName" .text,
          optional "volumeMode" .text, optional "volumeName" .text]),
      optional "status" (.record
        [optional "accessModes" texts, optional "allocatedResourceStatuses" (.dictionary .text),
          optional "allocatedResources" (.dictionary .text),
          optional "capacity" (.dictionary .text),
          optional "conditions" (.list (.record
            [optional "lastProbeTime" .time, optional "lastTransitionTime" .time,
              optional "message" .text, optional "reason" .text, required "status" .text,
              required "type" .text])),
          optional "currentVolumeAttributesClassName" .text,
          optional "modifyVolumeStatus" (.record
            [required "status" .text, optional "targetVolumeAttributesClassName" .text]),
          optional "phase" .text])])

/-- What a claim asks for. -/
structure ClaimSpec where
  accessModes : Option (List String) := none
  /-- The requested amounts by resource. -/
  requests : Option Annotations := none
  storageClassName : Option String := none
  volumeMode : Option String := none
  /-- The volume it is bound to, or wants to be. -/
  volumeName : Option String := none

structure Claim where
  metadata : Metadata := {}
  spec : Option ClaimSpec := none
  phase : Option String := none

namespace Claim

def ofCanonical (value : Json) : Claim where
  metadata := Metadata.ofCanonical ((value.field? "metadata").getD .null)
  spec := (value.field? "spec").map fun spec => {
    accessModes := textsOf "accessModes" spec
    requests := (spec.field? "resources").bind (dictionaryOf "requests")
    storageClassName := textOf "storageClassName" spec
    volumeMode := textOf "volumeMode" spec
    volumeName := textOf "volumeName" spec }
  phase := (value.field? "status").bind (textOf "phase")

/-- Read a claim, every member of which must have its shape. -/
def read (depth : Nat) (draft : Json.Draft) : Json.Outcome Claim :=
  (claimShape.read depth draft).map ofCanonical

/-- Read a claim from a plain value. -/
def ofJson? : Json → Option Claim :=
  ofPlain? read

end Claim

end DatasetProvisioner.Manifest
