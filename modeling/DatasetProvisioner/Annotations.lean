import Std.Data.ExtTreeMap

/-!
# Annotations

Annotations are the one channel between claim authors, the reconciler and the storage backends.
This module holds the set type, the keys this controller owns or reads, the translation of a
claim's annotations into the working set of a provisioning attempt, and the two strips that take
keys away from claim authors.
-/
namespace DatasetProvisioner

/-- A finite map from keys to values, listed in the order of the keys' code points. -/
abbrev Annotations := Std.ExtTreeMap String String compare

namespace Key

/-- What every key of this controller starts with. -/
def base : String := "zfs-pv-provisioner.io/"

/-- The identity of a controller that is not given one. -/
def defaultIdentity : String := "zfs-pv-provisioner.io"

/-! ## Keys of the cluster -/

def betaProvisioner : String := "volume.beta.kubernetes.io/storage-provisioner"
def gaProvisioner : String := "volume.kubernetes.io/storage-provisioner"
def betaStorageClass : String := "volume.beta.kubernetes.io/storage-class"

/-! ## Keys of the volume protocol -/

/-- Names the controller that owns a volume. -/
def managedBy : String := "managed-by"
def volumeUuid : String := "zfs-pv-provisioner.io/volume-uuid"
def managedProvider : String := "zfs-pv-provisioner.io/managed-provider"
def storageProvisioner : String := "zfs-pv-provisioner.io/storage-provisioner"
def storageClass : String := "zfs-pv-provisioner.io/storage-class"
def claimNamespace : String := "zfs-pv-provisioner.io/pvc-namespace"
def claimName : String := "zfs-pv-provisioner.io/pvc-name"
def volumeTag : String := "zfs-pv-provisioner.io/pv-tag"
def volumeRef : String := "zfs-pv-provisioner.io/pv-ref"
def cloneFrom : String := "zfs-pv-provisioner.io/clone-from"
def cloneRef : String := "zfs-pv-provisioner.io/clone-ref"
def cloneSnapshot : String := "zfs-pv-provisioner.io/clone-snapshot"
def reclaimPolicy : String := "zfs-pv-provisioner.io/reclaim-policy"
def releasedAt : String := "zfs-pv-provisioner.io/released-at"
def volumeMode : String := "zfs-pv-provisioner.io/volume-mode"
def mountProtocol : String := "zfs-pv-provisioner.io/mount-protocol"
def exportHost : String := "zfs-pv-provisioner.io/nfs-host"
def datasetPath : String := "zfs-pv-provisioner.io/nfs-path"
def exportPath : String := "zfs-pv-provisioner.io/nfs-export"

/-! ## Keys that tune a dataset -/

def blockSize : String := "zfs-pv-provisioner.io/blocksize"
def checksum : String := "zfs-pv-provisioner.io/checksum"
def compression : String := "zfs-pv-provisioner.io/compression"
def accessTime : String := "zfs-pv-provisioner.io/atime"
def exec : String := "zfs-pv-provisioner.io/exec"
def sync : String := "zfs-pv-provisioner.io/sync"
def snapshotDirectory : String := "zfs-pv-provisioner.io/snapdir"
def caseSensitivity : String := "zfs-pv-provisioner.io/casesensitive"
def logBias : String := "zfs-pv-provisioner.io/logbias"

/-- The keys that only the controller may set. -/
def internalOnly : List String := [cloneRef, cloneSnapshot]

/-- A key with the base in front, unless it starts with it. -/
def qualified (name : String) : String :=
  if base.toList.isPrefixOf name.toList then name else base ++ name

/-- The key of the working set under which a claim's `key` is kept: the cluster's own keys for the
provisioner and the class are renamed. -/
def workingKey (key : String) : String :=
  if key = betaProvisioner || key = gaProvisioner then storageProvisioner
  else if key = betaStorageClass then storageClass
  else key

end Key

namespace Annotations

open Key

/-- The working set of a claim: its coordinates, then each of its own annotations in key order
under its working key, a later one over an earlier one. -/
def ofClaim (claimNamespace claimName : String) (own : Annotations) : Annotations :=
  own.foldl (fun set key value => set.insert (workingKey key) value)
    ((∅ : Annotations).insert Key.claimNamespace claimNamespace
      |>.insert Key.claimName claimName)

/-- The provisioner that a claim names: the general-availability key wins over the beta key. -/
def provisioner? (own : Annotations) : Option String :=
  own[gaProvisioner]? <|> own[betaProvisioner]?

/-- Remove every key of a list. -/
def eraseAll (set : Annotations) (keys : List String) : Annotations :=
  keys.foldl (fun set key => set.erase key) set

/-- Take away the keys that only the controller may set. -/
def stripInternal (set : Annotations) : Annotations :=
  set.eraseAll internalOnly

/-- Take away the denied keys, and list those that were there, each once. -/
def withhold : List String → Annotations → List String × Annotations
  | [], set => ([], set)
  | key :: denied, set =>
    if key ∈ set then
      let (taken, rest) := withhold denied (set.erase key)
      (key :: taken, rest)
    else withhold denied set

end Annotations

/-- Annotations in use while a volume is made, with the keys that must not outlive the attempt. -/
structure TransientScope where
  annotations : Annotations
  transient : List String := []

namespace TransientScope

/-- Set a key for the duration of the scope. -/
def insertTransient (scope : TransientScope) (key value : String) : TransientScope where
  annotations := scope.annotations.insert key value
  transient := if key ∈ scope.transient then scope.transient else scope.transient ++ [key]

/-- Set a key that outlives the scope unless it was also set for the duration of it. -/
def insert (scope : TransientScope) (key value : String) : TransientScope :=
  { scope with annotations := scope.annotations.insert key value }

/-- Remove a key. -/
def erase (scope : TransientScope) (key : String) : TransientScope :=
  { scope with annotations := scope.annotations.erase key }

/-- End the scope: what was set for its duration is removed, whatever wrote it last. -/
def close (scope : TransientScope) : Annotations :=
  scope.annotations.eraseAll scope.transient

end TransientScope

end DatasetProvisioner
