import DatasetProvisioner.Failure
import DatasetProvisioner.Manifest.Claim
import DatasetProvisioner.Manifest.Volume
import DatasetProvisioner.Program

/-!
# Calls to the cluster, and stored objects

What the controller asks of the cluster's interface, apart from the watches. A cluster may be a plain
store of claims and volumes: a look-up finds what was last put under a name, and a call changes the
one object that it names.
-/
namespace DatasetProvisioner.Cluster

open Manifest

inductive Call where
  | readClaim (claimNamespace claimName : String)
  | readVolume (volumeName : String)
  | createVolume (volume : Volume)
  | deleteVolume (volumeName : String)
  | annotateVolume (volumeName key value : String)
  | resetSession

/-- A look-up answers with nothing where there is no such object, a creation with the object as it
was stored. -/
abbrev Call.Answer : Call → Type
  | .readClaim _ _ => Except Failure (Option Claim)
  | .readVolume _ => Except Failure (Option Volume)
  | .createVolume _ => Except Failure Volume
  | .deleteVolume _ => Except Failure Unit
  | .annotateVolume _ _ _ => Except Failure Unit
  | .resetSession => Except Failure Unit

abbrev interface : Interface := ⟨Call, Call.Answer⟩

/-! ## Stored objects -/

structure Store where
  claims : List Claim := []
  volumes : Std.ExtTreeMap String Volume compare := ∅

namespace Store

/-- Whether a claim is stored under a namespace and a name. -/
def isAt (claimNamespace claimName : String) (claim : Claim) : Bool :=
  claim.metadata.objectNamespace.getD "" == claimNamespace &&
    claim.metadata.name.getD "" == claimName

def claim? (store : Store) (claimNamespace claimName : String) : Option Claim :=
  store.claims.find? (isAt claimNamespace claimName)

/-- Store a claim in place of the one of its name. -/
def putClaim (store : Store) (claim : Claim) : Store :=
  let others := store.claims.filter fun c => !isAt (claim.metadata.objectNamespace.getD "")
    (claim.metadata.name.getD "") c
  { store with claims := claim :: others }

def volume? (store : Store) (volumeName : String) : Option Volume :=
  store.volumes[volumeName]?

/-- Store a volume in place of the one of its name. -/
def putVolume (store : Store) (volume : Volume) : Store :=
  { store with volumes := store.volumes.insert (volume.metadata.name.getD "") volume }

def dropVolume (store : Store) (volumeName : String) : Store :=
  { store with volumes := store.volumes.erase volumeName }

/-- Set an annotation of a volume, if it is stored. -/
def annotate (store : Store) (volumeName key value : String) : Store :=
  match store.volume? volumeName with
  | none => store
  | some volume =>
    let annotations := some (volume.annotations.insert key value)
    { store with
      volumes := store.volumes.insert volumeName
        { volume with metadata := { volume.metadata with annotations } } }

/-- Carry out a call. -/
def perform (store : Store) : (c : Call) → c.Answer × Store
  | .readClaim claimNamespace claimName => (.ok (store.claim? claimNamespace claimName), store)
  | .readVolume volumeName => (.ok (store.volume? volumeName), store)
  | .createVolume volume => (.ok volume, store.putVolume volume)
  | .deleteVolume volumeName => (.ok (), store.dropVolume volumeName)
  | .annotateVolume volumeName key value => (.ok (), store.annotate volumeName key value)
  | .resetSession => (.ok (), store)

end Store

end DatasetProvisioner.Cluster
