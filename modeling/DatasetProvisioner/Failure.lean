/-!
# Failures

Everything that can go wrong, by cause. A failure decides what the controller does with the event
that met it, and `message` gives its text where this library words it.
-/
namespace DatasetProvisioner

/-- A failed call to the cluster. -/
inductive ClusterFault where
  /-- The server answered with an error of its own. -/
  | status (code : Nat) (message reason : String)
  /-- No usable answer: an unreachable server, a request that cannot be sent, an answer that
  cannot be read. -/
  | noAnswer
  deriving Repr, DecidableEq

inductive Failure where
  | internal (reason : String)
  | configuration (reason : String)
  | cluster (fault : ClusterFault)
  | watchStream (reason : String)
  | noStorageClass (storageClass : String)
  | cloneSource (claimNamespace sourceClaim reason : String)
  | backendDeclined (storageClass claimNamespace claimName : String)
  | missingKey (key : String)
  | invalidValue (key value : String)
  | remoteTransport (host reason : String)
  | remoteCommand (command : String) (status : Int) (output : String)
  | managementConnection
  | managementStatus (operation : String) (status : Nat) (body : String)
  | backendOperation (backend operation reason : String)
  | capacity (reason : String)
  | yaml
  | json
  | io (reason : String)
  deriving Repr, DecidableEq

/-- What the controller does after a failed event. -/
inductive FailureAction where
  /-- The event is dropped. -/
  | dropEvent
  /-- The event is dropped and the session with the cluster is set up anew. -/
  | resetSession
  deriving Repr, DecidableEq

namespace Failure

/-- Failures of the session with the cluster ask for a new one. -/
def action : Failure → FailureAction
  | .cluster _ | .io _ | .json => .resetSession
  | _ => .dropEvent

/-- Whether the same attempt may succeed later. -/
def isTransient : Failure → Bool
  | .cluster _ | .watchStream _ | .remoteTransport _ _ | .managementConnection => true
  | _ => false

/-- The text of a failure; none where the words are those of a protocol library beneath. -/
def message : Failure → Option String
  | .internal reason => some s!"Internal error: {reason}"
  | .configuration reason => some s!"Configuration error: {reason}"
  | .cluster _ => none
  | .watchStream reason => some s!"Watch stream error: {reason}"
  | .noStorageClass storageClass =>
    some s!"No storage provider configured for storage class '{storageClass}'"
  | .cloneSource claimNamespace sourceClaim reason =>
    some s!"Cannot clone from '{sourceClaim}' in namespace {claimNamespace}: {reason}"
  | .backendDeclined storageClass claimNamespace claimName =>
    some s!"Backend for storage class '{storageClass}' declined claim {claimNamespace}/{claimName}"
  | .missingKey key => some s!"Required annotation missing: {key}"
  | .invalidValue key value => some s!"Invalid value for annotation {key}: {value}"
  | .remoteTransport host reason => some s!"Remote transport error on {host}: {reason}"
  | .remoteCommand command status _ =>
    some s!"Remote command failed with exit status {status}: {command}"
  | .managementConnection => none
  | .managementStatus operation status body =>
    some s!"Management API returned {status} for {operation}: {body}"
  | .backendOperation backend operation reason =>
    some s!"Backend operation failed: {backend} - {operation}: {reason}"
  | .capacity reason => some s!"Capacity parse error: {reason}"
  | .yaml => none
  | .json => none
  | .io reason => some s!"IO error: {reason}"

end Failure

end DatasetProvisioner
