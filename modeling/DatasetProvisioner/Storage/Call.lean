import DatasetProvisioner.Dataset.Request
import DatasetProvisioner.Failure
import DatasetProvisioner.Program
import DatasetProvisioner.Shell.Command
import DatasetProvisioner.Timestamp

/-!
# Calls of the storage backends

A backend runs commands on a host, or calls a management interface, and reads the clock. The
management interface of a storage appliance offers operations on datasets, snapshots, shares and
permissions.
-/
namespace DatasetProvisioner.Management

inductive Call where
  | createDataset (request : Dataset.Request)
  | getDataset (id : String)
  | updateQuota (id : String) (quota : Dataset.Quota)
  | deleteDataset (id : String)
  | createSnapshot (dataset snapshot volumeRef : String)
  | cloneSnapshot (snapshot dataset : String)
  | deleteSnapshot (id : String)
  | createShare (path : String) (readOnly : Bool) (comment : String)
  | findShares (path : String)
  | deleteShare (id : Int)
  | setMode (path : String) (mode : Nat)

/-- A new snapshot answers with its full name, a look-up with nothing where there is no dataset,
and a search with the numbers of the shares. -/
abbrev Call.Answer : Call → Type
  | .createDataset _ => Except Failure Dataset.Info
  | .getDataset _ => Except Failure (Option Dataset.Info)
  | .createSnapshot _ _ _ => Except Failure String
  | .findShares _ => Except Failure (List Int)
  | _ => Except Failure Unit

end DatasetProvisioner.Management

namespace DatasetProvisioner.Storage

/-- What a command left behind: its exit status and everything it wrote. -/
structure CommandOutput where
  exitStatus : Int
  output : String
  deriving Repr, DecidableEq

def CommandOutput.succeeded (output : CommandOutput) : Bool :=
  output.exitStatus == 0

inductive Call where
  | exec (host : String) (command : Shell.Command)
  | management (call : Management.Call)
  | clock

abbrev Call.Answer : Call → Type
  | .exec _ _ => Except Failure CommandOutput
  | .management call => call.Answer
  | .clock => Timestamp

abbrev interface : Interface := ⟨Call, Call.Answer⟩

end DatasetProvisioner.Storage
