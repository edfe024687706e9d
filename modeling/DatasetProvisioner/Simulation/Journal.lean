import DatasetProvisioner.Cluster.Watch
import DatasetProvisioner.Storage.Call

/-!
# Journals of calls

What peers were asked for, and how a journal shows it: every call under the name of its method with
its arguments by name.
-/
namespace DatasetProvisioner.Simulation

/-- A call as a journal has it. -/
inductive Entry where
  | exec (host command : String)
  | management (call : Management.Call)
  | cluster (call : Cluster.Call)
  | watch (watched : Cluster.Watched)

/-- The name of a method of the management interface. -/
def managementMethod : Management.Call → String
  | .createDataset _ => "create_dataset"
  | .getDataset _ => "get_dataset"
  | .updateQuota _ _ => "update_quota"
  | .deleteDataset _ => "delete_dataset"
  | .createSnapshot _ _ _ => "create_snapshot"
  | .cloneSnapshot _ _ => "clone_snapshot"
  | .deleteSnapshot _ => "delete_snapshot"
  | .createShare _ _ _ => "create_nfs_share"
  | .findShares _ => "find_nfs_shares"
  | .deleteShare _ => "delete_nfs_share"
  | .setMode _ _ => "set_mode"

/-- The name of a method of the cluster. -/
def clusterMethod : Cluster.Call → String
  | .readClaim _ _ => "read_claim"
  | .readVolume _ => "read_volume"
  | .createVolume _ => "create_volume"
  | .deleteVolume _ => "delete_volume"
  | .annotateVolume _ _ _ => "annotate_volume"
  | .resetSession => "reset_session"

/-- The arguments of a call to the management interface. -/
def managementArguments : Management.Call → List (String × Json)
  | .createDataset request => [("body", request.body)]
  | .getDataset id => [("id", .string id)]
  | .updateQuota id quota => [("id", .string id), ("body", quota.body)]
  | .deleteDataset id => [("id", .string id)]
  | .createSnapshot dataset snapshot volumeRef =>
    [("dataset", .string dataset), ("name", .string snapshot), ("pv_ref", .string volumeRef)]
  | .cloneSnapshot snapshot dataset =>
    [("snapshot", .string snapshot), ("dataset", .string dataset)]
  | .deleteSnapshot id => [("id", .string id)]
  | .createShare path readOnly comment =>
    [("path", .string path), ("read_only", .bool readOnly), ("comment", .string comment)]
  | .findShares path => [("path", .string path)]
  | .deleteShare id => [("id", .integer id)]
  | .setMode path mode => [("path", .string path), ("mode", .string (Text.padded 8 1 mode))]

/-- The arguments of a call to the cluster. -/
def clusterArguments : Cluster.Call → List (String × Json)
  | .readClaim claimNamespace claimName =>
    [("namespace", .string claimNamespace), ("name", .string claimName)]
  | .readVolume volumeName => [("name", .string volumeName)]
  | .createVolume volume => [("volume", volume.toJson)]
  | .deleteVolume volumeName => [("name", .string volumeName)]
  | .annotateVolume volumeName key value =>
    [("name", .string volumeName), ("key", .string key), ("value", .string value)]
  | .resetSession => []

namespace Entry

/-- The members that show a call. -/
def members : Entry → List (String × Json)
  | .exec host command =>
    [("call", .string "exec"), ("host", .string host), ("command", .string command)]
  | .management c => ("call", .string (managementMethod c)) :: managementArguments c
  | .cluster c => ("call", .string (clusterMethod c)) :: clusterArguments c
  | .watch .claims => [("call", .string "watch_claims")]
  | .watch .volumes => [("call", .string "watch_volumes")]

def toJson (entry : Entry) : Json :=
  .object entry.members

end Entry

end DatasetProvisioner.Simulation
