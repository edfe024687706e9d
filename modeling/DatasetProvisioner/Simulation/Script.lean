import DatasetProvisioner.Failure
import DatasetProvisioner.Json.Value
import DatasetProvisioner.Storage.Call

/-!
# Scripts of replies

A script says how peers answer: for each method a list of replies, used up one for each call. Once
they are used up a peer answers as a peer does that has nothing to complain of.
-/
namespace DatasetProvisioner.Simulation

/-- How a command ends on a storage host. -/
inductive ExecReply where
  | output (output : Storage.CommandOutput)
  /-- The host cannot be reached. -/
  | unreachable (reason : String)
  /-- The command never ends. -/
  | silence
  deriving Repr, DecidableEq

/-- How a management interface answers. -/
inductive ManagementReply where
  | standard
  /-- The operation fails with a status. -/
  | status (status : Nat)
  | value (value : Json)
  deriving Repr

/-- How the cluster answers. -/
inductive ClusterReply where
  | standard
  | failure (failure : Failure)
  deriving Repr, DecidableEq

namespace ExecReply

/-- A reply as a script has it: an exit status and what is written, a reason why the host cannot be
reached, or a mark that the command hangs. -/
def ofJson (value : Json) : ExecReply :=
  match (value.field? "transport").bind Json.string?, (value.field? "hang").bind Json.bool? with
  | some reason, _ => .unreachable reason
  | none, some true => .silence
  | none, _ =>
    .output ⟨((value.field? "status").bind Json.int64?).getD 0,
      ((value.field? "output").bind Json.string?).getD ""⟩

end ExecReply

namespace ManagementReply

/-- A reply as a script has it: a status, a value, or neither. -/
def ofJson (value : Json) : ManagementReply :=
  match (value.field? "status").bind Json.int64?, value.field? "value" with
  | some code, _ => .status code.toNat
  | none, some v => .value v
  | none, none => .standard

end ManagementReply

/-- The failure that a script names. -/
def failureNamed : String → Failure
  | "io" => .io "connection reset by peer"
  | "kube" => .cluster (.status 500 "boom" "InternalError")
  | "watch" => .watchStream "410 Gone"
  | other => .internal other

namespace ClusterReply

/-- A reply as a script has it: the name of a failure, or that there is none. -/
def ofJson (value : Json) : ClusterReply :=
  match value.string? with
  | none | some "ok" => .standard
  | some name => .failure (failureNamed name)

end ClusterReply

structure Script where
  exec : List ExecReply := []
  /-- By method. -/
  management : List (String × List ManagementReply) := []
  /-- By method. -/
  cluster : List (String × List ClusterReply) := []
  deriving Repr

/-- The methods of the cluster. -/
def clusterMethods : List String :=
  ["read_claim", "read_volume", "create_volume", "delete_volume", "annotate_volume",
    "reset_session"]

namespace Script

/-- Add the replies of a method. -/
def add (script : Script) (method : String) (replies : List Json) : Script :=
  if method = "exec" then { script with exec := replies.map ExecReply.ofJson }
  else if method ∈ clusterMethods then
    { script with cluster := (method, replies.map ClusterReply.ofJson) :: script.cluster }
  else
    { script with management := (method, replies.map ManagementReply.ofJson) :: script.management }

/-- Read a script: an object with a list of replies for each method. -/
def ofJson : Json → Script
  | .object members =>
    members.foldl (fun script m => script.add m.1 (m.2.array?.getD [])) {}
  | _ => {}

end Script

/-- Take the next reply of a method. -/
def nextReply? {ρ : Type} (method : String) :
    List (String × List ρ) → Option ρ × List (String × List ρ)
  | [] => (none, [])
  | (name, replies) :: rest =>
    if name = method then
      match replies with
      | reply :: replies => (some reply, (name, replies) :: rest)
      | [] => (none, (name, []) :: rest)
    else
      let (reply?, rest) := nextReply? method rest
      (reply?, (name, replies) :: rest)

namespace Script

def nextExec (script : Script) : ExecReply × Script :=
  match script.exec with
  | reply :: exec => (reply, { script with exec })
  | [] => (.output ⟨0, ""⟩, script)

def nextManagement (script : Script) (method : String) : ManagementReply × Script :=
  let (reply?, management) := nextReply? method script.management
  (reply?.getD .standard, { script with management })

def nextCluster (script : Script) (method : String) : ClusterReply × Script :=
  let (reply?, cluster) := nextReply? method script.cluster
  (reply?.getD .standard, { script with cluster })

end Script

end DatasetProvisioner.Simulation
