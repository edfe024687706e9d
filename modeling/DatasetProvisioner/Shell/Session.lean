import DatasetProvisioner.Failure
import DatasetProvisioner.Program
import DatasetProvisioner.Shell.Connection
import DatasetProvisioner.Storage.Call
import DatasetProvisioner.Text.Basic
import DatasetProvisioner.Text.Bytes

/-!
# Sessions on a storage host

Commands run one after the other through the secure-shell client. A shared connection counts as
open once a command got through; where the client itself fails it is closed, and the next command
opens another.
-/
namespace DatasetProvisioner.Shell

/-- How a run of the client ended. -/
inductive ClientRun where
  /-- It could not be started. -/
  | notStarted (reason : String)
  /-- It ended by itself, having written bytes to its two channels. -/
  | exited (status : Int) (output errors : List Nat)
  | killed
  deriving Repr, DecidableEq

/-- A run of the client with a list of arguments. -/
structure ClientCall where
  arguments : List String
  deriving Repr, DecidableEq

abbrev clientInterface : Interface := ⟨ClientCall, fun _ => ClientRun⟩

/-- The status with which the client reports its own failures. -/
def clientFailure : Int := 255

/-- A connection, and whether a shared one is believed to be open. -/
structure Session where
  connection : Connection
  isOpen : Bool := false
  deriving Repr, DecidableEq

namespace Session

/-- Close a shared connection, if one is open. What the client says to that does not matter. -/
def close (session : Session) : Program clientInterface Session := do
  let closed := { session with isOpen := false }
  if session.connection.controlPath.isSome && session.isOpen then
    let _ ← Program.call (I := clientInterface) ⟨session.connection.closeArguments⟩
    return closed
  else return closed

/-- Give up on a command. -/
def failed (session : Session) (reason : String) :
    Program clientInterface (Except Failure Storage.CommandOutput × Session) := do
  let session ← session.close
  return (.error (.remoteTransport session.connection.host reason), session)

/-- Everything a run wrote. Each channel is read as text by itself. -/
def written (output errors : List Nat) : String :=
  Text.ofBytes output ++ Text.ofBytes errors

/-- Run a command. -/
def exec (session : Session) (command : String) :
    Program clientInterface (Except Failure Storage.CommandOutput × Session) := do
  match ← Program.call (I := clientInterface)
      ⟨session.connection.commandArguments command⟩ with
  | .notStarted reason => session.failed reason
  | .killed => session.failed "ssh terminated by signal"
  | .exited status output errors =>
    if status = clientFailure then session.failed (Text.trim (written output errors))
    else
      let isOpen := session.isOpen || session.connection.controlPath.isSome
      return (.ok ⟨status, written output errors⟩, { session with isOpen })

end Session

end DatasetProvisioner.Shell
