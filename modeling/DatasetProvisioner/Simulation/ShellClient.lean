import DatasetProvisioner.Shell.Session

/-!
# A scripted secure-shell client

A client that ends every run in the same way and keeps the arguments of each. It does not start
where it is not installed, nor with an argument that holds a NUL or is too long.
-/
namespace DatasetProvisioner.Simulation

open Shell

structure ShellClient where
  isInstalled : Bool := true
  /-- How a run ends that was started. -/
  ending : ClientRun := .exited 0 [] []
  /-- The arguments of each start, the latest first. -/
  starts : List (List String) := []

/-- How the end of a run is seen: of its status the lowest eight bits. -/
def seenEnding : ClientRun → ClientRun
  | .exited status output errors => .exited (status % Width.values 8) output errors
  | ending => ending

/-- The least number of bytes that an argument may not have. -/
def argumentLimit : Nat := 131072

namespace ShellClient

def onCall (client : ShellClient) (call : ClientCall) : ClientRun × ShellClient :=
  if call.arguments.any fun argument => '\x00' ∈ argument.toList then
    (.notStarted "nul byte found in provided data", client)
  else if !client.isInstalled then
    (.notStarted "No such file or directory (os error 2)", client)
  else if call.arguments.any fun argument => argumentLimit ≤ argument.utf8ByteSize then
    (.notStarted "Argument list too long (os error 7)", client)
  else (seenEnding client.ending, { client with starts := call.arguments :: client.starts })

/-- Run a program that calls the client. -/
def run {α : Type} (client : ShellClient) (program : Program clientInterface α) :
    Option α × ShellClient :=
  program.runWith (fun call client =>
    let (ending, client) := client.onCall call
    (some ending, client)) client

end ShellClient

end DatasetProvisioner.Simulation
