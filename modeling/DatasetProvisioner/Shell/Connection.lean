import DatasetProvisioner.Text.Numeral

/-!
# Connections to a storage host

How the secure-shell client is called: the arguments that set up a connection, that run a command
over it, and that close one which is kept open for several commands.
-/
namespace DatasetProvisioner.Shell

structure Connection where
  host : String
  port : Nat := 22
  user : Option String := none
  privateKeyFile : Option String := none
  checksHostKey : Bool := false
  /-- In seconds. -/
  timeout : Nat := 30
  /-- Where the socket of a connection is that is kept open and shared. -/
  controlPath : Option String := none
  deriving Repr, DecidableEq

namespace Connection

/-- The connection of given settings. An empty user is none, and a timeout lasts a second at
least. -/
def ofSettings (host : String) (port : Nat) (user privateKeyFile : Option String)
    (checksHostKey : Bool) (timeout : Nat) (controlPath : Option String) : Connection where
  host
  port
  user := user.filter (· ≠ "")
  privateKeyFile
  checksHostKey
  timeout := max timeout 1
  controlPath

/-- An option of the client. -/
def option (name value : String) : List String :=
  ["-o", name ++ "=" ++ value]

/-- How long a shared connection stays open without use, in seconds. -/
def idleTime : Nat := 300

/-- The arguments that set up a connection. -/
def setup (c : Connection) : List String :=
  option "BatchMode" "yes" ++ option "ConnectTimeout" (Text.decimal c.timeout) ++
    option "StrictHostKeyChecking" (if c.checksHostKey then "yes" else "no") ++
    (if c.checksHostKey then [] else option "UserKnownHostsFile" "/dev/null") ++
    (match c.controlPath with
      | some path =>
        option "ControlMaster" "auto" ++ option "ControlPath" path ++
          option "ControlPersist" (Text.decimal idleTime)
      | none => []) ++
    ["-p", Text.decimal c.port] ++
    (c.privateKeyFile.elim [] fun file => ["-i", file]) ++
    c.user.elim [] fun user => ["-l", user]

/-- The arguments that run a command. -/
def commandArguments (c : Connection) (command : String) : List String :=
  c.setup ++ [c.host, "--", command]

/-- The arguments that close a shared connection. -/
def closeArguments (c : Connection) : List String :=
  c.setup ++ ["-O", "exit", c.host]

end Connection

end DatasetProvisioner.Shell
