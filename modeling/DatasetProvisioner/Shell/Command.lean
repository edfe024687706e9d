import DatasetProvisioner.Text.Numeral

/-!
# Commands on a storage host

The commands that the shell backend runs, as data, and their text for a POSIX shell. Program words
are plain; everything that comes from a volume is quoted.
-/
namespace DatasetProvisioner.Shell

/-- A character inside single quotes: a quote closes them, stands escaped, and opens them again. -/
def quotedChar (c : Char) : List Char :=
  if c = '\'' then ['\'', '\\', '\'', '\''] else [c]

/-- Quote a text for a POSIX shell. -/
def quote (s : String) : String :=
  String.ofList ('\'' :: s.toList.flatMap quotedChar ++ ['\''])

/-- What a command does. -/
inductive Action where
  | create (dataset : String) (properties : List (String × String))
  | snapshot (target : String) (properties : List (String × String))
  | clone (origin dataset : String) (properties : List (String × String))
  | destroy (target : String)
  | changeMode (path : String) (mode : Nat)
  deriving Repr, DecidableEq

/-- A command, run with the rights of the super-user or not. -/
structure Command where
  privileged : Bool
  action : Action
  deriving Repr, DecidableEq

namespace Action

/-- The words that name the program and what it shall do. -/
def programWords : Action → List String
  | .create _ _ => ["zfs", "create"]
  | .snapshot _ _ => ["zfs", "snapshot"]
  | .clone _ _ _ => ["zfs", "clone"]
  | .destroy _ => ["zfs", "destroy"]
  | .changeMode _ mode => ["chmod", Text.padded 8 4 mode]

/-- The properties that are set on what is made. -/
def properties : Action → List (String × String)
  | .create _ properties | .snapshot _ properties | .clone _ _ properties => properties
  | .destroy _ | .changeMode _ _ => []

/-- What the command works on. -/
def targets : Action → List String
  | .create target _ | .snapshot target _ | .destroy target | .changeMode target _ => [target]
  | .clone origin target _ => [origin, target]

end Action

namespace Command

/-- The words in front of the program's. -/
def privilegeWords (command : Command) : List String :=
  if command.privileged then ["sudo"] else []

/-- The argument vector that the host shall see. -/
def arguments (command : Command) : List String :=
  command.privilegeWords ++ command.action.programWords ++
    (command.action.properties.flatMap fun p => ["-o", p.1 ++ "=" ++ p.2]) ++
    command.action.targets

/-- The command for a shell: its words with one blank between them. -/
def text (command : Command) : String :=
  " ".intercalate
    (command.privilegeWords ++ command.action.programWords ++
      (command.action.properties.flatMap fun p => ["-o", quote (p.1 ++ "=" ++ p.2)]) ++
      command.action.targets.map quote)

end Command

end DatasetProvisioner.Shell
