import DatasetProvisioner.Configuration.Settings
import DatasetProvisioner.Registry
import DatasetProvisioner.Text.Basic

/-!
# Valid settings

A configuration is taken from a text or a file only if its storage classes are named, each once,
and its default class is one of them. What it leaves out then has a value of its own.
-/
namespace DatasetProvisioner.Configuration

/-- Why a file cannot be read. -/
inductive FileFault where
  | notFound
  | notDirectory
  | isDirectory
  | nameTooLong
  /-- The path is none that a file could have. -/
  | holdsNul
  deriving Repr, DecidableEq

def FileFault.message : FileFault → String
  | .notFound => "No such file or directory (os error 2)"
  | .notDirectory => "Not a directory (os error 20)"
  | .isDirectory => "Is a directory (os error 21)"
  | .nameTooLong => "File name too long (os error 36)"
  | .holdsNul => "file name contained an unexpected NUL byte"

/-- What is wrong with settings. -/
inductive Fault where
  | unreadable (path : String) (fault : FileFault)
  | unnamedClass
  | classes (fault : RegistryFault)
  | missingField (name : String)
  | unknownProvider (name : String)
  | invalidQuotaMode (text : String)
  | invalidUnixMode (text : String)
  | invalidReclaimPolicy (text storageClass : String)
  deriving Repr, DecidableEq

def Fault.message : Fault → String
  | .unreadable path fault => s!"cannot read {path}: {fault.message}"
  | .unnamedClass => "storage provider entry without a storageClass"
  | .classes fault => fault.message
  | .missingField name => s!"missing required field {name}"
  | .unknownProvider name => s!"unknown management provider '{name}'"
  | .invalidQuotaMode text => s!"invalid zfs.quotaMode '{text}'"
  | .invalidUnixMode text => s!"invalid zfs.unixMode '{text}'"
  | .invalidReclaimPolicy text storageClass =>
    s!"invalid reclaimPolicy '{text}' for storage class {storageClass}"

/-- A fault of settings as a failure. -/
def Fault.failure (fault : Fault) : Failure :=
  .configuration fault.message

/-- The name of a class, which must not be blank. -/
def ClassSettings.className (settings : ClassSettings) : Except Fault String :=
  match settings.storageClass.filter fun name => !Text.isBlankText name with
  | some name => .ok name
  | none => .error .unnamedClass

/-- The names of classes, after those already seen; none may come twice. -/
def classNames (seen : List String) : List ClassSettings → Except Fault (List String)
  | [] => .ok seen
  | settings :: rest => do
    let name ← settings.className
    if name ∈ seen then throw (.classes (.duplicateClass name))
    classNames (seen ++ [name]) rest

namespace Settings

/-- Check the rules that do not depend on a backend. -/
def validate (settings : Settings) : Except Fault Unit := do
  let names ← classNames [] settings.storageClasses
  match Registry.named settings.defaultStorageClass with
  | none => return ()
  | some name => if name ∈ names then return () else throw (.classes (.unknownDefault name))

/-- The settings that a text gives. -/
def ofYaml (text : String) : Except Failure Settings :=
  match (Yaml.Document.ofText? text).bind Settings.ofDocument? with
  | none => .error .yaml
  | some settings =>
    match settings.validate with
    | .error fault => .error fault.failure
    | .ok () => .ok settings

/-- The settings that a file gives, if it can be read. -/
def ofFile (path : String) : Except FileFault String → Except Failure Settings
  | .error fault => .error (Fault.unreadable path fault).failure
  | .ok text => ofYaml text

/-- The identity of the controller. -/
def identity (settings : Settings) : String :=
  (settings.provisionerName.filter (· ≠ "")).getD Key.defaultIdentity

/-- The annotations that no claim may set where the settings list none. -/
def standardBlocked : List String :=
  ["reclaim-policy", "compression"]

/-- The full keys of the annotations that no claim may set. -/
def blockedKeys (settings : Settings) : KeySet :=
  .ofList ((settings.blockedAnnotations.getD standardBlocked).map Key.qualified)

end Settings

end DatasetProvisioner.Configuration
