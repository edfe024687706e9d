import DatasetProvisioner.Configuration.Validation
import DatasetProvisioner.Management.Client
import DatasetProvisioner.Text.Lowercase
import DatasetProvisioner.Text.Numeral

/-!
# Backends of a configuration

Every storage class gets the backend that its settings describe. The settings are checked in a
fixed order, and the first that is missing or wrong is reported; one wrong class refuses the whole
configuration.
-/
namespace DatasetProvisioner.Configuration

open Storage

/-- How datasets are managed. -/
inductive ManagementProvider where
  | shell
  | rest
  deriving Repr, DecidableEq

/-- Read the name of a management provider, up to blanks around it and the case of its letters. -/
def ManagementProvider.ofName (name : String) : Except Fault ManagementProvider :=
  match Text.lower (Text.trim name) with
  | "zfscli" | "zfs-shell" | "ssh" => .ok .shell
  | "freenas" | "truenas" | "zfs-rest" => .ok .rest
  | other => .error (.unknownProvider other)

/-- A setting that must be given and not be blank. -/
def require (name : String) (value : Option String) : Except Fault String :=
  match value.filter fun text => !Text.isBlankText text with
  | some text => .ok text
  | none => .error (.missingField name)

/-- A group of settings that must be given. -/
def requireGroup {α : Type} (name : String) : Option α → Except Fault α
  | some group => .ok group
  | none => .error (.missingField name)

/-- Where the datasets and exports are. -/
def BackendSettings.layout (settings : BackendSettings) : Except Fault Dataset.Layout := do
  let exports ← requireGroup "nfs" settings.exports
  let datasets ← requireGroup "zfs" settings.datasets
  let host ← require "nfs.hostname" exports.hostname
  let exportRoot ← require "nfs.exportRoot" exports.exportRoot
  let datasetRoot ← require "zfs.rootPath" datasets.rootPath
  return Dataset.Layout.ofSettings host exportRoot datasetRoot

namespace DatasetSettings

def mode (settings : DatasetSettings) : Except Fault Dataset.QuotaMode :=
  match settings.quotaMode with
  | none => .ok .standard
  | some text =>
    match Dataset.QuotaMode.ofString? text with
    | some mode => .ok mode
    | none => .error (.invalidQuotaMode text)

/-- How many bytes the text of permissions may have. -/
def permissionLength : Nat := 4

/-- The permissions of new exports: an octal number in at most four bytes. -/
def permissions (settings : DatasetSettings) : Except Fault (Option Nat) :=
  match settings.unixMode with
  | none => .ok none
  | some raw =>
    let text := Text.trim raw
    match Text.unsigned? 8 0o7777 text.toList with
    | some mode =>
      if text.utf8ByteSize ≤ permissionLength then .ok (some mode)
      else .error (.invalidUnixMode text)
    | none => .error (.invalidUnixMode text)

end DatasetSettings

/-- The host on which commands run: the export host unless the settings name another. -/
def BackendSettings.commandHost (settings : BackendSettings) (layout : Dataset.Layout) : String :=
  ((settings.connection.bind (·.hostname)).filter (· ≠ "")).getD layout.host

/-- The client of the management interface. -/
def BackendSettings.managementClient (settings : BackendSettings) :
    Except Fault Management.Client := do
  let management ← requireGroup "freenas" settings.management
  let endpoint ← require "freenas.endpointUri" management.endpoint
  return Management.Client.ofSettings endpoint
    (.ofSettings management.apiKey management.user management.secret)
    management.verifiesCertificate

/-- The backend that serves a class. -/
def ClassSettings.backendOf (settings : ClassSettings) : Except Fault Backend := do
  let name ← settings.className
  let providerName ← require "managementProvider" settings.managementProvider
  let provider ← ManagementProvider.ofName providerName
  let layout ← settings.backend.layout
  let datasets := settings.backend.datasets.getD {}
  let quotaMode ← datasets.mode
  let unixMode ← datasets.permissions
  match provider with
  | .shell =>
    return .shell {
      name, layout, quotaMode, unixMode
      host := settings.backend.commandHost layout
      becomeRoot := datasets.becomeRoot }
  | .rest =>
    let _ ← settings.backend.managementClient
    return .rest { name, layout, quotaMode, unixMode }

/-- The default reclaim policy of a class. -/
def ClassSettings.policy (settings : ClassSettings) (name : String) :
    Except Fault ReclaimPolicy :=
  match settings.reclaimPolicy with
  | none => .ok .delete
  | some text =>
    match ReclaimPolicy.ofString? text with
    | some policy => .ok policy
    | none => .error (.invalidReclaimPolicy text name)

/-- The provider of a class; `blocked` holds the annotations blocked for all classes. -/
def ClassSettings.provider (settings : ClassSettings) (blocked : KeySet) :
    Except Fault Provider := do
  let storageClass ← settings.className
  let reclaimPolicy ← settings.policy storageClass
  let backend ← settings.backendOf
  return {
    storageClass, backend, reclaimPolicy
    nameFormat := (settings.nameFormat.filter (· ≠ "")).getD Provider.defaultNameFormat
    blocked := settings.blockedAnnotations.foldl (fun set key =>
      set.insert (Key.qualified key)) blocked }

/-- The registry of a configuration. -/
def Settings.registry (settings : Settings) : Except Fault Registry := do
  settings.validate
  let providers ← settings.storageClasses.mapM fun entry => entry.provider settings.blockedKeys
  match Registry.ofProviders settings.defaultStorageClass providers with
  | .ok registry => return registry
  | .error fault => throw (.classes fault)

end DatasetProvisioner.Configuration
