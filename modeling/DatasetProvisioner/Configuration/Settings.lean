import DatasetProvisioner.Configuration.Source

/-!
# Settings

What a configuration may say: who the controller is, and for every storage class which backend
serves it and how. Each kind of settings is read from any source and written as a structured
value with every field in it.
-/
namespace DatasetProvisioner.Configuration

/-- Where volumes are exported. -/
structure ExportSettings where
  hostname : Option String := none
  exportRoot : Option String := none
  deriving Repr, DecidableEq

/-- How commands reach a storage host. -/
structure ConnectionSettings where
  hostname : Option String := none
  port : Nat := 22
  user : Option String := none
  privateKeyFile : Option String := none
  checksHostKey : Bool := false
  /-- In seconds. -/
  timeout : Nat := 30
  /-- Whether one connection is kept open and shared. -/
  isShared : Bool := false
  deriving Repr, DecidableEq

/-- How datasets are made. -/
structure DatasetSettings where
  rootPath : Option String := none
  becomeRoot : Bool := false
  quotaMode : Option String := none
  unixMode : Option String := none
  deriving Repr, DecidableEq

/-- How the management interface of an appliance is reached. -/
structure ManagementSettings where
  endpoint : Option String := none
  user : Option String := none
  secret : Option String := none
  apiKey : Option String := none
  verifiesCertificate : Bool := true
  deriving Repr, DecidableEq

structure BackendSettings where
  exports : Option ExportSettings := none
  connection : Option ConnectionSettings := none
  datasets : Option DatasetSettings := none
  management : Option ManagementSettings := none
  deriving Repr, DecidableEq

/-- One storage class. -/
structure ClassSettings where
  storageClass : Option String := none
  reclaimPolicy : Option String := none
  nameFormat : Option String := none
  blockedAnnotations : List String := []
  managementProvider : Option String := none
  backend : BackendSettings := {}
  deriving Repr, DecidableEq

/-- All settings of a controller. -/
structure Settings where
  provisionerName : Option String := none
  defaultStorageClass : Option String := none
  blockedAnnotations : Option (List String) := none
  storageClasses : List ClassSettings := []
  deriving Repr, DecidableEq

/-! ## Reading -/

section

variable {ν : Type} (source : Source ν)

def readText : ν → Decoding String :=
  source.readAs source.text

def readFlag : ν → Decoding Bool :=
  source.readAs source.flag

/-- Read a text that may be left out. -/
def optionalText : Option ν → Decoding (Option String) :=
  source.optional (readText source)

/-- Read a count up to a limit. -/
def countUpTo (limit : Nat) : ν → Decoding Nat :=
  source.readAs fun value => (source.count value).filter (· ≤ limit)

def ExportSettings.read (value : ν) : Decoding ExportSettings := do
  let field ← source.record
    [{ name := "hostname", mayEnd := false }, { name := "exportRoot", mayEnd := false }] value
  return {
    hostname := ← optionalText source (field "hostname")
    exportRoot := ← optionalText source (field "exportRoot") }

def ConnectionSettings.read (value : ν) : Decoding ConnectionSettings := do
  let field ← source.record
    [{ name := "hostname", mayEnd := false }, { name := "port" },
      { name := "identity", mayEnd := false }, { name := "privateKeyFile" },
      { name := "strictHostKeyChecking" }, { name := "connectTimeoutSecs" },
      { name := "multiplex" }] value
  return {
    hostname := ← optionalText source (field "hostname")
    port := ← Source.withDefault 22 (countUpTo source 65535) (field "port")
    user := ← optionalText source (field "identity")
    privateKeyFile := ← optionalText source (field "privateKeyFile")
    checksHostKey := ← Source.withDefault false (readFlag source) (field "strictHostKeyChecking")
    timeout := ←
      Source.withDefault 30 (countUpTo source Text.greatest64) (field "connectTimeoutSecs")
    isShared := ← Source.withDefault false (readFlag source) (field "multiplex") }

def DatasetSettings.read (value : ν) : Decoding DatasetSettings := do
  let field ← source.record
    [{ name := "rootPath", mayEnd := false }, { name := "becomeRoot" }, { name := "quotaMode" },
      { name := "unixMode" }] value
  return {
    rootPath := ← optionalText source (field "rootPath")
    becomeRoot := ← Source.withDefault false (readFlag source) (field "becomeRoot")
    quotaMode := ← optionalText source (field "quotaMode")
    unixMode := ← optionalText source (field "unixMode") }

def ManagementSettings.read (value : ν) : Decoding ManagementSettings := do
  let field ← source.record
    [{ name := "endpointUri", mayEnd := false }, { name := "clientId" },
      { name := "clientSecret" }, { name := "apiKey" }, { name := "verifyTls" }] value
  return {
    endpoint := ← optionalText source (field "endpointUri")
    user := ← optionalText source (field "clientId")
    secret := ← optionalText source (field "clientSecret")
    apiKey := ← optionalText source (field "apiKey")
    verifiesCertificate := ← Source.withDefault true (readFlag source) (field "verifyTls") }

def BackendSettings.read (value : ν) : Decoding BackendSettings := do
  let field ← source.record
    [{ name := "nfs" }, { name := "ssh" }, { name := "zfs" },
      { name := "freenas", otherName := some "truenas" }] value
  return {
    exports := ← source.optional (ExportSettings.read source) (field "nfs")
    connection := ← source.optional (ConnectionSettings.read source) (field "ssh")
    datasets := ← source.optional (DatasetSettings.read source) (field "zfs")
    management := ← source.optional (ManagementSettings.read source) (field "freenas") }

def ClassSettings.read (value : ν) : Decoding ClassSettings := do
  let field ← source.record
    [{ name := "storageClass" }, { name := "reclaimPolicy" }, { name := "pvNameFormat" },
      { name := "blockedAnnotations" }, { name := "managementProvider" },
      { name := "configuration" }] value
  return {
    storageClass := ← optionalText source (field "storageClass")
    reclaimPolicy := ← optionalText source (field "reclaimPolicy")
    nameFormat := ← optionalText source (field "pvNameFormat")
    blockedAnnotations := ←
      Source.withDefault [] (source.listOf (readText source)) (field "blockedAnnotations")
    managementProvider := ← optionalText source (field "managementProvider")
    backend := ← Source.withDefault {} (BackendSettings.read source) (field "configuration") }

def Settings.read (value : ν) : Decoding Settings := do
  let field ← source.record
    [{ name := "provisionerName" }, { name := "defaultStorageClass" },
      { name := "blockedAnnotations" }, { name := "storageProviders" }] value
  return {
    provisionerName := ← optionalText source (field "provisionerName")
    defaultStorageClass := ← optionalText source (field "defaultStorageClass")
    blockedAnnotations := ←
      source.optional (source.listOf (readText source)) (field "blockedAnnotations")
    storageClasses := ←
      Source.withDefault [] (source.listOf (ClassSettings.read source))
        (field "storageProviders") }

end

/-- The settings of one storage class as a structured value. -/
def ClassSettings.ofJson? (value : Json) : Option ClassSettings :=
  (ClassSettings.read jsonSource value).run' 0

/-- The settings that a YAML document holds. -/
def Settings.ofDocument? (document : Yaml.Document) : Option Settings :=
  (Settings.read (yamlSource document) document.root).run' (aliasLimit document)

/-! ## Writing -/

/-- A record that may be missing. -/
def jsonOr {α : Type} (write : α → Json) (value : Option α) : Json :=
  (value.map write).getD .null

def ExportSettings.toJson (s : ExportSettings) : Json :=
  .object [("hostname", .ofOption s.hostname), ("exportRoot", .ofOption s.exportRoot)]

def ConnectionSettings.toJson (s : ConnectionSettings) : Json :=
  .object
    [("hostname", .ofOption s.hostname), ("port", .ofNat s.port), ("identity", .ofOption s.user),
      ("privateKeyFile", .ofOption s.privateKeyFile),
      ("strictHostKeyChecking", .bool s.checksHostKey), ("connectTimeoutSecs", .ofNat s.timeout),
      ("multiplex", .bool s.isShared)]

def DatasetSettings.toJson (s : DatasetSettings) : Json :=
  .object
    [("rootPath", .ofOption s.rootPath), ("becomeRoot", .bool s.becomeRoot),
      ("quotaMode", .ofOption s.quotaMode), ("unixMode", .ofOption s.unixMode)]

def ManagementSettings.toJson (s : ManagementSettings) : Json :=
  .object
    [("endpointUri", .ofOption s.endpoint), ("clientId", .ofOption s.user),
      ("clientSecret", .ofOption s.secret), ("apiKey", .ofOption s.apiKey),
      ("verifyTls", .bool s.verifiesCertificate)]

def BackendSettings.toJson (s : BackendSettings) : Json :=
  .object
    [("nfs", jsonOr ExportSettings.toJson s.exports),
      ("ssh", jsonOr ConnectionSettings.toJson s.connection),
      ("zfs", jsonOr DatasetSettings.toJson s.datasets),
      ("freenas", jsonOr ManagementSettings.toJson s.management)]

def ClassSettings.toJson (s : ClassSettings) : Json :=
  .object
    [("storageClass", .ofOption s.storageClass), ("reclaimPolicy", .ofOption s.reclaimPolicy),
      ("pvNameFormat", .ofOption s.nameFormat),
      ("blockedAnnotations", .ofStrings s.blockedAnnotations),
      ("managementProvider", .ofOption s.managementProvider),
      ("configuration", s.backend.toJson)]

def Settings.toJson (s : Settings) : Json :=
  .object
    [("provisionerName", .ofOption s.provisionerName),
      ("defaultStorageClass", .ofOption s.defaultStorageClass),
      ("blockedAnnotations", jsonOr Json.ofStrings s.blockedAnnotations),
      ("storageProviders", .array (s.storageClasses.map ClassSettings.toJson))]

end DatasetProvisioner.Configuration
