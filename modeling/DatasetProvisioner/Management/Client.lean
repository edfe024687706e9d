import DatasetProvisioner.Http
import DatasetProvisioner.Storage.Call
import DatasetProvisioner.Text.Basic
import DatasetProvisioner.Text.Bytes
import DatasetProvisioner.Text.Numeral

/-!
# The management interface over HTTP

How the calls to a storage appliance are made as requests, and what its responses mean. Shares are
listed in two forms, with one path or with several; a share belongs to a path if either form names
it.
-/
namespace DatasetProvisioner.Management

/-- How requests say who makes them. -/
inductive Credentials where
  | anonymous
  | apiKey (key : String)
  | password (user password : String)
  deriving Repr, DecidableEq

namespace Credentials

/-- The credentials of given settings, where empty counts as not given: a key goes before a user
with a password. -/
def ofSettings (apiKey user secret : Option String) : Credentials :=
  match apiKey.filter (· ≠ ""), user.filter (· ≠ ""), secret.filter (· ≠ "") with
  | some key, _, _ => .apiKey key
  | none, some user, some secret => .password user secret
  | none, _, _ => .anonymous

/-- The header that carries them. -/
def header : Credentials → Option String
  | .anonymous => none
  | .apiKey key => some ("Bearer " ++ key)
  | .password user secret => some ("Basic " ++ Text.base64 (user ++ ":" ++ secret))

end Credentials

structure Client where
  /-- The address of the appliance, without slashes at its end. -/
  address : String
  credentials : Credentials
  /-- Whether the certificate of the appliance must be valid. -/
  verifiesCertificate : Bool := true
  deriving Repr, DecidableEq

namespace Client

def ofSettings (endpoint : String) (credentials : Credentials) (verifiesCertificate : Bool) :
    Client where
  address := String.ofList (Text.dropEndWhile (· == '/') endpoint.toList)
  credentials
  verifiesCertificate

/-- A request for a path below the root of the interface. -/
def request (client : Client) (method : Http.Method) (path : String) (body : Option Json) :
    Http.Request where
  method
  target := client.address ++ "/api/v2.0/" ++ path
  authorization := client.credentials.header
  contentType := body.map fun _ => Http.jsonType
  body

def datasetPath (id : String) : String :=
  "pool/dataset/id/" ++ Text.percentEncoded id

def snapshotPath (id : String) : String :=
  "zfs/snapshot/id/" ++ Text.percentEncoded id

/-- The body of a successful response, or the failure of an operation. -/
def bodyOf (operation : String) : Http.Answer → Except Failure String
  | .lost => .error .managementConnection
  | .response status body =>
    if Http.isSuccess status then .ok body
    else .error (.managementStatus operation status body)

/-- The value in the body of a successful response. -/
def valueOf (operation : String) (answer : Http.Answer) : Except Failure Json := do
  let body ← bodyOf operation answer
  match Json.read body with
  | .ok value => return value
  | .error _ => throw .managementConnection

/-- The paths that a share exports, in either form of a share. -/
def sharePaths (share : Json) : List String :=
  (((share.field? "paths").bind Json.array?).getD []).filterMap Json.string? ++
    ((share.field? "path").bind Json.string?).toList

/-- The numbers of the shares that export a path. -/
def sharesOf (path : String) (shares : Json) : List Int :=
  (shares.array?.getD []).filterMap fun share =>
    if path ∈ sharePaths share then (share.field? "id").bind Json.int64? else none

/-- The full name of a new snapshot, as the response gives it or else as it was asked for. -/
def snapshotName (dataset snapshot : String) (value : Json) : String :=
  ((value.field? "id" <|> value.field? "name").bind Json.string?).getD
    (dataset ++ "@" ++ snapshot)

/-- Make a request whose response holds nothing that matters. -/
def order (client : Client) (operation : String) (method : Http.Method) (path : String)
    (body : Option Json) : Program Http.interface (Except Failure Unit) := do
  let answer ← Http.send (client.request method path body)
  return (bodyOf operation answer).map fun _ => ()

/-- Make a request whose response holds a value. -/
def ask (client : Client) (operation : String) (method : Http.Method) (path : String)
    (body : Option Json) : Program Http.interface (Except Failure Json) := do
  let answer ← Http.send (client.request method path body)
  return valueOf operation answer

/-- What a response says of a dataset, or that there is none. -/
def foundDataset : Http.Answer → Except Failure (Option Dataset.Info)
  | .response status body =>
    if status = Http.notFound then .ok none
    else (valueOf "get dataset" (.response status body)).map fun value =>
      some (Dataset.Info.ofJson value)
  | .lost => .error .managementConnection

/-- Carry out a call by a request. -/
def perform (client : Client) : (c : Call) → Program Http.interface c.Answer
  | .createDataset request => do
    let value ← client.ask "create dataset" .post "pool/dataset" (some request.body)
    return value.map Dataset.Info.ofJson
  | .getDataset id => do
    let answer ← Http.send (client.request .get (datasetPath id) none)
    return foundDataset answer
  | .updateQuota id quota => client.order "update dataset" .put (datasetPath id) (some quota.body)
  | .deleteDataset id => client.order "delete dataset" .delete (datasetPath id) none
  | .createSnapshot dataset snapshot volumeRef => do
    let value ← client.ask "create snapshot" .post "zfs/snapshot" <| some <| .object
      [("dataset", .string dataset), ("name", .string snapshot),
        ("properties", .object [(Dataset.trackingProperty, .string volumeRef)])]
    return value.map (snapshotName dataset snapshot)
  | .cloneSnapshot snapshot dataset =>
    client.order "clone snapshot" .post "zfs/snapshot/clone" <| some <| .object
      [("snapshot", .string snapshot), ("dataset_dst", .string dataset)]
  | .deleteSnapshot id => client.order "delete snapshot" .delete (snapshotPath id) none
  | .createShare path readOnly comment =>
    client.order "create NFS share" .post "sharing/nfs" <| some <| .object
      [("paths", .array [.string path]), ("ro", .bool readOnly), ("comment", .string comment)]
  | .findShares path => do
    let shares ← client.ask "list NFS shares" .get "sharing/nfs" none
    return shares.map (sharesOf path)
  | .deleteShare id =>
    client.order "delete NFS share" .delete ("sharing/nfs/id/" ++ Json.integerText id) none
  | .setMode path mode =>
    client.order "set permissions" .post "filesystem/setperm" <| some <| .object
      [("path", .string path), ("mode", .string (Text.padded 8 1 mode))]

end Client

end DatasetProvisioner.Management
