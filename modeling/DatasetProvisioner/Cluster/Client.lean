import DatasetProvisioner.Cluster.Store
import DatasetProvisioner.Http
import DatasetProvisioner.Text.Numeral
import DatasetProvisioner.Text.Quoted

/-!
# The cluster over HTTP

How calls to the cluster are made as requests, and what its responses mean. Names go into paths as
they are; one that cannot stand in a path is refused before any request. A session with the
cluster can be set up anew, and stays as it is where that fails.
-/
namespace DatasetProvisioner.Cluster

open Manifest

/-- What a session is asked for: a request, or to be set up anew. -/
inductive SessionCall where
  | request (request : Http.Request)
  | connect

abbrev SessionCall.Answer : SessionCall → Type
  | .request _ => Http.Answer
  | .connect => Except Failure Unit

abbrev session : Interface := ⟨SessionCall, SessionCall.Answer⟩

/-! ## Paths -/

/-- The bytes that may stand in the path of a request. -/
def isPathChar (c : Char) : Bool :=
  let n := c.toNat
  n == 0x21 || n == 0x22 || (0x24 ≤ n && n ≤ 0x3B) || n == 0x3D || (0x40 ≤ n && n ≤ 0x5F) ||
    (0x61 ≤ n && n ≤ 0x7E)

/-- The bytes that may stand in the query of a request. -/
def isQueryChar (c : Char) : Bool :=
  let n := c.toNat
  n == 0x21 || (0x24 ≤ n && n ≤ 0x3B) || n == 0x3D || (0x3F ≤ n && n ≤ 0x7E)

/-- The most bytes of a target, with what follows a hash sign. -/
def targetLimit : Nat := 65534

/-- The target of a request, without what follows a hash sign. Nothing where it is too long or a
character may not stand in it. -/
def target? (path : String) : Option String :=
  let cs := path.toList.takeWhile (· != '#')
  let pathPart := cs.takeWhile (· != '?')
  let queryPart := (cs.dropWhile (· != '?')).drop 1
  if path.utf8ByteSize ≤ targetLimit && pathPart.all isPathChar && queryPart.all isQueryChar then
    some (String.ofList cs)
  else none

/-- Where all claims are. -/
def allClaimsPath : String := "/api/v1/persistentvolumeclaims"

def claimPath (claimNamespace claimName : String) : String :=
  "/api/v1/namespaces/" ++ claimNamespace ++ "/persistentvolumeclaims/" ++ claimName

/-- Where all volumes are. -/
def volumesPath : String := "/api/v1/persistentvolumes"

def volumePath (volumeName : String) : String :=
  volumesPath ++ "/" ++ volumeName

/-- A path with an empty query, as requests that change something have it. -/
def withQuery (path : String) : String :=
  path ++ "?"

/-! ## Responses -/

/-- What the server says of an error. -/
structure ErrorReport where
  code : Nat
  message : String
  reason : String
  deriving Repr, DecidableEq

namespace ErrorReport

open Json (Draft Outcome)
open Shape

/-- The shape of a report, which must have a status and a code. -/
def shape : Shape :=
  .form
    [expected "status" .text, omissible "message" .text, omissible "reason" .text,
      expected "code" (count 16)]

def ofCanonical (value : Json) : ErrorReport where
  code := ((value.field? "code").bind Json.int64?).getD 0 |>.toNat
  message := (textOf "message" value).getD ""
  reason := (textOf "reason" value).getD ""

/-- Read a report. -/
def read (depth : Nat) (draft : Draft) : Outcome ErrorReport :=
  (shape.read depth draft).map ofCanonical

def fault (report : ErrorReport) : ClusterFault :=
  .status report.code report.message report.reason

end ErrorReport

/-- Whether a status reports an error of the request or of the server. -/
def isError (status : Nat) : Bool :=
  400 ≤ status && status < 600

/-- The error that a response reports. A body that is no report is quoted. -/
def errorOf (status : Nat) (body : String) : ClusterFault :=
  match Json.decode (ErrorReport.read Json.depthLimit) body with
  | .ok report => report.fault
  | .error _ => .status status (Text.quoted body) "Failed to parse error data"

/-- The body of a response that is no error. -/
def bodyOf : Http.Answer → Except ClusterFault String
  | .lost => .error .noAnswer
  | .response status body =>
    if isError status then .error (errorOf status body) else .ok body

/-- How an object is read, given how many levels it may have. -/
abbrev Reading (α : Type) := Nat → Json.Draft → Json.Outcome α

/-- The object in a body. -/
def objectIn {α : Type} (read : Reading α) (body : String) : Except ClusterFault α :=
  (Json.decode (read Json.depthLimit) body).mapError fun _ => .noAnswer

/-- The object in the body of a response. -/
def objectOf {α : Type} (read : Reading α) (answer : Http.Answer) : Except ClusterFault α := do
  objectIn read (← bodyOf answer)

/-- The object that was looked up, none where the server gives that as its reason. -/
def foundOf {α : Type} (read : Reading α) (answer : Http.Answer) :
    Except ClusterFault (Option α) :=
  match objectOf read answer with
  | .ok object => .ok (some object)
  | .error (.status code message reason) =>
    if reason = "NotFound" then .ok none else .error (.status code message reason)
  | .error fault => .error fault

open Shape in
/-- The shape of a report on the outcome of a request. -/
def outcomeShape : Shape :=
  .form
    [optional "status" (.choice ["Success", "Failure"]), omissible "code" (count 16),
      omissible "message" .text, omissible "reason" .text,
      optional "details" (.form
        [omissible "name" .text, omissible "group" .text, omissible "kind" .text,
          omissible "uid" .text,
          omissible "causes" (.list (.form
            [omissible "reason" .text, omissible "message" .text, omissible "field" .text])),
          omissible "retryAfterSeconds" (count 32)])]

/-- Read the body that answers a deletion: a report on its outcome, or the object that is deleted.
The body must be in order as a whole. -/
def readDeletion (body : String) : Except ClusterFault Unit := do
  let value ← objectIn (fun depth draft => draft.value depth) body
  if value.field? "kind" == some (.string "Status") then
    let _ ← objectIn outcomeShape.read body
  else
    let _ ← objectIn Volume.read body

/-- The outcome of a deletion. A volume that is not there counts as deleted. -/
def deletionOf (answer : Http.Answer) : Except ClusterFault Unit :=
  match bodyOf answer with
  | .ok body => readDeletion body
  | .error (.status code message reason) =>
    if code = Http.notFound then .ok () else .error (.status code message reason)
  | .error .noAnswer => .error .noAnswer

/-- A fault as a failure. -/
def failing {α : Type} (result : Except ClusterFault α) : Except Failure α :=
  result.mapError .cluster

/-! ## Requests -/

/-- Make a request for a path, if it can be one. -/
def request (method : Http.Method) (path : String) (contentType : Option String)
    (body : Option Json) : Program session Http.Answer :=
  match target? path with
  | some target => .ask (I := session) (.request { method, target, contentType, body }) .done
  | none => .done .lost

/-- The media type of a change that names only what is new. -/
def mergePatchType : String := "application/merge-patch+json"

/-- Carry out a call by requests. -/
def perform : (c : Call) → Program session c.Answer
  | .readClaim claimNamespace claimName => do
    let answer ← request .get (claimPath claimNamespace claimName) none none
    return failing (foundOf Claim.read answer)
  | .readVolume volumeName => do
    let answer ← request .get (volumePath volumeName) none none
    return failing (foundOf Volume.read answer)
  | .createVolume volume => do
    let answer ← request .post (withQuery volumesPath) (some Http.jsonType) (some volume.toJson)
    return failing (objectOf Volume.read answer)
  | .deleteVolume volumeName => do
    let answer ← request .delete (withQuery (volumePath volumeName)) (some Http.jsonType)
      (some (.object []))
    return failing (deletionOf answer)
  | .annotateVolume volumeName key value => do
    let answer ← request .patch (withQuery (volumePath volumeName)) (some mergePatchType) <|
      some (.object
        [("metadata", .object [("annotations", .object [(key, .string value)])])])
    return failing ((objectOf Volume.read answer).map fun _ => ())
  | .resetSession => .ask (I := session) .connect .done

end DatasetProvisioner.Cluster
