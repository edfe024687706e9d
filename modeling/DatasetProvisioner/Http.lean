import DatasetProvisioner.Json.Reader
import DatasetProvisioner.Json.Writer
import DatasetProvisioner.Program

/-!
# Requests over HTTP

Both the management interface and the cluster are reached by requests with structured bodies.
-/
namespace DatasetProvisioner.Http

inductive Method where
  | get
  | post
  | put
  | patch
  | delete
  deriving Repr, DecidableEq

def Method.name : Method → String
  | .get => "GET"
  | .post => "POST"
  | .put => "PUT"
  | .patch => "PATCH"
  | .delete => "DELETE"

structure Request where
  method : Method
  /-- Where it goes: a whole address, or a path and a query. -/
  target : String
  authorization : Option String := none
  contentType : Option String := none
  body : Option Json := none
  deriving Repr, BEq

/-- What comes back: a response, or none before the connection was lost. -/
inductive Answer where
  | response (status : Nat) (body : String)
  | lost
  deriving Repr, DecidableEq

abbrev interface : Interface := ⟨Request, fun _ => Answer⟩

/-- Make one request. -/
def send (request : Request) : Program interface Answer :=
  Program.call (I := interface) request

/-- Whether a status reports success. -/
def isSuccess (status : Nat) : Bool :=
  200 ≤ status && status < 300

/-- The status of something that is not there. -/
def notFound : Nat := 404

/-- The media type of structured bodies. -/
def jsonType : String := "application/json"

end DatasetProvisioner.Http
