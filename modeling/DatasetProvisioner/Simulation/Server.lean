import DatasetProvisioner.Cluster.Client
import DatasetProvisioner.Json.Value

/-!
# Scripted servers

A server that gives one answer to every request and keeps the requests, and a session with it that
can be set up anew. A server that cannot be reached gets no request.
-/
namespace DatasetProvisioner.Simulation

/-- What becomes of an attempt to set a session up. -/
inductive SessionSetup where
  /-- It succeeds, but what it leads to cannot be reached. -/
  | unreachable
  | fails
  deriving Repr, DecidableEq

structure Server where
  isReachable : Bool := true
  answer : Http.Answer := .lost
  setup : SessionSetup := .fails
  /-- The requests, the latest first. -/
  requests : List Http.Request := []

namespace Server

/-- The answer that a script describes: none where the connection is dropped, else a status and a
body, which is a text or a value sent as its text. -/
def answerOf (response : Json) : Http.Answer :=
  match (response.field? "drop").bind Json.bool? with
  | some true => .lost
  | _ =>
    .response (((response.field? "status").bind Json.int64?).getD 200).toNat <|
      match response.field? "body" with
      | none => ""
      | some (.string text) => text
      | some value => value.ordered.write

def onRequest (server : Server) (request : Http.Request) : Http.Answer × Server :=
  if server.isReachable then
    (server.answer, { server with requests := request :: server.requests })
  else (.lost, server)

def onSession (server : Server) : (c : Cluster.SessionCall) → c.Answer × Server
  | .request request => server.onRequest request
  | .connect =>
    match server.setup with
    | .unreachable => (.ok (), { server with isReachable := false })
    | .fails => (.error (.cluster .noAnswer), server)

/-- Run a program that makes requests. -/
def runRequests {α : Type} (server : Server) (program : Program Http.interface α) :
    Option α × Server :=
  program.runWith (fun request server =>
    let (answer, server) := server.onRequest request
    (some answer, server)) server

/-- Run a program on a session. -/
def runSession {α : Type} (server : Server) (program : Program Cluster.session α) :
    Option α × Server :=
  program.runWith (fun c server =>
    let (answer, server) := server.onSession c
    (some answer, server)) server

end Server

end DatasetProvisioner.Simulation
