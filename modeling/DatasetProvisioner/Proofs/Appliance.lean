import DatasetProvisioner.Management.Client
import DatasetProvisioner.Proofs.ShellRuns

/-!
# Backends over HTTP

The calls of a backend to the management interface are carried out by requests. Every call of a run
has its part of them, and a call that makes one request has its answer from the response.
-/
namespace DatasetProvisioner

namespace Program

variable {I J : Interface} {α β : Type}

/-- The first call of a program. -/
def firstCall? : Program I α → Option I.Call
  | .done _ => none
  | .ask c _ => some c

theorem part_of_carried {carry : (c : I.Call) → Program J (I.Answer c)} {trace : List (Exchange I)}
    {whole : List (Exchange J)} (carried : Carried carry trace whole) {x : Exchange I}
    (hx : x ∈ trace) : ∃ part, part ⊆ whole ∧ Runs (carry x.call) part x.answer := by
  induction carried with
  | nil => cases hx
  | @cons c answer part trace whole head tail ih =>
    rcases List.mem_cons.mp hx with rfl | hx
    · exact ⟨part, List.subset_append_left part whole, head⟩
    · obtain ⟨later, hlater, run⟩ := ih hx
      exact ⟨later, List.subset_append_of_subset_right part hlater, run⟩

end Program

namespace Management.Client

variable {client : Client}

/-- The request that a call is carried out by. -/
def requestOf? (client : Client) (c : Call) : Option Http.Request :=
  (client.perform c).firstCall?

/-- The request that lists the shares of an appliance. -/
def listing (client : Client) : Http.Request :=
  client.request .get "sharing/nfs" none

theorem perform_findShares (client : Client) (path : String) :
    client.perform (.findShares path) = .ask client.listing fun response =>
      .done ((valueOf "list NFS shares" response).map (sharesOf path)) :=
  rfl

end Management.Client

namespace Storage

inductive WireCall where
  | exec (host : String) (command : Shell.Command)
  | request (r : Http.Request)
  | clock

abbrev WireCall.Answer : WireCall → Type
  | .exec _ _ => Except Failure CommandOutput
  | .request _ => Http.Answer
  | .clock => Timestamp

/-- The calls of a backend where the management interface is reached by requests. -/
abbrev wire : Interface := ⟨WireCall, WireCall.Answer⟩

abbrev WireTrace := List (Exchange wire)

abbrev onRequest (r : Http.Request) (response : Http.Answer) : Exchange wire :=
  ⟨.request r, response⟩

/-- Carry out a call of a backend, those to the management interface by requests. -/
def overHttp (client : Management.Client) : (c : Call) → Program wire c.Answer
  | .exec host command => Program.call (I := wire) (.exec host command)
  | .management c => (client.perform c).translate fun r => Program.call (I := wire) (.request r)
  | .clock => Program.call (I := wire) .clock

theorem runs_overHttp {client : Management.Client} {c : Management.Call} {request : Http.Request}
    {reading : Http.Answer → c.Answer}
    (h : client.perform c = .ask request fun response => .done (reading response))
    {part : WireTrace} {answer : c.Answer} :
    Program.Runs (overHttp client (.management c)) part answer ↔
      ∃ response, part = [onRequest request response] ∧ answer = reading response := by
  rw [overHttp, h]
  change Program.Runs (.ask (I := wire) (.request request) fun response =>
    .done (reading response)) part answer ↔ _
  rw [Program.runs_ask]
  refine exists_congr fun response => ?_
  constructor
  · rintro ⟨rest, rfl, run⟩
    obtain ⟨rfl, rfl⟩ := Program.runs_done.mp run
    exact ⟨rfl, rfl⟩
  · rintro ⟨rfl, rfl⟩
    exact ⟨[], rfl, .done _⟩

/-- A client of one appliance. -/
def applianceClient : Management.Client where
  address := "http://nas01"
  credentials := .anonymous

end Storage

end DatasetProvisioner
