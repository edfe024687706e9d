import DatasetProvisioner.Cluster.Client
import DatasetProvisioner.Event
import DatasetProvisioner.Text.Basic

/-!
# Watches

A watch is one long response whose lines are events. A line that breaks off before it is wrong says
nothing; an event of an error, or a line that is no event, ends the watch.
-/
namespace DatasetProvisioner.Cluster

open Manifest

/-- A kind of object that is watched. -/
inductive Watched where
  | claims
  | volumes
  deriving Repr, DecidableEq

namespace Watched

def path : Watched → String
  | .claims => allClaimsPath
  | .volumes => volumesPath

/-- What one of them is called. -/
def noun : Watched → String
  | .claims => "claim"
  | .volumes => "volume"

abbrev Object : Watched → Type
  | .claims => Claim
  | .volumes => Volume

def read : (w : Watched) → Reading w.Object
  | .claims => Claim.read
  | .volumes => Volume.read

end Watched

/-- How long the server keeps a watch open, in seconds. -/
def watchTime : Nat := 290

/-- The request that opens a watch, from the oldest state that the server will tell. -/
def watchRequest (watched : Watched) : Http.Request where
  method := .get
  target := watched.path ++ "?&watch=true&timeoutSeconds=" ++ Text.decimal watchTime ++
    "&allowWatchBookmarks=true&resourceVersion=0"

/-! ## Events -/

/-- An event of a watch. -/
inductive WatchEvent (α : Type) where
  | change (change : Change) (object : α)
  | bookmark
  | fault (report : ErrorReport)

open Json (Draft DraftText Outcome)

open Shape in
/-- The shape of a bookmark's metadata: the version that it stands for. -/
def bookmarkShape : Shape :=
  .form [expected "resourceVersion" .text, omissible "annotations" (.dictionary .text)]

/-- A member of a bookmark that must be there once, as a text. -/
def onceText (name : String) (members : List (String × Json)) : Outcome Unit :=
  match members.filter (·.1 == name) with
  | [(_, .string _)] => .ok ()
  | _ => .error .malformed

/-- Read a bookmark: an object that says of what kind it is, with metadata of its own. All its
other members are read as well. -/
def readBookmark (depth : Nat) (draft : Draft) : Outcome Unit :=
  match draft with
  | .object members ending =>
    Draft.enter depth fun depth => do
      let found ← members.foldlM (fun found m => do
        let name ← m.1.value
        if name = "metadata" then
          if (found.lookup name).isSome then throw .malformed
          return (name, ← bookmarkShape.read depth m.2) :: found
        else return (name, ← m.2.value depth) :: found) []
      ending.check
      if (found.lookup "metadata").isNone then throw .malformed
      onceText "apiVersion" found
      onceText "kind" found
  | _ => .error draft.mismatch

namespace WatchEvent

variable {α : Type}

/-- What an event may be. -/
def kinds : List String :=
  ["ADDED", "MODIFIED", "DELETED", "BOOKMARK", "ERROR"]

/-- Read the object of an event of a kind. -/
def readObject (read : Reading α) (kind : String) (depth : Nat) (draft : Draft) :
    Outcome (WatchEvent α) :=
  match kind with
  | "ADDED" => (read depth draft).map (.change .added)
  | "MODIFIED" => (read depth draft).map (.change .modified)
  | "DELETED" => (read depth draft).map (.change .deleted)
  | "BOOKMARK" => (readBookmark depth draft).map fun _ => .bookmark
  | _ => (ErrorReport.read depth draft).map .fault

/-- The members of an event that were read. -/
structure Parts (α : Type) where
  kind : Option String := none
  /-- The object, as long as it is not known what kind of event it belongs to. -/
  pending : Option Json := none
  event : Option (WatchEvent α) := none

/-- Read a further member of an event. The object is read as what it is once the kind is known; one
that comes before the kind must be in order as a whole. -/
def Parts.readMember (read : Reading α) (depth : Nat) (parts : Parts α)
    (m : DraftText × Draft) : Outcome (Parts α) := do
  match ← m.1.value with
  | "type" =>
    if parts.kind.isSome then throw .malformed
    let kind ← m.2.choice kinds depth
    let event ← match parts.pending with
      | some object => (readObject read kind Json.depthLimit (.ofValue object)).map some
      | none => pure none
    return { parts with kind := some kind, event }
  | "object" =>
    if parts.pending.isSome || parts.event.isSome then throw .malformed
    match parts.kind with
    | some kind => return { parts with event := some (← readObject read kind depth m.2) }
    | none => return { parts with pending := some (← m.2.value depth) }
  | _ =>
    m.2.pass
    return parts

/-- Read an event: an object with a type and an object, or a list of these two, in which the type
is a text. -/
def readEvent (read : Reading α) (depth : Nat) (draft : Draft) : Outcome (WatchEvent α) :=
  match draft with
  | .object members ending =>
    Draft.enter depth fun depth => do
      let parts ← members.foldlM (Parts.readMember read depth) {}
      ending.check
      match parts.event with
      | some event => return event
      | none => throw .malformed
  | .array items ending =>
    Draft.enter depth fun depth => do
      match items with
      | kind :: object :: items =>
        let kind ← kind.oneOf kinds
        let event ← readObject read kind depth object
        if !items.isEmpty then throw .malformed
        ending.checkFull
        return event
      | items =>
        items.forM fun kind => do
          let _ ← kind.oneOf kinds
        ending.check
        throw .malformed
  | _ => .error draft.mismatch

/-- What a line says: nothing where it breaks off. -/
def ofLine? (read : Reading α) (line : List Char) :
    Except ClusterFault (Option (WatchEvent α)) :=
  match Json.decodeChars (readEvent read Json.depthLimit) line with
  | .ok event => .ok (some event)
  | .error .unexpectedEnd => .ok none
  | .error .malformed =>
    match Json.decodeChars (ErrorReport.read Json.depthLimit) line with
    | .ok report => .error report.fault
    | .error _ => .error .noAnswer

end WatchEvent

/-! ## Lines -/

/-- A line without a carriage return at its end. -/
def withoutReturn (line : List Char) : List Char :=
  if line.getLast? = some '\r' then line.dropLast else line

/-- The lines of a response. -/
def linesOf (body : String) : List (List Char) :=
  (Text.splitAt '\n' body.toList).map withoutReturn

/-- The changes that lines tell, and what ended them before the last line. -/
def changesOf {α : Type} (noun : String) (read : Reading α) :
    List (List Char) → List (Change × α) × Option Failure
  | [] => ([], none)
  | line :: lines =>
    match WatchEvent.ofLine? read line with
    | .error fault => ([], some (.cluster fault))
    | .ok (some (.fault report)) =>
      ([], some (.watchStream
        s!"{noun} watch: {report.message} ({Text.decimal report.code})"))
    | .ok none | .ok (some .bookmark) => changesOf noun read lines
    | .ok (some (.change change object)) =>
      let (changes, ended) := changesOf noun read lines
      ((change, object) :: changes, ended)

/-- A watch that was read to its end, or failed to open. -/
abbrev WatchResult (watched : Watched) : Type :=
  Except Failure (List (Change × watched.Object) × Option Failure)

/-- Open a watch and read it to its end. The status of the response does not matter. -/
def readWatch (watched : Watched) : Program session (WatchResult watched) := do
  match ← Program.call (I := session) (.request (watchRequest watched)) with
  | .lost => return .error (.cluster .noAnswer)
  | .response _ body => return .ok (changesOf watched.noun watched.read (linesOf body))

end DatasetProvisioner.Cluster
