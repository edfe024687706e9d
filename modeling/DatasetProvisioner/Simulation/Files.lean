import DatasetProvisioner.Configuration.Validation
import DatasetProvisioner.Text.Basic
import DatasetProvisioner.Text.Bytes

/-!
# A host without settings

A file system that holds a few directories, an empty file, and some texts that are no settings. A
path is followed name by name; this module says what reading the file at its end gives.
-/
namespace DatasetProvisioner.Simulation.Files

open DatasetProvisioner.Configuration (FileFault)

/-- A place by the names that lead to it from the root, the last one first. -/
abbrev Place := List String

/-- The directory in which a path begins that does not begin at the root. -/
def workingDirectory : Place := ["work"]

def directories : List Place :=
  [[], ["bin"], ["boot"], ["dev"], ["etc"], ["home"], ["lib"], ["media"], ["mnt"], ["opt"],
    ["proc"], ["root"], ["run"], ["sbin"], ["srv"], ["sys"], ["tmp"], ["usr"], ["bin", "usr"],
    ["lib", "usr"], ["local", "usr"], ["share", "usr"], ["var"], ["lib", "var"], ["log", "var"],
    ["tmp", "var"], workingDirectory]

/-- A text that holds no settings. -/
def otherText : String := "other"

def files : List (Place × String) :=
  [(["null", "dev"], ""), (["group", "etc"], otherText), (["hostname", "etc"], otherText),
    (["hosts", "etc"], otherText), (["passwd", "etc"], otherText)]

/-- The most bytes of a name. -/
def nameLimit : Nat := 255

/-- The most bytes of a path. -/
def pathLimit : Nat := 4095

/-- Follow one name of a path. An empty name, as a slash at the end leaves it, asks for a
directory. -/
def follow (place : Place) (name : String) : Except FileFault Place :=
  if place ∉ directories then .error .notDirectory
  else if name = "" ∨ name = "." then .ok place
  else if name = ".." then .ok place.tail
  else if nameLimit < (Text.bytes name).length then .error .nameTooLong
  else if (name :: place) ∈ directories ∨ (files.lookup (name :: place)).isSome then
    .ok (name :: place)
  else .error .notFound

/-- The text of the file that a path leads to. -/
def read (path : String) : Except FileFault String := do
  if '\x00' ∈ path.toList then throw .holdsNul
  if path = "" then throw .notFound
  if pathLimit < (Text.bytes path).length then throw .nameTooLong
  let start := if path.toList.head? = some '/' then [] else workingDirectory
  let place ← (Text.splitAt '/' path.toList).foldlM (fun place name =>
    follow place (String.ofList name)) start
  match files.lookup place with
  | some text => return text
  | none => throw .isDirectory

end DatasetProvisioner.Simulation.Files
