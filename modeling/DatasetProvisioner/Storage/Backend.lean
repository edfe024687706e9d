import DatasetProvisioner.Storage.RestBackend
import DatasetProvisioner.Storage.ShellBackend

/-!
# Storage backends

The two kinds of backend behind one face.
-/
namespace DatasetProvisioner.Storage

inductive Backend where
  | shell (backend : ShellBackend)
  | rest (backend : RestBackend)
  deriving Repr, DecidableEq

namespace Backend

def name : Backend → String
  | .shell backend => backend.name
  | .rest backend => backend.name

def layout : Backend → Dataset.Layout
  | .shell backend => backend.layout
  | .rest backend => backend.layout

/-- Whether a dataset on a host is a volume of this backend. -/
def isLocal (backend : Backend) (host path : String) : Bool :=
  backend.layout.owns host path

/-- Try to make a volume; what failed is kept apart from the annotations it left. -/
def tryCreate (backend : Backend) (annotations : Annotations) (size : Nat) :
    Program interface (Annotations × Except Failure Descriptor) :=
  match backend with
  | .shell backend => backend.create annotations size
  | .rest backend => backend.create annotations size

/-- Make a volume, or decline. -/
def create (backend : Backend) (annotations : Annotations) (size : Nat) :
    Program interface (Annotations × Option Descriptor) := do
  let (annotations, result) ← backend.tryCreate annotations size
  return (annotations, result.toOption)

/-- Remove what was made for a volume. -/
def remove (backend : Backend) (annotations : Annotations) :
    Program interface (Except Failure Unit) :=
  match backend with
  | .shell backend => backend.remove annotations
  | .rest backend => backend.remove annotations

end Backend

end DatasetProvisioner.Storage
