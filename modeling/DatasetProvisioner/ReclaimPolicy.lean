import DatasetProvisioner.Text.Basic

/-!
# Reclaim policies

What becomes of a volume once its claim is gone.
-/
namespace DatasetProvisioner

inductive ReclaimPolicy where
  | delete
  | retain
  | recycle
  deriving Repr, DecidableEq

namespace ReclaimPolicy

/-- Read a policy: blanks around it and the case of its letters do not matter. -/
def ofString? (s : String) : Option ReclaimPolicy :=
  match Text.asciiLower (Text.trim s) with
  | "delete" => some .delete
  | "retain" => some .retain
  | "recycle" => some .recycle
  | _ => none

/-- The canonical name. -/
def name : ReclaimPolicy → String
  | .delete => "Delete"
  | .retain => "Retain"
  | .recycle => "Recycle"

/-- Recycling destroys the dataset just as deletion does. -/
def destroysVolume : ReclaimPolicy → Bool
  | .delete | .recycle => true
  | .retain => false

end ReclaimPolicy

end DatasetProvisioner
