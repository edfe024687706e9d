import Std.Data.ExtTreeSet
import DatasetProvisioner.Storage.Backend

/-!
# The registry of storage classes

Which provider serves which storage class. A registry has one provider for each class and, if it
has a default class, a provider for that one.
-/
namespace DatasetProvisioner

/-- Annotation keys, listed in the order of their code points. -/
abbrev KeySet := Std.ExtTreeSet String compare

/-- Everything that is needed to serve one storage class. -/
structure Provider where
  storageClass : String
  backend : Storage.Backend
  reclaimPolicy : ReclaimPolicy
  /-- The template of the names of its volumes. -/
  nameFormat : String
  /-- The annotations that claims may not set. -/
  blocked : KeySet

/-- The names of volumes where a class has no template of its own: the class, the claim's
namespace and name, and the start of the volume's identifier. -/
def Provider.defaultNameFormat : String :=
  "\x7b" ++ Key.storageClass ++ "\x7d-\x7b" ++ Key.claimNamespace ++ "\x7d-\x7b" ++
    Key.claimName ++ "\x7d-\x7b" ++ Key.volumeTag ++ "\x7d"

/-- What is wrong with a set of providers. -/
inductive RegistryFault where
  | emptyClass
  | duplicateClass (storageClass : String)
  | unknownDefault (storageClass : String)
  deriving Repr, DecidableEq

def RegistryFault.message : RegistryFault → String
  | .emptyClass => "empty storage class name"
  | .duplicateClass storageClass => s!"duplicate storage class '{storageClass}'"
  | .unknownDefault storageClass => s!"default storage class '{storageClass}' is not configured"

structure Registry where
  defaultClass : Option String
  providers : Std.ExtTreeMap String Provider compare

namespace Registry

/-- Add providers one after the other; no class may come twice or be blank. -/
def addAll : List Provider → Std.ExtTreeMap String Provider compare →
    Except RegistryFault (Std.ExtTreeMap String Provider compare)
  | [], map => .ok map
  | provider :: providers, map =>
    if Text.isBlankText provider.storageClass then .error .emptyClass
    else if provider.storageClass ∈ map then .error (.duplicateClass provider.storageClass)
    else addAll providers (map.insert provider.storageClass provider)

/-- A class that is given and not empty. -/
def named (storageClass : Option String) : Option String :=
  storageClass.filter (· ≠ "")

/-- The registry of a list of providers. -/
def ofProviders (defaultClass : Option String) (providers : List Provider) :
    Except RegistryFault Registry := do
  let map ← addAll providers ∅
  match named defaultClass with
  | none => return ⟨none, map⟩
  | some storageClass =>
    if storageClass ∈ map then return ⟨some storageClass, map⟩
    else throw (.unknownDefault storageClass)

/-- The provider of a class, or of the default class where none is given. -/
def resolve (registry : Registry) (storageClass : Option String) : Option Provider :=
  match named storageClass with
  | some storageClass => registry.providers[storageClass]?
  | none => registry.defaultClass.bind (registry.providers[·]?)

def size (registry : Registry) : Nat :=
  registry.providers.size

end Registry

end DatasetProvisioner
