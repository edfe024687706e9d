import DatasetProvisioner.Text.Basic

/-!
# Quotas

How the requested size of a volume is imposed on its dataset: as a limit, as a guarantee, as both
or not at all.
-/
namespace DatasetProvisioner.Dataset

inductive QuotaMode where
  | ignore
  | quota
  | reserve
  | both
  deriving Repr, DecidableEq

namespace QuotaMode

/-- The mode of a class that configures none. -/
def standard : QuotaMode := .quota

/-- Read a mode, up to blanks around it and the case of its letters. -/
def ofString? (s : String) : Option QuotaMode :=
  match Text.asciiLower (Text.trim s) with
  | "ignore" => some .ignore
  | "quota" => some .quota
  | "reserve" | "reservation" => some .reserve
  | "both" => some .both
  | _ => none

def name : QuotaMode → String
  | .ignore => "ignore"
  | .quota => "quota"
  | .reserve => "reserve"
  | .both => "both"

def limits : QuotaMode → Bool
  | .quota | .both => true
  | .ignore | .reserve => false

def guarantees : QuotaMode → Bool
  | .reserve | .both => true
  | .ignore | .quota => false

end QuotaMode

/-- A limit and a guarantee, in bytes. -/
structure Quota where
  limit : Option Nat
  guarantee : Option Nat
  deriving Repr, DecidableEq

namespace Quota

/-- What a mode imposes for a size. -/
def ofSize (mode : QuotaMode) (size : Nat) : Quota where
  limit := if mode.limits then some size else none
  guarantee := if mode.guarantees then some size else none

def isEmpty (quota : Quota) : Bool :=
  quota.limit.isNone && quota.guarantee.isNone

/-- The dataset properties that impose it. -/
def properties (quota : Quota) : List (String × Nat) :=
  (quota.limit.toList.map fun n => ("quota", n)) ++
    quota.guarantee.toList.map fun n => ("reservation", n)

end Quota

end DatasetProvisioner.Dataset
