import DatasetProvisioner.Failure
import DatasetProvisioner.Text.Numeral

/-!
# Metrics

The counters of the controller and their text for a monitoring system.
-/
namespace DatasetProvisioner

inductive Counter where
  | claimsProcessed
  | volumesProvisioned
  | provisioningFailures
  | volumesDeleted
  | volumesRetained
  | backendRemovals
  | eventsDropped
  deriving Repr, DecidableEq

namespace Counter

/-- All counters, in the order in which they are registered. -/
def all : List Counter :=
  [.claimsProcessed, .volumesProvisioned, .provisioningFailures, .volumesDeleted,
    .volumesRetained, .backendRemovals, .eventsDropped]

/-- The name under which a counter is exposed. -/
def name : Counter → String
  | .claimsProcessed => "zfs_pv_claims_processed_total"
  | .volumesProvisioned => "zfs_pv_volumes_provisioned_total"
  | .provisioningFailures => "zfs_pv_provisioning_failures_total"
  | .volumesDeleted => "zfs_pv_volumes_deleted_total"
  | .volumesRetained => "zfs_pv_volumes_retained_total"
  | .backendRemovals => "zfs_pv_backend_removals_total"
  | .eventsDropped => "zfs_pv_events_dropped_total"

/-- What a counter counts. -/
def help : Counter → String
  | .claimsProcessed => "Claim events handled by the reconciler"
  | .volumesProvisioned => "Volume objects created for claims"
  | .provisioningFailures => "Claims for which no volume could be created"
  | .volumesDeleted => "Released volume objects deleted by reclaim policy"
  | .volumesRetained => "Released volumes marked with a released-at timestamp"
  | .backendRemovals => "Dataset removals requested from storage backends"
  | .eventsDropped => "Events dropped after a processing error"

end Counter

/-- What every counter has counted. -/
structure Tally where
  count : Counter → Nat := fun _ => 0

namespace Tally

/-- Count `n` more. A counter of 64 bits starts anew where it runs over. -/
def add (tally : Tally) (counter : Counter) (n : Nat) : Tally where
  count c := if c = counter then (tally.count c + n) % Width.values 64 else tally.count c

/-- The counts in the order of registration. -/
def toList (tally : Tally) : List Nat :=
  Counter.all.map tally.count

end Tally

/-- The counters that are exposed, by name. -/
structure Exposition where
  registered : List Counter := []

namespace Exposition

/-- Expose counters, none of which may be exposed already. -/
def register : List Counter → Exposition → Except Failure Exposition
  | [], exposition => .ok exposition
  | counter :: counters, exposition =>
    if counter ∈ exposition.registered then
      .error (.internal
        "metric registration failed: Duplicate metrics collector registration attempted")
    else register counters ⟨exposition.registered ++ [counter]⟩

/-- The lines of one counter, the last with its reading. -/
def family (tally : Tally) (counter : Counter) : String :=
  s!"# HELP {counter.name} {counter.help}\n# TYPE {counter.name} counter\n" ++
    counter.name ++ " " ++ Text.readingText (tally.count counter) ++ "\n"

/-- The exposed counters in the order of their names. -/
def text (exposition : Exposition) (tally : Tally) : String :=
  String.join
    ((exposition.registered.mergeSort fun a b => compare a.name b.name |>.isLE).map (family tally))

end Exposition

end DatasetProvisioner
