import DatasetProvisioner.Proofs.Authority
import DatasetProvisioner.Proofs.PeerRuns

/-!
# Reclaims that fail

Handling a change to a volume that is still there fails of itself, with a cluster that does what it
is asked to, for two reasons. If no class serves the volume, nothing has been called. If the volume
has no identifier that can be read, the backend finds out, and it is called last: under a policy
that destroys, the object is gone by then and the dataset is not.
-/
namespace DatasetProvisioner.Storage

/-- A removal fails only for want of an identifier, and before it has called anything. -/
theorem Backend.unnamed_of_failed_removal {backend : Backend} {annotations : Annotations}
    {trace : StorageTrace} {failure : Failure}
    (run : Program.Runs (backend.remove annotations) trace (.error failure)) :
    volumeUuid annotations = .error failure ∧ trace = [] := by
  cases backend with
  | shell b =>
    cases ShellBackend.removeRun_of_runs run with
    | unnamed _ h => exact ⟨h, rfl⟩
  | rest b =>
    cases RestBackend.removeRun_of_runs run with
    | unnamed _ h => exact ⟨h, rfl⟩

end DatasetProvisioner.Storage

namespace DatasetProvisioner.Reconciler

open Storage

def succeeded : Exchange Cluster.interface → Bool
  | ⟨.readClaim _ _, answer⟩ => answer.isOk
  | ⟨.readVolume _, answer⟩ => answer.isOk
  | ⟨.createVolume _, answer⟩ => answer.isOk
  | ⟨.deleteVolume _, answer⟩ => answer.isOk
  | ⟨.annotateVolume _ _ _, answer⟩ => answer.isOk
  | ⟨.resetSession, answer⟩ => answer.isOk

variable {settings : Settings} {event : VolumeEvent} {failure : Failure}

theorem not_failed_of_markRun {trace : Trace}
    (succeeds : ∀ x ∈ clusterCalls trace, succeeded x = true) :
    ¬MarkRun event trace (.error failure) := by
  intro run
  cases run with
  | unread =>
    have hread := succeeds _ List.mem_cons_self
    cases hread
  | refused stored now _ h =>
    have hwrite := succeeds _ (List.mem_cons_of_mem _ List.mem_cons_self)
    cases hwrite

/-- A failed handling by the reconciler's own calls: of nothing, or of a deletion and a removal that
fails. -/
theorem failed_of_volumeRun {trace : Trace} (kept : event.change ≠ .deleted)
    (run : VolumeRun settings event trace (.error failure))
    (succeeds : ∀ x ∈ clusterCalls trace, succeeded x = true) :
    (providerFor settings event = .error failure ∧ trace = []) ∨
      ∃ provider, Due settings event provider ∧
        trace = onCluster (.deleteVolume event.volumeName) (.ok ()) :: onCount .volumesDeleted ::
          removal provider event (.error failure) := by
  generalize hfailed : (.error failure : Except Failure VolumeOutcome) = outcome at run
  cases run with
  | foreign => cases hfailed
  | observed => cases hfailed
  | marked => cases hfailed
  | unserved other h =>
    cases hfailed
    exact .inl ⟨h, rfl⟩
  | removed provider managed deleted => exact absurd deleted kept
  | undeleted provider releasing destroys other =>
    have hdelete := succeeds _ List.mem_cons_self
    cases hdelete
  | destroyed provider releasing destroys answer =>
    rcases answer with other | _
    · cases hfailed
      exact .inr ⟨provider, due_of_releasing releasing destroys, rfl⟩
    · cases hfailed
  | retained provider releasing retains h run =>
    rw [← hfailed] at run
    exact absurd run (not_failed_of_markRun succeeds)

/-- Where a volume of ours is still there and its handling fails though the cluster did all it was
asked to, either nothing was called, for want of a class, or the volume was to be destroyed and has
no identifier: then its object was deleted, and nothing that was made for it. -/
theorem volume_lost_only_if_unnamed {whole : PeerTrace} (kept : event.change ≠ .deleted)
    (run : Program.Runs (onPeers (handleVolume settings event)) whole (.error failure))
    (succeeds : ∀ x ∈ clusterPart whole, succeeded x = true) :
    (providerFor settings event = .error failure ∧ whole = []) ∨
      ∃ provider, Due settings event provider ∧ volumeUuid event.annotations = .error failure ∧
        clusterPart whole = [⟨.deleteVolume event.volumeName, .ok ()⟩] ∧
        storagePart whole = [] := by
  obtain ⟨trace, hrun, carried⟩ := runs_onPeers.mp run
  have hcalls : clusterPart whole = clusterCalls trace := clusterPart_of_carried carried
  rw [hcalls] at succeeds ⊢
  rcases failed_of_volumeRun kept (volumeRun_of_runs hrun) succeeds with
    ⟨unserved, rfl⟩ | ⟨provider, due, rfl⟩
  · cases carried
    exact .inl ⟨unserved, rfl⟩
  · obtain ⟨deleting, counting, rfl, hdelete, hcount⟩ := Program.carried_cons.mp carried
    obtain ⟨counted, removing, rfl, hcounted, hremoving⟩ := Program.carried_cons.mp hcount
    obtain ⟨noting, last, rfl, hnoted, hlast⟩ := Program.carried_cons.mp hremoving
    obtain ⟨removed, nothing, rfl, hremove, hnothing⟩ := Program.carried_cons.mp hlast
    cases runs_carry.mp hdelete
    cases runs_carry.mp hcounted
    cases runs_carry.mp hnoted
    cases hnothing
    cases runs_carry.mp hremove with
    | remove _ _ hrun =>
      obtain ⟨unnamed, rfl⟩ := Backend.unnamed_of_failed_removal hrun
      exact .inr ⟨provider, due, unnamed, rfl, rfl⟩

/-- A volume of ours that its claim let go of and that has no identifier. -/
def Sample.nameless : VolumeEvent :=
  { Sample.volume .released .modified with
    annotations := (∅ : Annotations).insert Key.managedBy Key.defaultIdentity
      |>.insert Key.storageClass "zfs-basic" }

def Sample.losing : PeerTrace :=
  (onPeers (handleVolume Sample.settings Sample.nameless)).exchangesFrom
    (Sample.peerAnswer Sample.store (Simulation.Peers.numberedUuid 1))

theorem Sample.runs_losing :
    Program.Runs (onPeers (handleVolume Sample.settings Sample.nameless)) Sample.losing
      (.error (.missingKey Key.volumeUuid)) := by
  have failed : (onPeers (handleVolume Sample.settings Sample.nameless)).resultFrom
      (Sample.peerAnswer Sample.store (Simulation.Peers.numberedUuid 1)) =
      .error (.missingKey Key.volumeUuid) := by rfl
  rw [← failed]
  exact Program.runs_from _ _

theorem Sample.succeeded_losing : ∀ x ∈ clusterPart Sample.losing, succeeded x = true := by
  decide +kernel

/-- It is deleted all the same. -/
theorem sample_volume_lost_only_if_unnamed :
    ∃ provider, Due Sample.settings Sample.nameless provider ∧
      volumeUuid Sample.nameless.annotations = .error (.missingKey Key.volumeUuid) ∧
      clusterPart Sample.losing = [⟨.deleteVolume "pv-00000001", .ok ()⟩] ∧
      storagePart Sample.losing = [] := by
  have kept : Sample.nameless.change ≠ .deleted := by decide
  rcases volume_lost_only_if_unnamed kept Sample.runs_losing Sample.succeeded_losing with
    ⟨unserved, -⟩ | lost
  · have served : providerFor Sample.settings Sample.nameless = .ok Sample.shellProvider := by rfl
    rw [served] at unserved
    cases unserved
  · exact lost

/-- It is not so that a handling which fails by itself leaves the volume object alone. -/
theorem failed_reclaim_keeps_volume_fails :
    ¬∀ (settings : Settings) (event : VolumeEvent) (whole : PeerTrace) (failure : Failure),
      event.isManagedBy settings.identity = true → event.change ≠ .deleted →
      Program.Runs (onPeers (handleVolume settings event)) whole (.error failure) →
      (∀ x ∈ clusterPart whole, succeeded x = true) →
      ∀ x ∈ clusterPart whole, x.call ≠ .deleteVolume event.volumeName := by
  intro keeps
  have managed : Sample.nameless.isManagedBy Sample.settings.identity = true := by decide +kernel
  have deleted : ∃ x ∈ clusterPart Sample.losing, x.call = .deleteVolume "pv-00000001" :=
    ⟨⟨.deleteVolume "pv-00000001", .ok ()⟩, List.mem_cons_self, rfl⟩
  obtain ⟨x, hx, hcall⟩ := deleted
  exact keeps Sample.settings Sample.nameless Sample.losing _ managed (by decide)
    Sample.runs_losing Sample.succeeded_losing x hx hcall

end DatasetProvisioner.Reconciler
