import DatasetProvisioner.Proofs.Authority
import DatasetProvisioner.Proofs.Interleaving

/-!
# A deletion is decided by the notice

A volume object is deleted on the word of the notice that is being handled. What the notice says of
the volume was so at some earlier moment; whatever was written to the volume since then has no say,
and the deletion is called for even where the stored object asks to be kept. Marking a volume as
released, on the other path, reads the stored object first.
-/
namespace DatasetProvisioner.Controller

open Manifest Reconciler

/-- The next call deletes the volume object of a name. -/
def Moment.Deletes (m : Moment) (volumeName : String) : Prop :=
  ∃ next, m.task =
    some (.ask (I := Reconciler.interface) (.cluster (.deleteVolume volumeName)) next)

/-- A stored volume is to be destroyed: it is this controller's, it was let go of, and the policy in
force deletes or recycles. -/
structure Doomed (settings : Settings) (volume : Volume) : Prop where
  managed : volume.annotations[Key.managedBy]? = some settings.identity
  released : volume.status.bind (·.phase) = some "Released" ∨
    volume.status.bind (·.phase) = some "Failed"
  policy : ∃ provider, settings.registry.resolve (requestedClass volume.annotations
      (volume.spec.bind (·.storageClassName))) = some provider ∧
    (InForce volume.annotations provider.reclaimPolicy .delete ∨
      InForce volume.annotations provider.reclaimPolicy .recycle)

theorem phase_eq_iff {phase : Option String} {kind : VolumePhase}
    (h : kind = .released ∨ kind = .failed) :
    (phase.map VolumePhase.ofString).getD .pending = kind ↔ phase = some kind.name := by
  rcases phase with _ | text
  · rcases h with rfl | rfl <;> simp
  · simp only [Option.map_some, Option.getD_some, Option.some.injEq]
    unfold VolumePhase.ofString
    constructor
    · intro hkind
      rcases h with rfl | rfl
      · split at hkind <;> first | rfl | cases hkind
      · split at hkind <;> first | rfl | cases hkind
    · rintro rfl
      rcases h with rfl | rfl <;> rfl

theorem providerFor_eq_ok_iff {settings : Settings} {event : VolumeEvent} {provider : Provider} :
    providerFor settings event = .ok provider ↔
      settings.registry.resolve (requestedClass event.annotations event.specClass) =
        some provider := by
  unfold providerFor
  dsimp only
  cases settings.registry.resolve (requestedClass event.annotations event.specClass) <;> simp

/-- What a notice of a volume that is still there calls for is what the volume calls for. -/
theorem due_iff_doomed {settings : Settings} {change : Change} {volume : Volume}
    {event : VolumeEvent} (h : VolumeEvent.ofVolume change volume = .ok event)
    (kept : change ≠ .deleted) :
    (∃ provider, Due settings event provider) ↔ Doomed settings volume := by
  unfold VolumeEvent.ofVolume at h
  cases hname : volume.metadata.name with
  | none => simp [hname] at h
  | some volumeName =>
    simp only [hname, Except.ok.injEq] at h
    subst h
    constructor
    · rintro ⟨provider, managed, served, deleted | ⟨-, released, policy⟩⟩
      · exact absurd deleted kept
      · refine ⟨?_, ?_, provider, providerFor_eq_ok_iff.mp served, policy⟩
        · simpa [VolumeEvent.isManagedBy] using managed
        · exact released.imp (phase_eq_iff (.inl rfl)).mp (phase_eq_iff (.inr rfl)).mp
    · rintro ⟨managed, released, provider, served, policy⟩
      refine ⟨provider, ?_, providerFor_eq_ok_iff.mpr served, .inr ⟨kept, ?_, policy⟩⟩
      · simpa [VolumeEvent.isManagedBy] using managed
      · exact released.imp (phase_eq_iff (.inl rfl)).mpr (phase_eq_iff (.inr rfl)).mpr

/-- A deletion is called for in the handling of a notice that calls for it. -/
theorem due_of_deletion {settings : Settings} {event : VolumeEvent} {trace : Trace}
    {outcome : Except Failure VolumeOutcome}
    (run : Program.Runs (handleVolume settings event) trace outcome) {volumeName : String}
    {answer : Except Failure Unit} (h : onCluster (.deleteVolume volumeName) answer ∈ trace) :
    volumeName = event.volumeName ∧ event.change ≠ .deleted ∧
      ∃ provider, Due settings event provider := by
  have hdestructive : onCluster (.deleteVolume volumeName) answer ∈ destructive trace :=
    List.mem_filter.mpr ⟨h, rfl⟩
  have destroyed := destroyed_of_volumeRun (volumeRun_of_runs run)
  generalize destructive trace = destroying at hdestructive destroyed
  cases destroyed with
  | nothing => simp at hdestructive
  | deleted => simp at hdestructive
  | refused provider due kept failure =>
    obtain ⟨rfl, -⟩ : volumeName = event.volumeName ∧ _ := by simpa using hdestructive
    exact ⟨rfl, kept, provider, due⟩
  | reclaimed provider due kept answer =>
    obtain ⟨rfl, -⟩ : volumeName = event.volumeName ∧ _ := by simpa using hdestructive
    exact ⟨rfl, kept, provider, due⟩

/-- A notice that calls for a deletion is answered by it at once, with no look at the cluster. -/
theorem handleVolume_of_due {settings : Settings} {event : VolumeEvent} {provider : Provider}
    (due : Due settings event provider) (kept : event.change ≠ .deleted) :
    ∃ next, handleVolume settings event =
      .ask (I := Reconciler.interface) (.cluster (.deleteVolume event.volumeName)) next := by
  obtain ⟨managed, served, deleted | ⟨-, released, policy⟩⟩ := due
  · exact absurd deleted kept
  · have destroys := mayDestroy_iff.mp policy
    rw [policyOf] at destroys
    simp only [handleVolume, managed, Bool.not_true, Bool.false_eq_true, if_false, kept, released,
      if_true, reclaim, served, destroys]
    exact ⟨_, rfl⟩

theorem notice_of_deletes {settings : Settings} {m : Moment} {past : List Moment}
    (history : History settings m past) {volumeName : String} (deletes : m.Deletes volumeName) :
    ∃ event, m.pipeline.notification = .handling event ∧ event.volumeName = volumeName ∧
      event.change ≠ .deleted ∧ ∃ provider, Due settings event provider := by
  obtain ⟨next, waiting⟩ := deletes
  obtain ⟨event, trace, handling, remains⟩ := history.grounded.task _ waiting
  -- Whatever the answers are from now on, the handling that is under way ends with some run.
  have rest := Program.runs_from (Sample.answer m.store (Simulation.Peers.numberedUuid 1))
    (.ask (I := Reconciler.interface) (.cluster (.deleteVolume volumeName)) next)
  obtain ⟨hname, kept, due⟩ := due_of_deletion (remains.runs rest)
    (List.mem_append_right _ List.mem_cons_self)
  exact ⟨event, handling, hname.symm, kept, due⟩

/-- Whatever is written to the cluster between the notice of a doomed volume and its handling, the
deletion is called for. -/
theorem exists_deletion {settings : Settings} {volumeName : String} {seen : Volume}
    (named : seen.metadata.name = some volumeName) (doomed : Doomed settings seen)
    (store : Cluster.Store) :
    ∃ m before past, History settings m (before :: past) ∧ before.store = store ∧
      before.task = none ∧ m.store = store ∧ m.Deletes volumeName := by
  obtain ⟨event, made⟩ : ∃ event, VolumeEvent.ofVolume .modified seen = .ok event := by
    unfold VolumeEvent.ofVolume
    rw [named]
    exact ⟨_, rfl⟩
  obtain ⟨hname, hchange⟩ := name_and_change made
  obtain rfl := Option.some.inj (hname.symm.trans named)
  have kept : event.change ≠ .deleted := by
    rw [hchange]
    decide
  obtain ⟨provider, due⟩ := (due_iff_doomed made (by decide)).mpr doomed
  obtain ⟨next, hnext⟩ := handleVolume_of_due due kept
  have stored : (Cluster.Store.putVolume {} seen).volume? event.volumeName = some seen := by
    simp [Cluster.Store.putVolume, Cluster.Store.volume?, named]
  have started : History settings { store := Cluster.Store.putVolume {} seen } [] := .start _
  have watching := started.move (.watched (.opened (.ok ())) (by simp))
  have told := watching.move (.told .modified seen _ _ named List.mem_cons_self stored)
  have written := told.move (.written store)
  have taken := written.move (.taken (onWatch_eq _ _).1)
  refine ⟨_, _, _, taken, rfl, rfl, rfl, next, ?_⟩
  have arrived : Pipeline.onWatch VolumeEvent.ofVolume
      (Pipeline.onWatch VolumeEvent.ofVolume {} (.opened (.ok ()))) (.changed .modified seen) =
        { watch := .reading, queue := EventQueue.enqueue {} event } := by
    simp only [Pipeline.onWatch, WatchPhase.next, made, Except.toOption]
  rw [← hnext]
  simp only [arrived]
  rfl

/-- A volume object is deleted only where some earlier moment had it stored and doomed, and the
notice that is handled was made of it then. Whatever is stored under its name by now, and was when
the notice was taken, does not matter. -/
theorem deletion_decided_by_notice (settings : Settings) (volumeName : String) :
    (∀ m past, History settings m past → m.Deletes volumeName →
      ∃ earlier ∈ past, ∃ seen, earlier.store.volume? volumeName = some seen ∧
        Doomed settings seen ∧ ∃ event, m.pipeline.notification = .handling event ∧
          event.change ≠ .deleted ∧ VolumeEvent.ofVolume event.change seen = .ok event) ∧
    ∀ seen, seen.metadata.name = some volumeName → Doomed settings seen →
      ∀ store, ∃ m before past, History settings m (before :: past) ∧ before.store = store ∧
        before.task = none ∧ m.store = store ∧ m.Deletes volumeName := by
  refine ⟨fun m past history deletes => ?_, fun seen named doomed store =>
    exists_deletion named doomed store⟩
  obtain ⟨event, handling, rfl, kept, due⟩ := notice_of_deletes history deletes
  obtain ⟨earlier, known, seen, -, stored, made⟩ := history.grounded.handled event handling
  exact ⟨earlier, known, seen, stored, (due_iff_doomed made kept).mp due, event, handling, kept,
    made⟩

/-- A volume that its claim has let go of, with a reclaim policy of its own. -/
def Sample.released (policy : String) : Volume where
  metadata := {
    name := some "pv-x"
    annotations := some ((∅ : Annotations).insert Key.managedBy Key.defaultIdentity
      |>.insert Key.storageClass "zfs-basic"
      |>.insert Key.volumeUuid "0000000a-0000-4000-8000-00000000000a"
      |>.insert Key.reclaimPolicy policy) }
  status := some { phase := some "Released" }

theorem Sample.doomed_delete : Doomed Sample.settings (Sample.released "Delete") where
  managed := by decide +kernel
  released := .inl rfl
  policy := ⟨Sample.shellProvider, by rfl, .inl (inForce_iff.mpr (by decide +kernel))⟩

/-- A notice of the volume is made while it is to be deleted, and the policy is changed before the
notice is handled. -/
theorem sample_deletion_decided_by_notice :
    ∃ m past, History Sample.settings m past ∧ m.Deletes "pv-x" ∧
      m.store = Cluster.Store.putVolume {} (Sample.released "Retain") ∧
      ∃ earlier ∈ past, ∃ seen, earlier.store.volume? "pv-x" = some seen ∧
        Doomed Sample.settings seen := by
  obtain ⟨decided, unheeded⟩ := deletion_decided_by_notice Sample.settings "pv-x"
  obtain ⟨m, before, past, history, -, -, hstore, deletes⟩ :=
    unheeded (Sample.released "Delete") rfl Sample.doomed_delete
      (Cluster.Store.putVolume {} (Sample.released "Retain"))
  obtain ⟨earlier, known, seen, stored, doomed, -⟩ := decided m _ history deletes
  exact ⟨m, _, history, deletes, hstore, earlier, known, seen, stored, doomed⟩

theorem Sample.not_doomed_retain : ¬Doomed Sample.settings (Sample.released "Retain") := by
  rintro ⟨-, -, provider, -, policy⟩
  have retains : effectivePolicy (Sample.released "Retain").annotations provider.reclaimPolicy =
      .retain := by
    have named : ((Sample.released "Retain").annotations[Key.reclaimPolicy]?.bind
        ReclaimPolicy.ofString?) = some .retain := by decide +kernel
    rw [effectivePolicy, named]
    rfl
  rw [inForce_iff, inForce_iff, retains] at policy
  rcases policy with policy | policy <;> cases policy

/-- The policy of a volume is changed to one that retains while the notice waits that it is to be
deleted: the object is deleted all the same. So the stored object does not decide. -/
theorem stored_object_decides_fails :
    ¬∀ (settings : Settings) (m : Moment) (past : List Moment) (volumeName : String),
      History settings m past → m.Deletes volumeName →
        ∃ stored, m.store.volume? volumeName = some stored ∧ Doomed settings stored := by
  intro claim
  obtain ⟨m, before, past, history, -, -, hstore, deletes⟩ := exists_deletion rfl
    Sample.doomed_delete (Cluster.Store.putVolume {} (Sample.released "Retain"))
  obtain ⟨stored, hstored, doomed⟩ := claim _ _ _ _ history deletes
  rw [hstore] at hstored
  have retained : stored = Sample.released "Retain" := by
    simpa [Cluster.Store.putVolume, Cluster.Store.volume?, Sample.released] using hstored.symm
  exact Sample.not_doomed_retain (retained ▸ doomed)

end DatasetProvisioner.Controller
