import DatasetProvisioner.Proofs.Attempts
import DatasetProvisioner.Proofs.Classes
import DatasetProvisioner.Proofs.Sample
import DatasetProvisioner.Proofs.VolumeRuns

/-!
# Removal takes away what provisioning made

What is made for a claim is written into the annotations of its volume, and is found there again
whatever else becomes of the volume: its owner, its provider, its policy, its dataset, its share
and the snapshot it was cloned from.
-/
namespace DatasetProvisioner.Reconciler

open Manifest Storage

variable {settings : Settings} {event : ClaimEvent} {provider : Provider}

/-! ## The annotations of a volume object -/

/-- What an attempt sets for its duration is not in the volume object. -/
theorem getElem?_finished_eq (scope : TransientScope) (after : Annotations) (key : String) :
    (finished provider scope after)[key]? =
      if key ∈ (requested provider scope).transient then none
      else (after.insert Key.reclaimPolicy
        (effectivePolicy after provider.reclaimPolicy).name)[key]? :=
  TransientScope.getElem?_close _ key

/-- The volume object holds what the backend left, and the policy. -/
theorem getElem?_finished {uuid : Uuid} {scope : TransientScope}
    (attempt : Attempt settings event provider uuid (requested provider scope))
    (after : Annotations) {key : String} (hattempt : key ∉ attemptKeys)
    (hpolicy : key ≠ Key.reclaimPolicy) :
    (finished provider scope after)[key]? = after[key]? := by
  have hclosed : key ∉ (requested provider scope).transient :=
    fun hkey => hattempt (attempt.transient key hkey)
  rw [getElem?_finished_eq, if_neg hclosed]
  exact Annotations.getElem?_insert_ne hpolicy.symm

theorem reclaimPolicy_finished {uuid : Uuid} {scope : TransientScope}
    (attempt : Attempt settings event provider uuid (requested provider scope))
    (after : Annotations) :
    (finished provider scope after)[Key.reclaimPolicy]? =
      some (effectivePolicy after provider.reclaimPolicy).name := by
  have hclosed : Key.reclaimPolicy ∉ (requested provider scope).transient :=
    fun hkey => absurd (attempt.transient _ hkey) (by decide)
  rw [getElem?_finished_eq, if_neg hclosed]
  exact Std.ExtTreeMap.getElem?_insert_self

theorem ofString?_name (policy : ReclaimPolicy) :
    ReclaimPolicy.ofString? policy.name = some policy := by
  cases policy <;> decide +kernel

/-! ## A volume object that was provisioned -/

/-- What the annotations of a volume say of how it was made: `made` are the storage calls that made
it. -/
structure Recorded (settings : Settings) (provider : Provider) (uuid : Uuid)
    (policy : ReclaimPolicy) (made : StorageTrace) (annotations : Annotations) : Prop where
  marked : Marked settings.identity provider uuid annotations
  policy : annotations[Key.reclaimPolicy]? = some policy.name
  dataset : datasetsMade made = [provider.backend.place (provider.backend.layout.datasetPath uuid)]
  snapshot : snapshotsTaken made = [] ∧ annotations[Key.cloneSnapshot]? = none ∨
    ∃ snapshot, snapshotsTaken made = [provider.backend.place snapshot] ∧
      annotations[Key.cloneSnapshot]? = some snapshot ∧ Taken provider.backend snapshot
  shares : sharesMade made = provider.backend.shares annotations uuid

theorem shares_congr {backend : Backend} {annotations others : Annotations} {uuid : Uuid}
    (h : annotations[Key.exportPath]? = others[Key.exportPath]?) :
    backend.shares annotations uuid = backend.shares others uuid := by
  cases backend with
  | shell => rfl
  | rest b => simp only [Backend.shares, RestBackend.exportIn, h]

theorem effectivePolicy_congr {annotations others : Annotations} {classDefault : ReclaimPolicy}
    (h : annotations[Key.reclaimPolicy]? = others[Key.reclaimPolicy]?) :
    effectivePolicy annotations classDefault = effectivePolicy others classDefault := by
  rw [effectivePolicy, h, effectivePolicy]

/-- No claim supplies a clone snapshot. -/
theorem cloneSnapshot_allowed : (allowed event provider)[Key.cloneSnapshot]? = none := by
  rw [getElem?_allowed, if_pos (.inl (by decide))]

section

variable {uuid : Uuid} {scope : TransientScope} {after : Annotations}
  (attempt : Attempt settings event provider uuid (requested provider scope))
  (frame : ∀ key ∉ placeKeys, key ≠ Key.cloneSnapshot →
    after[key]? = (requested provider scope).annotations[key]?)

include attempt frame

/-- What a backend leaves alone is in the volume object as the attempt began with it. -/
theorem getElem?_finished_of_frame {key : String} (hattempt : key ∉ attemptKeys)
    (hplace : key ∉ placeKeys) (hsnapshot : key ≠ Key.cloneSnapshot)
    (hpolicy : key ≠ Key.reclaimPolicy) :
    (finished provider scope after)[key]? =
      (workingSet settings.identity event provider uuid)[key]? := by
  rw [getElem?_finished attempt after hattempt hpolicy, frame key hplace hsnapshot,
    attempt.lookup key hattempt]

theorem marked_finished :
    Marked settings.identity provider uuid (finished provider scope after) := by
  have marks : Marked settings.identity provider uuid
      (workingSet settings.identity event provider uuid) := marked_workingSet
  have working {key : String} (h : key ∉ attemptKeys ∧ key ∉ placeKeys ∧
      key ≠ Key.cloneSnapshot ∧ key ≠ Key.reclaimPolicy) :=
    getElem?_finished_of_frame attempt frame h.1 h.2.1 h.2.2.1 h.2.2.2
  constructor
  · rw [working (by decide), marks.owner]
  · rw [working (by decide), marks.volume]
  · rw [working (by decide), marks.storageClass]

/-- The policy was fixed from what the backend left, which is what the claim supplied. -/
theorem policy_finished :
    (finished provider scope after)[Key.reclaimPolicy]? =
      some (effectivePolicy (allowed event provider) provider.reclaimPolicy).name := by
  have supplied : after[Key.reclaimPolicy]? = (allowed event provider)[Key.reclaimPolicy]? := by
    rw [frame Key.reclaimPolicy (by decide) (by decide),
      attempt.lookup Key.reclaimPolicy (by decide), getElem?_workingSet (by decide)]
  rw [reclaimPolicy_finished attempt after, effectivePolicy_congr supplied]

end

theorem recorded_finished {uuid : Uuid} {scope : TransientScope} {after : Annotations}
    (attempt : Attempt settings event provider uuid (requested provider scope)) {made : Uuid}
    {trace : StorageTrace}
    (hmade : Made provider.backend (requested provider scope).annotations after made trace) :
    Recorded settings provider uuid
      (effectivePolicy (allowed event provider) provider.reclaimPolicy) trace
      (finished provider scope after) := by
  obtain rfl : made = uuid := Except.ok.inj (hmade.identified.symm.trans attempt.identified)
  refine ⟨marked_finished attempt hmade.frame, policy_finished attempt hmade.frame, hmade.dataset,
    ?_, ?_⟩
  · rw [getElem?_finished attempt after (by decide) (by decide)]
    rcases hmade.snapshot with ⟨htaken, hnone⟩ | taken
    · refine .inl ⟨htaken, ?_⟩
      rw [hnone, attempt.lookup Key.cloneSnapshot (by decide), getElem?_workingSet (by decide),
        cloneSnapshot_allowed]
    · exact .inr taken
  · rw [hmade.shares]
    exact shares_congr (getElem?_finished attempt after (by decide) (by decide)).symm

theorem Recorded.framed {uuid : Uuid} {policy : ReclaimPolicy} {annotations : Annotations}
    {before made later : StorageTrace}
    (recorded : Recorded settings provider uuid policy made annotations) (hbefore : Idle before)
    (hlater : Idle later) :
    Recorded settings provider uuid policy (before ++ (made ++ later)) annotations := by
  obtain ⟨datasets, snapshots, shares⟩ := hbefore.makes_nothing
  obtain ⟨datasets', snapshots', shares'⟩ := hlater.makes_nothing
  refine ⟨recorded.marked, recorded.policy, ?_, ?_, ?_⟩
  · rw [datasetsMade_append, datasetsMade_append, datasets, datasets', List.append_nil,
      List.nil_append, recorded.dataset]
  · rw [snapshotsTaken_append, snapshotsTaken_append, snapshots, snapshots', List.append_nil,
      List.nil_append]
    exact recorded.snapshot
  · rw [sharesMade_append, sharesMade_append, shares, shares', List.append_nil, List.nil_append,
      recorded.shares]

/-! ## Provisioning -/

def submitted (calls : List (Exchange Cluster.interface)) : List Volume :=
  calls.filterMap fun
    | ⟨.createVolume volume, _⟩ => some volume
    | _ => none

theorem submitted_append (first rest : List (Exchange Cluster.interface)) :
    submitted (first ++ rest) = submitted first ++ submitted rest :=
  List.filterMap_append

theorem submitted_reads {reads : Trace} (h : ∀ x ∈ reads, x.call.isRead = true) :
    submitted (clusterCalls reads) = [] := by
  induction reads with
  | nil => rfl
  | cons x reads ih =>
    rw [← List.singleton_append, clusterCalls_append, submitted_append,
      ih fun y hy => h y (List.mem_cons_of_mem x hy), List.append_nil]
    obtain ⟨call, answer⟩ := x
    have hread : call.isRead = true := h _ List.mem_cons_self
    unfold Call.isRead at hread
    split at hread
    · rfl
    · rfl
    · cases hread

/-- Until an attempt calls its backend, it has drawn an identifier and read. -/
theorem submitted_attempt (uuid : Uuid) {scope : TransientScope} {reads : Trace}
    {result : Except Failure TransientScope}
    (run : ScopeRun settings event provider scope reads result) (rest : Trace) :
    submitted (clusterCalls ((onUuid uuid :: reads) ++ rest)) = submitted (clusterCalls rest) := by
  change submitted (clusterCalls (reads ++ rest)) = _
  rw [clusterCalls_append, submitted_append, submitted_reads (isRead_of_scopeRun run),
    List.nil_append]

/-- A claim that is provisioned: one volume object is submitted, for an identifier that was drawn,
and its annotations say how it was made. -/
theorem recorded_of_provisioned {whole : PeerTrace} {volumeName : String}
    (run : Program.Runs (onPeers (handleClaim settings event)) whole
      (.ok (.provisioned volumeName)))
    (named : NamesSnapshots (storagePart whole)) :
    ∃ provider uuid volume, serverOf settings event = some provider ∧
      (⟨.newUuid, uuid⟩ : Exchange peers) ∈ whole ∧ submitted (clusterPart whole) = [volume] ∧
      Recorded settings provider uuid
        (effectivePolicy (allowed event provider) provider.reclaimPolicy) (storagePart whole)
        volume.annotations := by
  obtain ⟨trace, hrun, carried⟩ := runs_onPeers.mp run
  have hcalls := clusterPart_of_carried carried
  cases runs_handleClaim.mp hrun with
  | served addressed provider served hprovision =>
    cases hprovision with
    | @provisioned uuid reads scope hscope after descriptor stored =>
      obtain ⟨counting, attempting, rfl, hcount, hattempt⟩ := Program.carried_cons.mp carried
      obtain ⟨before, made, later, hpart, hbefore, hlater, hcreate⟩ :=
        storagePart_of_attempt hscope (by simp [Call.onBackend]) hattempt
      obtain ⟨drawing, rest, rfl, hdraw, -⟩ := Program.carried_cons.mp hattempt
      cases runs_carry.mp hcount
      cases runs_carry.mp hdraw
      have hwhole : storagePart ([⟨.count .claimsProcessed, ()⟩] ++ ([⟨.newUuid, uuid⟩] ++ rest)) =
          before ++ (made ++ later) := hpart
      rw [hwhole] at named ⊢
      have namedMade := named.part
        (List.subset_append_of_subset_right before (List.subset_append_left made later))
      obtain ⟨_, hmade⟩ := Backend.made_of_runs namedMade hcreate
      refine ⟨provider, uuid, attempted event provider scope after descriptor, served, ?_, ?_,
        (recorded_finished (attempt_of_scopeRun hscope) hmade).framed hbefore hlater⟩
      · exact List.mem_cons_of_mem _ List.mem_cons_self
      · rw [hcalls]
        exact submitted_attempt uuid hscope _

/-! ## Removal -/

def removals (trace : Trace) : List (Backend × Annotations) :=
  trace.filterMap fun
    | ⟨.remove backend annotations, _⟩ => some (backend, annotations)
    | _ => none

theorem removals_append (first rest : Trace) :
    removals (first ++ rest) = removals first ++ removals rest :=
  List.filterMap_append

theorem removals_aside {trace : Trace} (aside : ∀ x ∈ trace, x.call.onBackend = false) :
    removals trace = [] := by
  refine List.filterMap_eq_nil_iff.mpr fun x hx => ?_
  have haside := aside x hx
  split
  · cases haside
  · rfl

/-- What handling a change to a volume takes away of what was made for it: nothing, as long as no
backend is asked for a removal, or by one removal all of it and nothing else. -/
inductive TakenAway (provider : Provider) (annotations : Annotations)
    (made : StorageTrace) (trace : Trace) (taken : StorageTrace) : Prop where
  | nothing (kept : removals trace = []) (targets : targetsDestroyed taken = [])
      (sought : sharesSought taken = []) (deleted : sharesDeleted taken = [])
  | all (removed : removals trace = [(provider.backend, annotations)])
      (targets : targetsDestroyed taken = datasetsMade made ++ snapshotsTaken made)
      (sought : sharesSought taken = sharesMade made)
      (deleted : sharesDeleted taken = sharesFound taken)

theorem takenAway_aside {annotations : Annotations} {made : StorageTrace} {trace : Trace}
    {whole : PeerTrace} (carried : Program.Carried carry trace whole)
    (aside : ∀ x ∈ trace, x.call.onBackend = false) :
    TakenAway provider annotations made trace (storagePart whole) := by
  obtain ⟨targets, sought, -, deleted⟩ := (idle_of_carried carried aside).destroys_nothing
  exact .nothing (removals_aside aside) targets sought deleted

/-- The snapshot that removal finds recorded is the one that was taken. -/
theorem removableSnapshot_of_recorded {uuid : Uuid} {policy : ReclaimPolicy} {made : StorageTrace}
    {annotations : Annotations}
    (recorded : Recorded settings provider uuid policy made annotations)
    (plain : '@' ∉ provider.backend.layout.datasetRoot.toList) :
    (removableSnapshot provider.backend.layout annotations).toList.map provider.backend.place =
      snapshotsTaken made := by
  rcases recorded.snapshot with ⟨htaken, hnone⟩ | ⟨snapshot, htaken, hsome, taken⟩
  · rw [htaken, removableSnapshot, hnone]
    rfl
  · obtain ⟨dataset, name, rfl, hname, howns⟩ := taken
    have hown := Dataset.Layout.ownsSnapshot_of_owns howns plain hname
    rw [htaken, removableSnapshot, hsome, Option.filter_some, if_pos hown]
    rfl

theorem takenAway_removal {uuid : Uuid} {policy : ReclaimPolicy} {made : StorageTrace}
    {annotations : Annotations}
    (recorded : Recorded settings provider uuid policy made annotations)
    (plain : '@' ∉ provider.backend.layout.datasetRoot.toList) (before : Trace)
    {answer : Except Failure Unit} {whole : PeerTrace}
    (carried : Program.Carried carry
      (before ++ [onRemove provider.backend annotations answer]) whole)
    (aside : ∀ x ∈ before, x.call.onBackend = false) :
    TakenAway provider annotations made (before ++ [onRemove provider.backend annotations answer])
      (storagePart whole) := by
  obtain ⟨first, last, rfl, hfirst, hlast⟩ := Program.carried_append.mp carried
  obtain ⟨removing, rest, rfl, hremove, hrest⟩ := Program.carried_cons.mp hlast
  cases hrest
  obtain ⟨targets, sought, found, deleted⟩ := (idle_of_carried hfirst aside).destroys_nothing
  cases runs_carry.mp hremove with
  | @remove _ _ removed _ hrun =>
    have hremoved := Backend.removed_of_runs hrun (volumeUuid_of_marked recorded.marked)
    rw [List.append_nil, storagePart_append, storagePart_map]
    refine .all ?_ ?_ ?_ ?_
    · rw [removals_append, removals_aside aside]
      rfl
    · rw [targetsDestroyed_append, targets, hremoved.targets, List.map_cons,
        removableSnapshot_of_recorded recorded plain, recorded.dataset]
      rfl
    · rw [sharesSought_append, sought, hremoved.sought, recorded.shares, List.nil_append]
    · rw [sharesDeleted_append, sharesFound_append, deleted, found, hremoved.deleted]

theorem aside_markRun {notice : VolumeEvent} {trace : Trace}
    {outcome : Except Failure VolumeOutcome} (run : MarkRun notice trace outcome) :
    ∀ x ∈ trace, x.call.onBackend = false := by
  cases run <;> simp [Call.onBackend]

theorem takenAway_of_volumeRun {uuid : Uuid} {policy : ReclaimPolicy} {made : StorageTrace}
    {notice : VolumeEvent}
    (recorded : Recorded settings provider uuid policy made notice.annotations)
    (plain : '@' ∉ provider.backend.layout.datasetRoot.toList)
    (served : providerFor settings notice = .ok provider) {trace : Trace}
    {outcome : Except Failure VolumeOutcome} (run : VolumeRun settings notice trace outcome)
    {whole : PeerTrace} (carried : Program.Carried carry trace whole) :
    TakenAway provider notice.annotations made trace (storagePart whole) := by
  cases run with
  | foreign => exact takenAway_aside carried (by simp)
  | observed => exact takenAway_aside carried (by simp)
  | unserved => exact takenAway_aside carried (by simp)
  | marked => exact takenAway_aside carried (by simp)
  | undeleted => exact takenAway_aside carried (by simp [Call.onBackend])
  | retained _ _ _ _ run => exact takenAway_aside carried (aside_markRun run)
  | removed other _ _ hother answer =>
    obtain rfl := Except.ok.inj (served.symm.trans hother)
    exact takenAway_removal recorded plain [_] carried (by simp [Call.onBackend])
  | destroyed other releasing _ answer =>
    obtain rfl := Except.ok.inj (served.symm.trans releasing.served)
    exact takenAway_removal recorded plain [_, _, _] carried
      (by simp [Call.onBackend])

/-- The class that marks a volume leads back to its provider. -/
theorem providerFor_of_marked (keyed : Registry.Keyed settings.registry.providers)
    (served : serverOf settings event = some provider) {uuid : Uuid} {notice : VolumeEvent}
    (marked : Marked settings.identity provider uuid notice.annotations) :
    providerFor settings notice = .ok provider := by
  have hclass : requestedClass notice.annotations notice.specClass =
      Registry.named (some provider.storageClass) := by
    rw [requestedClass, marked.storageClass]
    rfl
  simp only [providerFor, hclass, Registry.resolve_named, Registry.resolve_own keyed served]

theorem isManagedBy_of_marked {uuid : Uuid} {notice : VolumeEvent}
    (marked : Marked settings.identity provider uuid notice.annotations) :
    notice.isManagedBy settings.identity = true := by
  rw [VolumeEvent.isManagedBy, marked.owner]
  exact beq_self_eq_true _

theorem policyOf_of_name {policy : ReclaimPolicy} {notice : VolumeEvent}
    (h : notice.annotations[Key.reclaimPolicy]? = some policy.name) :
    policyOf notice provider = policy := by
  rw [policyOf, effectivePolicy, h, Option.bind_some, ofString?_name]
  rfl

/-- What a later change to a volume finds of its provisioning: `made` are the storage calls that
made the volume. -/
structure Reclaimable (settings : Settings) (provider : Provider) (policy : ReclaimPolicy)
    (made : StorageTrace) (notice : VolumeEvent) : Prop where
  managed : notice.isManagedBy settings.identity = true
  served : providerFor settings notice = .ok provider
  policy : policyOf notice provider = policy
  taken : ∀ (trace : Trace) (outcome : Except Failure VolumeOutcome) (whole : PeerTrace),
    Program.Runs (handleVolume settings notice) trace outcome →
      Program.Carried carry trace whole →
        TakenAway provider notice.annotations made trace (storagePart whole)

theorem annotations_of_ofVolume {change : Change} {volume : Volume} {notice : VolumeEvent}
    (h : VolumeEvent.ofVolume change volume = .ok notice) :
    notice.annotations = volume.annotations := by
  unfold VolumeEvent.ofVolume at h
  split at h
  · cases h
  · cases h
    rfl

theorem reclaimable_of_recorded (keyed : Registry.Keyed settings.registry.providers)
    (served : serverOf settings event = some provider)
    (plain : '@' ∉ provider.backend.layout.datasetRoot.toList) {uuid : Uuid}
    {policy : ReclaimPolicy} {made : StorageTrace} {notice : VolumeEvent}
    (recorded : Recorded settings provider uuid policy made notice.annotations) :
    Reclaimable settings provider policy made notice := by
  have hprovider := providerFor_of_marked keyed served recorded.marked
  refine ⟨isManagedBy_of_marked recorded.marked, hprovider, policyOf_of_name recorded.policy,
    fun trace outcome whole run carried => ?_⟩
  exact takenAway_of_volumeRun recorded plain hprovider (volumeRun_of_runs run) carried

/-- A claim that was provisioned: one dataset was made for the identifier drawn and one volume
object submitted. As long as the annotations of the volume stay as they were submitted, whatever
else becomes of it, each change to it finds its owner, its provider and its policy again, and is
answered by taking away either nothing or exactly what was made. -/
theorem removal_matches_provisioning {defaultClass : Option String} {providers : List Provider}
    (built : Registry.ofProviders defaultClass providers = .ok settings.registry)
    {whole : PeerTrace} {volumeName : String}
    (run : Program.Runs (onPeers (handleClaim settings event)) whole
      (.ok (.provisioned volumeName)))
    (named : NamesSnapshots (storagePart whole))
    (plain : ∀ provider, serverOf settings event = some provider →
      '@' ∉ provider.backend.layout.datasetRoot.toList) :
    ∃ provider uuid volume, serverOf settings event = some provider ∧
      (⟨.newUuid, uuid⟩ : Exchange peers) ∈ whole ∧ submitted (clusterPart whole) = [volume] ∧
      volume.annotations[Key.reclaimPolicy]? =
        some (effectivePolicy (allowed event provider) provider.reclaimPolicy).name ∧
      datasetsMade (storagePart whole) =
        [provider.backend.place (provider.backend.layout.datasetPath uuid)] ∧
      ∀ (later : Volume) (change : Change) (notice : VolumeEvent),
        later.annotations = volume.annotations → VolumeEvent.ofVolume change later = .ok notice →
          Reclaimable settings provider
            (effectivePolicy (allowed event provider) provider.reclaimPolicy) (storagePart whole)
            notice := by
  obtain ⟨provider, uuid, volume, served, drawn, submitted, recorded⟩ :=
    recorded_of_provisioned run named
  refine ⟨provider, uuid, volume, served, drawn, submitted, recorded.policy, recorded.dataset,
    fun later change notice hlater hnotice => ?_⟩
  rw [← hlater, ← annotations_of_ofVolume hnotice] at recorded
  exact reclaimable_of_recorded (Registry.keyed_of_ofProviders built) served
    (plain provider served) recorded

theorem Sample.namesSnapshots {α : Type} (p : Program peers α) (store : Cluster.Store)
    (uuid : Uuid) :
    NamesSnapshots (storagePart (p.exchangesFrom (Sample.peerAnswer store uuid))) := by
  intro dataset name volumeRef snapshot hmem
  obtain ⟨x, hx, hpart⟩ := List.mem_filterMap.mp hmem
  rw [Program.eq_of_mem_exchangesFrom hx] at hpart
  obtain ⟨call, answer⟩ := x
  cases call with
  | storage c =>
    simp only [Option.some.injEq] at hpart
    cases hpart
    rfl
  | cluster => cases hpart
  | newUuid => cases hpart
  | count => cases hpart

/-- The claim for a clone, served through the management interface: a snapshot is taken and a share
made, and a deletion of the volume takes away both with its dataset. -/
theorem sample_removal_matches_provisioning :
    ∃ whole volumeName provider volume,
      Program.Runs (onPeers (handleClaim Sample.settings (Sample.cloneClaim "zfs-rest"))) whole
        (.ok (.provisioned volumeName)) ∧
      (snapshotsTaken (storagePart whole)).length = 1 ∧
      (sharesMade (storagePart whole)).length = 1 ∧
      submitted (clusterPart whole) = [volume] ∧
      ∀ change notice, VolumeEvent.ofVolume change volume = .ok notice →
        Reclaimable Sample.settings provider .delete (storagePart whole) notice := by
  have run := Program.runs_from
    (Sample.peerAnswer Sample.store (Simulation.Peers.numberedUuid 1))
    (onPeers (handleClaim Sample.settings (Sample.cloneClaim "zfs-rest")))
  have made : (onPeers (handleClaim Sample.settings (Sample.cloneClaim "zfs-rest"))).resultFrom
      (Sample.peerAnswer Sample.store (Simulation.Peers.numberedUuid 1)) =
        .ok (.provisioned "pv-00000001") := by decide +kernel
  have served : serverOf Sample.settings (Sample.cloneClaim "zfs-rest") =
      some Sample.restProvider := by rfl
  rw [made] at run
  obtain ⟨provider, uuid, volume, hserved, -, submitted, -, -, paired⟩ :=
    removal_matches_provisioning Sample.registry_built run (Sample.namesSnapshots _ _ _) (by
      intro provider hprovider
      rw [served] at hprovider
      cases hprovider
      decide)
  rw [served] at hserved
  cases hserved
  have policy : effectivePolicy (allowed (Sample.cloneClaim "zfs-rest") Sample.restProvider)
      Sample.restProvider.reclaimPolicy = .delete := by decide +kernel
  rw [policy] at paired
  exact ⟨_, _, Sample.restProvider, volume, run, by decide +kernel, by decide +kernel, submitted,
    fun change notice hnotice => paired volume change notice rfl hnotice⟩

end DatasetProvisioner.Reconciler
