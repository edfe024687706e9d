import DatasetProvisioner.Proofs.Pairing
import DatasetProvisioner.Proofs.Redelivery
import DatasetProvisioner.Proofs.Stamps

/-!
# Annotations that a claim cannot forge

A claim may supply any annotation, those of the controller included. In a volume object that is
submitted for it the owner, the identifier, the class, the place, the policy and the snapshot stand
as the controller, the class and the hosts have them: the claim has its say about the class and the
policy, and about the mode where its object gives none. Names are another matter, since a template
may use what the claim supplies under any key.
-/
namespace DatasetProvisioner.Reconciler

open Manifest Storage

variable {settings : Settings} {event : ClaimEvent} {provider : Provider} {uuid : Uuid}

/-! ## What a claim may decide -/

/-- The policy that a claim asks for, where its class lets it; otherwise the default. -/
def claimedPolicy (event : ClaimEvent) (provider : Provider) : ReclaimPolicy :=
  ((if Key.reclaimPolicy ∈ provider.blocked then none
    else event.annotations[Key.reclaimPolicy]?).bind ReclaimPolicy.ofString?).getD
    provider.reclaimPolicy

/-- The keys of the controller in a volume object. The mode is one of them where the object of the
claim gives it. -/
def ownedKeys (event : ClaimEvent) : List String :=
  [Key.managedBy, Key.volumeUuid, Key.storageClass, Key.exportHost, Key.datasetPath,
    Key.managedProvider, Key.exportPath, Key.reclaimPolicy, Key.cloneSnapshot] ++ attemptKeys ++
    if event.volumeMode.isSome then [Key.volumeMode] else []

/-- Annotations that differ from those of a claim under the controller's keys at most, and there
not in what a claim may ask for. -/
structure Forged (event : ClaimEvent) (annotations : Annotations) : Prop where
  kept : ∀ key ∉ ownedKeys event, annotations[key]? = event.annotations[key]?
  storageClass : annotations[Key.storageClass]? = event.annotations[Key.storageClass]?
  reclaimPolicy : annotations[Key.reclaimPolicy]? = event.annotations[Key.reclaimPolicy]?

theorem effectivePolicy_allowed :
    effectivePolicy (allowed event provider) provider.reclaimPolicy =
      claimedPolicy event provider := by
  have supplied : (allowed event provider)[Key.reclaimPolicy]? =
      if Key.reclaimPolicy ∈ provider.blocked then none
      else event.annotations[Key.reclaimPolicy]? := by
    have external : Key.reclaimPolicy ∉ Key.internalOnly := by decide
    rw [getElem?_allowed, Annotations.getElem?_ofClaim
      (Annotations.workingKey_eq_iff (by decide)) (by decide) (by decide)]
    simp only [external, false_or]
  rw [effectivePolicy, supplied, claimedPolicy]

theorem Forged.claimedPolicy_eq {annotations : Annotations} (forged : Forged event annotations) :
    claimedPolicy { event with annotations } provider = claimedPolicy event provider := by
  simp only [claimedPolicy, forged.reclaimPolicy]

theorem Forged.serverOf_eq {annotations : Annotations} (forged : Forged event annotations) :
    serverOf settings { event with annotations } = serverOf settings event := by
  have supplied : (Annotations.ofClaim event.claimNamespace event.claimName
      annotations)[Key.storageClass]? =
      (Annotations.ofClaim event.claimNamespace event.claimName
        event.annotations)[Key.storageClass]? := by
    refine Annotations.getElem?_ofClaim_congr (fun key hkey => ?_) _ _
    unfold Key.workingKey at hkey
    split at hkey
    · exact absurd hkey (by decide)
    · split at hkey
      · next h =>
        subst h
        refine forged.kept _ ?_
        unfold ownedKeys
        split <;> decide
      · subst hkey
        exact forged.storageClass
  have class_eq : classOf { event with annotations } = classOf event := by
    simp only [classOf, requestedClass, Annotations.stripInternal, Annotations.getElem?_eraseAll,
      supplied]
  rw [serverOf, class_eq, serverOf]

/-! ## What a claim may not decide -/

/-- The annotations of a volume object that stand as the controller has them. `made` are the
storage calls for it. -/
structure Owned (settings : Settings) (event : ClaimEvent) (provider : Provider) (uuid : Uuid)
    (made : StorageTrace) (volume : Volume) : Prop where
  marked : Marked settings.identity provider uuid volume.annotations
  place : Placard provider.backend.layout uuid volume.annotations
  exportPath : volume.annotations[Key.exportPath]? =
    some (exportTold provider.backend.layout uuid made)
  mounted : volume.annotations[Key.exportPath]? =
    (volume.spec.bind (·.exportSource)).map (·.path)
  policy : volume.annotations[Key.reclaimPolicy]? = some (claimedPolicy event provider).name
  mode : ∀ mode, event.volumeMode = some mode → volume.annotations[Key.volumeMode]? = some mode
  passing : ∀ key ∈ attemptKeys, volume.annotations[key]? = none
  snapshot : (volume.annotations[Key.cloneSnapshot]?).toList = snapshotIds made

theorem volumeMode_workingSet {identity mode : String} (h : event.volumeMode = some mode) :
    (workingSet identity event provider uuid)[Key.volumeMode]? = some mode := by
  rw [workingSet_eq]
  simp only [h]
  exact Std.ExtTreeMap.getElem?_insert_self

theorem getElem?_finished_of_transient {scope : TransientScope} {key : String}
    (h : key ∈ (requested provider scope).transient) (after : Annotations) :
    (finished provider scope after)[key]? = none := by
  rw [getElem?_finished_eq, if_pos h]

theorem getElem?_finished_of_none {scope : TransientScope} {after : Annotations} {key : String}
    (h : after[key]? = none) (hpolicy : key ≠ Key.reclaimPolicy) :
    (finished provider scope after)[key]? = none := by
  rw [getElem?_finished_eq, Annotations.getElem?_insert_ne hpolicy.symm, h, ite_self]

theorem passing_finished {reads : Trace} {scope : TransientScope}
    (run : ScopeRun settings event provider (opened settings event provider uuid) reads (.ok scope))
    {after : Annotations}
    (frame : ∀ key ∉ placeKeys, key ≠ Key.cloneSnapshot →
      after[key]? = (requested provider scope).annotations[key]?) :
    ∀ key ∈ attemptKeys, (finished provider scope after)[key]? = none := by
  have opening : Key.volumeTag ∈ (opened settings event provider uuid).transient :=
    TransientScope.mem_insertTransient.mpr (.inl rfl)
  have tag : Key.volumeTag ∈ scope.transient := by
    cases run with
    | plain => exact opening
    | resolved => exact TransientScope.mem_insertTransient.mpr (.inr opening)
  intro key hkey
  simp only [attemptKeys, List.mem_cons, List.not_mem_nil, or_false] at hkey
  rcases hkey with rfl | rfl | rfl
  · exact getElem?_finished_of_transient (TransientScope.mem_insertTransient.mpr (.inr tag)) after
  · cases run with
    -- Without a clone the key was never set: what the claim supplied under it was stripped.
    | plain =>
      refine getElem?_finished_of_none ?_ (by decide)
      rw [frame Key.cloneRef (by decide) (by decide), cloneRef_requested, cloneRef_opened]
    | resolved =>
      exact getElem?_finished_of_transient (TransientScope.mem_insertTransient.mpr
        (.inr (TransientScope.mem_insertTransient.mpr (.inl rfl)))) after
  · exact getElem?_finished_of_transient (TransientScope.mem_insertTransient.mpr (.inl rfl)) after

theorem owned_of_stamped {reads : Trace} {scope : TransientScope}
    (run : ScopeRun settings event provider (opened settings event provider uuid) reads (.ok scope))
    {after : Annotations} {stamp : Uuid} {made : StorageTrace} {descriptor : Descriptor}
    (stamped : Stamped provider.backend (requested provider scope).annotations after stamp made
      descriptor) :
    Owned settings event provider uuid made (attempted event provider scope after descriptor) := by
  have attempt := attempt_of_scopeRun run
  obtain rfl : stamp = uuid := Except.ok.inj (stamped.identified.symm.trans attempt.identified)
  have kept {key : String} (h : key ∉ attemptKeys ∧ key ≠ Key.reclaimPolicy) :=
    getElem?_finished attempt after h.1 h.2
  refine ⟨marked_finished attempt stamped.frame, stamped.placard.congr fun key hkey => kept ?_,
    ?_, ?_, ?_, fun mode hmode => ?_, passing_finished run stamped.frame, ?_⟩
  · simp only [List.mem_cons, List.not_mem_nil, or_false] at hkey
    rcases hkey with rfl | rfl | rfl <;> decide
  · exact (kept (by decide)).trans (stamped.exportPath.trans (congrArg some stamped.told))
  · exact (kept (by decide)).trans stamped.exportPath
  · exact (policy_finished attempt stamped.frame).trans
      (congrArg (fun policy => some policy.name) effectivePolicy_allowed)
  · exact (getElem?_finished_of_frame attempt stamped.frame (by decide) (by decide) (by decide)
      (by decide)).trans (volumeMode_workingSet hmode)
  · have recorded : (attempted event provider scope after descriptor).annotations[
        Key.cloneSnapshot]? = after[Key.cloneSnapshot]? := kept (by decide)
    rw [recorded]
    rcases stamped.snapshot with ⟨hids, hkept⟩ | ⟨snapshot, hids, hset⟩
    · rw [hids, hkept, attempt.lookup Key.cloneSnapshot (by decide),
        getElem?_workingSet (by decide), cloneSnapshot_allowed]
      rfl
    · rw [hids, hset]
      rfl

/-- Two volume objects that were made for the same identifier, and of which the hosts told the same,
agree under every key of the controller, whatever the one claim forged. -/
theorem Owned.agree {annotations : Annotations} (forged : Forged event annotations)
    {made again : StorageTrace} {volume other : Volume}
    (owned : Owned settings event provider uuid made volume)
    (reowned : Owned settings { event with annotations } provider uuid again other)
    (hids : snapshotIds again = snapshotIds made) (hpoints : mountPoints again = mountPoints made) :
    ∀ key ∈ ownedKeys event, other.annotations[key]? = volume.annotations[key]? := by
  intro key hkey
  rcases List.mem_append.mp hkey with hkey | hmode
  · rcases List.mem_append.mp hkey with hkey | hpassing
    · simp only [List.mem_cons, List.not_mem_nil, or_false] at hkey
      rcases hkey with rfl | rfl | rfl | rfl | rfl | rfl | rfl | rfl | rfl
      · rw [owned.marked.owner, reowned.marked.owner]
      · rw [owned.marked.volume, reowned.marked.volume]
      · rw [owned.marked.storageClass, reowned.marked.storageClass]
      · rw [owned.place.host, reowned.place.host]
      · rw [owned.place.dataset, reowned.place.dataset]
      · rw [owned.place.provider, reowned.place.provider]
      · rw [owned.exportPath, reowned.exportPath, exportTold, exportTold, hpoints]
      · rw [owned.policy, reowned.policy, forged.claimedPolicy_eq]
      · have same := congrArg List.head? (reowned.snapshot.trans (hids.trans owned.snapshot.symm))
        simpa only [Option.head?_toList] using same
    · rw [owned.passing key hpassing, reowned.passing key hpassing]
  · split at hmode
    · next given =>
      obtain ⟨mode, hevent⟩ := Option.isSome_iff_exists.mp given
      rw [List.mem_singleton.mp hmode, owned.mode mode hevent, reowned.mode mode hevent]
    · cases hmode

/-! ## Over whole runs -/

/-- The identifiers that were drawn. -/
def identifiers (trace : PeerTrace) : List Uuid :=
  trace.filterMap fun
    | ⟨.newUuid, uuid⟩ => some uuid
    | _ => none

theorem identifiers_append (first rest : PeerTrace) :
    identifiers (first ++ rest) = identifiers first ++ identifiers rest :=
  List.filterMap_append

theorem identifiers_map (trace : StorageTrace) : identifiers (trace.map peerOf) = [] := by
  induction trace with
  | nil => rfl
  | cons x trace ih => exact ih

theorem identifiers_of_carried {trace : Trace} {whole : PeerTrace}
    (carried : Program.Carried carry trace whole) : identifiers whole = drawn trace := by
  induction carried with
  | nil => rfl
  | @cons c answer part trace whole head tail ih =>
    rw [identifiers_append, ih]
    cases runs_carry.mp head with
    | cluster => rfl
    | create => rw [identifiers_map]; rfl
    | remove => rw [identifiers_map]; rfl
    | newUuid => rfl
    | clock => rfl
    | count => rfl

theorem drawn_attempt (uuid : Uuid) {scope : TransientScope} {reads : Trace}
    {result : Except Failure TransientScope}
    (run : ScopeRun settings event provider scope reads result) (rest : Trace) :
    drawn ((onUuid uuid :: reads) ++ rest) = uuid :: drawn rest := by
  change uuid :: drawn (reads ++ rest) = _
  rw [drawn_append, drawn_scopeRun run, List.nil_append]

/-- An attempt that submits a volume object drew one identifier and had its backend make the
volume. -/
theorem attempt_of_submitted {trace : Trace} {outcome : Except Failure ClaimOutcome}
    (run : ProvisionRun settings event provider trace outcome) {volume : Volume}
    (h : volume ∈ submitted (clusterCalls trace)) :
    ∃ uuid reads scope after descriptor rest,
      ScopeRun settings event provider (opened settings event provider uuid) reads (.ok scope) ∧
      trace = (onUuid uuid :: reads) ++
        onAttempt event provider scope after (some descriptor) :: rest ∧
      (∀ x ∈ rest, x.call.onBackend = false) ∧ drawn trace = [uuid] ∧
      volume = attempted event provider scope after descriptor := by
  cases run with
  | refused uuid run =>
    rw [← List.append_nil (_ :: _), submitted_attempt uuid run] at h
    cases h
  | declined uuid run =>
    rw [submitted_attempt uuid run] at h
    cases h
  | @rejected uuid reads scope run after descriptor failure =>
    rw [submitted_attempt uuid run] at h
    exact ⟨uuid, reads, scope, after, descriptor, _, run, rfl, by simp [Call.onBackend],
      drawn_attempt uuid run _, List.mem_singleton.mp h⟩
  | @provisioned uuid reads scope run after descriptor stored =>
    rw [submitted_attempt uuid run] at h
    exact ⟨uuid, reads, scope, after, descriptor, _, run, rfl, by simp [Call.onBackend],
      drawn_attempt uuid run _, List.mem_singleton.mp h⟩

/-- How a volume object that was submitted came about: one identifier was drawn, the backend of its
class made the volume, and nothing else of the run touched storage. -/
structure Making (settings : Settings) (event : ClaimEvent) (provider : Provider) (uuid : Uuid)
    (scope : TransientScope) (after : Annotations) (descriptor : Descriptor) (whole : PeerTrace)
    (volume : Volume) : Prop where
  served : serverOf settings event = some provider
  drawn : identifiers whole = [uuid]
  prepared : ∃ reads,
    ScopeRun settings event provider (opened settings event provider uuid) reads (.ok scope)
  created : ∃ before made later, storagePart whole = before ++ (made ++ later) ∧ Idle before ∧
    Idle later ∧ Program.Runs (provider.backend.create (requested provider scope).annotations
      event.requestedBytes) made (after, some descriptor)
  object : volume = attempted event provider scope after descriptor

theorem making_of_submitted {whole : PeerTrace} {outcome : Except Failure ClaimOutcome}
    (run : Program.Runs (onPeers (handleClaim settings event)) whole outcome) {volume : Volume}
    (h : volume ∈ submitted (clusterPart whole)) :
    ∃ provider uuid scope after descriptor,
      Making settings event provider uuid scope after descriptor whole volume := by
  obtain ⟨trace, hrun, carried⟩ := runs_onPeers.mp run
  rw [clusterPart_of_carried carried] at h
  have drawing := identifiers_of_carried carried
  cases runs_handleClaim.mp hrun with
  | stale => cases h
  | foreign => cases h
  | unclaimed => cases h
  | unserved => cases h
  | served addressed provider served hprovision =>
    obtain ⟨uuid, reads, scope, after, descriptor, rest, hscope, rfl, aside, hdrawn, rfl⟩ :=
      attempt_of_submitted hprovision h
    obtain ⟨counting, attempting, rfl, hcount, hattempt⟩ := Program.carried_cons.mp carried
    cases runs_carry.mp hcount
    obtain ⟨before, made, later, hpart, hbefore, hlater, hcreate⟩ :=
      storagePart_of_attempt hscope aside hattempt
    exact ⟨provider, uuid, scope, after, descriptor, served, drawing.trans hdrawn, ⟨reads, hscope⟩,
      ⟨before, made, later, hpart, hbefore, hlater, hcreate⟩, rfl⟩

theorem owned_of_submitted {whole : PeerTrace} {outcome : Except Failure ClaimOutcome}
    (run : Program.Runs (onPeers (handleClaim settings event)) whole outcome) {volume : Volume}
    (h : volume ∈ submitted (clusterPart whole)) :
    ∃ provider uuid, serverOf settings event = some provider ∧ identifiers whole = [uuid] ∧
      Owned settings event provider uuid (storagePart whole) volume := by
  obtain ⟨provider, uuid, scope, after, descriptor, making⟩ := making_of_submitted run h
  obtain ⟨reads, hscope⟩ := making.prepared
  obtain ⟨before, made, later, hpart, hbefore, hlater, hcreate⟩ := making.created
  obtain ⟨stamp, stamped⟩ := Backend.stamped_of_runs hcreate
  refine ⟨provider, uuid, making.served, making.drawn, ?_⟩
  rw [hpart, making.object]
  exact owned_of_stamped hscope (stamped.framed hbefore hlater)

/-- The keys whose values the controller or a host decides, or an attempt takes away again. -/
def decidedKeys : List String :=
  attemptKeys ++ placeKeys ++ ownKeys ++ [Key.cloneSnapshot, Key.reclaimPolicy]

/-- Under every other key, a volume object has what the claim supplies and may supply. -/
theorem Making.supplied {scope : TransientScope} {after : Annotations} {descriptor : Descriptor}
    {whole : PeerTrace} {volume : Volume}
    (making : Making settings event provider uuid scope after descriptor whole volume)
    {key : String} (free : key ∉ decidedKeys) :
    volume.annotations[key]? = (allowed event provider)[key]? := by
  obtain ⟨reads, hscope⟩ := making.prepared
  obtain ⟨before, made, later, -, -, -, hcreate⟩ := making.created
  obtain ⟨stamp, stamped⟩ := Backend.stamped_of_runs hcreate
  simp only [decidedKeys, List.mem_append, List.mem_cons, List.not_mem_nil, or_false, not_or]
    at free
  obtain ⟨⟨⟨hattempt, hplace⟩, hown⟩, hsnapshot, hpolicy⟩ := free
  rw [making.object]
  exact (getElem?_finished_of_frame (attempt_of_scopeRun hscope) stamped.frame hattempt hplace
    hsnapshot hpolicy).trans (getElem?_workingSet hown)

/-- What a claim supplies under the keys that only the controller may set has no effect at all. -/
theorem handleClaim_congr {annotations : Annotations}
    (h : ∀ key ∉ Key.internalOnly, annotations[key]? = event.annotations[key]?) :
    handleClaim settings { event with annotations } = handleClaim settings event := by
  have kept : ∀ key ∈ Key.internalOnly, Key.workingKey key = key := by decide
  have supplied : (Annotations.ofClaim event.claimNamespace event.claimName
      annotations).stripInternal =
      (Annotations.ofClaim event.claimNamespace event.claimName
        event.annotations).stripInternal := by
    refine Std.ExtTreeMap.ext_getElem? fun key => ?_
    rw [Annotations.stripInternal, Annotations.stripInternal, Annotations.getElem?_eraseAll,
      Annotations.getElem?_eraseAll]
    by_cases hkey : key ∈ Key.internalOnly
    · rw [if_pos hkey, if_pos hkey]
    · rw [if_neg hkey, if_neg hkey]
      refine Annotations.getElem?_ofClaim_congr (fun k hk => h k fun hinternal => hkey ?_) _ _
      rw [← hk, kept k hinternal]
      exact hinternal
  refine handleClaim_of_agree ?_ ?_ fun provider _ => ?_
  · rw [Annotations.provisioner?, Annotations.provisioner?, h _ (by decide), h _ (by decide)]
  · simp only [classOf, supplied]
  · simp only [allowed, supplied]

/-- Two runs were told the same identifiers, names of snapshots and mount points. -/
structure ToldAlike (first second : PeerTrace) : Prop where
  identifiers : identifiers first = identifiers second
  snapshots : snapshotIds (storagePart first) = snapshotIds (storagePart second)
  mounts : mountPoints (storagePart first) = mountPoints (storagePart second)

instance (first second : PeerTrace) : Decidable (ToldAlike first second) :=
  decidable_of_iff
    (identifiers first = identifiers second ∧
      snapshotIds (storagePart first) = snapshotIds (storagePart second) ∧
      mountPoints (storagePart first) = mountPoints (storagePart second))
    ⟨fun ⟨hids, hsnapshots, hmounts⟩ => ⟨hids, hsnapshots, hmounts⟩,
      fun alike => ⟨alike.identifiers, alike.snapshots, alike.mounts⟩⟩

/-- Whatever annotations a claim supplies, a volume object submitted for it has those of the
controller. They are the same for any other annotations under the same keys, if the class and the
policy that are asked for are the same and the run is told the same; and what is supplied under the
keys that only the controller may set changes nothing about the run at all. -/
theorem owned_annotations_cannot_be_forged (settings : Settings) (event : ClaimEvent) :
    (∀ whole outcome, Program.Runs (onPeers (handleClaim settings event)) whole outcome →
      ∀ volume ∈ submitted (clusterPart whole),
        (∃ provider uuid, serverOf settings event = some provider ∧ identifiers whole = [uuid] ∧
          Owned settings event provider uuid (storagePart whole) volume) ∧
        ∀ annotations, Forged event annotations → ∀ again outcome',
          Program.Runs (onPeers (handleClaim settings { event with annotations })) again outcome' →
          ToldAlike again whole → ∀ other ∈ submitted (clusterPart again),
            ∀ key ∈ ownedKeys event, other.annotations[key]? = volume.annotations[key]?) ∧
    ∀ annotations : Annotations,
      (∀ key ∉ Key.internalOnly, annotations[key]? = event.annotations[key]?) →
      handleClaim settings { event with annotations } = handleClaim settings event := by
  refine ⟨fun whole outcome run volume hvolume => ?_, fun annotations => handleClaim_congr⟩
  obtain ⟨provider, uuid, served, hdrawn, owned⟩ := owned_of_submitted run hvolume
  refine ⟨⟨provider, uuid, served, hdrawn, owned⟩,
    fun annotations forged again outcome' rerun alike other hother => ?_⟩
  obtain ⟨provider', uuid', served', hdrawn', reowned⟩ := owned_of_submitted rerun hother
  obtain rfl := Option.some.inj (served.symm.trans (forged.serverOf_eq.symm.trans served'))
  obtain rfl := List.singleton_inj.mp (hdrawn'.symm.trans (alike.identifiers.trans hdrawn))
  exact owned.agree forged reowned alike.snapshots alike.mounts

/-- The claim for a clone, with a mode. -/
def Sample.contested : ClaimEvent :=
  { Sample.cloneClaim "zfs-rest" with volumeMode := some "Filesystem" }

def Sample.forgery : List (String × String) :=
  [(Key.managedBy, "nobody"), (Key.volumeUuid, "0"), (Key.exportHost, "nas99"),
    (Key.datasetPath, "tank/secret"), (Key.managedProvider, "smb"), (Key.exportPath, "/etc"),
    (Key.volumeMode, "Block"), (Key.volumeTag, "ffffffff"), (Key.volumeRef, "pv-db"),
    (Key.cloneRef, "nas01:tank/secret"), (Key.cloneSnapshot, "tank/secret@daily")]

def Sample.forged : Annotations :=
  Sample.forgery.foldl (fun set p => set.insert (id p.1) p.2) Sample.contested.annotations

theorem Sample.forged_contested : Forged Sample.contested Sample.forged := by
  have owned : ∀ p ∈ Sample.forgery, p.1 ∈ ownedKeys Sample.contested := by decide
  refine ⟨fun key hkey => ?_, ?_, ?_⟩
  · refine Annotations.getElem?_foldl_of_notin (fun p hp heq => hkey ?_) _
    exact (heq : p.1 = key) ▸ owned p hp
  · exact Annotations.getElem?_foldl_of_notin (by decide) _
  · exact Annotations.getElem?_foldl_of_notin (by decide) _

/-- The calls with which a claim is served in the small deployment. -/
def Sample.served (event : ClaimEvent) : PeerTrace :=
  (onPeers (handleClaim Sample.settings event)).exchangesFrom
    (Sample.peerAnswer Sample.store (Simulation.Peers.numberedUuid 1))

/-- The claim for a clone is served with and without the forgery: a snapshot is taken, and the two
volume objects agree under all keys of the controller. -/
theorem sample_owned_annotations_cannot_be_forged :
    ∃ volume other, submitted (clusterPart (Sample.served Sample.contested)) = [volume] ∧
      submitted (clusterPart (Sample.served
        { Sample.contested with annotations := Sample.forged })) = [other] ∧
      (snapshotIds (storagePart (Sample.served Sample.contested))).length = 1 ∧
      (∃ provider uuid, serverOf Sample.settings Sample.contested = some provider ∧
        Owned Sample.settings Sample.contested provider uuid
          (storagePart (Sample.served Sample.contested)) volume) ∧
      (∀ key ∈ ownedKeys Sample.contested, other.annotations[key]? = volume.annotations[key]?) ∧
      handleClaim Sample.settings { Sample.contested with
        annotations := Sample.contested.annotations.insert Key.cloneSnapshot "tank/secret@daily" } =
        handleClaim Sample.settings Sample.contested := by
  obtain ⟨honest, stripped⟩ :=
    owned_annotations_cannot_be_forged Sample.settings Sample.contested
  have run (event : ClaimEvent) : ∃ outcome,
      Program.Runs (onPeers (handleClaim Sample.settings event)) (Sample.served event) outcome :=
    ⟨_, Program.runs_from _ _⟩
  obtain ⟨outcome, first⟩ := run Sample.contested
  obtain ⟨outcome', second⟩ := run { Sample.contested with annotations := Sample.forged }
  -- The two runs are compared in one evaluation.
  obtain ⟨told, once, twice, snapped⟩ :
      ToldAlike (Sample.served { Sample.contested with annotations := Sample.forged })
        (Sample.served Sample.contested) ∧
      (submitted (clusterPart (Sample.served Sample.contested))).length = 1 ∧
      (submitted (clusterPart (Sample.served
        { Sample.contested with annotations := Sample.forged }))).length = 1 ∧
      (snapshotIds (storagePart (Sample.served Sample.contested))).length = 1 := by
    decide +kernel
  obtain ⟨volume, hvolume⟩ := List.length_eq_one_iff.mp once
  obtain ⟨other, hother⟩ := List.length_eq_one_iff.mp twice
  obtain ⟨⟨provider, uuid, hserved, -, owned⟩, alike⟩ :=
    honest _ outcome first volume (hvolume ▸ List.mem_singleton_self volume)
  refine ⟨volume, other, hvolume, hother, snapped, ⟨provider, uuid, hserved, owned⟩,
    alike Sample.forged Sample.forged_contested _ outcome' second told other
      (hother ▸ List.mem_singleton_self other), stripped _ fun key hkey => ?_⟩
  refine Annotations.getElem?_insert_ne ?_
  rintro rfl
  exact hkey (by decide)

end DatasetProvisioner.Reconciler
