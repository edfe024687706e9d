import DatasetProvisioner.Proofs.Attempts
import DatasetProvisioner.Proofs.Copies
import DatasetProvisioner.Proofs.Sample

/-!
# Which datasets a claim can copy

A claim that asks for a clone names a claim of its own namespace, and that claim names a volume.
Nothing is read of the claim that the volume itself is bound to, so a claim gets a copy of any
volume of this controller that somebody writes into a claim of the same namespace. Clones stay
within a namespace exactly where the volumes named in this way are bound to the claims that name
them.
-/
namespace DatasetProvisioner.Reconciler

open Manifest Storage

variable {settings : Settings} {store : Cluster.Store} {event : ClaimEvent} {provider : Provider}

/-- A look-up finds what is stored, unless it fails. -/
def AnsweredBy (store : Cluster.Store) : Exchange Cluster.interface → Prop
  | ⟨.readClaim claimNamespace claimName, answer⟩ =>
    ∀ found, answer = .ok found → found = store.claim? claimNamespace claimName
  | ⟨.readVolume volumeName, answer⟩ =>
    ∀ found, answer = .ok found → found = store.volume? volumeName
  | _ => True

def Locates (volume : Volume) (host dataset : String) : Prop :=
  volume.annotations[Key.exportHost]? = some host ∧
    volume.annotations[Key.datasetPath]? = some dataset

def BoundTo (volume : Volume) (claimNamespace claimName : String) : Prop :=
  ∃ ref, volume.spec.bind (·.claimRef) = some ref ∧ ref.objectNamespace = some claimNamespace ∧
    ref.name = some claimName

/-- Whatever is copied for a claim that asks to clone another one is the dataset of a volume bound
to that other claim, in the namespace of both. Look-ups answer from one store, and snapshots get
the names that were asked for; all else may go as it likes. -/
def Isolated (settings : Settings) (store : Cluster.Store) (event : ClaimEvent) : Prop :=
  ∀ (whole : PeerTrace) (outcome : Except Failure ClaimOutcome),
    Program.Runs (onPeers (handleClaim settings event)) whole outcome →
    (∀ x ∈ clusterPart whole, AnsweredBy store x) → NamesSnapshots (storagePart whole) →
    ∀ source, event.annotations[Key.cloneFrom]? = some source → source ≠ "" →
    ∀ provider, serverOf settings event = some provider →
    ∀ x ∈ storagePart whole, ∀ dataset, Copies x dataset →
    ∀ volumeName volume, store.volume? volumeName = some volume →
      Locates volume provider.backend.layout.host dataset →
      BoundTo volume event.claimNamespace source

/-- What the controller asks of a dataset that it copies for a claim. The volume that the source
claim names counts as its own, whatever claim it is bound to. -/
structure Clonable (settings : Settings) (store : Cluster.Store) (event : ClaimEvent)
    (provider : Provider) (source dataset : String) : Prop where
  addressed : Addressed settings event
  served : serverOf settings event = some provider
  asked : requestedSource (allowed event provider) = some source
  mountable : ∃ uuid, Mountable (workingSet settings.identity event provider uuid)
  volume : ∃ claim volumeName volume,
    store.claim? event.claimNamespace source = some claim ∧ namedVolume claim = some volumeName ∧
    store.volume? volumeName = some volume ∧
    volume.annotations[Key.managedBy]? = some settings.identity ∧
    Locates volume provider.backend.layout.host dataset
  own : provider.backend.layout.cloneSource (provider.backend.layout.host ++ ":" ++ dataset) =
    .ok dataset

/-- A clone reference is given for a volume of this controller whose dataset is the provider's. -/
theorem cloneRefOf_eq_ok_iff {identity volumeName ref : String} {annotations : Annotations} :
    cloneRefOf identity provider volumeName annotations = .ok ref ↔
      annotations[Key.managedBy]? = some identity ∧
      ∃ host path, annotations[Key.exportHost]? = some host ∧
        annotations[Key.datasetPath]? = some path ∧ provider.backend.isLocal host path = true ∧
        ref = host ++ ":" ++ path := by
  unfold cloneRefOf
  by_cases howner : annotations[Key.managedBy]? = some identity
  · cases hhost : annotations[Key.exportHost]? with
    | none => simp [howner]
    | some host =>
      cases hpath : annotations[Key.datasetPath]? with
      | none => simp [howner]
      | some path =>
        by_cases hlocal : provider.backend.isLocal host path = true
        · simpa [howner, hlocal] using eq_comm
        · simp [howner, hlocal]
  · simp [howner]

/-- What is asked for after the denylist is what the claim itself asks for. -/
theorem cloneFrom_of_asked {source : String}
    (h : requestedSource (allowed event provider) = some source) :
    event.annotations[Key.cloneFrom]? = some source ∧ source ≠ "" := by
  obtain ⟨hallowed, hne⟩ := Option.filter_eq_some_iff.mp h
  rw [getElem?_allowed] at hallowed
  split at hallowed
  · cases hallowed
  · rw [Annotations.getElem?_ofClaim Annotations.workingKey_eq_cloneFrom (by decide)
      (by decide)] at hallowed
    exact ⟨hallowed, of_decide_eq_true hne⟩

theorem Attempt.mountable_iff {uuid : Uuid} {scope : TransientScope}
    (attempt : Attempt settings event provider uuid scope) :
    Mountable scope.annotations ↔
      Mountable (workingSet settings.identity event provider uuid) := by
  have hmode := attempt.lookup Key.volumeMode (by decide)
  have hprotocol := attempt.lookup Key.mountProtocol (by decide)
  exact ⟨Mountable.congr hmode.symm hprotocol.symm, Mountable.congr hmode hprotocol⟩

/-- A clone source that a backend accepts is a dataset that the controller lets the claim copy. -/
theorem clonable_of_scopeRun {uuid : Uuid} {reads : Trace} {scope : TransientScope}
    {dataset : String} (addressed : Addressed settings event)
    (served : serverOf settings event = some provider)
    (run : ScopeRun settings event provider (opened settings event provider uuid) reads (.ok scope))
    (answered : ∀ x ∈ clusterCalls reads, AnsweredBy store x)
    (hsource : SourceOf provider.backend.layout (requested provider scope).annotations dataset) :
    ∃ source, Clonable settings store event provider source dataset := by
  obtain ⟨recorded, placement, hprepare, hdataset⟩ := hsource
  have prepared := prepared_of_prepare hprepare
  have mountable := (attempt_of_scopeRun run).mountable_iff.mp prepared.mountable
  rcases prepared.placed.source with ⟨-, hnone⟩ | ⟨ref, path, href, hpath, hsome⟩
  · rw [hnone] at hdataset
    cases hdataset
  · obtain rfl := Option.some.inj (hsome.symm.trans hdataset)
    rw [cloneRef_requested] at href
    cases run with
    | plain =>
      rw [cloneRef_opened] at href
      cases href
    | resolved source hasked run =>
      obtain rfl := Option.some.inj (Std.ExtTreeMap.getElem?_insert_self.symm.trans href)
      cases run with
      | found claim volumeName hname volume ref hfound =>
        obtain ⟨howner, host, located, hhost, hlocated, hlocal, rfl⟩ :=
          cloneRefOf_eq_ok_iff.mp hfound
        -- A reference that is accepted at all is read back as it was composed.
        obtain rfl := Dataset.Layout.eq_of_cloneSource hpath
        obtain ⟨rfl, -⟩ := Dataset.Layout.owns_iff.mp hlocal
        have hclaim := answered ⟨.readClaim event.claimNamespace source, .ok (some claim)⟩
          (by simp [clusterCalls]) _ rfl
        have hvolume := answered ⟨.readVolume volumeName, .ok (some volume)⟩
          (by simp [clusterCalls]) _ rfl
        rw [requestedSource_opened] at hasked
        exact ⟨source, addressed, served, hasked, ⟨uuid, mountable⟩,
          ⟨claim, volumeName, volume, hclaim.symm, hname, hvolume.symm, howner, hhost, hlocated⟩,
          hpath⟩

/-- Whatever is copied while a claim is handled is a dataset that the controller lets it copy. -/
theorem clonable_of_copies {whole : PeerTrace} {outcome : Except Failure ClaimOutcome}
    (run : Program.Runs (onPeers (handleClaim settings event)) whole outcome)
    (answered : ∀ x ∈ clusterPart whole, AnsweredBy store x)
    (named : NamesSnapshots (storagePart whole)) {x : Exchange Storage.interface}
    (hx : x ∈ storagePart whole) {dataset : String} (hcopy : Copies x dataset) :
    ∃ provider source, Clonable settings store event provider source dataset := by
  obtain ⟨trace, run, carried⟩ := runs_onPeers.mp run
  rw [clusterPart_of_carried carried] at answered
  have aside (quiet : ∀ y ∈ trace, y.call.onBackend = false) : False :=
    not_copies_of_idle (idle_of_carried carried quiet) hx dataset hcopy
  cases runs_handleClaim.mp run with
  | stale => exact (aside (by simp)).elim
  | foreign => exact (aside (by simp)).elim
  | unclaimed => exact (aside (by simp [Call.onBackend])).elim
  | unserved => exact (aside (by simp [Call.onBackend])).elim
  | served addressed provider served run =>
    rcases onBackend_of_provisionRun run with quiet |
      ⟨uuid, reads, scope, after, descriptor?, rest, hscope, rfl, hrest⟩
    · exact (aside (List.forall_mem_cons.mpr ⟨rfl, quiet⟩)).elim
    · obtain ⟨counting, attempting, rfl, hcount, hattempt⟩ := Program.carried_cons.mp carried
      cases runs_carry.mp hcount
      obtain ⟨before, made, later, hparts, hbefore, hlater, hcreate⟩ :=
        storagePart_of_attempt hscope hrest hattempt
      have hwhole : storagePart ([⟨.count .claimsProcessed, ()⟩] ++ attempting) =
          before ++ (made ++ later) := hparts
      rw [hwhole] at hx named
      -- Around the calls of the backend there are only readings of the clock.
      have hmade : x ∈ made := by
        rw [List.mem_append, List.mem_append] at hx
        rcases hx with hx | hx | hx
        · exact absurd hcopy (not_copies_of_idle hbefore hx dataset)
        · exact hx
        · exact absurd hcopy (not_copies_of_idle hlater hx dataset)
      have hnamed := named.part
        (List.subset_append_of_subset_right before (List.subset_append_left made later))
      refine ⟨provider, clonable_of_scopeRun addressed served hscope (fun y hy => answered y ?_)
        (Backend.source_of_copies hcreate hnamed hmade hcopy)⟩
      change y ∈ clusterCalls (reads ++ _)
      rw [clusterCalls_append]
      exact List.mem_append_left _ hy

theorem sourceOf_resolved {source dataset ref : String} (uuid : Uuid)
    (mountable : Mountable (workingSet settings.identity event provider uuid))
    (hasked : requestedSource (opened settings event provider uuid).annotations = some source)
    {reads : Trace}
    (run : SourceRun settings.identity event.claimNamespace source provider reads (.ok ref))
    (own : provider.backend.layout.cloneSource ref = .ok dataset) :
    SourceOf provider.backend.layout (requested provider
      ((opened settings event provider uuid).insertTransient Key.cloneRef ref)).annotations
      dataset := by
  have attempt := attempt_of_scopeRun (.resolved source hasked run)
  have placed : Placed provider.backend.layout (requested provider
      ((opened settings event provider uuid).insertTransient Key.cloneRef ref)).annotations
      ⟨uuid, NameTemplate.render provider.nameFormat
        ((opened settings event provider uuid).insertTransient Key.cloneRef ref).annotations,
        some dataset⟩ := by
    refine ⟨attempt.identified, Std.ExtTreeMap.getElem?_insert_self,
      .inr ⟨ref, dataset, ?_, own, rfl⟩⟩
    rw [cloneRef_requested]
    exact Std.ExtTreeMap.getElem?_insert_self
  obtain ⟨recorded, hprepare⟩ := exists_prepare (attempt.mountable_iff.mpr mountable) placed
  exact ⟨recorded, _, hprepare, rfl⟩

/-- Every dataset that the controller lets a claim copy is copied in some run. -/
theorem exists_copy_of_clonable {source dataset : String}
    (clonable : Clonable settings store event provider source dataset) :
    ∃ whole outcome, Program.Runs (onPeers (handleClaim settings event)) whole outcome ∧
      (∀ x ∈ clusterPart whole, AnsweredBy store x) ∧ NamesSnapshots (storagePart whole) ∧
      ∃ x ∈ storagePart whole, Copies x dataset := by
  obtain ⟨uuid, mountable⟩ := clonable.mountable
  obtain ⟨claim, volumeName, volume, hclaim, hname, hvolume, howner, hhost, hlocated⟩ :=
    clonable.volume
  have hasked : requestedSource (opened settings event provider uuid).annotations = some source :=
    requestedSource_opened.trans clonable.asked
  have hlocal := (Dataset.Layout.cloneSource_eq_ok_iff.mp clonable.own).2
  have reading : SourceRun settings.identity event.claimNamespace source provider _ (.ok _) :=
    .found claim volumeName hname volume _
      (cloneRefOf_eq_ok_iff.mpr ⟨howner, _, _, hhost, hlocated, hlocal, rfl⟩)
  obtain ⟨made, after, hcreate, named, x, hx, hcopy⟩ := Backend.exists_copy
    (sourceOf_resolved uuid mountable hasked reading clonable.own) event.requestedBytes
  -- The backend may decline in the end: by then the copy has been called for.
  have run := ClaimRun.served clonable.addressed provider clonable.served
    (.declined uuid (.resolved source hasked reading) after)
  refine ⟨_, _, runs_onPeers.mpr ⟨_, runs_handleClaim.mpr run,
    .cons (runs_carry.mpr (.count .claimsProcessed)) <|
    .cons (runs_carry.mpr (.newUuid uuid)) <|
    .cons (runs_carry.mpr (.cluster (.readClaim event.claimNamespace source) (.ok (some claim)))) <|
    .cons (runs_carry.mpr (.cluster (.readVolume volumeName) (.ok (some volume)))) <|
    .cons (runs_carry.mpr (.create provider.backend _ event.requestedBytes hcreate)) <|
    .cons (runs_carry.mpr (.count .provisioningFailures)) .nil⟩, ?_, ?_, ?_⟩
  · intro y hy
    simp only [clusterPart_append, clusterPart_map] at hy
    rcases List.mem_pair.mp hy with rfl | rfl
    · rintro found hfound
      rw [hclaim]
      exact (Except.ok.inj hfound).symm
    · rintro found hfound
      rw [hvolume]
      exact (Except.ok.inj hfound).symm
  · simp only [storagePart_append, storagePart_map]
    change NamesSnapshots (made ++ [])
    rwa [List.append_nil]
  · refine ⟨x, ?_, hcopy⟩
    simp only [storagePart_append, storagePart_map]
    change x ∈ made ++ []
    rwa [List.append_nil]

/-- Clones stay within a namespace exactly where each volume is bound to the claim through which it
can be copied. -/
theorem clone_isolation_iff (settings : Settings) (store : Cluster.Store) (event : ClaimEvent) :
    Isolated settings store event ↔
      ∀ provider source dataset, Clonable settings store event provider source dataset →
      ∀ volumeName volume, store.volume? volumeName = some volume →
        Locates volume provider.backend.layout.host dataset →
        BoundTo volume event.claimNamespace source := by
  constructor
  · intro isolated provider source dataset clonable
    obtain ⟨hclone, hsource⟩ := cloneFrom_of_asked clonable.asked
    obtain ⟨whole, outcome, run, answered, named, x, hx, hcopy⟩ := exists_copy_of_clonable clonable
    exact isolated whole outcome run answered named source hclone hsource provider clonable.served
      x hx dataset hcopy
  · intro bound whole outcome run answered named source hclone hsource provider served x hx dataset
      hcopy
    obtain ⟨server, asked, clonable⟩ := clonable_of_copies run answered named hx hcopy
    obtain rfl := Option.some.inj (served.symm.trans clonable.served)
    obtain ⟨hasked, -⟩ := cloneFrom_of_asked clonable.asked
    obtain rfl := Option.some.inj (hclone.symm.trans hasked)
    exact bound provider source dataset clonable

/-- A volume of another namespace can be copied through a claim that is not bound and names it. -/
theorem Sample.clonable :
    Clonable Sample.settings Sample.store (Sample.cloneClaim "zfs-basic") Sample.shellProvider
      "golden" "tank/pv/0000000a-0000-4000-8000-00000000000a" where
  addressed := .of_unnamed rfl rfl (by decide +kernel)
  served := by rfl
  asked := by decide +kernel
  mountable := by
    have unset : (workingSet Sample.settings.identity (Sample.cloneClaim "zfs-basic")
        Sample.shellProvider (Simulation.Peers.numberedUuid 1))[Key.mountProtocol]? = none := by
      decide +kernel
    refine ⟨Simulation.Peers.numberedUuid 1, by decide +kernel, fun protocol hprotocol => ?_⟩
    rw [unset] at hprotocol
    cases hprotocol
  volume := ⟨Sample.golden, "pv-db", Sample.foreignVolume, by rfl, by rfl, by rfl,
    by decide +kernel, by decide +kernel, by decide +kernel⟩
  own := by rfl

/-- A claim that is not bound names a volume of another namespace, and a clone of that claim is a
clone of the volume. -/
theorem clone_isolation_fails :
    ¬∀ (settings : Settings) (store : Cluster.Store) (event : ClaimEvent),
      Isolated settings store event := by
  intro isolated
  obtain ⟨whole, outcome, run, answered, named, x, hx, hcopy⟩ :=
    exists_copy_of_clonable Sample.clonable
  obtain ⟨ref, href, hnamespace, -⟩ := isolated Sample.settings Sample.store
    (Sample.cloneClaim "zfs-basic") whole outcome run answered named "golden" (by decide +kernel)
    (by decide) Sample.shellProvider (by rfl) x hx _ hcopy "pv-db" Sample.foreignVolume (by rfl)
    ⟨by decide +kernel, by decide +kernel⟩
  cases href
  revert hnamespace
  decide

end DatasetProvisioner.Reconciler
