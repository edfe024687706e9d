import DatasetProvisioner.Proofs.Ownership
import DatasetProvisioner.Proofs.StorageHost

/-!
# The life of volumes on a storage host

Volumes are provisioned by commands on one host and withdrawn again, one event at a time, each of
the commands answered as the host answers it. What an event does to the host is read off its run: a
provisioned volume adds a file system, a withdrawal tries to destroy it with the snapshot that was
taken for it. No failure of a destruction is seen by anyone.
-/
namespace DatasetProvisioner

namespace Storage

open Dataset

namespace ShellBackend

variable {backend : ShellBackend} {host last : Host}

theorem serve_makeRun {placement : Placement} {size : Nat} {recorded after : Annotations}
    {trace : StorageTrace} (run : MakeRun backend placement size recorded trace (after, .ok ()))
    (unsnapped : recorded[Key.cloneSnapshot]? = none) (h : host.serve trace = some last) :
    last = host.add ⟨backend.layout.datasetPath placement.uuid, after[Key.cloneSnapshot]?⟩ := by
  generalize hresult : (after, Except.ok ()) = result at run
  cases run with
  | fresh hsource answer =>
    rw [Prod.mk.injEq] at hresult
    obtain ⟨rfl, -⟩ := hresult
    rw [unsnapped]
    exact (Option.some.inj (Host.serve_exec h)).symm
  | unsnapped => simp at hresult
  | cloned source hsource now taken htaken answer =>
    rw [Prod.mk.injEq] at hresult
    obtain ⟨rfl, -⟩ := hresult
    have hafter : (recorded.insert Key.cloneSnapshot (snapshotFor placement source now))[
        Key.cloneSnapshot]? = some (snapshotFor placement source now) :=
      Std.ExtTreeMap.getElem?_insert_self
    rw [hafter]
    exact (Option.some.inj (Host.serve_exec (Host.serve_exec (Host.serve_clock h)))).symm

/-- Permissions are no matter of what stands on a host. -/
theorem serve_permissionRun {path : String} {trace : StorageTrace} {result : Except Failure Unit}
    (run : PermissionRun backend path trace result) (h : host.serve trace = some last) :
    last = host := by
  cases run with
  | unset => exact (Option.some.inj h).symm
  | set => exact (Option.some.inj (Host.serve_exec h)).symm

/-- A creation adds the dataset of the identifier, with the snapshot that it records. -/
theorem serve_createRun {request after : Annotations} {size : Nat} {trace : StorageTrace}
    {descriptor : Descriptor}
    (run : CreateRun backend request size trace (after, .ok descriptor)) {uuid : Uuid}
    (identified : volumeUuid request = .ok uuid)
    (unsnapped : request[Key.cloneSnapshot]? = none) (h : host.serve trace = some last) :
    last = host.add ⟨backend.layout.datasetPath uuid, after[Key.cloneSnapshot]?⟩ ∧
      ∀ snapshot, after[Key.cloneSnapshot]? = some snapshot → Taken (.shell backend) snapshot := by
  obtain ⟨recorded, placement, making, setting, set, hprepare, rfl, make, permissions, -⟩ :=
    created_of_createRun run
  have prepared := prepared_of_prepare hprepare
  obtain rfl : placement.uuid = uuid := Except.ok.inj (prepared.placed.uuid.symm.trans identified)
  have hrecorded : recorded[Key.cloneSnapshot]? = none := by
    rw [prepared.frame Key.cloneSnapshot (by decide), unsnapped]
  obtain ⟨mid, hmid, hset⟩ := Host.serve_append h
  refine ⟨?_, fun snapshot hsnapshot => ?_⟩
  · rw [serve_permissionRun permissions hset, serve_makeRun make hrecorded hmid]
  · rcases (madeDataset_of_makeRun prepared make).snapshot with ⟨-, hnone⟩ | ⟨other, -, hsome, taken⟩
    · rw [hnone, hrecorded] at hsnapshot
      cases hsnapshot
    · rw [hsome, Option.some.injEq] at hsnapshot
      exact hsnapshot ▸ taken

theorem serve_removeRun {annotations : Annotations} {trace : StorageTrace}
    {result : Except Failure Unit} (run : RemoveRun backend annotations trace result) {uuid : Uuid}
    (identified : volumeUuid annotations = .ok uuid) (h : host.serve trace = some last) :
    last = host.withdraw
      ⟨backend.layout.datasetPath uuid, removableSnapshot backend.layout annotations⟩ := by
  cases run with
  | unnamed failure huuid => cases huuid.symm.trans identified
  | dataset other huuid clean =>
    obtain rfl := Except.ok.inj (huuid.symm.trans identified)
    rw [clean]
    exact (Option.some.inj (Host.serve_exec h)).symm
  | both other huuid snapshot recorded =>
    obtain rfl := Except.ok.inj (huuid.symm.trans identified)
    rw [recorded]
    exact (Option.some.inj (Host.serve_exec (Host.serve_exec h))).symm

end ShellBackend

end Storage

namespace Reconciler

open Manifest Storage

/-! ## Events on a host -/

/-- The file system that was made for a volume, as its annotations have it. -/
def filesystemOf (volume : Volume) : Filesystem where
  name := volume.annotations[Key.datasetPath]?.getD ""
  origin := volume.annotations[Key.cloneSnapshot]?

/-- What a volume object tells that was provisioned by commands. -/
structure Provisioned (settings : Settings) (event : ClaimEvent) (provider : Provider)
    (backend : ShellBackend) (uuid : Uuid) (volume : Volume) : Prop where
  served : serverOf settings event = some provider
  shell : provider.backend = .shell backend
  marked : Marked settings.identity provider uuid volume.annotations
  dataset : volume.annotations[Key.datasetPath]? = some (backend.layout.datasetPath uuid)
  snapshot : ∀ snapshot, volume.annotations[Key.cloneSnapshot]? = some snapshot →
    Taken (.shell backend) snapshot

variable {settings : Settings} {event : ClaimEvent} {provider : Provider} {backend : ShellBackend}
  {volume : Volume} {host after : Host} {whole : PeerTrace}

theorem filesystemOf_of_provisioned {uuid : Uuid}
    (provisioned : Provisioned settings event provider backend uuid volume) :
    filesystemOf volume =
      ⟨backend.layout.datasetPath uuid, volume.annotations[Key.cloneSnapshot]?⟩ := by
  rw [filesystemOf, provisioned.dataset, Option.getD_some]

/-- Provisioning a volume adds its file system to the host. -/
theorem add_of_submitted {outcome : Except Failure ClaimOutcome}
    (run : Program.Runs (onPeers (handleClaim settings event)) whole outcome)
    (submission : volume ∈ submitted (clusterPart whole))
    (served : serverOf settings event = some provider) (shell : provider.backend = .shell backend)
    (performed : host.serve (storagePart whole) = some after) :
    (∃ uuid, Provisioned settings event provider backend uuid volume) ∧
      after = host.add (filesystemOf volume) := by
  obtain ⟨other, uuid, scope, left, descriptor, making⟩ := making_of_submitted run submission
  obtain rfl := Option.some.inj (making.served.symm.trans served)
  obtain ⟨reads, hscope⟩ := making.prepared
  obtain ⟨before, made, later, hpart, hbefore, hlater, hcreate⟩ := making.created
  have attempt := attempt_of_scopeRun hscope
  obtain ⟨stamp, stamped⟩ := Backend.stamped_of_runs hcreate
  obtain rfl : stamp = uuid := Except.ok.inj (stamped.identified.symm.trans attempt.identified)
  rw [hpart] at performed
  have performed := Host.serve_framed hbefore hlater performed
  have unsnapped : (requested other scope).annotations[Key.cloneSnapshot]? = none := by
    rw [attempt.lookup Key.cloneSnapshot (by decide), getElem?_workingSet (by decide),
      cloneSnapshot_allowed]
  rw [shell] at hcreate
  obtain ⟨hadd, htaken⟩ := ShellBackend.serve_createRun
    (ShellBackend.runs_create.mp (Backend.tried_of_created hcreate)) attempt.identified unsnapped
    performed
  have recorded : volume.annotations[Key.cloneSnapshot]? = left[Key.cloneSnapshot]? := by
    rw [making.object]
    exact getElem?_finished attempt left (by decide) (by decide)
  have provisioned : Provisioned settings event other backend stamp volume := by
    refine ⟨served, shell, ?_, ?_, fun snapshot h => htaken snapshot (recorded.symm.trans h)⟩
    · rw [making.object]
      exact marked_finished attempt stamped.frame
    · rw [making.object]
      change (finished other scope left)[Key.datasetPath]? = _
      rw [getElem?_finished attempt left (by decide) (by decide), stamped.placard.dataset, shell]
      rfl
  exact ⟨⟨stamp, provisioned⟩, by rw [hadd, filesystemOf_of_provisioned provisioned, recorded]⟩

/-- The annotations that the removal of a volume goes by. -/
def removalKeys : List String :=
  [Key.managedBy, Key.volumeUuid, Key.storageClass, Key.cloneSnapshot]

/-- A notice of a volume as it was submitted, as far as a removal goes by it. -/
def NoticeOf (volume : Volume) (notice : VolumeEvent) : Prop :=
  ∀ key ∈ removalKeys, notice.annotations[key]? = volume.annotations[key]?

/-- The outcomes of a handling that has removed a volume. -/
def VolumeOutcome.isRemoval : VolumeOutcome → Bool
  | .removed | .deleted => true
  | _ => false

/-- A handling that removes a volume ends with the call of its provider's backend. -/
theorem remove_of_volumeRun {notice : VolumeEvent} {trace : Trace} {outcome : VolumeOutcome}
    (removal : outcome.isRemoval = true)
    (run : VolumeRun settings notice trace (.ok outcome)) :
    ∃ provider before answer, providerFor settings notice = .ok provider ∧
      trace = before ++ [onRemove provider.backend notice.annotations answer] ∧
      ∀ x ∈ before, x.call.onBackend = false := by
  generalize hresult : Except.ok outcome = result at run
  cases run with
  | foreign =>
    cases hresult
    cases removal
  | observed =>
    cases hresult
    cases removal
  | unserved => cases hresult
  | removed provider managed deleted served answer =>
    exact ⟨provider, [_], answer, served, rfl, by simp [Call.onBackend]⟩
  | undeleted => cases hresult
  | destroyed provider releasing destroys answer =>
    exact ⟨provider, [_, _, _], answer, releasing.served, rfl, by simp [Call.onBackend]⟩
  | marked =>
    cases hresult
    cases removal
  | retained provider releasing retains h run =>
    cases run <;> cases hresult <;> cases removal

/-- Removing a volume withdraws its file system from the host. -/
theorem withdraw_of_removal {uuid : Uuid} {notice : VolumeEvent} {outcome : VolumeOutcome}
    (provisioned : Provisioned settings event provider backend uuid volume)
    (keyed : Registry.Keyed settings.registry.providers)
    (plain : '@' ∉ backend.layout.datasetRoot.toList) (told : NoticeOf volume notice)
    (run : Program.Runs (onPeers (handleVolume settings notice)) whole (.ok outcome))
    (removal : outcome.isRemoval = true)
    (performed : host.serve (storagePart whole) = some after) :
    after = host.withdraw (filesystemOf volume) := by
  have marked : Marked settings.identity provider uuid notice.annotations := by
    constructor
    · rw [told _ (by decide), provisioned.marked.owner]
    · rw [told _ (by decide), provisioned.marked.volume]
    · rw [told _ (by decide), provisioned.marked.storageClass]
  have recorded : removableSnapshot backend.layout notice.annotations =
      volume.annotations[Key.cloneSnapshot]? := by
    rw [removableSnapshot, told _ (by decide)]
    cases hsnapshot : volume.annotations[Key.cloneSnapshot]? with
    | none => rfl
    | some snapshot =>
      obtain ⟨dataset, name, rfl, hname, howns⟩ := provisioned.snapshot snapshot hsnapshot
      have own : backend.layout.ownsSnapshot (dataset ++ "@" ++ name) = true :=
        Dataset.Layout.ownsSnapshot_of_owns howns plain hname
      rw [Option.filter_some, if_pos own]
  obtain ⟨trace, hrun, carried⟩ := runs_onPeers.mp run
  obtain ⟨other, before, answer, hserved, rfl, aside⟩ :=
    remove_of_volumeRun removal (volumeRun_of_runs hrun)
  obtain rfl := Except.ok.inj
    ((providerFor_of_marked keyed provisioned.served marked).symm.trans hserved)
  obtain ⟨first, rest, rfl, hfirst, hrest⟩ := Program.carried_append.mp carried
  obtain ⟨removing, nothing, rfl, hremove, hnothing⟩ := Program.carried_cons.mp hrest
  cases hnothing
  cases runs_carry.mp hremove with
  | @remove _ _ removed _ hcalls =>
    rw [List.append_nil, storagePart_append, storagePart_map, ← List.append_nil removed] at performed
    have performed := Host.serve_framed (idle_of_carried hfirst aside) .nil performed
    rw [provisioned.shell] at hcalls
    rw [ShellBackend.serve_removeRun (ShellBackend.removeRun_of_runs hcalls)
      (volumeUuid_of_marked marked) performed, recorded, filesystemOf_of_provisioned provisioned]

/-! ## The life of all volumes -/

/-- What becomes of a volume: it is provisioned, it is handled as released with the policy to delete
it, or its deletion is handled. -/
inductive Deed where
  | provisioned
  | released
  | deleted
  deriving Repr, DecidableEq

/-- The outcome of a handling by which a volume is withdrawn. -/
def Deed.outcome? : Deed → Option VolumeOutcome
  | .provisioned => none
  | .released => some .deleted
  | .deleted => some .removed

structure Step where
  deed : Deed
  volume : Volume
  /-- The host on which it was done, as it was before. -/
  host : Host

/-- The volumes that were provisioned. -/
def volumesOf (steps : List Step) : List Volume :=
  (steps.filter (·.deed = .provisioned)).map (·.volume)

/-- Volumes are provisioned by commands on a host and withdrawn, once or more often; the latest step
is the first. Events that leave the storage alone are left out. -/
inductive Lifecycle (settings : Settings) (base : Host) : List Step → Host → Prop where
  | start : Lifecycle settings base [] base
  | provisioned {steps : List Step} {host : Host} (before : Lifecycle settings base steps host)
      {event : ClaimEvent} {provider : Provider} {backend : ShellBackend}
      (served : serverOf settings event = some provider)
      (shell : provider.backend = .shell backend) {whole : PeerTrace} {volumeName : String}
      (run : Program.Runs (onPeers (handleClaim settings event)) whole
        (.ok (.provisioned volumeName)))
      {volume : Volume} (submission : submitted (clusterPart whole) = [volume]) {after : Host}
      (performed : host.serve (storagePart whole) = some after) :
      Lifecycle settings base (⟨.provisioned, volume, host⟩ :: steps) after
  | withdrawn {steps : List Step} {host : Host} (before : Lifecycle settings base steps host)
      {deed : Deed} {outcome : VolumeOutcome} (ending : deed.outcome? = some outcome)
      {volume : Volume} (known : volume ∈ volumesOf steps) {notice : VolumeEvent}
      (told : NoticeOf volume notice) {whole : PeerTrace}
      (run : Program.Runs (onPeers (handleVolume settings notice)) whole (.ok outcome))
      {after : Host} (performed : host.serve (storagePart whole) = some after) :
      Lifecycle settings base (⟨deed, volume, host⟩ :: steps) after

/-- A step by which a volume is withdrawn. -/
def Step.Withdraws (step : Step) (volume : Volume) : Prop :=
  step.deed ≠ .provisioned ∧ step.volume = volume

theorem Step.withdraws {deed : Deed} (h : deed ≠ .provisioned) (volume : Volume) (host : Host) :
    Step.Withdraws ⟨deed, volume, host⟩ volume :=
  ⟨h, rfl⟩

theorem isRemoval_of_outcome {deed : Deed} {outcome : VolumeOutcome}
    (h : deed.outcome? = some outcome) : deed ≠ .provisioned ∧ outcome.isRemoval = true := by
  cases deed with
  | provisioned => cases h
  | released =>
    cases h
    exact ⟨by decide, rfl⟩
  | deleted =>
    cases h
    exact ⟨by decide, rfl⟩

theorem volumesOf_provisioned (volume : Volume) (host : Host) (steps : List Step) :
    volumesOf (⟨.provisioned, volume, host⟩ :: steps) = volume :: volumesOf steps := by
  rfl

theorem volumesOf_withdrawn {deed : Deed} (h : deed ≠ .provisioned) (volume : Volume) (host : Host)
    (steps : List Step) : volumesOf (⟨deed, volume, host⟩ :: steps) = volumesOf steps := by
  rw [volumesOf, List.filter_cons_of_neg (by simpa using h), volumesOf]

theorem volumesOf_append (first rest : List Step) :
    volumesOf (first ++ rest) = volumesOf first ++ volumesOf rest := by
  rw [volumesOf, List.filter_append, List.map_append, volumesOf, volumesOf]

namespace Lifecycle

variable {base : Host} {steps : List Step}

theorem exists_provisioned (life : Lifecycle settings base steps host) :
    ∀ volume ∈ volumesOf steps, ∃ event provider backend uuid,
      Provisioned settings event provider backend uuid volume := by
  induction life with
  | start => simp [volumesOf]
  | provisioned before served shell run submission performed ih =>
    rw [volumesOf_provisioned, List.forall_mem_cons]
    have member := submission ▸ List.mem_singleton_self _
    obtain ⟨uuid, provisioned⟩ := (add_of_submitted run member served shell performed).1
    exact ⟨⟨_, _, _, uuid, provisioned⟩, ih⟩
  | withdrawn before ending known told run performed ih =>
    rw [volumesOf_withdrawn (isRemoval_of_outcome ending).1]
    exact ih

/-- Only a volume that was provisioned is withdrawn. -/
theorem known_of_withdraws (life : Lifecycle settings base steps host) {step : Step}
    (h : step ∈ steps) (hwithdraws : step.Withdraws volume) : volume ∈ volumesOf steps := by
  induction life with
  | start => cases h
  | provisioned before served shell run submission performed ih =>
    rw [volumesOf_provisioned]
    rcases List.mem_cons.mp h with rfl | h
    · exact absurd rfl hwithdraws.1
    · exact List.mem_cons_of_mem _ (ih h)
  | withdrawn before ending known told run performed ih =>
    rw [volumesOf_withdrawn (isRemoval_of_outcome ending).1]
    rcases List.mem_cons.mp h with rfl | h
    · exact hwithdraws.2 ▸ known
    · exact ih h

end Lifecycle

end Reconciler

end DatasetProvisioner
