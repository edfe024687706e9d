import Mathlib.Data.List.Nodup
import DatasetProvisioner.Proofs.Lifecycles

/-!
# What is left behind on a storage host

A destruction that fails is not tried again once the volume's object is gone. A volume is therefore
left behind exactly if, at each of its withdrawals, a file system stood that was cloned from it; and
nothing is left behind if every source is withdrawn once more after its clones.
-/
namespace DatasetProvisioner.Reconciler

open Manifest Storage

/-- At each withdrawal of a volume there was a file system that had been cloned from it. -/
def Shielded (steps : List Step) (volume : Volume) : Prop :=
  ∀ step ∈ steps, step.Withdraws volume → step.host.IsCloned (filesystemOf volume).name

/-- The file systems that were made. -/
def filesystemsMade (steps : List Step) : Set Filesystem :=
  {fs | ∃ volume ∈ volumesOf steps, filesystemOf volume = fs}

/-- The file systems of the volumes that were shielded. -/
def filesystemsLeft (steps : List Step) : Set Filesystem :=
  {fs | ∃ volume ∈ volumesOf steps, Shielded steps volume ∧ filesystemOf volume = fs}

/-- Nothing that was made for a volume is on the host: no file system and no snapshot. -/
def NothingLeft (steps : List Step) (host : Host) : Prop :=
  ∀ volume ∈ volumesOf steps, ¬host.HasFilesystem (filesystemOf volume).name ∧
    ∀ snapshot, (filesystemOf volume).origin = some snapshot → snapshot ∉ host.snapshots

def identifierOf (volume : Volume) : Option String :=
  volume.annotations[Key.volumeUuid]?

/-- Volumes whose places do not get in each other's way, nor in that of what was on the host: no
identifier was drawn twice, all names are new to the host, and no root of datasets looks like a
snapshot. -/
structure Fresh (settings : Settings) (base : Host) (steps : List Step) : Prop where
  distinct : ((volumesOf steps).map identifierOf).Nodup
  new : ∀ volume ∈ volumesOf steps, (filesystemOf volume).NewTo base
  plain : ∀ event provider, serverOf settings event = some provider →
    '@' ∉ provider.backend.layout.datasetRoot.toList

/-- Every volume that was provisioned is withdrawn later on, and a source again later than any
withdrawal of a clone of it. What is later than a step stands before it in the list. -/
structure SourcesLast (steps : List Step) : Prop where
  withdrawn : ∀ (n : Nat) (step : Step), steps[n]? = some step → step.deed = .provisioned →
    ∃ later ∈ steps.take n, later.Withdraws step.volume
  again : ∀ (n : Nat) (step : Step) (clone source : Volume), steps[n]? = some step →
    step.Withdraws clone → source ∈ volumesOf steps →
    (filesystemOf clone).source? = some (filesystemOf source).name →
      ∃ later ∈ steps.take n, later.Withdraws source

section

variable {settings : Settings} {base host : Host} {steps : List Step} {volume : Volume}

theorem Fresh.earlier {step : Step} (fresh : Fresh settings base (step :: steps)) :
    Fresh settings base steps := by
  have part : (volumesOf steps).Sublist (volumesOf (step :: steps)) :=
    ((List.sublist_cons_self step steps).filter _).map _
  exact ⟨fresh.distinct.sublist (part.map _), fun volume h => fresh.new volume (part.subset h),
    fresh.plain⟩

/-! ## Volumes and file systems -/

theorem plain_of_provisioned {event : ClaimEvent} {provider : Provider} {backend : ShellBackend}
    {uuid : Uuid} (provisioned : Provisioned settings event provider backend uuid volume)
    (plain : '@' ∉ backend.layout.datasetRoot.toList) :
    '@' ∉ (filesystemOf volume).name.toList ∧
      ∀ snapshot, (filesystemOf volume).origin = some snapshot → '@' ∈ snapshot.toList := by
  rw [filesystemOf_of_provisioned provisioned]
  constructor
  · simp [Dataset.Layout.datasetPath, plain, Uuid.at_notin_toString]
  · intro snapshot hsnapshot
    obtain ⟨dataset, name, rfl, -⟩ := provisioned.snapshot snapshot hsnapshot
    simp

/-- A file system tells the volume that it was made for. -/
theorem eq_of_filesystemOf (life : Lifecycle settings base steps host)
    (fresh : Fresh settings base steps) {other : Volume} (hvolume : volume ∈ volumesOf steps)
    (hother : other ∈ volumesOf steps)
    (same : (filesystemOf volume).name = (filesystemOf other).name) : volume = other := by
  obtain ⟨_, _, _, uuid, provisioned⟩ := life.exists_provisioned volume hvolume
  obtain ⟨_, _, _, stamp, reprovisioned⟩ := life.exists_provisioned other hother
  rw [filesystemOf_of_provisioned provisioned, filesystemOf_of_provisioned reprovisioned] at same
  refine List.inj_on_of_nodup_map fresh.distinct hvolume hother ?_
  rw [identifierOf, identifierOf, provisioned.marked.volume, reprovisioned.marked.volume,
    Dataset.Layout.uuid_of_datasetPath same]

theorem apart_of_lifecycle (life : Lifecycle settings base steps host)
    (fresh : Fresh settings base steps) : Apart base (filesystemsMade steps) := by
  have plain (volume : Volume) (h : volume ∈ volumesOf steps) :
      '@' ∉ (filesystemOf volume).name.toList ∧
        ∀ snapshot, (filesystemOf volume).origin = some snapshot → '@' ∈ snapshot.toList := by
    obtain ⟨event, provider, backend, uuid, provisioned⟩ := life.exists_provisioned volume h
    have hroot := fresh.plain event provider provisioned.served
    rw [provisioned.shell] at hroot
    exact plain_of_provisioned provisioned hroot
  constructor
  · rintro _ ⟨volume, hvolume, rfl⟩
    exact fresh.new volume hvolume
  · rintro _ ⟨volume, hvolume, rfl⟩ _ ⟨other, hother, rfl⟩ same
    rw [eq_of_filesystemOf life fresh hvolume hother same]
  · rintro _ ⟨volume, hvolume, rfl⟩
    exact (plain volume hvolume).1
  · rintro _ ⟨volume, hvolume, rfl⟩
    exact (plain volume hvolume).2

theorem filesystemsLeft_subset (steps : List Step) :
    filesystemsLeft steps ⊆ filesystemsMade steps := by
  rintro _ ⟨volume, hvolume, -, rfl⟩
  exact ⟨volume, hvolume, rfl⟩

/-! ## What stands after each step -/

theorem filesystemsLeft_provisioned (unknown : ∀ step ∈ steps, ¬step.Withdraws volume) :
    filesystemsLeft (⟨.provisioned, volume, host⟩ :: steps) =
      insert (filesystemOf volume) (filesystemsLeft steps) := by
  have shielded (other : Volume) :
      Shielded (⟨.provisioned, volume, host⟩ :: steps) other ↔ Shielded steps other := by
    rw [Shielded, List.forall_mem_cons, Shielded, and_iff_right_iff_imp]
    intro _ hwithdraws
    exact absurd rfl hwithdraws.1
  have new : Shielded steps volume := fun step hstep hw => absurd hw (unknown step hstep)
  ext fs
  simp only [filesystemsLeft, volumesOf_provisioned, Set.mem_insert_iff, Set.mem_ofPred_eq,
    shielded, List.exists_mem_cons_iff, new, true_and, eq_comm]

theorem filesystemsLeft_withdrawn {deed : Deed} (hdeed : deed ≠ .provisioned)
    (distinct : ∀ other ∈ volumesOf steps, filesystemOf other = filesystemOf volume →
      other = volume) :
    filesystemsLeft (⟨deed, volume, host⟩ :: steps) =
      remaining host (filesystemsLeft steps) (filesystemOf volume) := by
  have shielded (other : Volume) : Shielded (⟨deed, volume, host⟩ :: steps) other ↔
      (volume = other → host.IsCloned (filesystemOf other).name) ∧ Shielded steps other := by
    rw [Shielded, List.forall_mem_cons, Shielded]
    exact and_congr_left fun _ => ⟨fun h same => h ⟨hdeed, same⟩, fun h hw => h hw.2⟩
  ext fs
  simp only [filesystemsLeft, volumesOf_withdrawn hdeed, remaining, Set.mem_ofPred_eq, shielded]
  constructor
  · rintro ⟨other, hother, ⟨hcloned, hshielded⟩, rfl⟩
    refine ⟨⟨other, hother, hshielded, rfl⟩, fun same => ?_⟩
    rw [← same]
    exact hcloned (distinct other hother same).symm
  · rintro ⟨⟨other, hother, hshielded, rfl⟩, hcloned⟩
    refine ⟨other, hother, ⟨?_, hshielded⟩, rfl⟩
    rintro rfl
    exact hcloned rfl

/-- Induction on the steps: at every time, the file systems that stand beside those that were there
before are those of the volumes that were shielded. -/
theorem bears_of_lifecycle (keyed : Registry.Keyed settings.registry.providers)
    (life : Lifecycle settings base steps host) (fresh : Fresh settings base steps) :
    Bears base (filesystemsLeft steps) host := by
  induction life with
  | start =>
    have none : filesystemsLeft [] = ∅ := by simp [filesystemsLeft, volumesOf]
    rw [none]
    exact bears_nothing base
  | @provisioned steps host before event provider backend served shell whole _ run volume submission
      after performed ih =>
    have member := submission ▸ List.mem_singleton_self volume
    obtain ⟨-, rfl⟩ := add_of_submitted run member served shell performed
    have unknown : volume ∉ volumesOf steps := by
      have distinct := fresh.distinct
      rw [volumesOf_provisioned, List.map_cons, List.nodup_cons] at distinct
      exact fun h => distinct.1 (List.mem_map_of_mem h)
    rw [filesystemsLeft_provisioned fun step hstep hw =>
      unknown (before.known_of_withdraws hstep hw)]
    exact (ih fresh.earlier).add (filesystemOf volume)
  | @withdrawn steps host before deed outcome ending volume known notice told whole run after
      performed ih =>
    have fresh := fresh.earlier
    have apart := apart_of_lifecycle before fresh
    obtain ⟨hdeed, removal⟩ := isRemoval_of_outcome ending
    obtain ⟨event, provider, backend, uuid, provisioned⟩ := before.exists_provisioned volume known
    have plain := fresh.plain event provider provisioned.served
    rw [provisioned.shell] at plain
    rw [withdraw_of_removal provisioned keyed plain told run removal performed,
      filesystemsLeft_withdrawn hdeed fun other hother same =>
        eq_of_filesystemOf before fresh hother known (congrArg Filesystem.name same)]
    exact (ih fresh).withdraw apart (filesystemsLeft_subset steps) ⟨volume, known, rfl⟩

/-! ## What is left in the end -/

theorem nothingLeft_iff (life : Lifecycle settings base steps host)
    (fresh : Fresh settings base steps) (bears : Bears base (filesystemsLeft steps) host) :
    NothingLeft steps host ↔ ∀ volume ∈ volumesOf steps, ¬Shielded steps volume := by
  have apart := apart_of_lifecycle life fresh
  have part := filesystemsLeft_subset steps
  constructor
  · intro cleared volume hvolume hshielded
    refine (cleared volume hvolume).1 ((hasFilesystem_iff apart part bears ?_).mpr ?_)
    · exact ⟨volume, hvolume, rfl⟩
    · exact ⟨volume, hvolume, hshielded, rfl⟩
  · intro exposed volume hvolume
    constructor
    · rw [hasFilesystem_iff apart part bears ⟨volume, hvolume, rfl⟩]
      rintro ⟨other, hother, hshielded, -⟩
      exact exposed other hother hshielded
    · intro snapshot horigin hsnapshot
      rcases (bears.snapshots snapshot).mp hsnapshot with
        hbase | ⟨_, ⟨other, hother, hshielded, -⟩, -⟩
      · exact ((fresh.new volume hvolume).origin snapshot horigin).snapshot hbase
      · exact exposed other hother hshielded

theorem later_of_split {whole later : List Step} {step : Step}
    (split : whole = later ++ step :: steps) :
    whole[later.length]? = some step ∧ whole.take later.length = later := by
  rw [split]
  exact ⟨by simp, List.take_left⟩

/-- Where a clone is withdrawn at a step or later, its source is withdrawn later than the step. -/
theorem SourcesLast.source_later {whole later : List Step} {step : Step}
    (ordered : SourcesLast whole) (split : whole = later ++ step :: steps) {clone source : Volume}
    (withdrawn : ∃ other ∈ later ++ [step], other.Withdraws clone)
    (known : source ∈ volumesOf whole)
    (cloned : (filesystemOf clone).source? = some (filesystemOf source).name) :
    ∃ again ∈ later, again.Withdraws source := by
  obtain ⟨other, hother, hw⟩ := withdrawn
  rcases List.mem_append.mp hother with hother | hother
  · obtain ⟨last, between, rfl⟩ := List.append_of_mem hother
    obtain ⟨hstep, htake⟩ := later_of_split (split.trans (List.append_assoc ..))
    obtain ⟨again, hagain, hw⟩ := ordered.again last.length other clone source hstep hw known cloned
    exact ⟨again, List.mem_append_left _ (htake ▸ hagain), hw⟩
  · rw [List.mem_singleton.mp hother] at hw
    obtain ⟨hstep, htake⟩ := later_of_split split
    exact htake ▸ ordered.again later.length step clone source hstep hw known cloned

/-- Induction on the steps: whatever stands is withdrawn later on. At the withdrawal that it
outlasted a clone of it stood, which is itself withdrawn later, and the source again after that. -/
theorem withdraws_later (keyed : Registry.Keyed settings.registry.providers) {whole : List Step}
    (ordered : SourcesLast whole) (life : Lifecycle settings base steps host)
    (fresh : Fresh settings base steps) {later : List Step} (split : whole = later ++ steps)
    (hvolume : volume ∈ volumesOf steps) (shielded : Shielded steps volume) :
    ∃ step ∈ later, step.Withdraws volume := by
  induction life generalizing later volume with
  | start => simp [volumesOf] at hvolume
  | @provisioned steps host before event provider backend served shell _ _ run fresher submission
      after performed ih =>
    rw [volumesOf_provisioned, List.mem_cons] at hvolume
    rcases hvolume with rfl | hvolume
    · obtain ⟨hstep, htake⟩ := later_of_split split
      exact htake ▸ ordered.withdrawn later.length _ hstep rfl
    · have rejoined := split.trans (List.append_cons ..)
      obtain ⟨step, hstep, hw⟩ := ih fresh.earlier rejoined hvolume
        fun step hstep => shielded step (List.mem_cons_of_mem _ hstep)
      rcases List.mem_append.mp hstep with hstep | hstep
      · exact ⟨step, hstep, hw⟩
      · rw [List.mem_singleton.mp hstep] at hw
        exact absurd rfl hw.1
  | @withdrawn steps host before deed outcome ending withdrawn known notice told _ run after
      performed ih =>
    obtain ⟨hdeed, -⟩ := isRemoval_of_outcome ending
    rw [volumesOf_withdrawn hdeed] at hvolume
    have rejoined := split.trans (List.append_cons ..)
    obtain ⟨step, hstep, hw⟩ := ih fresh.earlier rejoined hvolume
      fun step hstep => shielded step (List.mem_cons_of_mem _ hstep)
    rcases List.mem_append.mp hstep with hstep | hstep
    · exact ⟨step, hstep, hw⟩
    -- The volume is withdrawn at this very step, and outlasts it.
    rw [List.mem_singleton.mp hstep] at hw
    obtain ⟨-, rfl⟩ := hw
    have member : withdrawn ∈ volumesOf whole := by
      rw [split, volumesOf_append, List.mem_append, volumesOf_withdrawn hdeed]
      exact .inr known
    have bears := bears_of_lifecycle keyed before fresh.earlier
    obtain ⟨fs, hfs, hsource⟩ := shielded _ List.mem_cons_self (Step.withdraws hdeed ..)
    rcases (bears.filesystems fs).mp hfs with hbase | ⟨clone, hclone, hshielded, rfl⟩
    · exact absurd ⟨fs, hbase, hsource⟩ (fresh.earlier.new withdrawn known).name.source
    · exact ordered.source_later split (ih fresh.earlier rejoined hclone hshielded) member hsource

end

/-! ## A source and its clone -/

/-- A volume that was handled as released, and after that its deletion. -/
def ReleasedThenDeleted (steps : List Step) (volume : Volume) : Prop :=
  ∃ later between earlier last first, steps =
    later ++ ⟨.deleted, volume, last⟩ :: (between ++ ⟨.released, volume, first⟩ :: earlier)

namespace Sample

/-- The host before anything is provisioned. -/
def emptyPool : Host where
  filesystems := [⟨"tank/pv", none⟩]

def sourceFilesystem : Filesystem :=
  ⟨"tank/pv/00000001-0000-4000-8000-000000000001", none⟩

def copyFilesystem : Filesystem :=
  ⟨"tank/pv/00000002-0000-4000-8000-000000000002",
    some "tank/pv/00000001-0000-4000-8000-000000000001@zfspv-pv-00000002-20231114221320123"⟩

def withSource : Host := emptyPool.add sourceFilesystem

def withBoth : Host := withSource.add copyFilesystem

def sourceClaim : ClaimEvent :=
  { claim with claimName := "golden" }

/-- The cluster once the source is bound to its claim. -/
def boundStore : Cluster.Store where
  claims := [{ golden with spec := some { volumeName := some "pv-00000001" } }]
  volumes := (∅ : Std.ExtTreeMap String Volume compare).insert "pv-00000001"
    { metadata := {
        name := some "pv-00000001"
        annotations := some ((Sample.volume .bound .modified).annotations
          |>.insert Key.exportHost "nas01"
          |>.insert Key.datasetPath sourceFilesystem.name) } }

def provisioning (store : Cluster.Store) (n : Nat) (event : ClaimEvent) : PeerTrace :=
  (onPeers (handleClaim settings event)).exchangesFrom
    (peerAnswer store (Simulation.Peers.numberedUuid n))

def provisionedVolume (trace : PeerTrace) : Volume :=
  (submitted (clusterPart trace)).headD {}

def source : Volume :=
  provisionedVolume (provisioning {} 1 sourceClaim)

def copy : Volume :=
  provisionedVolume (provisioning boundStore 2 (cloneClaim "zfs-basic"))

def sourceNotice (change : Change) : VolumeEvent :=
  Sample.volume .released change

def copyNotice (change : Change) : VolumeEvent :=
  { Sample.volume .released change with
    volumeName := "pv-00000002"
    annotations := (Sample.volume .released change).annotations
      |>.insert Key.volumeUuid "00000002-0000-4000-8000-000000000002"
      |>.insert Key.cloneSnapshot (copyFilesystem.origin.getD "") }

/-- The peers let a claim event be provisioned, on a host that carries out its commands. The volume
has a file system there, and a later notice of it tells what a removal goes by. -/
def Serves (store : Cluster.Store) (n : Nat) (event : ClaimEvent) (volumeName : String)
    (host : Host) (fs : Filesystem) (notice : VolumeEvent) : Prop :=
  (onPeers (handleClaim settings event)).resultFrom
      (peerAnswer store (Simulation.Peers.numberedUuid n)) = .ok (.provisioned volumeName) ∧
    (submitted (clusterPart (provisioning store n event))).length = 1 ∧
    host.serve (storagePart (provisioning store n event)) = some (host.add fs) ∧
    filesystemOf (provisionedVolume (provisioning store n event)) = fs ∧
    ∀ key ∈ removalKeys, notice.annotations[key]? =
      (provisionedVolume (provisioning store n event)).annotations[key]?

theorem serves_source : Serves {} 1 sourceClaim "pv-00000001" emptyPool sourceFilesystem
    (sourceNotice .modified) := by
  unfold Serves
  decide +kernel

theorem serves_copy : Serves boundStore 2 (cloneClaim "zfs-basic") "pv-00000002" withSource
    copyFilesystem (copyNotice .modified) := by
  unfold Serves
  decide +kernel

theorem Serves.provisioned {store : Cluster.Store} {n : Nat} {event : ClaimEvent}
    {volumeName : String} {host : Host} {fs : Filesystem} {notice : VolumeEvent}
    (serves : Serves store n event volumeName host fs notice)
    (served : serverOf settings event = some shellProvider) {steps : List Step}
    (before : Lifecycle settings emptyPool steps host) :
    Lifecycle settings emptyPool
      (⟨.provisioned, provisionedVolume (provisioning store n event), host⟩ :: steps)
      (host.add fs) := by
  obtain ⟨result, one, performed, -, -⟩ := serves
  obtain ⟨volume, submission⟩ := List.length_eq_one_iff.mp one
  have run := Program.runs_from (peerAnswer store (Simulation.Peers.numberedUuid n))
    (onPeers (handleClaim settings event))
  rw [result] at run
  refine .provisioned before served rfl run ?_ performed
  rw [provisionedVolume, submission]
  exact submission

/-- The answers of peers while a host does, or does not, what it is asked to. -/
def hostAnswer (obeys : Bool) : (c : PeerCall) → c.Answer
  | .storage (.exec _ _) => .ok ⟨if obeys then 0 else 1, ""⟩
  | c => peerAnswer boundStore (Simulation.Peers.numberedUuid 3) c

/-- A notice that is handled on a host which answers all destructions alike. -/
structure Handling where
  notice : VolumeEvent
  obeys : Bool
  deed : Deed
  outcome : VolumeOutcome
  host : Host
  after : Host

/-- The host answers the calls as it carries them out. -/
def Handling.Answers (h : Handling) : Prop :=
  h.deed.outcome? = some h.outcome ∧
    (onPeers (handleVolume settings h.notice)).resultFrom (hostAnswer h.obeys) = .ok h.outcome ∧
    h.host.serve (storagePart
      ((onPeers (handleVolume settings h.notice)).exchangesFrom (hostAnswer h.obeys))) =
        some h.after

instance (h : Handling) : Decidable h.Answers :=
  inferInstanceAs (Decidable (_ ∧ _ ∧ _))

/-- Both volumes are there, or were, after some steps. -/
structure Both (steps : List Step) (host : Host) : Prop where
  life : Lifecycle settings emptyPool steps host
  volumes : volumesOf steps = [copy, source]

theorem both_provisioned :
    Both [⟨.provisioned, copy, withSource⟩, ⟨.provisioned, source, emptyPool⟩] withBoth where
  life := serves_copy.provisioned rfl (serves_source.provisioned rfl .start)
  volumes := by
    rw [volumesOf_provisioned, volumesOf_provisioned]
    rfl

theorem Handling.Answers.withdrawn {h : Handling} (answers : h.Answers) {steps : List Step}
    (both : Both steps h.host) {volume : Volume} (known : volume ∈ [copy, source])
    (told : NoticeOf volume h.notice) : Both (⟨h.deed, volume, h.host⟩ :: steps) h.after := by
  obtain ⟨ending, result, performed⟩ := answers
  have run := Program.runs_from (hostAnswer h.obeys) (onPeers (handleVolume settings h.notice))
  rw [result] at run
  refine ⟨.withdrawn both.life ending (both.volumes ▸ known) told run performed, ?_⟩
  rw [volumesOf_withdrawn (isRemoval_of_outcome ending).1, both.volumes]

def sourceReleased : Handling :=
  ⟨sourceNotice .modified, false, .released, .deleted, withBoth, withBoth⟩

def sourceDeleted : Handling :=
  ⟨sourceNotice .deleted, false, .deleted, .removed, withBoth, withBoth⟩

def copyReleased : Handling :=
  ⟨copyNotice .modified, true, .released, .deleted, withBoth, withSource⟩

def copyDeleted : Handling :=
  ⟨copyNotice .deleted, false, .deleted, .removed, withSource, withSource⟩

def sourceDeletedLast : Handling :=
  ⟨sourceNotice .deleted, true, .deleted, .removed, withSource, emptyPool⟩

/-- The notices of both lives, each on the host as it is by then. -/
theorem answers_handlings : sourceReleased.Answers ∧ sourceDeleted.Answers ∧
    copyReleased.Answers ∧ copyDeleted.Answers ∧ sourceDeletedLast.Answers := by
  decide +kernel

theorem told_source (change : Change) : NoticeOf source (sourceNotice change) :=
  serves_source.2.2.2.2

theorem told_copy (change : Change) : NoticeOf copy (copyNotice change) :=
  serves_copy.2.2.2.2

theorem filesystemOf_source : filesystemOf source = sourceFilesystem :=
  serves_source.2.2.2.1

theorem filesystemOf_copy : filesystemOf copy = copyFilesystem :=
  serves_copy.2.2.2.1

theorem source_mem : source ∈ [copy, source] :=
  List.mem_cons_of_mem _ List.mem_cons_self

theorem layout_of_served {event : ClaimEvent} {provider : Provider}
    (served : serverOf settings event = some provider) : provider.backend.layout = layout := by
  have listed (storageClass : String)
      (h : settings.registry.providers[storageClass]? = some provider) :
      provider.backend.layout = layout := by
    simp only [settings, Std.ExtTreeMap.getElem?_insert] at h
    split at h
    · cases h
      rfl
    · split at h
      · cases h
        rfl
      · simp at h
  unfold serverOf Registry.resolve at served
  split at served
  · exact listed _ served
  · obtain ⟨storageClass, -, found⟩ := Option.bind_eq_some_iff.mp served
    exact listed storageClass found

theorem lacks_emptyPool {name : String} (h : "tank/pv" ≠ name) : emptyPool.Lacks name where
  filesystem := by simpa [Host.HasFilesystem, emptyPool] using h
  clone := by simp [Host.HasCloneOf, emptyPool]
  source := by simp [Host.IsCloned, emptyPool, Filesystem.source?]
  snapshot := by simp [emptyPool]
  snapshots := by simp [Host.HasSnapshotOf, emptyPool]

theorem newTo_emptyPool {fs : Filesystem} (hname : "tank/pv" ≠ fs.name)
    (horigin : fs.origin ≠ some "tank/pv") : fs.NewTo emptyPool where
  name := lacks_emptyPool hname
  origin _ h := lacks_emptyPool fun same => horigin (h.trans (congrArg some same.symm))

theorem fresh_of_volumes {steps : List Step} (h : volumesOf steps = [copy, source]) :
    Fresh settings emptyPool steps where
  distinct := by
    rw [h, List.map_cons, List.map_singleton, identifierOf, identifierOf,
      ← told_copy .modified Key.volumeUuid (by decide),
      ← told_source .modified Key.volumeUuid (by decide)]
    decide
  new := by
    rw [h, List.forall_mem_cons, List.forall_mem_singleton, filesystemOf_copy, filesystemOf_source]
    exact ⟨newTo_emptyPool (by decide) (by decide), newTo_emptyPool (by decide) (by decide)⟩
  plain event provider served := by
    rw [layout_of_served served]
    decide

/-- The source is withdrawn while its clone is there, and the clone after it. -/
def sourceFirst : List Step :=
  [⟨.deleted, copy, withSource⟩, ⟨.released, copy, withBoth⟩,
    ⟨.deleted, source, withBoth⟩, ⟨.released, source, withBoth⟩,
    ⟨.provisioned, copy, withSource⟩, ⟨.provisioned, source, emptyPool⟩]

theorem both_sourceFirst : Both sourceFirst withSource := by
  obtain ⟨firstReleased, firstDeleted, thenReleased, thenDeleted, -⟩ := answers_handlings
  have onlyReleased := firstReleased.withdrawn both_provisioned source_mem (told_source .modified)
  have sourceGone := firstDeleted.withdrawn onlyReleased source_mem (told_source .deleted)
  have copyGone := thenReleased.withdrawn sourceGone List.mem_cons_self (told_copy .modified)
  exact thenDeleted.withdrawn copyGone List.mem_cons_self (told_copy .deleted)

/-- The source is released first as well, but deleted last. -/
def sourceLast : List Step :=
  [⟨.deleted, source, withSource⟩, ⟨.deleted, copy, withSource⟩,
    ⟨.released, copy, withBoth⟩, ⟨.released, source, withBoth⟩,
    ⟨.provisioned, copy, withSource⟩, ⟨.provisioned, source, emptyPool⟩]

theorem both_sourceLast : Both sourceLast emptyPool := by
  obtain ⟨firstReleased, -, thenReleased, thenDeleted, atLast⟩ := answers_handlings
  have onlyReleased := firstReleased.withdrawn both_provisioned source_mem (told_source .modified)
  have copyGone := thenReleased.withdrawn onlyReleased List.mem_cons_self (told_copy .modified)
  have copyDeleted := thenDeleted.withdrawn copyGone List.mem_cons_self (told_copy .deleted)
  exact atLast.withdrawn copyDeleted source_mem (told_source .deleted)

theorem sourcesLast_sourceLast : SourcesLast sourceLast where
  withdrawn n step hstep hdeed := by
    rcases n with _ | _ | n
    · obtain rfl := Option.some.inj hstep
      cases hdeed
    · obtain rfl := Option.some.inj hstep
      cases hdeed
    · have known : step.volume ∈ volumesOf sourceLast :=
        List.mem_map_of_mem (List.mem_filter.mpr ⟨List.mem_of_getElem? hstep, by simpa using hdeed⟩)
      rw [both_sourceLast.volumes, List.mem_cons, List.mem_singleton] at known
      rcases known with hcopy | hsource
      · rw [hcopy]
        exact ⟨_, List.mem_cons_of_mem _ List.mem_cons_self, Step.withdraws (by decide) ..⟩
      · rw [hsource]
        exact ⟨_, List.mem_cons_self, Step.withdraws (by decide) ..⟩
  again n step clone original hstep hw known hcloned := by
    have cloneKnown := both_sourceLast.life.known_of_withdraws (List.mem_of_getElem? hstep) hw
    rw [both_sourceLast.volumes, List.mem_cons, List.mem_singleton] at known cloneKnown
    -- Of the two volumes the copy is the only clone, and the source what it is a clone of.
    rcases cloneKnown with hcopy | hsource
    · rcases known with same | same
      · rw [hcopy, same, filesystemOf_copy] at hcloned
        exact absurd hcloned (by decide)
      · rw [same]
        cases n with
        | zero =>
          obtain rfl := Option.some.inj hstep
          have same := congrArg filesystemOf (hw.2.trans hcopy)
          dsimp only at same
          rw [filesystemOf_source, filesystemOf_copy] at same
          exact absurd same (by decide)
        | succ n => exact ⟨_, List.mem_cons_self, Step.withdraws (by decide) ..⟩
    · rw [hsource, filesystemOf_source] at hcloned
      cases hcloned

end Sample

/-! ## The theorem -/

/-- After any life of volumes on a host there stand, beside what stood there before, exactly the
file systems of the volumes that were shielded by a clone at each of their withdrawals, with the
snapshots that these were cloned from. Nothing is left behind exactly if each volume was withdrawn
at a time when no clone of it stood, and so it is if sources are withdrawn again after their
clones. -/
theorem leftovers_of_lifecycle {settings : Settings} {defaultClass : Option String}
    {providers : List Provider}
    (built : Registry.ofProviders defaultClass providers = .ok settings.registry)
    {base host : Host} {steps : List Step} (life : Lifecycle settings base steps host)
    (fresh : Fresh settings base steps) :
    Bears base (filesystemsLeft steps) host ∧
      (NothingLeft steps host ↔ ∀ volume ∈ volumesOf steps, ∃ step ∈ steps, step.Withdraws volume ∧
        ¬step.host.IsCloned (filesystemOf volume).name) ∧
      (SourcesLast steps → NothingLeft steps host) := by
  have keyed := Registry.keyed_of_ofProviders built
  have bears := bears_of_lifecycle keyed life fresh
  have cleared := nothingLeft_iff life fresh bears
  refine ⟨bears, cleared.trans ?_, fun ordered => cleared.mpr fun volume hvolume shielded => ?_⟩
  · simp only [Shielded, not_forall, exists_prop]
  · obtain ⟨step, hstep, -⟩ := withdraws_later keyed ordered life fresh (List.nil_append _).symm
      hvolume shielded
    cases hstep

/-- A source that is released while its clone is there, and deleted after its clone was: nothing is
left behind. -/
theorem sample_leftovers_of_lifecycle :
    Lifecycle Sample.settings Sample.emptyPool Sample.sourceLast Sample.emptyPool ∧
      Fresh Sample.settings Sample.emptyPool Sample.sourceLast ∧
      (∀ volume ∈ volumesOf Sample.sourceLast, ReleasedThenDeleted Sample.sourceLast volume) ∧
      SourcesLast Sample.sourceLast ∧ NothingLeft Sample.sourceLast Sample.emptyPool := by
  have both := Sample.both_sourceLast
  have fresh := Sample.fresh_of_volumes both.volumes
  obtain ⟨-, -, cleared⟩ := leftovers_of_lifecycle Sample.registry_built both.life fresh
  refine ⟨both.life, fresh, ?_, Sample.sourcesLast_sourceLast,
    cleared Sample.sourcesLast_sourceLast⟩
  rw [both.volumes, List.forall_mem_cons, List.forall_mem_singleton]
  exact ⟨⟨[_], [], _, _, _, rfl⟩, ⟨[], [_, _], _, _, _, rfl⟩⟩

/-- A source that is released and deleted while its clone is there: it is left behind. -/
theorem nothing_left_fails :
    ¬∀ (settings : Settings) (base host : Host) (steps : List Step) (defaultClass : Option String)
      (providers : List Provider),
      Registry.ofProviders defaultClass providers = .ok settings.registry →
      Lifecycle settings base steps host → Fresh settings base steps →
      (∀ volume ∈ volumesOf steps, ReleasedThenDeleted steps volume) → NothingLeft steps host := by
  intro clears
  have both := Sample.both_sourceFirst
  have handled : ∀ volume ∈ volumesOf Sample.sourceFirst,
      ReleasedThenDeleted Sample.sourceFirst volume := by
    rw [both.volumes, List.forall_mem_cons, List.forall_mem_singleton]
    exact ⟨⟨[], [], _, _, _, rfl⟩, ⟨[_, _], [], _, _, _, rfl⟩⟩
  have cleared := clears _ _ _ _ _ _ Sample.registry_built both.life
    (Sample.fresh_of_volumes both.volumes) handled
  refine (cleared Sample.source (both.volumes ▸ Sample.source_mem)).1 ?_
  rw [Sample.filesystemOf_source]
  decide

end DatasetProvisioner.Reconciler
