import DatasetProvisioner.Proofs.Ownership
import DatasetProvisioner.Proofs.ReleaseMarks

/-!
# The mark that a claim brings along

A retained volume is marked when its claim lets go of it, and the handling of a notice takes a
volume that carries a mark for one that was marked already. A claim may supply the mark among its
annotations, unless its class denies the key: the volume is then never marked, and the time it
carries is whatever the claim said. Without it, the first notice of the release leaves the time at
which the notice is handled.
-/
namespace DatasetProvisioner.Reconciler

open Cluster Manifest Storage

/-- A cluster that does what it is asked to, and other peers with one answer for each call. -/
def storePeer (others : (c : Call) → c.Answer) : (c : Call) → Store → Option c.Answer × Store
  | .cluster c, store => (some (store.perform c).1, (store.perform c).2)
  | c, store => (some (others c), store)

variable {settings : Settings} {event : ClaimEvent} {provider : Provider} {notice : VolumeEvent}
  {store : Store} {volume : Volume}

theorem runWith_markReleased (others : (c : Call) → c.Answer) {stored : Volume}
    (hstored : store.volume? notice.volumeName = some stored)
    (h : Key.releasedAt ∉ stored.annotations) :
    (markReleased notice).runWith (storePeer others) store =
      (some (.ok .retained),
        store.annotate notice.volumeName Key.releasedAt (toString (others .clock).seconds)) := by
  have looked : (store.perform (.readVolume notice.volumeName)).1 = .ok (some stored) :=
    congrArg Except.ok hstored
  obtain ⟨next, hlook, timed, htime, hmark⟩ := exists_ask_of_markReleased notice h
  obtain ⟨marked, hmarked, hlast⟩ := hmark (others .clock)
  simp only [hlook, Program.runWith, storePeer, looked, htime, hmarked]
  change (marked (.ok ())).runWith (storePeer others) _ = _
  rw [hlast]
  rfl

/-! ## The mark of a submitted volume -/

/-- The mark that a claim brings along, where its class lets it. -/
def suppliedMark (event : ClaimEvent) (provider : Provider) : Option String :=
  if Key.releasedAt ∈ provider.blocked then none else event.annotations[Key.releasedAt]?

theorem releasedAt_allowed :
    (allowed event provider)[Key.releasedAt]? = suppliedMark event provider := by
  have external : Key.releasedAt ∉ Key.internalOnly := by decide
  rw [getElem?_allowed, Annotations.getElem?_ofClaim
    (Annotations.workingKey_eq_iff (by decide)) (by decide) (by decide), suppliedMark]
  simp only [external, false_or]

theorem mark_of_submitted (served : serverOf settings event = some provider) {whole : PeerTrace}
    {outcome : Except Failure ClaimOutcome}
    (run : Program.Runs (onPeers (handleClaim settings event)) whole outcome)
    (h : volume ∈ submitted (clusterPart whole)) :
    volume.annotations[Key.releasedAt]? = suppliedMark event provider := by
  obtain ⟨other, uuid, scope, after, descriptor, making⟩ := making_of_submitted run h
  obtain rfl := Option.some.inj (making.served.symm.trans served)
  exact (making.supplied (by decide)).trans releasedAt_allowed

/-! ## The first notice of its release -/

/-- A notice that a volume was let go of, while notice and store have the annotations with which it
was submitted. -/
structure LetGo (volume : Volume) (notice : VolumeEvent) (store : Store) : Prop where
  kept : notice.change ≠ .deleted
  phase : notice.phase = .released ∨ notice.phase = .failed
  told : notice.annotations = volume.annotations
  stored : ∃ stored, store.volume? notice.volumeName = some stored ∧
    stored.annotations = volume.annotations

/-- Owner, class and policy of a submitted volume are found again in the notice of its release. -/
theorem releasing_of_submitted (keyed : Registry.Keyed settings.registry.providers)
    (served : serverOf settings event = some provider)
    (retain : claimedPolicy event provider = .retain) {whole : PeerTrace}
    {outcome : Except Failure ClaimOutcome}
    (run : Program.Runs (onPeers (handleClaim settings event)) whole outcome)
    (h : volume ∈ submitted (clusterPart whole)) (letGo : LetGo volume notice store) :
    Releasing settings notice provider ∧ (policyOf notice provider).destroysVolume = false := by
  obtain ⟨other, uuid, hother, -, owned⟩ := owned_of_submitted run h
  obtain rfl := Option.some.inj (hother.symm.trans served)
  have marked := owned.marked
  have policy := owned.policy
  rw [← letGo.told] at marked policy
  rw [retain] at policy
  refine ⟨⟨isManagedBy_of_marked marked, letGo.kept, letGo.phase,
    providerFor_of_marked keyed served marked⟩, ?_⟩
  rw [policyOf_of_name policy]
  rfl

/-- A volume that was provisioned to be retained carries the mark that its claim supplied, where its
class lets it. If there is none, the first notice of its release marks it with the current time; if
there is one, the notice is taken for a repetition and nothing is written. -/
theorem mark_of_first_release {defaultClass : Option String} {providers : List Provider}
    (built : Registry.ofProviders defaultClass providers = .ok settings.registry)
    (served : serverOf settings event = some provider)
    (retain : claimedPolicy event provider = .retain) {whole : PeerTrace}
    {outcome : Except Failure ClaimOutcome}
    (run : Program.Runs (onPeers (handleClaim settings event)) whole outcome)
    (h : volume ∈ submitted (clusterPart whole)) (letGo : LetGo volume notice store)
    (others : (c : Call) → c.Answer) :
    volume.annotations[Key.releasedAt]? = suppliedMark event provider ∧
    (suppliedMark event provider = none →
      (handleVolume settings notice).runWith (storePeer others) store =
        (some (.ok .retained),
          store.annotate notice.volumeName Key.releasedAt
            (toString (others .clock).seconds))) ∧
    ∀ mark, suppliedMark event provider = some mark →
      (handleVolume settings notice).runWith (storePeer others) store =
        (some (.ok .alreadyRetained), store) := by
  have marked := mark_of_submitted served run h
  obtain ⟨releasing, retains⟩ :=
    releasing_of_submitted (Registry.keyed_of_ofProviders built) served retain run h letGo
  obtain ⟨stored, hstored, same⟩ := letGo.stored
  refine ⟨marked, fun none => ?_, fun mark some => ?_⟩
  · have unmarked : Key.releasedAt ∉ volume.annotations := by
      rw [Std.ExtTreeMap.mem_iff_isSome_getElem?, marked, none]
      simp
    rw [handleVolume_of_releasing releasing retains (letGo.told ▸ unmarked)]
    exact runWith_markReleased others hstored (same ▸ unmarked)
  · have forged : Key.releasedAt ∈ volume.annotations := by
      rw [Std.ExtTreeMap.mem_iff_isSome_getElem?, marked, some]
      rfl
    rw [handleVolume_of_marked releasing retains (letGo.told ▸ forged)]
    rfl

/-- A claim whose volume is to be retained, with annotations of its own. -/
def Sample.retained (own : Annotations) : ClaimEvent :=
  { Sample.claim with annotations := own.insert Key.reclaimPolicy "Retain" }

def Sample.premarked : ClaimEvent :=
  Sample.retained ((∅ : Annotations).insert Key.releasedAt "0")

def Sample.letGo (volume : Volume) : VolumeEvent :=
  { Sample.volume .released .modified with annotations := volume.annotations }

def Sample.holding (volume : Volume) : Store where
  volumes := (∅ : Std.ExtTreeMap String Volume compare).insert "pv-00000001" volume

theorem Sample.letGo_holding (volume : Volume) :
    LetGo volume (Sample.letGo volume) (Sample.holding volume) where
  kept h := by cases h
  phase := .inl rfl
  told := rfl
  stored := ⟨volume, Std.ExtTreeMap.getElem?_insert_self, rfl⟩

theorem Sample.runs_premarked : ∃ volume,
    Program.Runs (onPeers (handleClaim Sample.settings Sample.premarked))
      (Sample.servedBy Sample.settings 1 Sample.premarked)
      (.ok (.provisioned "pv-00000001")) ∧
    volume ∈ submitted (clusterPart (Sample.servedBy Sample.settings 1 Sample.premarked)) := by
  have run := Program.runs_from (Sample.peerAnswer Sample.store (Simulation.Peers.numberedUuid 1))
    (onPeers (handleClaim Sample.settings Sample.premarked))
  obtain ⟨made, once⟩ :
      (onPeers (handleClaim Sample.settings Sample.premarked)).resultFrom
        (Sample.peerAnswer Sample.store (Simulation.Peers.numberedUuid 1)) =
          .ok (.provisioned "pv-00000001") ∧
      (submitted (clusterPart (Sample.servedBy Sample.settings 1
        Sample.premarked))).length = 1 := by decide +kernel
  rw [made] at run
  obtain ⟨volume, hvolume⟩ := List.length_eq_one_iff.mp once
  exact ⟨volume, run, hvolume ▸ List.mem_singleton_self volume⟩

abbrev Sample.others : (c : Call) → c.Answer :=
  Sample.answer {} (Simulation.Peers.numberedUuid 1)

/-- The volume of a claim without a mark is marked at the first notice of its release; that of a
claim with one is not. -/
theorem sample_mark_of_first_release :
    (∃ volume ∈ submitted (clusterPart (Sample.servedBy Sample.settings 1 (Sample.retained ∅))),
      (handleVolume Sample.settings (Sample.letGo volume)).runWith (storePeer Sample.others)
        (Sample.holding volume) = (some (.ok .retained),
          (Sample.holding volume).annotate "pv-00000001" Key.releasedAt "1700000000")) ∧
    ∃ volume ∈ submitted (clusterPart (Sample.servedBy Sample.settings 1 Sample.premarked)),
      volume.annotations[Key.releasedAt]? = some "0" ∧
      (handleVolume Sample.settings (Sample.letGo volume)).runWith (storePeer Sample.others)
        (Sample.holding volume) = (some (.ok .alreadyRetained), Sample.holding volume) := by
  constructor
  · obtain ⟨outcome, run⟩ := Sample.runs_servedBy Sample.settings 1 (Sample.retained ∅)
    have once : (submitted (clusterPart (Sample.servedBy Sample.settings 1
        (Sample.retained ∅)))).length = 1 := by decide +kernel
    obtain ⟨volume, hvolume⟩ := List.length_eq_one_iff.mp once
    have submitting := hvolume ▸ List.mem_singleton_self volume
    have served : serverOf Sample.settings (Sample.retained ∅) = some Sample.shellProvider := by
      rfl
    obtain ⟨-, unforged, -⟩ := mark_of_first_release Sample.registry_built served
      (by decide +kernel) run submitting (Sample.letGo_holding volume) Sample.others
    exact ⟨volume, submitting, unforged (by decide +kernel)⟩
  · obtain ⟨volume, run, submitting⟩ := Sample.runs_premarked
    have served : serverOf Sample.settings Sample.premarked = some Sample.shellProvider := by
      rfl
    have supplied : suppliedMark Sample.premarked Sample.shellProvider = some "0" := by
      decide +kernel
    obtain ⟨marked, -, forged⟩ := mark_of_first_release Sample.registry_built served
      (by decide +kernel) run submitting (Sample.letGo_holding volume) Sample.others
    exact ⟨volume, submitting, marked.trans supplied, forged "0" supplied⟩

/-- It is not so that every volume that was provisioned to be retained is marked at the first notice
of its release. -/
theorem mark_of_first_release_fails :
    ¬∀ (settings : Settings) (defaultClass : Option String) (providers : List Provider),
      Registry.ofProviders defaultClass providers = .ok settings.registry →
      ∀ (event : ClaimEvent) (provider : Provider), serverOf settings event = some provider →
      claimedPolicy event provider = .retain →
      ∀ (whole : PeerTrace) (volumeName : String),
      Program.Runs (onPeers (handleClaim settings event)) whole (.ok (.provisioned volumeName)) →
      ∀ volume ∈ submitted (clusterPart whole), ∀ (notice : VolumeEvent) (store : Store),
      LetGo volume notice store → ∀ others : (c : Call) → c.Answer,
      (handleVolume settings notice).runWith (storePeer others) store =
        (some (.ok .retained),
          store.annotate notice.volumeName Key.releasedAt (toString (others .clock).seconds)) := by
  intro holds
  obtain ⟨volume, run, submitting⟩ := Sample.runs_premarked
  have served : serverOf Sample.settings Sample.premarked = some Sample.shellProvider := by
    rfl
  have retain : claimedPolicy Sample.premarked Sample.shellProvider = .retain := by
    decide +kernel
  have supplied : suppliedMark Sample.premarked Sample.shellProvider = some "0" := by
    decide +kernel
  have letGo := Sample.letGo_holding volume
  have forged : Key.releasedAt ∈ (Sample.letGo volume).annotations := by
    rw [Std.ExtTreeMap.mem_iff_isSome_getElem?, letGo.told,
      mark_of_submitted served run submitting, supplied]
    rfl
  obtain ⟨releasing, retains⟩ := releasing_of_submitted
    (Registry.keyed_of_ofProviders Sample.registry_built) served retain run submitting letGo
  -- The notice is answered with a repetition, not with a mark that was written.
  have first := holds _ _ _ Sample.registry_built _ _ served retain _ _ run volume submitting _ _
    letGo Sample.others
  rw [handleVolume_of_marked releasing retains forged] at first
  cases congrArg Prod.fst first

end DatasetProvisioner.Reconciler
