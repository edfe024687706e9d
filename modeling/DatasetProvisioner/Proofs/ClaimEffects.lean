import DatasetProvisioner.Proofs.Ownership
import DatasetProvisioner.Proofs.Redelivery

/-!
# What a claim brings about

Of the calls that are made for a claim only two kinds change anything: the one by which a backend
makes a volume, and the one by which the volume's object is submitted. Which of them are made, in
which order and with what outcome is the same for all answers of the backends and the cluster, so
it is said of each event of a sequence apart; and where no identifier is drawn twice, no two objects
of the whole sequence stand for one dataset.
-/
namespace DatasetProvisioner.Reconciler

open Manifest Storage

variable {settings : Settings} {event : ClaimEvent}

/-! ## The effects of one event -/

/-- The calls that may change something outside the controller. -/
def Call.isEffect : Call → Bool
  | .create _ _ _ => true
  | .remove _ _ => true
  | .cluster (.createVolume _) => true
  | .cluster (.deleteVolume _) => true
  | .cluster (.annotateVolume _ _ _) => true
  | _ => false

def effects (trace : Trace) : Trace :=
  trace.filter (·.call.isEffect)

theorem effects_append (first rest : Trace) :
    effects (first ++ rest) = effects first ++ effects rest :=
  List.filter_append first rest

theorem effects_reads {trace : Trace} (h : ∀ x ∈ trace, x.call.isRead = true) :
    effects trace = [] := by
  refine List.filter_eq_nil_iff.mpr fun x hx => ?_
  have hread := h x hx
  unfold Call.isRead at hread
  split at hread
  · next heq => simp [heq, Call.isEffect]
  · next heq => simp [heq, Call.isEffect]
  · cases hread

/-- Whatever is submitted is submitted among the effects. -/
theorem submitted_effects (trace : Trace) :
    submitted (clusterCalls (effects trace)) = submitted (clusterCalls trace) := by
  induction trace with
  | nil => rfl
  | cons x trace ih =>
    rw [← List.singleton_append, effects_append, clusterCalls_append, clusterCalls_append,
      submitted_append, submitted_append, ih]
    congr 1
    -- A call that is left out is none by which an object is submitted.
    obtain ⟨call, answer⟩ := x
    rcases call with c | _ | _ | _ | _ | _
    · cases c <;> rfl
    all_goals rfl

/-- A volume object that was made from what a backend told, for the claim of an event. -/
structure Carries (event : ClaimEvent) (descriptor : Descriptor) (volume : Volume) : Prop where
  name : volume.metadata.name = some descriptor.assignedName
  claim : volume.spec.bind (·.claimRef) = some {
    apiVersion := some "v1"
    kind := some "PersistentVolumeClaim"
    objectNamespace := some event.claimNamespace
    name := some event.claimName
    uid := (some event.uid).filter (· ≠ "") }
  capacity : (volume.spec.bind (·.capacity)).bind (·["storage"]?) = some event.requestedStorage
  accessModes : volume.spec.bind (·.accessModes) = some event.accessModes
  storageClassName : volume.spec.bind (·.storageClassName) = event.storageClassName
  volumeMode : volume.spec.bind (·.volumeMode) = event.volumeMode
  exported : volume.spec.bind (·.exportSource) =
    some ⟨descriptor.exportHost, descriptor.exportPath, some descriptor.readOnly⟩

theorem carries_attempted {provider : Provider} {scope : TransientScope} {after : Annotations}
    {descriptor : Descriptor} :
    Carries event descriptor (attempted event provider scope after descriptor) where
  name := rfl
  claim := by
    by_cases h : event.uid = ""
    · simp [attempted, volumeFor, h, Option.filter_some]
    · simp [attempted, volumeFor, h, Option.filter_some]
  capacity := Std.ExtTreeMap.getElem?_insert_self
  accessModes := rfl
  storageClassName := rfl
  volumeMode := rfl
  exported := rfl

/-- An event whose claim is addressed to this controller and of a class that it serves. -/
structure Admitted (settings : Settings) (event : ClaimEvent) (provider : Provider) : Prop where
  addressed : Addressed settings event
  served : serverOf settings event = some provider

/-- What an event brings about, and its outcome. An admitted event has the backend of its class make
a volume, unless it asks for a clone and its source is not found; a volume that was made is
submitted, and the event is provisioned exactly if that was accepted. -/
inductive Caused (settings : Settings) (event : ClaimEvent) :
    Trace → Except Failure ClaimOutcome → Prop where
  | nothing {outcome : Except Failure ClaimOutcome} (unmade : provisions outcome = false)
      (barred : ∀ provider, Admitted settings event provider →
        ∃ source, requestedSource (allowed event provider) = some source) :
    Caused settings event [] outcome
  | declined (provider : Provider) (admitted : Admitted settings event provider)
      (request after : Annotations) (failure : Failure) :
    Caused settings event [onCreate provider.backend request event.requestedBytes (after, none)]
      (.error failure)
  | rejected (provider : Provider) (admitted : Admitted settings event provider)
      (request after : Annotations) (descriptor : Descriptor) (volume : Volume)
      (carries : Carries event descriptor volume) (failure : Failure) :
    Caused settings event
      [onCreate provider.backend request event.requestedBytes (after, some descriptor),
        onCluster (.createVolume volume) (.error failure)]
      (.error failure)
  | provisioned (provider : Provider) (admitted : Admitted settings event provider)
      (request after : Annotations) (descriptor : Descriptor) (volume stored : Volume)
      (carries : Carries event descriptor volume) :
    Caused settings event
      [onCreate provider.backend request event.requestedBytes (after, some descriptor),
        onCluster (.createVolume volume) (.ok stored)]
      (.ok (.provisioned descriptor.assignedName))

theorem effects_attempt (uuid : Uuid) {provider : Provider} {scope : TransientScope}
    {reads : Trace} {result : Except Failure TransientScope}
    (run : ScopeRun settings event provider scope reads result) (rest : Trace) :
    effects (onCount .claimsProcessed :: (onUuid uuid :: reads ++ rest)) = effects rest := by
  change effects (reads ++ rest) = _
  rw [effects_append, effects_reads (isRead_of_scopeRun run), List.nil_append]

theorem caused_of_provisionRun {provider : Provider} (admitted : Admitted settings event provider)
    {trace : Trace} {outcome : Except Failure ClaimOutcome}
    (run : ProvisionRun settings event provider trace outcome) :
    Caused settings event (effects (onCount .claimsProcessed :: trace)) outcome := by
  cases run with
  | @refused uuid reads failure run =>
    change Caused settings event (effects reads) (.error failure)
    rw [effects_reads (isRead_of_scopeRun run)]
    -- Before its backend is asked an admitted event fails at the search for its source only.
    refine .nothing rfl fun other hother => ?_
    obtain rfl := Option.some.inj (hother.served.symm.trans admitted.served)
    cases run with
    | refused source hsource => exact ⟨source, requestedSource_opened.symm.trans hsource⟩
  | declined uuid run after =>
    rw [effects_attempt uuid run]
    exact .declined provider admitted _ after _
  | rejected uuid run after descriptor failure =>
    rw [effects_attempt uuid run]
    exact .rejected provider admitted _ after descriptor _ carries_attempted failure
  | provisioned uuid run after descriptor stored =>
    rw [effects_attempt uuid run]
    exact .provisioned provider admitted _ after descriptor _ stored carries_attempted

theorem caused_of_handleClaim {part : Trace} {outcome : Except Failure ClaimOutcome}
    (run : Program.Runs (handleClaim settings event) part outcome) :
    Caused settings event (effects part) outcome := by
  cases runs_handleClaim.mp run with
  | stale h =>
    refine .nothing rfl fun provider admitted => absurd h ?_
    exact (addressed_iff.mp admitted.addressed).1
  | foreign _ _ name hname hne =>
    refine .nothing rfl fun provider admitted => absurd ?_ hne
    exact admitted.addressed.ours name hname
  | unclaimed _ _ unserved =>
    refine .nothing rfl fun provider admitted => ?_
    cases unserved.symm.trans admitted.served
  | unserved _ _ _ unserved =>
    refine .nothing rfl fun provider admitted => ?_
    cases unserved.symm.trans admitted.served
  | served addressed provider served run => exact caused_of_provisionRun ⟨addressed, served⟩ run

/-! ## The datasets of a sequence -/

def datasetOf (volume : Volume) : Option String :=
  volume.annotations[Key.datasetPath]?

/-- A volume object of one of some events, for the dataset of an identifier. -/
def Housed (settings : Settings) (events : List ClaimEvent) (volume : Volume) (uuid : Uuid) :
    Prop :=
  ∃ event ∈ events, ∃ provider, serverOf settings event = some provider ∧
    datasetOf volume = some (provider.backend.layout.datasetPath uuid)

theorem Housed.later {events : List ClaimEvent} {volume : Volume} {uuid : Uuid}
    (housed : Housed settings events volume uuid) (first : ClaimEvent) :
    Housed settings (first :: events) volume uuid := by
  obtain ⟨event, hevent, provider, served, dataset⟩ := housed
  exact ⟨event, List.mem_cons_of_mem first hevent, provider, served, dataset⟩

theorem uuid_of_housed {events : List ClaimEvent} {volume other : Volume} {uuid stamp : Uuid}
    (housed : Housed settings events volume uuid) (rehoused : Housed settings events other stamp)
    (same : datasetOf volume = datasetOf other) : uuid = stamp := by
  obtain ⟨-, -, provider, -, dataset⟩ := housed
  obtain ⟨-, -, provider', -, dataset'⟩ := rehoused
  rw [dataset, dataset', Option.some.injEq] at same
  exact Dataset.Layout.uuid_of_datasetPath same

/-- One event submits at most one volume object. -/
theorem submitted_of_caused {part : Trace} {outcome : Except Failure ClaimOutcome}
    (caused : Caused settings event (effects part) outcome) :
    submitted (clusterCalls part) = [] ∨ ∃ volume, submitted (clusterCalls part) = [volume] := by
  rw [← submitted_effects]
  generalize effects part = trace at caused
  cases caused with
  | nothing => exact .inl rfl
  | declined => exact .inl rfl
  | rejected provider _ request after descriptor volume => exact .inr ⟨volume, rfl⟩
  | provisioned provider _ request after descriptor volume => exact .inr ⟨volume, rfl⟩

theorem housed_of_part {part : Trace} {outcome : Except Failure ClaimOutcome}
    (run : Program.Runs (handleClaim settings event) part outcome) {whole : PeerTrace}
    (carried : Program.Carried carry part whole) :
    ∃ uuids : List Uuid, uuids.Sublist (identifiers whole) ∧
      List.Forall₂ (Housed settings [event]) (submitted (clusterPart whole)) uuids := by
  have served := runs_onPeers.mpr ⟨part, run, carried⟩
  have calls := clusterPart_of_carried carried
  rcases submitted_of_caused (caused_of_handleClaim run) with none | ⟨volume, one⟩
  · refine ⟨[], List.nil_sublist _, ?_⟩
    rw [calls, none]
    exact .nil
  · rw [← calls] at one
    obtain ⟨provider, uuid, hprovider, drawn, owned⟩ :=
      owned_of_submitted served (one ▸ List.mem_singleton_self volume)
    refine ⟨[uuid], drawn ▸ List.Sublist.refl _, ?_⟩
    rw [one]
    exact .cons ⟨event, List.mem_singleton_self event, provider, hprovider, owned.place.dataset⟩
      .nil

/-- Induction on the events: the identifiers behind the volume objects are some of those drawn, in
the order in which they were drawn. -/
theorem housed_of_segmented {events : List ClaimEvent} {parts : List Trace}
    {outcomes : List (Except Failure ClaimOutcome)}
    (segmented : Program.Segmented (handleClaim settings) events parts outcomes)
    {whole : PeerTrace} (carried : Program.Carried carry parts.flatten whole) :
    ∃ uuids : List Uuid, uuids.Sublist (identifiers whole) ∧
      List.Forall₂ (Housed settings events) (submitted (clusterPart whole)) uuids := by
  induction segmented generalizing whole with
  | nil =>
    cases carried
    exact ⟨[], List.nil_sublist _, .nil⟩
  | @cons event events part parts outcome outcomes head tail ih =>
    obtain ⟨first, rest, rfl, hfirst, hrest⟩ := Program.carried_append.mp carried
    obtain ⟨uuids, drawn, housed⟩ := housed_of_part head hfirst
    obtain ⟨others, redrawn, rehoused⟩ := ih hrest
    refine ⟨uuids ++ others, ?_, ?_⟩
    · rw [identifiers_append]
      exact drawn.append redrawn
    · rw [clusterPart_append, submitted_append]
      refine List.rel_append (housed.imp fun volume uuid h => ?_)
        (rehoused.imp fun volume uuid h => h.later event)
      obtain ⟨only, honly, hvolume⟩ := h
      exact ⟨only, List.mem_cons.mpr (.inl (List.mem_singleton.mp honly)), hvolume⟩

theorem exists_uuid_of_housed {events : List ClaimEvent} {volumes : List Volume}
    {uuids : List Uuid} (housed : List.Forall₂ (Housed settings events) volumes uuids)
    {volume : Volume} (h : volume ∈ volumes) :
    ∃ uuid ∈ uuids, Housed settings events volume uuid := by
  obtain ⟨n, hn, rfl⟩ := List.mem_iff_getElem.mp h
  exact ⟨_, List.getElem_mem _, housed.get hn (housed.length_eq ▸ hn)⟩

theorem nodup_datasets {events : List ClaimEvent} {volumes : List Volume} {uuids : List Uuid}
    (housed : List.Forall₂ (Housed settings events) volumes uuids) (distinct : uuids.Nodup) :
    (volumes.map datasetOf).Nodup := by
  induction housed with
  | nil => exact List.nodup_nil
  | @cons volume uuid volumes uuids head tail ih =>
    obtain ⟨fresh, distinct⟩ := List.nodup_cons.mp distinct
    rw [List.map_cons, List.nodup_cons]
    -- A later object for the same dataset would have the identifier of this one.
    refine ⟨fun hmem => fresh ?_, ih distinct⟩
    obtain ⟨other, hother, same⟩ := List.mem_map.mp hmem
    obtain ⟨stamp, hstamp, rehoused⟩ := exists_uuid_of_housed tail hother
    rw [uuid_of_housed head rehoused same.symm]
    exact hstamp

/-- For every sequence of claim events and all answers, each event brings about what `Caused` allows
it and nothing else. Where the identifiers that are drawn differ from each other, so do the datasets
of all volume objects that are submitted, each of them the dataset of an identifier that was
drawn. -/
theorem claim_effects_follow_protocol (settings : Settings) (events : List ClaimEvent)
    {trace : Trace} {outcomes : List (Except Failure ClaimOutcome)}
    (run : Program.Runs (events.mapM (handleClaim settings)) trace outcomes) :
    (∃ parts, trace = parts.flatten ∧
      Program.Segmented (handleClaim settings) events parts outcomes ∧
      List.Forall₂ (fun delivery part => Caused settings delivery.1 (effects part) delivery.2)
        (events.zip outcomes) parts) ∧
    ∀ whole, Program.Carried carry trace whole → (identifiers whole).Nodup →
      ((submitted (clusterPart whole)).map datasetOf).Nodup ∧
      ∀ volume ∈ submitted (clusterPart whole), ∃ uuid ∈ identifiers whole,
        Housed settings events volume uuid := by
  obtain ⟨parts, rfl, segmented⟩ := Program.runs_mapM.mp run
  refine ⟨⟨parts, rfl, segmented, segmented.forall₂_zip _ fun _ _ _ => caused_of_handleClaim⟩,
    fun whole carried distinct => ?_⟩
  obtain ⟨uuids, drawn, housed⟩ := housed_of_segmented segmented carried
  refine ⟨nodup_datasets housed (distinct.sublist drawn), fun volume hvolume => ?_⟩
  obtain ⟨uuid, huuid, own⟩ := exists_uuid_of_housed housed hvolume
  exact ⟨uuid, drawn.subset huuid, own⟩

/-- A claim and a claim for a clone, one after the other: two volume objects of different datasets,
each of which its backend had made. -/
theorem sample_claim_effects_follow_protocol :
    ∃ trace outcomes whole,
      Program.Runs ([Sample.claim, Sample.cloneClaim "zfs-rest"].mapM
        (handleClaim Sample.settings)) trace outcomes ∧
      Program.Carried carry trace whole ∧ (submitted (clusterPart whole)).length = 2 ∧
      ((submitted (clusterPart whole)).map datasetOf).Nodup ∧
      ∃ parts, trace = parts.flatten ∧
        List.Forall₂ (fun delivery part =>
            Caused Sample.settings delivery.1 (effects part) delivery.2)
          ([Sample.claim, Sample.cloneClaim "zfs-rest"].zip outcomes) parts := by
  obtain ⟨outcome, run⟩ := Sample.runs_servedBy Sample.settings 1 Sample.claim
  obtain ⟨outcome', rerun⟩ := Sample.runs_servedBy Sample.settings 2 (Sample.cloneClaim "zfs-rest")
  obtain ⟨part, hpart, carried⟩ := runs_onPeers.mp run
  obtain ⟨part', hpart', recarried⟩ := runs_onPeers.mp rerun
  have both := Program.runs_mapM.mpr ⟨_, rfl, .cons hpart (.cons hpart' .nil)⟩
  rw [List.flatten_cons, List.flatten_cons, List.flatten_nil, List.append_nil] at both
  have whole := Program.carried_append.mpr ⟨_, _, rfl, carried, recarried⟩
  obtain ⟨distinct, two⟩ :
      (identifiers (Sample.servedBy Sample.settings 1 Sample.claim ++
        Sample.servedBy Sample.settings 2 (Sample.cloneClaim "zfs-rest"))).Nodup ∧
      (submitted (clusterPart (Sample.servedBy Sample.settings 1 Sample.claim ++
        Sample.servedBy Sample.settings 2 (Sample.cloneClaim "zfs-rest")))).length = 2 := by
    decide +kernel
  obtain ⟨⟨parts, hparts, -, caused⟩, apart⟩ :=
    claim_effects_follow_protocol Sample.settings _ both
  exact ⟨_, _, _, both, whole, two, (apart _ whole distinct).1, parts, hparts, caused⟩

end DatasetProvisioner.Reconciler
