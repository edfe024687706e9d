import DatasetProvisioner.Proofs.CloneIsolation
import DatasetProvisioner.Proofs.Pairing

/-!
# The gate in front of a clone

A claim that asks for a clone reaches its backend only after two look-ups have shown that there is a
dataset to clone: the claim that it names is bound to a volume, and that volume is one of this
controller's and lies where the class keeps its datasets. Then this dataset is the one that
snapshots are taken of. In all other cases the claim fails with no trace but the look-ups. Nothing
else leads to a clone: a claim that may not ask for one, or does not, gets a fresh dataset whatever
else it carries.
-/
namespace DatasetProvisioner.Reconciler

open Manifest Storage

variable {settings : Settings} {event : ClaimEvent} {provider : Provider} {source path : String}

/-- A claim asks to clone another one, by an annotation that its class does not deny. -/
structure AsksToClone (provider : Provider) (event : ClaimEvent) (source : String) : Prop where
  annotated : event.annotations[Key.cloneFrom]? = some source
  named : source ≠ ""
  permitted : Key.cloneFrom ∉ provider.blocked

theorem requestedSource_allowed_iff :
    requestedSource (allowed event provider) = some source ↔
      AsksToClone provider event source := by
  rw [requestedSource, Option.filter_eq_some_iff, getElem?_allowed,
    Annotations.getElem?_ofClaim Annotations.workingKey_eq_cloneFrom (by decide) (by decide)]
  constructor
  · rintro ⟨hsome, hne⟩
    split at hsome
    · cases hsome
    · next hfree => exact ⟨hsome, of_decide_eq_true hne, fun hblocked => hfree (.inr hblocked)⟩
  · rintro ⟨hsome, hne, hfree⟩
    refine ⟨?_, decide_eq_true hne⟩
    rw [if_neg (not_or.mpr ⟨by decide, hfree⟩)]
    exact hsome

/-- Look-ups have shown that a dataset may be cloned: the source claim names a volume, and the
volume is this controller's and locates the dataset, which is the provider's. -/
def Vetted (settings : Settings) (event : ClaimEvent) (provider : Provider) (source path : String)
    (reads : Trace) : Prop :=
  ∃ claim volumeName volume host,
    onCluster (.readClaim event.claimNamespace source) (.ok (some claim)) ∈ reads ∧
    namedVolume claim = some volumeName ∧
    onCluster (.readVolume volumeName) (.ok (some volume)) ∈ reads ∧
    volume.annotations[Key.managedBy]? = some settings.identity ∧
    Locates volume host path ∧ provider.backend.isLocal host path = true

/-- A clone source is found by look-ups that vet it. -/
theorem vetted_of_sourceRun {reads : Trace} {ref : String}
    (run : SourceRun settings.identity event.claimNamespace source provider reads (.ok ref)) :
    ∃ host path, ref = host ++ ":" ++ path ∧ Vetted settings event provider source path reads := by
  cases run with
  | found claim volumeName hname volume ref hfound =>
    obtain ⟨howner, host, path, hhost, hpath, hlocal, rfl⟩ := cloneRefOf_eq_ok_iff.mp hfound
    exact ⟨host, path, rfl, claim, volumeName, volume, host, by simp, hname, by simp, howner,
      ⟨hhost, hpath⟩, hlocal⟩

theorem Vetted.mono {first rest : Trace} (vetted : Vetted settings event provider source path first)
    (sub : first ⊆ rest) : Vetted settings event provider source path rest := by
  obtain ⟨claim, volumeName, volume, host, hclaim, hname, hvolume, shown⟩ := vetted
  exact ⟨claim, volumeName, volume, host, sub hclaim, hname, sub hvolume, shown⟩

/-- A run through the gate: the one call of a backend comes after look-ups that vet a dataset, and
snapshots are taken of that dataset only. -/
structure Cleared (settings : Settings) (event : ClaimEvent) (provider : Provider)
    (source path : String) (trace : Trace) (whole : PeerTrace) : Prop where
  called : ∃ before x after, trace = before ++ x :: after ∧ x.call.onBackend = true ∧
    (∀ y ∈ before ++ after, y.call.onBackend = false) ∧
    Vetted settings event provider source path before
  snapped : ∀ x ∈ storagePart whole, x.call.isSnapshot = true → Copies x path

/-- A run that ends at the gate. -/
structure TurnedAway (trace : Trace) (whole : PeerTrace) (outcome : Except Failure ClaimOutcome) :
    Prop where
  uncalled : ∀ x ∈ trace, x.call.onBackend = false
  untouched : Idle (storagePart whole)
  unsubmitted : submitted (clusterPart whole) = []
  failed : ∃ failure, outcome = .error failure

/-- A run with no clone: the backend is handed no clone reference, and takes no snapshot and clones
none. -/
structure Uncloned (trace : Trace) (whole : PeerTrace) : Prop where
  unreferenced : ∀ x ∈ trace, ∀ backend annotations size,
    x.call = .create backend annotations size → annotations[Key.cloneRef]? = none
  uncopied : ∀ x ∈ storagePart whole, x.call.isCopy = false

/-- A new, pending claim of this controller whose class has a provider is provisioned. -/
theorem provisionRun_of_served {trace : Trace} {outcome : Except Failure ClaimOutcome}
    (addressed : Addressed settings event) (served : serverOf settings event = some provider)
    (run : Program.Runs (handleClaim settings event) trace outcome) :
    ∃ rest, trace = onCount .claimsProcessed :: rest ∧
      ProvisionRun settings event provider rest outcome := by
  cases runs_handleClaim.mp run with
  | stale h =>
    rcases h with h | h
    · exact absurd addressed.added h
    · exact absurd addressed.pending h
  | foreign _ _ name h hname => exact absurd (addressed.ours name h) hname
  | unclaimed _ _ unserved =>
    rw [served] at unserved
    cases unserved
  | unserved _ _ _ unserved =>
    rw [served] at unserved
    cases unserved
  | served _ other hserved hrun =>
    obtain rfl := Option.some.inj (served.symm.trans hserved)
    exact ⟨_, rfl, hrun⟩

/-- Whatever is copied in an attempt is copied by its backend, and snapshots are of the clone source
that the backend was handed. -/
theorem sourceOf_of_attempt {uuid : Uuid} {reads rest : Trace} {scope : TransientScope}
    {after : Annotations} {descriptor? : Option Descriptor} {whole : PeerTrace}
    (run : ScopeRun settings event provider (opened settings event provider uuid) reads (.ok scope))
    (aside : ∀ x ∈ rest, x.call.onBackend = false)
    (carried : Program.Carried carry
      ((onUuid uuid :: reads) ++ onAttempt event provider scope after descriptor? :: rest) whole)
    {x : Exchange Storage.interface} (hx : x ∈ storagePart whole) (hcopy : x.call.isCopy = true) :
    ∃ dataset, SourceOf provider.backend.layout (requested provider scope).annotations dataset ∧
      (x.call.isSnapshot = true → Copies x dataset) := by
  obtain ⟨before, made, later, hparts, hbefore, hlater, hcreate⟩ :=
    storagePart_of_attempt run aside carried
  rw [hparts, List.mem_append, List.mem_append] at hx
  rcases hx with hx | hx | hx
  · rw [not_isCopy_of_idle hbefore x hx] at hcopy
    cases hcopy
  · exact Backend.sourceOf_of_isCopy hcreate hx hcopy
  · rw [not_isCopy_of_idle hlater x hx] at hcopy
    cases hcopy

theorem isCopy_of_isSnapshot {c : Storage.Call} (h : c.isSnapshot = true) : c.isCopy = true := by
  unfold Storage.Call.isSnapshot at h
  split at h
  · rfl
  · rfl
  · cases h

theorem cleared_or_turnedAway {trace : Trace} {whole : PeerTrace}
    {outcome : Except Failure ClaimOutcome} (asks : AsksToClone provider event source)
    (run : ProvisionRun settings event provider trace outcome)
    (carried : Program.Carried carry trace whole) :
    (∃ path, Cleared settings event provider source path trace whole) ∨
      TurnedAway trace whole outcome := by
  have hasked (uuid : Uuid) :
      requestedSource (opened settings event provider uuid).annotations = some source :=
    requestedSource_opened.trans (requestedSource_allowed_iff.mpr asks)
  rcases refused_or_attempted run with ⟨uuid, reads, failure, refusal, rfl, rfl⟩ |
    ⟨uuid, reads, scope, after, descriptor?, rest, hscope, rfl, hrest⟩
  · have quiet : ∀ x ∈ onUuid uuid :: reads, x.call.onBackend = false :=
      not_onBackend_of_scopeRun refusal
    refine .inr ⟨quiet, idle_of_carried carried quiet, ?_, failure, rfl⟩
    rw [clusterPart_of_carried carried, ← List.append_nil (_ :: _), submitted_attempt uuid refusal]
    rfl
  · refine .inl ?_
    cases hscope with
    | plain h =>
      rw [hasked] at h
      cases h
    | @resolved other h _ ref found =>
      obtain rfl := Option.some.inj ((hasked uuid).symm.trans h)
      obtain ⟨host, path, rfl, vetted⟩ := vetted_of_sourceRun found
      have hscope : ScopeRun settings event provider (opened settings event provider uuid) reads
        (.ok ((opened settings event provider uuid).insertTransient Key.cloneRef
          (host ++ ":" ++ path))) := .resolved source h found
      refine ⟨path, ⟨onUuid uuid :: reads, _, rest, rfl, rfl, ?_,
        vetted.mono (List.subset_cons_self _ reads)⟩, fun x hx hsnapshot => ?_⟩
      · exact List.forall_mem_append.mpr ⟨not_onBackend_of_scopeRun hscope, hrest⟩
      · obtain ⟨dataset, hsource, hcopies⟩ :=
          sourceOf_of_attempt hscope hrest carried hx (isCopy_of_isSnapshot hsnapshot)
        obtain ⟨ref, href, hpath⟩ := cloneRef_of_sourceOf hsource
        rw [cloneRef_requested] at href
        obtain rfl := Option.some.inj (Std.ExtTreeMap.getElem?_insert_self.symm.trans href)
        -- The reference is read back as it was composed.
        obtain rfl := Dataset.Layout.eq_of_cloneSource hpath
        exact hcopies hsnapshot

theorem uncloned_of_provisionRun {trace : Trace} {whole : PeerTrace}
    {outcome : Except Failure ClaimOutcome} (plain : ∀ source, ¬AsksToClone provider event source)
    (run : ProvisionRun settings event provider trace outcome)
    (carried : Program.Carried carry trace whole) : Uncloned trace whole := by
  have unasked (uuid : Uuid) {other : String}
      (h : requestedSource (opened settings event provider uuid).annotations = some other) :
      False :=
    plain other (requestedSource_allowed_iff.mp (requestedSource_opened.symm.trans h))
  rcases refused_or_attempted run with ⟨uuid, reads, failure, refusal, rfl, -⟩ |
    ⟨uuid, reads, scope, after, descriptor?, rest, hscope, rfl, hrest⟩
  · cases refusal with
    | refused other h => exact (unasked uuid h).elim
  · have quiet : ∀ x ∈ onUuid uuid :: reads, x.call.onBackend = false :=
      not_onBackend_of_scopeRun hscope
    cases hscope with
    | resolved other h => exact (unasked uuid h).elim
    | plain h =>
      have hnone : (requested provider (opened settings event provider uuid)).annotations[
          Key.cloneRef]? = none := by
        rw [cloneRef_requested, cloneRef_opened]
      refine ⟨fun x hx backend annotations size hcall => ?_, fun x hx => ?_⟩
      · rcases List.mem_append.mp hx with hx | hx
        · have hquiet := quiet x hx
          rw [hcall] at hquiet
          cases hquiet
        · rcases List.mem_cons.mp hx with rfl | hx
          · cases hcall
            exact hnone
          · have hquiet := hrest x hx
            rw [hcall] at hquiet
            cases hquiet
      · refine Bool.eq_false_iff.mpr fun hcopy => ?_
        obtain ⟨dataset, hsource, -⟩ := sourceOf_of_attempt (.plain h) hrest carried hx hcopy
        obtain ⟨ref, href, -⟩ := cloneRef_of_sourceOf hsource
        rw [hnone] at href
        cases href

/-- A claim that reaches provisioning and asks for a clone goes through the gate or is turned away;
one that does not ask for a clone, or may not, gets none. -/
theorem clone_gate {trace : Trace} {whole : PeerTrace} {outcome : Except Failure ClaimOutcome}
    (addressed : Addressed settings event) (served : serverOf settings event = some provider)
    (run : Program.Runs (handleClaim settings event) trace outcome)
    (carried : Program.Carried carry trace whole) :
    (∀ source, AsksToClone provider event source →
      (∃ path, Cleared settings event provider source path trace whole) ∨
        TurnedAway trace whole outcome) ∧
    ((∀ source, ¬AsksToClone provider event source) → Uncloned trace whole) := by
  obtain ⟨attempt, rfl, hattempt⟩ := provisionRun_of_served addressed served run
  -- Before the attempt the claim is counted, and nothing else.
  obtain ⟨counting, attempting, rfl, hcount, hcarried⟩ := Program.carried_cons.mp carried
  cases runs_carry.mp hcount
  refine ⟨fun source asks => ?_, fun plain => ?_⟩
  · rcases cleared_or_turnedAway asks hattempt hcarried with
      ⟨path, ⟨before, x, after, rfl, hx, quiet, vetted⟩, snapped⟩ | turned
    · exact .inl ⟨path, ⟨_ :: before, x, after, rfl, hx, List.forall_mem_cons.mpr ⟨rfl, quiet⟩,
        vetted.mono (List.subset_cons_self _ before)⟩, snapped⟩
    · exact .inr ⟨List.forall_mem_cons.mpr ⟨rfl, turned.uncalled⟩, turned.untouched,
        turned.unsubmitted, turned.failed⟩
  · obtain ⟨unreferenced, uncopied⟩ := uncloned_of_provisionRun plain hattempt hcarried
    refine ⟨List.forall_mem_cons.mpr ⟨fun backend annotations size hcall => ?_, unreferenced⟩,
      uncopied⟩
    cases hcall

/-- A claim for a clone goes through the gate, and a snapshot is taken of what was vetted; a claim
that asks for none is served without a copy. -/
theorem sample_clone_gate :
    (∃ trace path, Cleared Sample.settings (Sample.cloneClaim "zfs-basic") Sample.shellProvider
        "golden" path trace (Sample.servedBy Sample.settings 1 (Sample.cloneClaim "zfs-basic")) ∧
      ∃ x ∈ storagePart (Sample.servedBy Sample.settings 1 (Sample.cloneClaim "zfs-basic")),
        x.call.isSnapshot = true ∧ Copies x path) ∧
    ∃ trace, Uncloned trace (Sample.servedBy Sample.settings 1 Sample.claim) := by
  constructor
  · obtain ⟨outcome, run⟩ :=
      Sample.runs_servedBy Sample.settings 1 (Sample.cloneClaim "zfs-basic")
    obtain ⟨trace, hrun, carried⟩ := runs_onPeers.mp run
    have snapshot : ∃ x ∈ storagePart (Sample.servedBy Sample.settings 1
        (Sample.cloneClaim "zfs-basic")), x.call.isSnapshot = true := by
      decide +kernel
    obtain ⟨x, hx, hsnapshot⟩ := snapshot
    have asks : AsksToClone Sample.shellProvider (Sample.cloneClaim "zfs-basic") "golden" :=
      ⟨by decide +kernel, by decide, by decide⟩
    rcases (clone_gate Sample.clonable.addressed Sample.clonable.served hrun carried).1 "golden"
      asks with ⟨path, cleared⟩ | turned
    · exact ⟨trace, path, cleared, x, hx, hsnapshot, cleared.snapped x hx hsnapshot⟩
    · have quiet := not_isCopy_of_idle turned.untouched x hx
      rw [isCopy_of_isSnapshot hsnapshot] at quiet
      cases quiet
  · obtain ⟨outcome, run⟩ := Sample.runs_servedBy Sample.settings 1 Sample.claim
    obtain ⟨trace, hrun, carried⟩ := runs_onPeers.mp run
    have addressed : Addressed Sample.settings Sample.claim := .of_unnamed rfl rfl (by decide)
    have served : serverOf Sample.settings Sample.claim = some Sample.shellProvider := by rfl
    refine ⟨trace, (clone_gate addressed served hrun carried).2 fun source asks => ?_⟩
    cases asks.annotated

end DatasetProvisioner.Reconciler
