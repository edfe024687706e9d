import DatasetProvisioner.Proofs.Trace
import DatasetProvisioner.Proofs.WorkingSet

/-!
# What handling a claim can do

The runs of the claim path, read off once: finding a clone source, one provisioning attempt, and
the whole path. Each constructor of a relation is one way through, with the conditions under which
it is taken, the calls it makes and its outcome.
-/
namespace DatasetProvisioner.Reconciler

open Manifest Storage

/-! ## Finding a clone source -/

def refused (claimNamespace sourceClaim : String) (refusal : CloneRefusal) : Failure :=
  .cloneSource claimNamespace sourceClaim refusal.message

/-- The volume that a claim names as its own. -/
abbrev namedVolume (claim : Claim) : Option String :=
  (claim.spec.bind (·.volumeName)).filter (· ≠ "")

/-- Finding a clone source reads the claim, then the volume that the claim names. -/
inductive SourceRun (identity claimNamespace sourceClaim : String) (provider : Provider) :
    Trace → Except Failure String → Prop where
  | claimUnread (failure : Failure) :
    SourceRun identity claimNamespace sourceClaim provider
      [onCluster (.readClaim claimNamespace sourceClaim) (.error failure)] (.error failure)
  | noClaim :
    SourceRun identity claimNamespace sourceClaim provider
      [onCluster (.readClaim claimNamespace sourceClaim) (.ok none)]
      (.error (refused claimNamespace sourceClaim .claimNotFound))
  | unbound (claim : Claim) (h : namedVolume claim = none) :
    SourceRun identity claimNamespace sourceClaim provider
      [onCluster (.readClaim claimNamespace sourceClaim) (.ok (some claim))]
      (.error (refused claimNamespace sourceClaim .claimNotBound))
  | volumeUnread (claim : Claim) (volumeName : String) (h : namedVolume claim = some volumeName)
      (failure : Failure) :
    SourceRun identity claimNamespace sourceClaim provider
      [onCluster (.readClaim claimNamespace sourceClaim) (.ok (some claim)),
        onCluster (.readVolume volumeName) (.error failure)]
      (.error failure)
  | noVolume (claim : Claim) (volumeName : String) (h : namedVolume claim = some volumeName) :
    SourceRun identity claimNamespace sourceClaim provider
      [onCluster (.readClaim claimNamespace sourceClaim) (.ok (some claim)),
        onCluster (.readVolume volumeName) (.ok none)]
      (.error (refused claimNamespace sourceClaim (.volumeNotFound volumeName)))
  | ineligible (claim : Claim) (volumeName : String) (h : namedVolume claim = some volumeName)
      (volume : Volume) (refusal : CloneRefusal)
      (href : cloneRefOf identity provider volumeName volume.annotations = .error refusal) :
    SourceRun identity claimNamespace sourceClaim provider
      [onCluster (.readClaim claimNamespace sourceClaim) (.ok (some claim)),
        onCluster (.readVolume volumeName) (.ok (some volume))]
      (.error (refused claimNamespace sourceClaim refusal))
  | found (claim : Claim) (volumeName : String) (h : namedVolume claim = some volumeName)
      (volume : Volume) (ref : String)
      (href : cloneRefOf identity provider volumeName volume.annotations = .ok ref) :
    SourceRun identity claimNamespace sourceClaim provider
      [onCluster (.readClaim claimNamespace sourceClaim) (.ok (some claim)),
        onCluster (.readVolume volumeName) (.ok (some volume))]
      (.ok ref)

variable {identity claimNamespace sourceClaim : String} {provider : Provider}

theorem runs_resolveCloneSource {trace : Trace} {result : Except Failure String} :
    Program.Runs (resolveCloneSource identity claimNamespace sourceClaim provider) trace result ↔
      SourceRun identity claimNamespace sourceClaim provider trace result := by
  unfold resolveCloneSource
  constructor
  · intro run
    obtain ⟨answer, rest, rfl, hclaim⟩ := runs_askCluster.mp run
    rcases answer with failure | _ | claim
    · obtain ⟨rfl, rfl⟩ := Program.runs_pure.mp hclaim
      exact .claimUnread failure
    · obtain ⟨rfl, rfl⟩ := Program.runs_pure.mp hclaim
      exact .noClaim
    · cases hname : namedVolume claim with
      | none =>
        simp only [hname] at hclaim
        obtain ⟨rfl, rfl⟩ := Program.runs_pure.mp hclaim
        exact .unbound claim hname
      | some volumeName =>
        simp only [hname] at hclaim
        obtain ⟨answer, rest, rfl, hvolume⟩ := runs_askCluster.mp hclaim
        rcases answer with failure | _ | volume
        · obtain ⟨rfl, rfl⟩ := Program.runs_pure.mp hvolume
          exact .volumeUnread claim volumeName hname failure
        · obtain ⟨rfl, rfl⟩ := Program.runs_pure.mp hvolume
          exact .noVolume claim volumeName hname
        · cases href : cloneRefOf identity provider volumeName volume.annotations with
          | error refusal =>
            simp only [href] at hvolume
            obtain ⟨rfl, rfl⟩ := Program.runs_pure.mp hvolume
            exact .ineligible claim volumeName hname volume refusal href
          | ok ref =>
            simp only [href] at hvolume
            obtain ⟨rfl, rfl⟩ := Program.runs_pure.mp hvolume
            exact .found claim volumeName hname volume ref href
  · intro run
    cases run with
    | claimUnread failure => exact runs_askCluster.mpr ⟨.error failure, [], rfl, .done _⟩
    | noClaim => exact runs_askCluster.mpr ⟨.ok none, [], rfl, .done _⟩
    | unbound claim h =>
      refine runs_askCluster.mpr ⟨.ok (some claim), [], rfl, ?_⟩
      simp only [h]
      exact .done _
    | volumeUnread claim volumeName h failure =>
      refine runs_askCluster.mpr ⟨.ok (some claim), _, rfl, ?_⟩
      simp only [h]
      exact runs_askCluster.mpr ⟨.error failure, [], rfl, .done _⟩
    | noVolume claim volumeName h =>
      refine runs_askCluster.mpr ⟨.ok (some claim), _, rfl, ?_⟩
      simp only [h]
      exact runs_askCluster.mpr ⟨.ok none, [], rfl, .done _⟩
    | ineligible claim volumeName h volume refusal href =>
      refine runs_askCluster.mpr ⟨.ok (some claim), _, rfl, ?_⟩
      simp only [h]
      refine runs_askCluster.mpr ⟨.ok (some volume), [], rfl, ?_⟩
      simp only [href]
      exact .done _
    | found claim volumeName h volume ref href =>
      refine runs_askCluster.mpr ⟨.ok (some claim), _, rfl, ?_⟩
      simp only [h]
      refine runs_askCluster.mpr ⟨.ok (some volume), [], rfl, ?_⟩
      simp only [href]
      exact .done _

def Call.isRead : Call → Bool
  | .cluster (.readClaim _ _) => true
  | .cluster (.readVolume _) => true
  | _ => false

theorem isRead_of_sourceRun {trace : Trace} {result : Except Failure String}
    (run : SourceRun identity claimNamespace sourceClaim provider trace result) :
    ∀ x ∈ trace, x.call.isRead = true := by
  cases run <;> simp [Call.isRead]

/-! ## One attempt -/

variable {settings : Settings} {event : ClaimEvent}

/-- The claim that the annotations ask to clone. -/
abbrev requestedSource (annotations : Annotations) : Option String :=
  annotations[Key.cloneFrom]?.filter (· ≠ "")

/-- Adding the reference to the dataset to clone, where a clone is asked for. -/
inductive ScopeRun (settings : Settings) (event : ClaimEvent) (provider : Provider)
    (scope : TransientScope) : Trace → Except Failure TransientScope → Prop where
  | plain (h : requestedSource scope.annotations = none) :
    ScopeRun settings event provider scope [] (.ok scope)
  | refused (source : String) (h : requestedSource scope.annotations = some source)
      {reads : Trace} {failure : Failure}
      (run : SourceRun settings.identity event.claimNamespace source provider reads
        (.error failure)) :
    ScopeRun settings event provider scope reads (.error failure)
  | resolved (source : String) (h : requestedSource scope.annotations = some source)
      {reads : Trace} {ref : String}
      (run : SourceRun settings.identity event.claimNamespace source provider reads (.ok ref)) :
    ScopeRun settings event provider scope reads (.ok (scope.insertTransient Key.cloneRef ref))

theorem runs_withCloneSource {scope : TransientScope} {trace : Trace}
    {result : Except Failure TransientScope} :
    Program.Runs (withCloneSource settings event provider scope) trace result ↔
      ScopeRun settings event provider scope trace result := by
  unfold withCloneSource
  cases hsource : requestedSource scope.annotations with
  | none =>
    simp only [hsource]
    constructor
    · intro run
      obtain ⟨rfl, rfl⟩ := Program.runs_pure.mp run
      exact .plain hsource
    · intro run
      cases run with
      | plain => exact .done _
      | refused _ h => simp [hsource] at h
      | resolved _ h => simp [hsource] at h
  | some source =>
    simp only [hsource]
    constructor
    · intro run
      obtain ⟨reads, found, _, rfl, hfind, hafter⟩ := Program.runs_bind.mp run
      have hrun := runs_resolveCloneSource.mp hfind
      cases found with
      | error failure =>
        obtain ⟨rfl, rfl⟩ := Program.runs_pure.mp hafter
        rw [List.append_nil]
        exact .refused source hsource hrun
      | ok ref =>
        obtain ⟨rfl, rfl⟩ := Program.runs_pure.mp hafter
        rw [List.append_nil]
        exact .resolved source hsource hrun
    · intro run
      rw [← List.append_nil trace]
      cases run with
      | plain h => simp [hsource] at h
      | refused _ h hrun =>
        obtain rfl := Option.some.inj (hsource.symm.trans h)
        exact (runs_resolveCloneSource.mpr hrun).bind (.done _)
      | resolved _ h hrun =>
        obtain rfl := Option.some.inj (hsource.symm.trans h)
        exact (runs_resolveCloneSource.mpr hrun).bind (.done _)

/-- The scope in which an attempt begins. -/
def opened (settings : Settings) (event : ClaimEvent) (provider : Provider) (uuid : Uuid) :
    TransientScope :=
  ({ annotations := workingSet settings.identity event provider uuid } :
    TransientScope).insertTransient Key.volumeTag (volumeTag uuid)

theorem isRead_of_scopeRun {scope : TransientScope} {trace : Trace}
    {result : Except Failure TransientScope}
    (run : ScopeRun settings event provider scope trace result) :
    ∀ x ∈ trace, x.call.isRead = true := by
  cases run with
  | plain => simp
  | refused _ _ run => exact isRead_of_sourceRun run
  | resolved _ _ run => exact isRead_of_sourceRun run

/-- Which claim an attempt clones does not depend on the identifier drawn for it. -/
theorem requestedSource_opened {uuid : Uuid} :
    requestedSource (opened settings event provider uuid).annotations =
      requestedSource (allowed event provider) := by
  have hlookup : (opened settings event provider uuid).annotations[Key.cloneFrom]? =
      (allowed event provider)[Key.cloneFrom]? := by
    change ((workingSet settings.identity event provider uuid).insert Key.volumeTag
      (volumeTag uuid))[Key.cloneFrom]? = _
    rw [Annotations.getElem?_insert_ne (by decide), getElem?_workingSet (by decide)]
  rw [requestedSource, hlookup]

/-- The scope that is handed to the backend. -/
def requested (provider : Provider) (scope : TransientScope) : TransientScope :=
  scope.insertTransient Key.volumeRef (NameTemplate.render provider.nameFormat scope.annotations)

/-- The annotations of the volume object, from those that the backend left. -/
def finished (provider : Provider) (scope : TransientScope) (after : Annotations) : Annotations :=
  (({ requested provider scope with annotations := after } : TransientScope).insert
    Key.reclaimPolicy (effectivePolicy after provider.reclaimPolicy).name).close

def attempted (event : ClaimEvent) (provider : Provider) (scope : TransientScope)
    (after : Annotations) (descriptor : Descriptor) : Volume :=
  volumeFor event
    { descriptor with reclaimPolicy := some (effectivePolicy after provider.reclaimPolicy) }
    (finished provider scope after)

abbrev onAttempt (event : ClaimEvent) (provider : Provider) (scope : TransientScope)
    (after : Annotations) (descriptor? : Option Descriptor) : Exchange interface :=
  onCreate provider.backend (requested provider scope).annotations event.requestedBytes
    (after, descriptor?)

/-- One attempt to make a volume for a claim. -/
inductive ProvisionRun (settings : Settings) (event : ClaimEvent) (provider : Provider) :
    Trace → Except Failure ClaimOutcome → Prop where
  | refused (uuid : Uuid) {reads : Trace} {failure : Failure}
      (run : ScopeRun settings event provider (opened settings event provider uuid) reads
        (.error failure)) :
    ProvisionRun settings event provider (onUuid uuid :: reads) (.error failure)
  | declined (uuid : Uuid) {reads : Trace} {scope : TransientScope}
      (run : ScopeRun settings event provider (opened settings event provider uuid) reads
        (.ok scope))
      (after : Annotations) :
    ProvisionRun settings event provider
      (onUuid uuid :: reads ++
        [onAttempt event provider scope after none, onCount .provisioningFailures])
      (.error (.backendDeclined provider.storageClass event.claimNamespace event.claimName))
  | rejected (uuid : Uuid) {reads : Trace} {scope : TransientScope}
      (run : ScopeRun settings event provider (opened settings event provider uuid) reads
        (.ok scope))
      (after : Annotations) (descriptor : Descriptor) (failure : Failure) :
    ProvisionRun settings event provider
      (onUuid uuid :: reads ++
        [onAttempt event provider scope after (some descriptor),
          onCluster (.createVolume (attempted event provider scope after descriptor))
            (.error failure),
          onCount .provisioningFailures])
      (.error failure)
  | provisioned (uuid : Uuid) {reads : Trace} {scope : TransientScope}
      (run : ScopeRun settings event provider (opened settings event provider uuid) reads
        (.ok scope))
      (after : Annotations) (descriptor : Descriptor) (stored : Volume) :
    ProvisionRun settings event provider
      (onUuid uuid :: reads ++
        [onAttempt event provider scope after (some descriptor),
          onCluster (.createVolume (attempted event provider scope after descriptor)) (.ok stored),
          onCount .volumesProvisioned])
      (.ok (.provisioned descriptor.assignedName))

theorem runs_provision {trace : Trace} {outcome : Except Failure ClaimOutcome} :
    Program.Runs (provision settings event provider) trace outcome ↔
      ProvisionRun settings event provider trace outcome := by
  unfold provision
  constructor
  · intro run
    obtain ⟨uuid, rest, rfl, huuid⟩ := runs_callThen.mp run
    obtain ⟨reads, result, rest, rfl, hscope, hafter⟩ := Program.runs_bind.mp huuid
    have hscope := runs_withCloneSource.mp hscope
    rcases result with failure | scope
    · obtain ⟨rfl, rfl⟩ := Program.runs_pure.mp hafter
      rw [List.append_nil]
      exact .refused uuid hscope
    · obtain ⟨⟨after, descriptor?⟩, rest, rfl, hcreate⟩ := runs_callThen.mp hafter
      rcases descriptor? with _ | descriptor
      · obtain ⟨rest, rfl, hcount⟩ := runs_count.mp hcreate
        obtain ⟨rfl, rfl⟩ := Program.runs_pure.mp hcount
        exact .declined uuid hscope after
      · obtain ⟨answer, rest, rfl, hsubmit⟩ := runs_askCluster.mp hcreate
        rcases answer with failure | stored
        · obtain ⟨rest, rfl, hcount⟩ := runs_count.mp hsubmit
          obtain ⟨rfl, rfl⟩ := Program.runs_pure.mp hcount
          exact .rejected uuid hscope after descriptor failure
        · obtain ⟨rest, rfl, hcount⟩ := runs_count.mp hsubmit
          obtain ⟨rfl, rfl⟩ := Program.runs_pure.mp hcount
          exact .provisioned uuid hscope after descriptor stored
  · intro run
    cases run with
    | @refused uuid reads _ hscope =>
      refine runs_callThen.mpr ⟨uuid, _, rfl, ?_⟩
      rw [← List.append_nil reads]
      exact (runs_withCloneSource.mpr hscope).bind (.done _)
    | declined uuid hscope after =>
      refine runs_callThen.mpr ⟨uuid, _, rfl, (runs_withCloneSource.mpr hscope).bind ?_⟩
      refine runs_callThen.mpr ⟨(after, none), _, rfl, ?_⟩
      exact runs_count.mpr ⟨[], rfl, .done _⟩
    | rejected uuid hscope after descriptor failure =>
      refine runs_callThen.mpr ⟨uuid, _, rfl, (runs_withCloneSource.mpr hscope).bind ?_⟩
      refine runs_callThen.mpr ⟨(after, some descriptor), _, rfl, ?_⟩
      refine runs_askCluster.mpr ⟨.error failure, _, rfl, ?_⟩
      exact runs_count.mpr ⟨[], rfl, .done _⟩
    | provisioned uuid hscope after descriptor stored =>
      refine runs_callThen.mpr ⟨uuid, _, rfl, (runs_withCloneSource.mpr hscope).bind ?_⟩
      refine runs_callThen.mpr ⟨(after, some descriptor), _, rfl, ?_⟩
      refine runs_askCluster.mpr ⟨.ok stored, _, rfl, ?_⟩
      exact runs_count.mpr ⟨[], rfl, .done _⟩

/-! ## The whole path -/

/-- A new, pending claim that names this controller or no controller. -/
structure Addressed (settings : Settings) (event : ClaimEvent) : Prop where
  added : event.change = .added
  pending : event.phase = .pending
  ours : ∀ name, event.annotations.provisioner? = some name → name = settings.identity

theorem Addressed.of_unnamed (added : event.change = .added) (pending : event.phase = .pending)
    (unnamed : event.annotations.provisioner? = none) : Addressed settings event := by
  refine ⟨added, pending, fun name hname => ?_⟩
  rw [unnamed] at hname
  cases hname

def classOf (event : ClaimEvent) : Option String :=
  requestedClass
    (Annotations.ofClaim event.claimNamespace event.claimName event.annotations).stripInternal
    event.storageClassName

def serverOf (settings : Settings) (event : ClaimEvent) : Option Provider :=
  settings.registry.resolve (classOf event)

/-- Handling a change to a claim. -/
inductive ClaimRun (settings : Settings) (event : ClaimEvent) :
    Trace → Except Failure ClaimOutcome → Prop where
  | stale (h : event.change ≠ .added ∨ event.phase ≠ .pending) :
    ClaimRun settings event [] (.ok .skipped)
  | foreign (added : event.change = .added) (pending : event.phase = .pending) (name : String)
      (h : event.annotations.provisioner? = some name) (hname : name ≠ settings.identity) :
    ClaimRun settings event [] (.ok (.foreignProvisioner name))
  | unclaimed (addressed : Addressed settings event)
      (h : event.annotations.provisioner? = none) (unserved : serverOf settings event = none) :
    ClaimRun settings event [onCount .claimsProcessed] (.ok .skipped)
  | unserved (addressed : Addressed settings event) (name : String)
      (h : event.annotations.provisioner? = some name)
      (unserved : serverOf settings event = none) :
    ClaimRun settings event [onCount .claimsProcessed]
      (.error (.noStorageClass ((classOf event).getD "")))
  | served (addressed : Addressed settings event) (provider : Provider)
      (served : serverOf settings event = some provider) {trace : Trace}
      {outcome : Except Failure ClaimOutcome}
      (run : ProvisionRun settings event provider trace outcome) :
    ClaimRun settings event (onCount .claimsProcessed :: trace) outcome

theorem new_of_not_stale (h : ¬(event.change ≠ .added ∨ event.phase ≠ .pending)) :
    event.change = .added ∧ event.phase = .pending :=
  ⟨Decidable.of_not_not fun hc => h (.inl hc), Decidable.of_not_not fun hp => h (.inr hp)⟩

/-- A claim that names a provisioner other than this controller, by the test of the claim path. -/
theorem foreign_iff {name : String} :
    event.annotations.provisioner?.filter (· ≠ settings.identity) = some name ↔
      event.annotations.provisioner? = some name ∧ name ≠ settings.identity := by
  simp [Option.filter_eq_some_iff]

theorem addressed_iff :
    Addressed settings event ↔
      ¬(event.change ≠ .added ∨ event.phase ≠ .pending) ∧
        event.annotations.provisioner?.filter (· ≠ settings.identity) = none := by
  constructor
  · intro h
    refine ⟨by simp [h.added, h.pending], Option.eq_none_iff_forall_ne_some.mpr ?_⟩
    intro name hname
    obtain ⟨hnamed, hne⟩ := foreign_iff.mp hname
    exact hne (h.ours name hnamed)
  · rintro ⟨hnew, hnone⟩
    obtain ⟨added, pending⟩ := new_of_not_stale hnew
    refine ⟨added, pending, fun name hname => Decidable.byContradiction fun hne => ?_⟩
    rw [foreign_iff.mpr ⟨hname, hne⟩] at hnone
    cases hnone

theorem runs_handleClaim {trace : Trace} {outcome : Except Failure ClaimOutcome} :
    Program.Runs (handleClaim settings event) trace outcome ↔
      ClaimRun settings event trace outcome := by
  unfold handleClaim
  constructor
  · intro run
    by_cases hstale : event.change ≠ .added ∨ event.phase ≠ .pending
    · simp only [hstale, if_true] at run
      obtain ⟨rfl, rfl⟩ := Program.runs_done.mp run
      exact .stale hstale
    · simp only [hstale, if_false] at run
      obtain ⟨added, pending⟩ := new_of_not_stale hstale
      cases hforeign : event.annotations.provisioner?.filter (· ≠ settings.identity) with
      | some name =>
        simp only [hforeign] at run
        obtain ⟨rfl, rfl⟩ := Program.runs_done.mp run
        obtain ⟨hname, hne⟩ := foreign_iff.mp hforeign
        exact .foreign added pending name hname hne
      | none =>
        have addressed := addressed_iff.mpr ⟨hstale, hforeign⟩
        simp only [hforeign] at run
        obtain ⟨rest, rfl, hcount⟩ := runs_count.mp run
        cases hserver : serverOf settings event with
        | some provider =>
          have hbody := hserver
          simp only [serverOf, classOf] at hbody
          simp only [hbody] at hcount
          exact .served addressed provider hserver (runs_provision.mp hcount)
        | none =>
          have hbody := hserver
          simp only [serverOf, classOf] at hbody
          simp only [hbody] at hcount
          cases hname : event.annotations.provisioner? with
          | none =>
            simp only [hname, Option.isNone_none, if_true] at hcount
            obtain ⟨rfl, rfl⟩ := Program.runs_pure.mp hcount
            exact .unclaimed addressed hname hserver
          | some name =>
            simp only [hname, Option.isNone_some, Bool.false_eq_true, if_false] at hcount
            obtain ⟨rfl, rfl⟩ := Program.runs_pure.mp hcount
            exact .unserved addressed name hname hserver
  · intro run
    cases run with
    | stale h =>
      simp only [h, if_true]
      exact .done _
    | foreign added pending name h hname =>
      simp only [added, pending, ne_eq, not_true_eq_false, or_self, if_false,
        foreign_iff.mpr ⟨h, hname⟩]
      exact .done _
    | unclaimed addressed h unserved =>
      obtain ⟨hnew, hours⟩ := addressed_iff.mp addressed
      simp only [serverOf, classOf] at unserved
      simp only [hnew, if_false, hours]
      refine runs_count.mpr ⟨[], rfl, ?_⟩
      simp only [unserved, h, Option.isNone_none, if_true]
      exact .done _
    | unserved addressed name h unserved =>
      obtain ⟨hnew, hours⟩ := addressed_iff.mp addressed
      simp only [serverOf, classOf] at unserved
      simp only [hnew, if_false, hours]
      refine runs_count.mpr ⟨[], rfl, ?_⟩
      simp only [unserved, h, Option.isNone_some, Bool.false_eq_true, if_false]
      exact .done _
    | served addressed provider served hrun =>
      obtain ⟨hnew, hours⟩ := addressed_iff.mp addressed
      simp only [serverOf, classOf] at served
      simp only [hnew, if_false, hours]
      refine runs_count.mpr ⟨_, rfl, ?_⟩
      simp only [served]
      exact runs_provision.mpr hrun

/-! ## What is read of a claim's annotations -/

/-- A claim's annotations decide the provisioner that it names, its class and what it supplies to
the working set of an attempt. Beyond that nothing is read of them. -/
theorem handleClaim_of_agree {annotations : Annotations}
    (named : annotations.provisioner? = event.annotations.provisioner?)
    (classed : classOf { event with annotations } = classOf event)
    (supplied : ∀ provider, serverOf settings event = some provider →
      allowed { event with annotations } provider = allowed event provider) :
    handleClaim settings { event with annotations } = handleClaim settings event := by
  have attempts (provider : Provider) (served : serverOf settings event = some provider) :
      provision settings { event with annotations } provider =
        provision settings event provider := by
    have working (uuid : Uuid) :
        workingSet settings.identity { event with annotations } provider uuid =
          workingSet settings.identity event provider uuid := by
      simp only [workingSet_eq, supplied provider served]
    simp only [provision, working]
    rfl
  unfold classOf at classed
  simp only [handleClaim, named, classed]
  cases hserver : serverOf settings event with
  | none =>
    simp only [serverOf, classOf] at hserver
    simp only [hserver]
  | some provider =>
    have same := attempts provider hserver
    simp only [serverOf, classOf] at hserver
    simp only [hserver, same]

end DatasetProvisioner.Reconciler
