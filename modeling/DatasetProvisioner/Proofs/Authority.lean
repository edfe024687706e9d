import DatasetProvisioner.Proofs.ClaimRuns
import DatasetProvisioner.Proofs.Sample
import DatasetProvisioner.Proofs.VolumeRuns

/-!
# Who may destroy data

Two calls destroy data: a backend's removal and the deletion of a volume object. Over any sequence
of changes to claims and volumes, with any answers, each of them is made for a volume that carries
this controller's identity and was deleted, or was let go of under a policy that destroys.
-/
namespace DatasetProvisioner.Reconciler

open Storage

/-- A change that the reconciler is told of. -/
inductive Notice where
  | claim (event : ClaimEvent)
  | volume (event : VolumeEvent)

def handle (settings : Settings) : Notice → Program interface (Except Failure Unit)
  | .claim event => do return (← handleClaim settings event).map fun _ => ()
  | .volume event => do return (← handleVolume settings event).map fun _ => ()

def Call.destroys : Call → Bool
  | .remove _ _ => true
  | .cluster (.deleteVolume _) => true
  | _ => false

/-- The calls of a trace that destroy data. -/
def destructive (trace : Trace) : Trace :=
  trace.filter (·.call.destroys)

theorem destructive_cons {x : Exchange interface} (h : x.call.destroys = false) (trace : Trace) :
    destructive (x :: trace) = destructive trace :=
  List.filter_cons_of_neg (by simp [h])

theorem destructive_append (first rest : Trace) :
    destructive (first ++ rest) = destructive first ++ destructive rest :=
  List.filter_append first rest

/-! ## The policy in force -/

/-- A text names a policy: blanks around it and the case of its letters do not matter. -/
def Names (text : String) (policy : ReclaimPolicy) : Prop :=
  Text.sameIgnoringCase (Text.trim text) policy.name = true

theorem names_iff {text : String} {policy : ReclaimPolicy} :
    Names text policy ↔ Text.asciiLower (Text.trim text) = Text.asciiLower policy.name := by
  rw [Names, Text.sameIgnoringCase, Text.asciiLower, Text.asciiLower, beq_iff_eq,
    String.ofList_inj]

/-- Reading a policy recognises exactly the texts that name it. -/
theorem ofString?_eq_some_iff {text : String} {policy : ReclaimPolicy} :
    ReclaimPolicy.ofString? text = some policy ↔ Names text policy := by
  rw [names_iff, ReclaimPolicy.ofString?]
  have hdelete : Text.asciiLower ReclaimPolicy.delete.name = "delete" := by decide +kernel
  have hretain : Text.asciiLower ReclaimPolicy.retain.name = "retain" := by decide +kernel
  have hrecycle : Text.asciiLower ReclaimPolicy.recycle.name = "recycle" := by decide +kernel
  constructor
  · intro h
    split at h
    · next hlower => cases h; exact hlower.trans hdelete.symm
    · next hlower => cases h; exact hlower.trans hretain.symm
    · next hlower => cases h; exact hlower.trans hrecycle.symm
    · cases h
  · intro h
    cases policy with
    | delete => simp only [h, hdelete]
    | retain => simp only [h, hretain]
    | recycle => simp only [h, hrecycle]

/-- The policy in force: the one that the annotation names or, where it names none, the default of
the class. -/
def InForce (annotations : Annotations) (classDefault policy : ReclaimPolicy) : Prop :=
  (∃ text, annotations[Key.reclaimPolicy]? = some text ∧ Names text policy) ∨
    (∀ text, annotations[Key.reclaimPolicy]? = some text → ∀ other, ¬Names text other) ∧
      policy = classDefault

theorem inForce_iff {annotations : Annotations} {classDefault policy : ReclaimPolicy} :
    InForce annotations classDefault policy ↔
      effectivePolicy annotations classDefault = policy := by
  rw [InForce, effectivePolicy]
  simp only [← ofString?_eq_some_iff]
  cases htext : annotations[Key.reclaimPolicy]? with
  | none => simp [eq_comm]
  | some text => cases hpolicy : ReclaimPolicy.ofString? text <;> simp [hpolicy, eq_comm]

/-- The volume's policy asks for its destruction. -/
def MayDestroy (event : VolumeEvent) (provider : Provider) : Prop :=
  InForce event.annotations provider.reclaimPolicy .delete ∨
    InForce event.annotations provider.reclaimPolicy .recycle

theorem mayDestroy_iff {event : VolumeEvent} {provider : Provider} :
    MayDestroy event provider ↔ (policyOf event provider).destroysVolume = true := by
  rw [MayDestroy, inForce_iff, inForce_iff, ← policyOf]
  cases policyOf event provider <;> simp [ReclaimPolicy.destroysVolume]

/-! ## The calls that destroy -/

/-- A volume of ours is to be destroyed: it was deleted, or it was let go of under a policy that
destroys. -/
structure Due (settings : Settings) (event : VolumeEvent) (provider : Provider) : Prop where
  managed : event.isManagedBy settings.identity = true
  served : providerFor settings event = .ok provider
  cause : event.change = .deleted ∨
    event.change ≠ .deleted ∧ (event.phase = .released ∨ event.phase = .failed) ∧
      MayDestroy event provider

/-- What is destroyed for a change to a volume: nothing unless it is due; for a volume that was
deleted, what its backend made; for one that was let go of, its object and then, once that is gone,
what its backend made. -/
inductive Destroyed (settings : Settings) (event : VolumeEvent) : Trace → Prop where
  | nothing (idle : ∀ provider, ¬Due settings event provider) : Destroyed settings event []
  | deleted (provider : Provider) (due : Due settings event provider)
      (deleted : event.change = .deleted) (answer : Except Failure Unit) :
    Destroyed settings event [onRemove provider.backend event.annotations answer]
  | refused (provider : Provider) (due : Due settings event provider)
      (kept : event.change ≠ .deleted) (failure : Failure) :
    Destroyed settings event [onCluster (.deleteVolume event.volumeName) (.error failure)]
  | reclaimed (provider : Provider) (due : Due settings event provider)
      (kept : event.change ≠ .deleted) (answer : Except Failure Unit) :
    Destroyed settings event
      [onCluster (.deleteVolume event.volumeName) (.ok ()),
        onRemove provider.backend event.annotations answer]

/-- What the calls made for one change respect: no claim destroys anything, and a volume of
another owner causes no call whatsoever. -/
def Authorised (settings : Settings) : Notice → Trace → Prop
  | .claim _, part => destructive part = []
  | .volume event, part =>
    (event.isManagedBy settings.identity = false → part = []) ∧
      Destroyed settings event (destructive part)

theorem due_of_releasing {settings : Settings} {event : VolumeEvent} {provider : Provider}
    (releasing : Releasing settings event provider)
    (destroys : (policyOf event provider).destroysVolume = true) : Due settings event provider :=
  ⟨releasing.managed, releasing.served,
    .inr ⟨releasing.kept, releasing.released, mayDestroy_iff.mpr destroys⟩⟩

/-- Under a policy that retains, a volume that is still there is not to be destroyed. -/
theorem not_due_of_retains {settings : Settings} {event : VolumeEvent} {provider : Provider}
    (releasing : Releasing settings event provider)
    (retains : (policyOf event provider).destroysVolume = false) (other : Provider) :
    ¬Due settings event other := by
  rintro ⟨-, served, deleted | ⟨-, -, destroys⟩⟩
  · exact releasing.kept deleted
  -- The class of a volume leads to one provider, so the policy in force is the one that retains.
  · obtain rfl := Except.ok.inj (releasing.served.symm.trans served)
    rw [mayDestroy_iff, retains] at destroys
    cases destroys

theorem destructive_markRun {event : VolumeEvent} {trace : Trace}
    {outcome : Except Failure VolumeOutcome} (run : MarkRun event trace outcome) :
    destructive trace = [] := by
  cases run <;> rfl

theorem destroyed_of_volumeRun {settings : Settings} {event : VolumeEvent} {trace : Trace}
    {outcome : Except Failure VolumeOutcome} (run : VolumeRun settings event trace outcome) :
    Destroyed settings event (destructive trace) := by
  cases run with
  | foreign unmanaged =>
    refine .nothing fun provider due => ?_
    rw [due.managed] at unmanaged
    cases unmanaged
  | observed kept calm =>
    refine .nothing fun provider due => ?_
    rcases due.cause with deleted | ⟨-, released, -⟩
    · exact kept deleted
    · exact calm released
  | unserved failure unserved =>
    refine .nothing fun provider due => ?_
    rw [due.served] at unserved
    cases unserved
  | removed provider managed deleted served answer =>
    exact .deleted provider ⟨managed, served, .inl deleted⟩ deleted answer
  | undeleted provider releasing destroys failure =>
    exact .refused provider (due_of_releasing releasing destroys) releasing.kept failure
  | destroyed provider releasing destroys answer =>
    exact .reclaimed provider (due_of_releasing releasing destroys) releasing.kept answer
  | marked provider releasing retains =>
    exact .nothing (not_due_of_retains releasing retains)
  | retained provider releasing retains _ run =>
    rw [destructive_markRun run]
    exact .nothing (not_due_of_retains releasing retains)

theorem eq_nil_of_unmanaged {settings : Settings} {event : VolumeEvent} {trace : Trace}
    {outcome : Except Failure VolumeOutcome} (run : VolumeRun settings event trace outcome)
    (unmanaged : event.isManagedBy settings.identity = false) : trace = [] := by
  have contradictory (managed : event.isManagedBy settings.identity = true) : False := by
    rw [unmanaged] at managed
    cases managed
  cases run with
  | foreign => rfl
  | observed => rfl
  | unserved => rfl
  | marked => rfl
  | removed _ managed => exact (contradictory managed).elim
  | undeleted _ releasing => exact (contradictory releasing.managed).elim
  | destroyed _ releasing => exact (contradictory releasing.managed).elim
  | retained _ releasing => exact (contradictory releasing.managed).elim

theorem destroys_of_isRead {c : Call} (h : c.isRead = true) : c.destroys = false := by
  unfold Call.isRead at h
  split at h
  · rfl
  · rfl
  · cases h

theorem destructive_scopeRun {settings : Settings} {event : ClaimEvent} {provider : Provider}
    {scope : TransientScope} {trace : Trace} {result : Except Failure TransientScope}
    (run : ScopeRun settings event provider scope trace result) : destructive trace = [] := by
  refine List.filter_eq_nil_iff.mpr fun x hx => ?_
  rw [destroys_of_isRead (isRead_of_scopeRun run x hx)]
  exact Bool.false_ne_true

theorem destructive_provisionRun {settings : Settings} {event : ClaimEvent} {provider : Provider}
    {trace : Trace} {outcome : Except Failure ClaimOutcome}
    (run : ProvisionRun settings event provider trace outcome) : destructive trace = [] := by
  cases run with
  | refused uuid run =>
    rw [destructive_cons rfl]
    exact destructive_scopeRun run
  | declined uuid run =>
    rw [destructive_append, destructive_cons rfl, destructive_scopeRun run]
    rfl
  | rejected uuid run =>
    rw [destructive_append, destructive_cons rfl, destructive_scopeRun run]
    rfl
  | provisioned uuid run =>
    rw [destructive_append, destructive_cons rfl, destructive_scopeRun run]
    rfl

theorem destructive_claimRun {settings : Settings} {event : ClaimEvent} {trace : Trace}
    {outcome : Except Failure ClaimOutcome} (run : ClaimRun settings event trace outcome) :
    destructive trace = [] := by
  cases run with
  | stale => rfl
  | foreign => rfl
  | unclaimed => rfl
  | unserved => rfl
  | served _ provider _ run =>
    rw [destructive_cons rfl]
    exact destructive_provisionRun run

theorem authorised_of_handle {settings : Settings} {notice : Notice} {trace : Trace}
    {result : Except Failure Unit} (run : Program.Runs (handle settings notice) trace result) :
    Authorised settings notice trace := by
  cases notice with
  | claim event =>
    obtain ⟨part, outcome, _, rfl, hclaim, hafter⟩ := Program.runs_bind.mp run
    obtain ⟨rfl, rfl⟩ := Program.runs_pure.mp hafter
    rw [List.append_nil]
    exact destructive_claimRun (runs_handleClaim.mp hclaim)
  | volume event =>
    obtain ⟨part, outcome, _, rfl, hvolume, hafter⟩ := Program.runs_bind.mp run
    obtain ⟨rfl, rfl⟩ := Program.runs_pure.mp hafter
    rw [List.append_nil]
    have hrun := volumeRun_of_runs hvolume
    exact ⟨eq_nil_of_unmanaged hrun, destroyed_of_volumeRun hrun⟩

/-- Over any sequence of changes and with any answers, the calls made for each change are
authorised by that very change. -/
theorem destruction_is_authorised {settings : Settings} {notices : List Notice} {trace : Trace}
    {results : List (Except Failure Unit)}
    (run : Program.Runs (notices.mapM (handle settings)) trace results) :
    ∃ parts, trace = parts.flatten ∧
      Program.Segmented (handle settings) notices parts results ∧
      List.Forall₂ (Authorised settings) notices parts := by
  obtain ⟨parts, htrace, segmented⟩ := Program.runs_mapM.mp run
  exact ⟨parts, htrace, segmented,
    segmented.forall₂ (Authorised settings) fun _ _ _ hpart => authorised_of_handle hpart⟩

/-- A new claim, then a volume let go of, then that volume deleted. -/
def Sample.notices : List Notice :=
  [.claim Sample.claim, .volume (Sample.volume .released .modified),
    .volume (Sample.volume .released .deleted)]

/-- The first of these changes destroys nothing, the second deletes the object and removes the
dataset, the third removes the dataset. -/
theorem sample_destruction_is_authorised :
    ∃ trace results,
      Program.Runs (Sample.notices.mapM (handle Sample.settings)) trace results ∧
      (destructive trace).length = 3 ∧
      ∃ parts, trace = parts.flatten ∧
        Program.Segmented (handle Sample.settings) Sample.notices parts results ∧
        List.Forall₂ (Authorised Sample.settings) Sample.notices parts := by
  have run := Program.runs_from (Sample.answer {} (Simulation.Peers.numberedUuid 1))
    (Sample.notices.mapM (handle Sample.settings))
  exact ⟨_, _, run, by decide +kernel, destruction_is_authorised run⟩

end DatasetProvisioner.Reconciler
