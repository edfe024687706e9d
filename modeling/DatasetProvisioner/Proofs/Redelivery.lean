import DatasetProvisioner.Proofs.ClaimRuns
import DatasetProvisioner.Proofs.Sample

/-!
# Repeated deliveries of a claim

A watch that is opened anew tells of every claim once more. The claim path keeps nothing between
two deliveries: each of them makes one volume at most, and each of them may make one. How many
volumes a claim gets is therefore the number of its deliveries that were provisioned.
-/
namespace DatasetProvisioner.Reconciler

open Manifest Storage

def drawn (trace : Trace) : List Uuid :=
  trace.filterMap fun
    | ⟨.newUuid, uuid⟩ => some uuid
    | _ => none

/-- The volumes that the cluster created in a trace, as they were submitted. -/
def created (trace : Trace) : List Volume :=
  trace.filterMap fun
    | ⟨.cluster (.createVolume volume), .ok _⟩ => some volume
    | _ => none

/-- The identifier of the claim that a volume is bound to, empty where it has none. -/
def claimUid (volume : Volume) : String :=
  ((volume.spec.bind (·.claimRef)).bind (·.uid)).getD ""

def createdFor (uid : String) (trace : Trace) : List Volume :=
  (created trace).filter (claimUid · = uid)

def provisions : Except Failure ClaimOutcome → Bool
  | .ok (.provisioned _) => true
  | _ => false

/-- How many deliveries of a claim made a volume. -/
def provisionedFor (uid : String) (events : List ClaimEvent)
    (outcomes : List (Except Failure ClaimOutcome)) : Nat :=
  (events.zip outcomes).countP fun delivery =>
    decide (delivery.1.uid = uid) && provisions delivery.2

/-- How often a claim is delivered as new and pending. -/
def offeredFor (uid : String) (events : List ClaimEvent) : Nat :=
  events.countP fun event =>
    decide (event.uid = uid) && decide (event.change = .added) && decide (event.phase = .pending)

theorem created_append (first rest : Trace) :
    created (first ++ rest) = created first ++ created rest :=
  List.filterMap_append

theorem created_onUuid (uuid : Uuid) (rest : Trace) :
    created (onUuid uuid :: rest) = created rest :=
  rfl

theorem createdFor_append (uid : String) (first rest : Trace) :
    createdFor uid (first ++ rest) = createdFor uid first ++ createdFor uid rest := by
  rw [createdFor, created_append, List.filter_append]
  rfl

theorem drawn_append (first rest : Trace) : drawn (first ++ rest) = drawn first ++ drawn rest :=
  List.filterMap_append

theorem claimUid_attempted {event : ClaimEvent} {provider : Provider} {scope : TransientScope}
    {after : Annotations} {descriptor : Descriptor} :
    claimUid (attempted event provider scope after descriptor) = event.uid := by
  unfold claimUid attempted volumeFor
  by_cases h : event.uid = "" <;> simp [h]

variable {settings : Settings} {event : ClaimEvent} {provider : Provider}

theorem created_scopeRun {scope : TransientScope} {trace : Trace}
    {result : Except Failure TransientScope}
    (run : ScopeRun settings event provider scope trace result) : created trace = [] := by
  refine List.filterMap_eq_nil_iff.mpr fun x hx => ?_
  have hread := isRead_of_scopeRun run x hx
  split
  · cases hread
  · rfl

theorem drawn_scopeRun {scope : TransientScope} {trace : Trace}
    {result : Except Failure TransientScope}
    (run : ScopeRun settings event provider scope trace result) : drawn trace = [] := by
  refine List.filterMap_eq_nil_iff.mpr fun x hx => ?_
  have hread := isRead_of_scopeRun run x hx
  split
  · cases hread
  · rfl

/-- What one delivery makes: a volume bound to the claim if the delivery is provisioned, and
otherwise nothing. -/
inductive Delivered (event : ClaimEvent) (outcome : Except Failure ClaimOutcome) (part : Trace) :
    Prop where
  | nothing (failed : provisions outcome = false) (empty : created part = [])
  | volume (made : provisions outcome = true) (added : event.change = .added)
      (pending : event.phase = .pending) (volume : Volume) (one : created part = [volume])
      (bound : claimUid volume = event.uid)

theorem created_provisionRun {part : Trace} {outcome : Except Failure ClaimOutcome}
    (run : ProvisionRun settings event provider part outcome) :
    provisions outcome = false ∧ created part = [] ∨
      provisions outcome = true ∧ ∃ volume, created part = [volume] ∧
        claimUid volume = event.uid := by
  cases run with
  | refused uuid run =>
    exact .inl ⟨rfl, (created_onUuid uuid _).trans (created_scopeRun run)⟩
  | declined uuid run =>
    refine .inl ⟨rfl, ?_⟩
    rw [created_append, created_onUuid, created_scopeRun run]
    rfl
  | rejected uuid run =>
    refine .inl ⟨rfl, ?_⟩
    rw [created_append, created_onUuid, created_scopeRun run]
    rfl
  | @provisioned uuid reads scope run after descriptor stored =>
    refine .inr ⟨rfl, attempted event provider scope after descriptor, ?_, claimUid_attempted⟩
    rw [created_append, created_onUuid, created_scopeRun run]
    rfl

theorem delivered_of_handleClaim {part : Trace} {outcome : Except Failure ClaimOutcome}
    (run : Program.Runs (handleClaim settings event) part outcome) :
    Delivered event outcome part := by
  cases runs_handleClaim.mp run with
  | stale => exact .nothing rfl rfl
  | foreign => exact .nothing rfl rfl
  | unclaimed => exact .nothing rfl rfl
  | unserved => exact .nothing rfl rfl
  | served addressed provider _ run =>
    rcases created_provisionRun run with ⟨failed, empty⟩ | ⟨made, volume, one, bound⟩
    · exact .nothing failed empty
    · exact .volume made addressed.added addressed.pending volume one bound

/-- The volumes created for a claim are its provisioned deliveries, one for one. -/
theorem length_createdFor {events : List ClaimEvent} {parts : List Trace}
    {outcomes : List (Except Failure ClaimOutcome)}
    (segmented : Program.Segmented (handleClaim settings) events parts outcomes) (uid : String) :
    (createdFor uid parts.flatten).length = provisionedFor uid events outcomes := by
  induction segmented with
  | nil => rfl
  | @cons event events part parts outcome outcomes head tail ih =>
    rw [List.flatten_cons, createdFor_append, List.length_append, ih, provisionedFor,
      provisionedFor, List.zip_cons_cons, List.countP_cons, Nat.add_comm, createdFor]
    congr 1
    -- One delivery adds the same to both counts, and nothing where it is of another claim.
    cases delivered_of_handleClaim head with
    | nothing failed empty => simp [failed, empty]
    | volume made _ _ volume one bound =>
      by_cases huid : event.uid = uid <;> simp [made, one, bound, huid]

theorem provisionedFor_le_offeredFor {events : List ClaimEvent} {parts : List Trace}
    {outcomes : List (Except Failure ClaimOutcome)}
    (segmented : Program.Segmented (handleClaim settings) events parts outcomes) (uid : String) :
    provisionedFor uid events outcomes ≤ offeredFor uid events := by
  induction segmented with
  | nil => exact Nat.le_refl 0
  | @cons event events part parts outcome outcomes head tail ih =>
    rw [provisionedFor, List.zip_cons_cons, List.countP_cons, offeredFor, List.countP_cons]
    refine Nat.add_le_add ih ?_
    cases delivered_of_handleClaim head with
    | nothing failed => simp [failed]
    | volume made added pending => simp [made, added, pending]

/-! ## Every delivery may make a volume -/

/-- A clone source that was found for one identifier is found for any other. -/
theorem scopeRun_redrawn {uuid : Uuid} {reads : Trace} {scope : TransientScope}
    (run : ScopeRun settings event provider (opened settings event provider uuid) reads (.ok scope))
    (other : Uuid) :
    ∃ scope', ScopeRun settings event provider (opened settings event provider other) reads
      (.ok scope') := by
  cases run with
  | plain h =>
    rw [requestedSource_opened] at h
    exact ⟨_, .plain (requestedSource_opened.trans h)⟩
  | resolved source h run =>
    rw [requestedSource_opened] at h
    exact ⟨_, .resolved source (requestedSource_opened.trans h) run⟩

/-- An event that was provisioned once is provisioned with any other identifier. -/
theorem runs_redrawn {part : Trace} {volumeName : String}
    (run : Program.Runs (handleClaim settings event) part (.ok (.provisioned volumeName)))
    (uuid : Uuid) :
    ∃ again name, Program.Runs (handleClaim settings event) again (.ok (.provisioned name)) ∧
      drawn again = [uuid] := by
  cases runs_handleClaim.mp run with
  | served addressed provider served hrun =>
    cases hrun with
    | provisioned _ hfirst after descriptor stored =>
      obtain ⟨scope, hscope⟩ := scopeRun_redrawn hfirst uuid
      refine ⟨_, _, runs_handleClaim.mpr (.served addressed provider served
        (.provisioned uuid hscope after descriptor stored)), ?_⟩
      change drawn ([onCount .claimsProcessed, onUuid uuid] ++ _ ++ _) = _
      rw [drawn_append, drawn_append, drawn_scopeRun hscope]
      rfl

theorem runs_redelivered {part : Trace} {volumeName : String}
    (run : Program.Runs (handleClaim settings event) part (.ok (.provisioned volumeName)))
    (uuids : List Uuid) :
    ∃ parts outcomes,
      Program.Segmented (handleClaim settings) (List.replicate uuids.length event) parts outcomes ∧
      drawn parts.flatten = uuids ∧
      provisionedFor event.uid (List.replicate uuids.length event) outcomes = uuids.length := by
  induction uuids with
  | nil => exact ⟨[], [], .nil, rfl, rfl⟩
  | cons uuid uuids ih =>
    obtain ⟨parts, outcomes, segmented, hdrawn, hcount⟩ := ih
    obtain ⟨again, name, hagain, hone⟩ := runs_redrawn run uuid
    refine ⟨again :: parts, .ok (.provisioned name) :: outcomes, .cons hagain segmented, ?_, ?_⟩
    · rw [List.flatten_cons, drawn_append, hone, hdrawn]
      rfl
    · rw [provisionedFor] at hcount ⊢
      rw [List.length_cons, List.replicate_succ, List.zip_cons_cons, List.countP_cons, hcount]
      simp [provisions]

/-- Two deliveries of one claim, with two identifiers: two volumes. -/
theorem one_volume_per_claim_fails :
    ¬∀ (settings : Settings) (events : List ClaimEvent) (trace : Trace)
      (outcomes : List (Except Failure ClaimOutcome)) (uid : String),
      Program.Runs (events.mapM (handleClaim settings)) trace outcomes → (drawn trace).Nodup →
        (createdFor uid trace).length ≤ 1 := by
  intro unique
  have first := Program.runs_from (Sample.answer {} (Simulation.Peers.numberedUuid 1))
    (handleClaim Sample.settings Sample.claim)
  have second := Program.runs_from (Sample.answer {} (Simulation.Peers.numberedUuid 2))
    (handleClaim Sample.settings Sample.claim)
  have run := Program.runs_mapM.mpr ⟨_, rfl, .cons first (.cons second .nil)⟩
  have two := unique _ _ _ _ "c0ffee" run (by decide +kernel)
  revert two
  decide +kernel

/-- The volumes created for a claim are as many as its deliveries that were provisioned, at most
as many as its deliveries that were new and pending. No smaller bound holds: an event that can be
provisioned is provisioned at each of any number of deliveries. -/
theorem volumes_of_deliveries (settings : Settings) :
    (∀ (events : List ClaimEvent) (trace : Trace) (outcomes : List (Except Failure ClaimOutcome)),
      Program.Runs (events.mapM (handleClaim settings)) trace outcomes → ∀ uid,
        (createdFor uid trace).length = provisionedFor uid events outcomes ∧
          provisionedFor uid events outcomes ≤ offeredFor uid events) ∧
    ∀ (event : ClaimEvent) (part : Trace) (volumeName : String),
      Program.Runs (handleClaim settings event) part (.ok (.provisioned volumeName)) →
      ∀ uuids : List Uuid, ∃ trace outcomes,
        Program.Runs ((List.replicate uuids.length event).mapM (handleClaim settings)) trace
          outcomes ∧
        drawn trace = uuids ∧ (createdFor event.uid trace).length = uuids.length := by
  constructor
  · intro events trace outcomes run uid
    obtain ⟨parts, rfl, segmented⟩ := Program.runs_mapM.mp run
    exact ⟨length_createdFor segmented uid, provisionedFor_le_offeredFor segmented uid⟩
  · intro event part volumeName run uuids
    obtain ⟨parts, outcomes, segmented, hdrawn, hcount⟩ := runs_redelivered run uuids
    exact ⟨parts.flatten, outcomes, Program.runs_mapM.mpr ⟨parts, rfl, segmented⟩, hdrawn,
      (length_createdFor segmented event.uid).trans hcount⟩

/-- The claim of the small deployment is provisioned, and so it is at each of three deliveries. -/
theorem sample_volumes_of_deliveries :
    (∃ part volumeName, Program.Runs (handleClaim Sample.settings Sample.claim) part
      (.ok (.provisioned volumeName)) ∧
      (createdFor "c0ffee" part).length = offeredFor "c0ffee" [Sample.claim]) ∧
    ∃ trace outcomes,
      Program.Runs ((List.replicate 3 Sample.claim).mapM (handleClaim Sample.settings)) trace
        outcomes ∧
      drawn trace = [1, 2, 3].map Simulation.Peers.numberedUuid ∧
      (createdFor "c0ffee" trace).length = 3 := by
  have run := Program.runs_from (Sample.answer {} (Simulation.Peers.numberedUuid 1))
    (handleClaim Sample.settings Sample.claim)
  have made : (handleClaim Sample.settings Sample.claim).resultFrom
      (Sample.answer {} (Simulation.Peers.numberedUuid 1)) =
        .ok (.provisioned "pv-00000001") := by decide +kernel
  rw [made] at run
  have single : Program.Runs ([Sample.claim].mapM (handleClaim Sample.settings)) _ _ :=
    Program.runs_mapM.mpr ⟨_, rfl, .cons run .nil⟩
  obtain ⟨count, -⟩ := (volumes_of_deliveries Sample.settings).1 _ _ _ single "c0ffee"
  rw [List.flatten_cons, List.flatten_nil, List.append_nil] at count
  exact ⟨⟨_, _, run, count⟩, (volumes_of_deliveries Sample.settings).2 _ _ _ run
    ([1, 2, 3].map Simulation.Peers.numberedUuid)⟩

end DatasetProvisioner.Reconciler
