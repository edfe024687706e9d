import DatasetProvisioner.Proofs.ClaimRuns
import DatasetProvisioner.Proofs.Sample

/-!
# The counters of the claim path

What is counted for each claim, and how the counts add up over any number of deliveries. A claim
that the controller takes up is provisioned, fails, or is nobody's in particular and of no
configured class. A failure is counted where the backend was asked. Where it comes before that, as
for an unknown class or a source that cannot be cloned, it is counted nowhere, and the sum falls
short by it.
-/
namespace DatasetProvisioner.Reconciler

open Manifest Storage

/-! ## Counts of a trace -/

def Call.isCount (counter : Counter) : Call → Bool
  | .count other => other = counter
  | _ => false

def Call.isCreate : Call → Bool
  | .create _ _ _ => true
  | _ => false

/-- How often a counter goes up. -/
def increments (counter : Counter) (trace : Trace) : Nat :=
  trace.countP fun x => x.call.isCount counter

theorem increments_append (counter : Counter) (first second : Trace) :
    increments counter (first ++ second) =
      increments counter first + increments counter second :=
  List.countP_append

theorem increments_cons (counter : Counter) (x : Exchange interface) (rest : Trace) :
    increments counter (x :: rest) = increments counter [x] + increments counter rest :=
  increments_append counter [x] rest

theorem increments_onCount (counter other : Counter) :
    increments counter [onCount other] = if other = counter then 1 else 0 := by
  rw [increments, List.countP_singleton]
  simp [Call.isCount]

/-- Reading counts nothing and asks no backend. -/
theorem increments_of_reads {counter : Counter} {reads : Trace}
    (h : ∀ x ∈ reads, x.call.isRead = true) : increments counter reads = 0 := by
  refine List.countP_eq_zero.mpr fun x hx => ?_
  have hread := h x hx
  obtain ⟨call, answer⟩ := x
  cases call <;> simp_all [Call.isRead, Call.isCount]

theorem not_isCreate_of_reads {reads : Trace} (h : ∀ x ∈ reads, x.call.isRead = true) :
    reads.any (·.call.isCreate) = false := by
  refine List.any_eq_false.mpr fun x hx => ?_
  have hread := h x hx
  obtain ⟨call, answer⟩ := x
  cases call <;> simp_all [Call.isRead, Call.isCreate]

/-- What the counters read after a trace. -/
def tallied (tally : Tally) (trace : Trace) : Tally :=
  trace.foldl (fun tally x => match x.call with
    | .count counter => tally.add counter 1
    | _ => tally) tally

/-- A counter of 64 bits holds the remainder of its count. -/
theorem count_tallied (counter : Counter) (tally : Tally) (trace : Trace) :
    (tallied tally trace).count counter % Width.values 64 =
      (tally.count counter + increments counter trace) % Width.values 64 := by
  induction trace generalizing tally with
  | nil => rfl
  | cons x trace ih =>
    rw [tallied, List.foldl_cons, ← tallied, ih, increments_cons, ← Nat.add_assoc]
    obtain ⟨call, answer⟩ := x
    cases call with
    | count other =>
      have hone : increments counter [⟨.count other, answer⟩] = if other = counter then 1 else 0 :=
        increments_onCount counter other
      simp only [Tally.add, hone, eq_comm (a := counter)]
      by_cases hsame : other = counter
      · simp only [hsame, if_true]
        rw [Nat.mod_add_mod, Nat.add_assoc]
      · simp only [hsame, if_false, Nat.add_zero]
    | _ => rfl

/-! ## One delivery -/

/-- One claim event with the calls made for it and its outcome. -/
structure Delivery where
  event : ClaimEvent
  calls : Trace
  outcome : Except Failure ClaimOutcome

instance {settings : Settings} {event : ClaimEvent} : Decidable (Addressed settings event) :=
  decidable_of_iff _ addressed_iff.symm

namespace Delivery

def isProvisioned (d : Delivery) : Bool :=
  match d.outcome with
  | .ok (.provisioned _) => true
  | _ => false

def isFailed (d : Delivery) : Bool :=
  match d.outcome with
  | .error _ => true
  | .ok _ => false

def isSkipped (d : Delivery) : Bool :=
  match d.outcome with
  | .ok .skipped => true
  | _ => false

def asksBackend (d : Delivery) : Bool :=
  d.calls.any (·.call.isCreate)

/-- A claim that the controller takes up, but that is nobody's in particular and of no configured
class. -/
def isUnclaimed (settings : Settings) (d : Delivery) : Bool :=
  decide (Addressed settings d.event) && d.isSkipped

/-- A claim that fails before the backend is asked. -/
def isOverlooked (d : Delivery) : Bool :=
  d.isFailed && !d.asksBackend

end Delivery

/-- What is counted for one delivery: that it is taken up, that a volume was made, and that none
could be made where the backend was asked for one. -/
structure Accounted (settings : Settings) (d : Delivery) : Prop where
  processed :
    increments .claimsProcessed d.calls = (decide (Addressed settings d.event)).toNat
  provisioned : increments .volumesProvisioned d.calls = d.isProvisioned.toNat
  failed : increments .provisioningFailures d.calls = (d.isFailed && d.asksBackend).toNat
  /-- Whatever is not taken up is passed over. -/
  passed : ¬Addressed settings d.event → d.isProvisioned = false ∧ d.isFailed = false
  /-- Whatever is taken up and does not fail is provisioned or nobody's. -/
  settled : Addressed settings d.event →
    (d.isProvisioned.toNat + d.isFailed.toNat + d.isSkipped.toNat = 1)

/-- The two ways to fail that are not counted: no class of that name, and a source that could not
be read or cannot be cloned. -/
inductive Overlooked (settings : Settings) : Delivery → Prop where
  | unknownClass (event : ClaimEvent) (addressed : Addressed settings event) (name : String)
      (h : event.annotations.provisioner? = some name)
      (unserved : serverOf settings event = none) :
    Overlooked settings ⟨event, [onCount .claimsProcessed],
      .error (.noStorageClass ((classOf event).getD ""))⟩
  | sourceRefused (event : ClaimEvent) (addressed : Addressed settings event)
      (provider : Provider) (served : serverOf settings event = some provider) (source : String)
      (h : requestedSource (allowed event provider) = some source) (uuid : Uuid) {reads : Trace}
      {failure : Failure}
      (run : SourceRun settings.identity event.claimNamespace source provider reads
        (.error failure)) :
    Overlooked settings ⟨event, onCount .claimsProcessed :: onUuid uuid :: reads, .error failure⟩

/-- Up to the backend's answer an attempt counts nothing. -/
theorem increments_attempt {counter : Counter} {uuid : Uuid} {reads : Trace}
    (h : ∀ x ∈ reads, x.call.isRead = true) (rest : Trace) :
    increments counter (onUuid uuid :: reads ++ rest) = increments counter rest := by
  have huuid : increments counter [onUuid uuid] = 0 := rfl
  rw [List.cons_append, increments_cons, increments_append, huuid, increments_of_reads h,
    Nat.zero_add, Nat.zero_add]

/-- What an attempt counts. -/
structure AttemptAccounted (d : Delivery) : Prop where
  processed : increments .claimsProcessed d.calls = 0
  provisioned : increments .volumesProvisioned d.calls = d.isProvisioned.toNat
  failed : increments .provisioningFailures d.calls = (d.isFailed && d.asksBackend).toNat
  settled : d.isProvisioned.toNat + d.isFailed.toNat + d.isSkipped.toNat = 1

theorem attemptAccounted {settings : Settings} {event : ClaimEvent} {provider : Provider}
    {trace : Trace} {outcome : Except Failure ClaimOutcome}
    (run : ProvisionRun settings event provider trace outcome) :
    AttemptAccounted ⟨event, trace, outcome⟩ := by
  cases run with
  | @refused uuid reads failure run =>
    have hreads := isRead_of_scopeRun run
    have hnone (counter : Counter) : increments counter (onUuid uuid :: reads) = 0 := by
      rw [increments_cons, increments_of_reads hreads]
      rfl
    have hasks : (onUuid uuid :: reads).any (·.call.isCreate) = false := by
      rw [List.any_cons, not_isCreate_of_reads hreads]
      rfl
    refine ⟨hnone _, hnone _, ?_, rfl⟩
    rw [hnone, Delivery.asksBackend, hasks, Bool.and_false]
    rfl
  | declined uuid run after =>
    have hreads := isRead_of_scopeRun run
    refine ⟨increments_attempt hreads _, increments_attempt hreads _, ?_, rfl⟩
    rw [increments_attempt hreads]
    simp [Delivery.asksBackend, Delivery.isFailed, Call.isCreate, increments, Call.isCount]
  | rejected uuid run after descriptor failure =>
    have hreads := isRead_of_scopeRun run
    refine ⟨increments_attempt hreads _, increments_attempt hreads _, ?_, rfl⟩
    rw [increments_attempt hreads]
    simp [Delivery.asksBackend, Delivery.isFailed, Call.isCreate, increments, Call.isCount]
  | provisioned uuid run after descriptor stored =>
    have hreads := isRead_of_scopeRun run
    exact ⟨increments_attempt hreads _, increments_attempt hreads _, increments_attempt hreads _,
      rfl⟩

theorem accounted {settings : Settings} {event : ClaimEvent} {trace : Trace}
    {outcome : Except Failure ClaimOutcome} (run : ClaimRun settings event trace outcome) :
    Accounted settings ⟨event, trace, outcome⟩ := by
  cases run with
  | stale h =>
    have hnot : ¬Addressed settings event := fun addressed => (addressed_iff.mp addressed).1 h
    exact ⟨by simp [hnot, increments], rfl, rfl, fun _ => ⟨rfl, rfl⟩, fun h => absurd h hnot⟩
  | foreign added pending name h hname =>
    have hnot : ¬Addressed settings event := fun addressed => hname (addressed.ours name h)
    exact ⟨by simp [hnot, increments], rfl, rfl, fun _ => ⟨rfl, rfl⟩, fun h => absurd h hnot⟩
  | unclaimed addressed h unserved =>
    exact ⟨by simp [addressed, increments_onCount], rfl, rfl, fun h => absurd addressed h,
      fun _ => rfl⟩
  | unserved addressed name h unserved =>
    exact ⟨by simp [addressed, increments_onCount], rfl, rfl, fun h => absurd addressed h,
      fun _ => rfl⟩
  | @served addressed provider served trace _ run =>
    have attempt := attemptAccounted run
    have hlater (counter : Counter) (hne : counter ≠ .claimsProcessed) :
        increments counter (onCount .claimsProcessed :: trace) = increments counter trace := by
      rw [increments_cons, increments_onCount, if_neg hne.symm, Nat.zero_add]
    have hasks : (⟨event, onCount .claimsProcessed :: trace, outcome⟩ : Delivery).asksBackend =
        (⟨event, trace, outcome⟩ : Delivery).asksBackend := rfl
    refine ⟨?_, ?_, ?_, fun h => absurd addressed h, fun _ => attempt.settled⟩
    · rw [increments_cons, increments_onCount, if_pos rfl, attempt.processed]
      simp [addressed]
    · rw [hlater _ (by decide)]
      exact attempt.provisioned
    · rw [hlater _ (by decide), hasks]
      exact attempt.failed

theorem overlooked_iff {settings : Settings} {event : ClaimEvent} {trace : Trace}
    {outcome : Except Failure ClaimOutcome} (run : ClaimRun settings event trace outcome) :
    (⟨event, trace, outcome⟩ : Delivery).isOverlooked = true ↔
      Overlooked settings ⟨event, trace, outcome⟩ := by
  constructor
  · intro h
    cases run with
    | stale => cases h
    | foreign => cases h
    | unclaimed => cases h
    | unserved addressed name hname unserved => exact .unknownClass event addressed name hname unserved
    | served addressed provider served run =>
      cases run with
      | refused uuid run =>
        cases run with
        | refused source hsource run =>
          rw [requestedSource_opened] at hsource
          exact .sourceRefused event addressed provider served source hsource uuid run
      | declined uuid run after =>
        simp [Delivery.isOverlooked, Delivery.asksBackend, Delivery.isFailed, Call.isCreate] at h
      | rejected uuid run after descriptor failure =>
        simp [Delivery.isOverlooked, Delivery.asksBackend, Delivery.isFailed, Call.isCreate] at h
      | provisioned => cases h
  · intro h
    cases h with
    | unknownClass => rfl
    | sourceRefused _ _ _ _ _ _ _ found =>
      have hreads := not_isCreate_of_reads (isRead_of_sourceRun found)
      rw [Delivery.isOverlooked, Delivery.asksBackend, List.any_cons, List.any_cons, hreads]
      rfl

/-! ## Any number of deliveries -/

/-- How many claims are taken up that are nobody's in particular and of no configured class. -/
def unclaimed (settings : Settings) (deliveries : List Delivery) : Nat :=
  deliveries.countP (·.isUnclaimed settings)

/-- How many claims fail before the backend is asked. -/
def overlooked (deliveries : List Delivery) : Nat :=
  deliveries.countP (·.isOverlooked)

/-- The deliveries of a run: each of its events with its own calls and outcome. -/
structure Itemised (settings : Settings) (events : List ClaimEvent) (trace : Trace)
    (outcomes : List (Except Failure ClaimOutcome)) (deliveries : List Delivery) : Prop where
  events : deliveries.map (·.event) = events
  outcomes : deliveries.map (·.outcome) = outcomes
  calls : (deliveries.map (·.calls)).flatten = trace
  runs : ∀ d ∈ deliveries, Program.Runs (handleClaim settings d.event) d.calls d.outcome

theorem exists_itemised {settings : Settings} {events : List ClaimEvent} {trace : Trace}
    {outcomes : List (Except Failure ClaimOutcome)}
    (run : Program.Runs (events.mapM (handleClaim settings)) trace outcomes) :
    ∃ deliveries, Itemised settings events trace outcomes deliveries := by
  obtain ⟨parts, rfl, segmented⟩ := Program.runs_mapM.mp run
  clear run
  induction segmented with
  | nil => exact ⟨[], rfl, rfl, rfl, fun _ hd => absurd hd List.not_mem_nil⟩
  | @cons event events part parts outcome outcomes head _ ih =>
    obtain ⟨deliveries, hevents, houtcomes, hcalls, hruns⟩ := ih
    exact ⟨⟨event, part, outcome⟩ :: deliveries, by rw [List.map_cons, hevents],
      by rw [List.map_cons, houtcomes], by rw [List.map_cons, List.flatten_cons, hcalls,
        List.flatten_cons], List.forall_mem_cons.mpr ⟨head, hruns⟩⟩

/-- One delivery, weighed. -/
theorem Accounted.balance {settings : Settings} {d : Delivery} (h : Accounted settings d) :
    increments .claimsProcessed d.calls =
      increments .volumesProvisioned d.calls + increments .provisioningFailures d.calls +
        (d.isUnclaimed settings).toNat + d.isOverlooked.toNat := by
  have hfailed : d.isFailed.toNat =
      (d.isFailed && d.asksBackend).toNat + d.isOverlooked.toNat := by
    rw [Delivery.isOverlooked]
    cases d.isFailed <;> cases d.asksBackend <;> rfl
  rw [h.processed, h.provisioned, h.failed, Delivery.isUnclaimed]
  by_cases addressed : Addressed settings d.event
  · have hsettled := h.settled addressed
    simp only [addressed, decide_true, Bool.true_and, Bool.toNat_true]
    omega
  · obtain ⟨hprovisioned, hfail⟩ := h.passed addressed
    simp [addressed, hprovisioned, hfail, Delivery.isOverlooked]

theorem balance_of_deliveries {settings : Settings} {deliveries : List Delivery}
    (h : ∀ d ∈ deliveries, Accounted settings d) :
    increments .claimsProcessed (deliveries.map (·.calls)).flatten =
      increments .volumesProvisioned (deliveries.map (·.calls)).flatten +
        increments .provisioningFailures (deliveries.map (·.calls)).flatten +
        unclaimed settings deliveries + overlooked deliveries := by
  induction deliveries with
  | nil => rfl
  | cons d deliveries ih =>
    obtain ⟨hd, hrest⟩ := List.forall_mem_cons.mp h
    have hone := hd.balance
    have hmany := ih hrest
    have hunclaimed : unclaimed settings (d :: deliveries) =
        (d.isUnclaimed settings).toNat + unclaimed settings deliveries := by
      rw [unclaimed, List.countP_cons, ← unclaimed]
      cases d.isUnclaimed settings <;> simp [Nat.add_comm]
    have hoverlooked : overlooked (d :: deliveries) =
        d.isOverlooked.toNat + overlooked deliveries := by
      rw [overlooked, List.countP_cons, ← overlooked]
      cases d.isOverlooked <;> simp [Nat.add_comm]
    simp only [List.map_cons, List.flatten_cons, increments_append]
    omega

/-- What the counters of the claim path hold, over every sequence of claim events and whatever the
peers answer. A claim that is taken up is counted once; a volume that is made is counted once; a
failure is counted once if the backend was asked and never otherwise, which is where no class of
that name is configured or the source of a clone is refused. So the claims taken up are the
volumes made, the failures counted, the claims that are nobody's and those overlooked, and the
other three counts make up for them just where none is overlooked. -/
theorem counters_of_deliveries (settings : Settings) (events : List ClaimEvent) (trace : Trace)
    (outcomes : List (Except Failure ClaimOutcome))
    (run : Program.Runs (events.mapM (handleClaim settings)) trace outcomes) :
    (∃ deliveries, Itemised settings events trace outcomes deliveries ∧
      (∀ d ∈ deliveries, Accounted settings d ∧
        (d.isOverlooked = true ↔ Overlooked settings d)) ∧
      increments .claimsProcessed trace =
        increments .volumesProvisioned trace + increments .provisioningFailures trace +
          unclaimed settings deliveries + overlooked deliveries ∧
      (increments .claimsProcessed trace =
        increments .volumesProvisioned trace + increments .provisioningFailures trace +
          unclaimed settings deliveries ↔ ∀ d ∈ deliveries, ¬Overlooked settings d)) ∧
    ∀ (counter : Counter) (tally : Tally),
      (tallied tally trace).count counter % Width.values 64 =
        (tally.count counter + increments counter trace) % Width.values 64 := by
  refine ⟨?_, fun counter tally => count_tallied counter tally trace⟩
  obtain ⟨deliveries, itemised⟩ := exists_itemised run
  have haccounted : ∀ d ∈ deliveries, Accounted settings d :=
    fun d hd => accounted (runs_handleClaim.mp (itemised.runs d hd))
  have hoverlooked : ∀ d ∈ deliveries, (d.isOverlooked = true ↔ Overlooked settings d) :=
    fun d hd => overlooked_iff (runs_handleClaim.mp (itemised.runs d hd))
  have hbalance := balance_of_deliveries haccounted
  rw [itemised.calls] at hbalance
  have hnone : overlooked deliveries = 0 ↔ ∀ d ∈ deliveries, ¬Overlooked settings d := by
    rw [overlooked, List.countP_eq_zero]
    exact forall₂_congr fun d hd => not_congr (hoverlooked d hd)
  refine ⟨deliveries, itemised, fun d hd => ⟨haccounted d hd, hoverlooked d hd⟩, hbalance, ?_⟩
  rw [← hnone]
  omega

/-- A claim that names this controller and a class that is not configured. -/
def Sample.lostClaim : ClaimEvent :=
  { Sample.claim with
    annotations := (∅ : Annotations).insert Key.gaProvisioner Key.defaultIdentity
    storageClassName := some "nope" }

/-- The calls made for a claim that is provisioned, then for one that is lost. -/
def Sample.twoParts : List Trace :=
  [(handleClaim settings claim).exchangesFrom (answer {} (Simulation.Peers.numberedUuid 1)),
    (handleClaim settings lostClaim).exchangesFrom (answer {} (Simulation.Peers.numberedUuid 2))]

/-- One claim is provisioned and one lost: two are taken up, and one of them is nowhere else. -/
theorem sample_counters_of_deliveries :
    ∃ outcomes deliveries,
      Program.Runs ([Sample.claim, Sample.lostClaim].mapM (handleClaim Sample.settings))
        Sample.twoParts.flatten outcomes ∧
      Itemised Sample.settings [Sample.claim, Sample.lostClaim] Sample.twoParts.flatten outcomes
        deliveries ∧
      increments .claimsProcessed Sample.twoParts.flatten = 2 ∧
      increments .volumesProvisioned Sample.twoParts.flatten = 1 ∧
      increments .provisioningFailures Sample.twoParts.flatten = 0 ∧
      unclaimed Sample.settings deliveries + overlooked deliveries = 1 := by
  have first := Program.runs_from (Sample.answer {} (Simulation.Peers.numberedUuid 1))
    (handleClaim Sample.settings Sample.claim)
  have second := Program.runs_from (Sample.answer {} (Simulation.Peers.numberedUuid 2))
    (handleClaim Sample.settings Sample.lostClaim)
  have run : Program.Runs ([Sample.claim, Sample.lostClaim].mapM (handleClaim Sample.settings))
      Sample.twoParts.flatten _ :=
    Program.runs_mapM.mpr ⟨_, rfl, .cons first (.cons second .nil)⟩
  obtain ⟨deliveries, itemised, -, hbalance, -⟩ :=
    (counters_of_deliveries Sample.settings _ _ _ run).1
  obtain ⟨hprocessed, hprovisioned, hfailures⟩ :
      increments .claimsProcessed Sample.twoParts.flatten = 2 ∧
        increments .volumesProvisioned Sample.twoParts.flatten = 1 ∧
        increments .provisioningFailures Sample.twoParts.flatten = 0 := by
    decide +kernel
  refine ⟨_, deliveries, run, itemised, hprocessed, hprovisioned, hfailures, ?_⟩
  omega

/-- A claim of an unknown class is taken up and never counted again. -/
theorem counters_balance_fails :
    ¬∀ (settings : Settings) (events : List ClaimEvent) (trace : Trace)
      (outcomes : List (Except Failure ClaimOutcome)) (deliveries : List Delivery),
      Program.Runs (events.mapM (handleClaim settings)) trace outcomes →
      Itemised settings events trace outcomes deliveries →
        increments .claimsProcessed trace =
          increments .volumesProvisioned trace + increments .provisioningFailures trace +
            unclaimed settings deliveries := by
  intro balanced
  have lost := Program.runs_from (Sample.answer {} (Simulation.Peers.numberedUuid 1))
    (handleClaim Sample.settings Sample.lostClaim)
  have run := Program.runs_mapM.mpr ⟨_, rfl, .cons lost .nil⟩
  have itemised : Itemised Sample.settings [Sample.lostClaim] _ _ [⟨Sample.lostClaim, _, _⟩] :=
    ⟨rfl, rfl, rfl, List.forall_mem_singleton.mpr lost⟩
  have one := balanced _ _ _ _ _ run itemised
  revert one
  decide +kernel

end DatasetProvisioner.Reconciler
