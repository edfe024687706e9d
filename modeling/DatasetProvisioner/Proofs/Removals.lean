import DatasetProvisioner.Proofs.Effects
import DatasetProvisioner.Proofs.Sample

/-!
# Removals

A removal fails before its first call or not at all. It fails where the annotations do not identify
the volume; otherwise every call of a fixed row is made, whatever becomes of the ones before it, so
that a removal can be repeated until nothing is left of the volume.
-/
namespace DatasetProvisioner.Storage

open Dataset
open Reconciler (Sample.layout Sample.now Sample.shellProvider)

variable {annotations : Annotations} {uuid : Uuid}

/-- The annotations hold no identifier, or a text that is none. -/
def Unidentified (annotations : Annotations) : Prop :=
  ∀ raw, annotations[Key.volumeUuid]? = some raw → Uuid.ofString? raw = none

theorem unidentified_iff :
    Unidentified annotations ↔ ∃ failure, volumeUuid annotations = .error failure := by
  cases hread : volumeUuid annotations with
  | error failure =>
    refine ⟨fun _ => ⟨failure, rfl⟩, fun _ raw hraw => ?_⟩
    cases huuid : Uuid.ofString? raw with
    | none => rfl
    | some uuid =>
      rw [volumeUuid_eq_ok_iff.mpr ⟨raw, hraw, huuid⟩] at hread
      cases hread
  | ok uuid =>
    obtain ⟨raw, hraw, huuid⟩ := volumeUuid_eq_ok_iff.mp hread
    refine ⟨fun unidentified => ?_, fun ⟨failure, h⟩ => (nomatch h)⟩
    have hnone := unidentified raw hraw
    rw [huuid] at hnone
    cases hnone

/-! ## The calls of a removal -/

/-- The dataset of the volume, then the snapshot recorded for it. -/
def ShellBackend.removalPlan (backend : ShellBackend) (annotations : Annotations) (uuid : Uuid) :
    List Call :=
  (backend.layout.datasetPath uuid ::
    (removableSnapshot backend.layout annotations).toList).map fun target =>
      .exec backend.host (backend.destroyCommand target)

/-- The search for shares of the export, each share that it finds, the dataset of the volume, then
the snapshot recorded for it. -/
def RestBackend.removalPlan (backend : RestBackend) (annotations : Annotations) (uuid : Uuid)
    (found : List Int) : List Call :=
  .management (.findShares (backend.exportIn annotations uuid)) ::
    (found.map (fun id => Call.management (.deleteShare id)) ++
      .management (.deleteDataset (backend.layout.datasetPath uuid)) ::
        (removableSnapshot backend.layout annotations).toList.map fun snapshot =>
          .management (.deleteSnapshot snapshot))

/-- The calls of a removal in their order, given the shares that are found on the way. -/
def Backend.removalPlan (backend : Backend) (annotations : Annotations) (uuid : Uuid)
    (found : List Int) : List Call :=
  match backend with
  | .shell b => b.removalPlan annotations uuid
  | .rest b => b.removalPlan annotations uuid found

/-- Removing a volume: nothing is called for one that is not identified, and everything for one
that is. -/
inductive Removal (backend : Backend) (annotations : Annotations) :
    StorageTrace → Except Failure Unit → Prop where
  | unidentified (h : Unidentified annotations) (failure : Failure)
      (why : volumeUuid annotations = .error failure) :
    Removal backend annotations [] (.error failure)
  | attempted (uuid : Uuid) (h : volumeUuid annotations = .ok uuid) (trace : StorageTrace)
      (calls : trace.map Exchange.call =
        backend.removalPlan annotations uuid (sharesFound trace)) :
    Removal backend annotations trace (.ok ())

namespace ShellBackend

variable {backend : ShellBackend}

theorem removal_of_removeRun {trace : StorageTrace} {result : Except Failure Unit}
    (run : RemoveRun backend annotations trace result) :
    Removal (.shell backend) annotations trace result := by
  cases run with
  | unnamed failure h => exact .unidentified (unidentified_iff.mpr ⟨failure, h⟩) failure h
  | dataset uuid h clean answer =>
    refine .attempted uuid h _ ?_
    simp [Backend.removalPlan, removalPlan, clean]
  | both uuid h snapshot recorded answer last =>
    refine .attempted uuid h _ ?_
    simp [Backend.removalPlan, removalPlan, recorded]

/-- Whatever the host answers, the calls of a removal are made. -/
theorem runs_of_removal {trace : StorageTrace} {result : Except Failure Unit}
    (removal : Removal (.shell backend) annotations trace result) :
    Program.Runs (backend.remove annotations) trace result := by
  unfold remove
  cases removal with
  | unidentified h failure why =>
    simp only [why]
    exact .done _
  | attempted uuid h _ calls =>
    simp only [h]
    obtain ⟨⟨_, answer⟩, rest, rfl, rfl, hrest⟩ := List.map_eq_cons_iff.mp calls
    refine (runs_run.mpr ⟨answer, rfl, rfl⟩).bind ?_
    cases hrecorded : removableSnapshot backend.layout annotations with
    | none =>
      simp only [hrecorded, Option.toList_none, List.map_nil, List.map_eq_nil_iff] at hrest
      subst hrest
      exact .done _
    | some snapshot =>
      simp only [hrecorded, Option.toList_some, List.map_cons, List.map_nil] at hrest
      obtain ⟨⟨_, last⟩, rest, rfl, rfl, hnone⟩ := List.map_eq_cons_iff.mp hrest
      obtain rfl := List.map_eq_nil_iff.mp hnone
      exact (runs_run.mpr ⟨last, rfl, rfl⟩).bind (.done _)

end ShellBackend

namespace RestBackend

variable {backend : RestBackend}

theorem calls_unshareRun {ids : List Int} {trace : StorageTrace} (run : UnshareRun ids trace) :
    trace.map Exchange.call = ids.map fun id => Call.management (.deleteShare id) := by
  induction run with
  | nil => rfl
  | cons id answer rest ih => exact congrArg (_ :: ·) ih

theorem calls_unsnapRun {snapshot : Option String} {trace : StorageTrace}
    (run : UnsnapRun snapshot trace) :
    trace.map Exchange.call =
      snapshot.toList.map fun target => Call.management (.deleteSnapshot target) := by
  cases run <;> rfl

theorem calls_searchRun {path : String} {trace : StorageTrace} (run : SearchRun path trace) :
    trace.map Exchange.call = .management (.findShares path) ::
      (sharesFound trace).map fun id => Call.management (.deleteShare id) := by
  cases run with
  | unsearched failure => rfl
  | @searched ids deleting run =>
    have hfound : sharesFound (onManagement (.findShares path) (.ok ids) :: deleting) = ids := by
      change ids ++ sharesFound deleting = ids
      rw [(effects_unshareRun run).2.2.1, List.append_nil]
    rw [hfound, List.map_cons, calls_unshareRun run]

theorem removal_of_removeRun {trace : StorageTrace} {result : Except Failure Unit}
    (run : RemoveRun backend annotations trace result) :
    Removal (.rest backend) annotations trace result := by
  cases run with
  | unnamed failure h => exact .unidentified (unidentified_iff.mpr ⟨failure, h⟩) failure h
  | @removed uuid h searching search answer last snapshot =>
    refine .attempted uuid h _ ?_
    have hfound : sharesFound (searching ++
        onManagement (.deleteDataset (backend.layout.datasetPath uuid)) answer :: last) =
        sharesFound searching := by
      rw [sharesFound_append]
      change _ ++ sharesFound last = _
      rw [(effects_unsnapRun backend snapshot).2.2.1, List.append_nil]
    rw [hfound, List.map_append, calls_searchRun search, List.map_cons, calls_unsnapRun snapshot]
    rfl

theorem runs_deleteShares {ids : List Int} {trace : StorageTrace}
    (calls : trace.map Exchange.call = ids.map fun id => Call.management (.deleteShare id)) :
    Program.Runs (deleteShares ids) trace () := by
  induction ids generalizing trace with
  | nil =>
    obtain rfl := List.map_eq_nil_iff.mp calls
    exact .done _
  | cons id ids ih =>
    obtain ⟨⟨_, answer⟩, rest, rfl, rfl, hrest⟩ := List.map_eq_cons_iff.mp calls
    exact runs_management.mpr ⟨answer, rest, rfl, ih hrest⟩

theorem runs_removeDataset {uuid : Uuid} {trace : StorageTrace}
    (calls : trace.map Exchange.call =
      .management (.deleteDataset (backend.layout.datasetPath uuid)) ::
        (removableSnapshot backend.layout annotations).toList.map fun snapshot =>
          .management (.deleteSnapshot snapshot)) :
    Program.Runs (backend.removeDataset annotations uuid) trace (.ok ()) := by
  obtain ⟨⟨_, answer⟩, rest, rfl, rfl, hrest⟩ := List.map_eq_cons_iff.mp calls
  refine runs_management.mpr ⟨answer, rest, rfl, ?_⟩
  cases hrecorded : removableSnapshot backend.layout annotations with
  | none =>
    simp only [hrecorded, Option.toList_none, List.map_nil, List.map_eq_nil_iff] at hrest
    subst hrest
    exact .done _
  | some snapshot =>
    simp only [hrecorded, Option.toList_some, List.map_cons, List.map_nil] at hrest
    obtain ⟨⟨_, last⟩, rest, rfl, rfl, hnone⟩ := List.map_eq_cons_iff.mp hrest
    obtain rfl := List.map_eq_nil_iff.mp hnone
    exact runs_management.mpr ⟨last, [], rfl, .done _⟩

/-- Calls that are no search find no shares. -/
theorem sharesFound_of_calls {trace : StorageTrace}
    (h : ∀ path, Call.management (.findShares path) ∉ trace.map Exchange.call) :
    sharesFound trace = [] := by
  rw [sharesFound, List.flatten_eq_nil_iff]
  intro ids hids
  obtain ⟨x, hx, hfound⟩ := List.mem_filterMap.mp hids
  split at hfound
  · next path ids => exact absurd (List.mem_map_of_mem hx) (h path)
  · cases hfound

/-- The shares that a removal finds are those that its search lists. -/
theorem sharesFound_of_search {path : String} {found : Except Failure (List Int)}
    {rest : StorageTrace} {others : List Call} (calls : rest.map Exchange.call = others)
    (aside : ∀ path, Call.management (.findShares path) ∉ others) :
    sharesFound (onManagement (.findShares path) found :: rest) = found.toOption.getD [] := by
  have hrest : sharesFound rest = [] := sharesFound_of_calls (calls ▸ aside)
  rcases found with failure | ids
  · exact hrest
  · change ids ++ sharesFound rest = ids
    rw [hrest, List.append_nil]

/-- Whatever the interface answers, the calls of a removal are made. -/
theorem runs_of_removal {trace : StorageTrace} {result : Except Failure Unit}
    (removal : Removal (.rest backend) annotations trace result) :
    Program.Runs (backend.remove annotations) trace result := by
  unfold remove
  cases removal with
  | unidentified h failure why =>
    simp only [why]
    exact .done _
  | attempted uuid h _ calls =>
    simp only [h]
    obtain ⟨⟨_, found⟩, rest, rfl, rfl, hrest⟩ := List.map_eq_cons_iff.mp calls
    have hfound : sharesFound (onManagement (.findShares (backend.exportIn annotations uuid))
        found :: rest) = found.toOption.getD [] :=
      sharesFound_of_search hrest (by simp)
    rw [hfound] at hrest
    obtain ⟨deleting, last, rfl, hdelete, hlast⟩ := List.map_eq_append_iff.mp hrest
    refine runs_management.mpr ⟨found, deleting ++ last, rfl, ?_⟩
    rcases found with failure | ids
    · obtain rfl := List.map_eq_nil_iff.mp hdelete
      exact runs_removeDataset hlast
    · exact (runs_deleteShares hdelete).bind (runs_removeDataset hlast)

end RestBackend

theorem runs_remove_iff {backend : Backend} {trace : StorageTrace} {result : Except Failure Unit} :
    Program.Runs (backend.remove annotations) trace result ↔
      Removal backend annotations trace result := by
  cases backend with
  | shell b =>
    exact ⟨fun run => ShellBackend.removal_of_removeRun (ShellBackend.removeRun_of_runs run),
      ShellBackend.runs_of_removal⟩
  | rest b =>
    exact ⟨fun run => RestBackend.removal_of_removeRun (RestBackend.removeRun_of_runs run),
      RestBackend.runs_of_removal⟩

/-! ## Removals that are repeated -/

/-- A snapshot that may be destroyed with a volume is not the dataset of a volume. -/
theorem ne_datasetPath_of_removable {layout : Layout} {snapshot : String}
    (h : removableSnapshot layout annotations = some snapshot) (uuid : Uuid) :
    snapshot ≠ layout.datasetPath uuid := by
  obtain ⟨-, howns⟩ := Option.filter_eq_some_iff.mp h
  obtain ⟨x, y, -, -, rfl⟩ := Layout.exists_of_ownsSnapshot howns
  intro heq
  have hchars := congrArg String.toList heq
  simp only [Layout.datasetPath, String.toList_append, List.append_assoc,
    List.append_cancel_left_eq] at hchars
  apply Uuid.at_notin_toString uuid
  rw [← hchars]
  simp

theorem Backend.eq_of_place {backend : Backend} {name other : String}
    (h : backend.place name = backend.place other) : name = other := by
  cases backend <;> exact (Prod.mk.inj h).2

/-- Each of the removals of an identified volume succeeds and sets out to destroy the same. -/
theorem destroyed_of_segmented {backend : Backend} (h : volumeUuid annotations = .ok uuid) {n : Nat}
    {parts : List StorageTrace} {results : List (Except Failure Unit)}
    (segmented : Program.Segmented backend.remove (List.replicate n annotations) parts results) :
    results = List.replicate n (.ok ()) ∧
      targetsDestroyed parts.flatten =
        (List.replicate n ((backend.layout.datasetPath uuid ::
          (removableSnapshot backend.layout annotations).toList).map backend.place)).flatten := by
  induction n generalizing parts results with
  | zero =>
    cases segmented
    exact ⟨rfl, rfl⟩
  | succ n ih =>
    cases segmented with
    | cons head tail =>
      obtain ⟨hresults, htargets⟩ := ih tail
      have removed := Backend.removed_of_runs head h
      refine ⟨?_, ?_⟩
      · cases runs_remove_iff.mp head with
        | unidentified _ failure why =>
          rw [h] at why
          cases why
        | attempted => rw [hresults, List.replicate_succ]
      · rw [List.flatten_cons, targetsDestroyed_append, removed.targets, htargets,
          List.replicate_succ, List.flatten_cons]

theorem failed_iff_of_removal {backend : Backend} {trace : StorageTrace}
    {result : Except Failure Unit} (removal : Removal backend annotations trace result) :
    (∃ failure, result = .error failure) ↔ Unidentified annotations := by
  cases removal with
  | unidentified h failure => exact ⟨fun _ => h, fun _ => ⟨failure, rfl⟩⟩
  | attempted uuid h =>
    refine ⟨fun ⟨failure, hfailed⟩ => (nomatch hfailed), fun unidentified => ?_⟩
    obtain ⟨failure, hfailure⟩ := unidentified_iff.mp unidentified
    rw [h] at hfailure
    cases hfailure

/-- Removal is best effort. It fails just where the volume is not identified, and its runs are those
in which either that is so and nothing is called, or every call of the row is made, with any
answers, and the removal succeeds. So no removal of an identified volume fails, however often it is
repeated, and wherever the snapshot of a clone is to be destroyed, the clone was to be destroyed
before. -/
theorem removal_is_best_effort (backend : Backend) (annotations : Annotations) :
    (∀ trace result, Program.Runs (backend.remove annotations) trace result →
      ((∃ failure, result = .error failure) ↔ Unidentified annotations)) ∧
    (∀ trace result, Program.Runs (backend.remove annotations) trace result ↔
      Removal backend annotations trace result) ∧
    ∀ uuid, volumeUuid annotations = .ok uuid → ∀ n trace results,
      Program.Runs ((List.replicate n annotations).mapM backend.remove) trace results →
      results = List.replicate n (.ok ()) ∧
        ∀ snapshot, removableSnapshot backend.layout annotations = some snapshot →
          ∀ before after, targetsDestroyed trace = before ++ backend.place snapshot :: after →
            backend.place (backend.layout.datasetPath uuid) ∈ before := by
  refine ⟨fun trace result run => failed_iff_of_removal (runs_remove_iff.mp run),
    fun trace result => runs_remove_iff, fun uuid h n trace results run => ?_⟩
  obtain ⟨parts, rfl, segmented⟩ := Program.runs_mapM.mp run
  obtain ⟨hresults, htargets⟩ := destroyed_of_segmented h segmented
  refine ⟨hresults, fun snapshot recorded before after hsplit => ?_⟩
  rw [htargets, recorded] at hsplit
  cases n with
  | zero => simp at hsplit
  | succ n =>
    -- The first target of all is the dataset, which is no snapshot.
    cases before with
    | nil =>
      have heq := Backend.eq_of_place (List.cons.inj hsplit).1
      exact absurd heq.symm (ne_datasetPath_of_removable recorded uuid)
    | cons first before =>
      rw [← (List.cons.inj hsplit).1]
      exact List.mem_cons_self

/-- The snapshot that was taken for a clone. -/
def clonedSnapshot : String :=
  "tank/pv/0000000a-0000-4000-8000-00000000000a@zfspv-pv-1-20231114221320123"

/-- The annotations of that clone. -/
def cloned : Annotations :=
  (∅ : Annotations).insert Key.volumeUuid "0000000b-0000-4000-8000-00000000000b"
    |>.insert Key.cloneSnapshot clonedSnapshot

def removedTwice : Program interface (List (Except Failure Unit)) :=
  (List.replicate 2 cloned).mapM Sample.shellProvider.backend.remove

/-- A storage host on which every command fails. -/
def refusingHost : (c : Call) → c.Answer
  | .exec _ _ => .ok ⟨1, "dataset is busy"⟩
  | .management c => Simulation.Peers.standardAnswer c
  | .clock => Sample.now

/-- A clone is removed twice, and nothing can be destroyed. Both removals succeed, and the clone was
to be destroyed before its snapshot. -/
theorem sample_removal_is_best_effort :
    ∃ results, Program.Runs removedTwice (removedTwice.exchangesFrom refusingHost) results ∧
      targetsDestroyed (removedTwice.exchangesFrom refusingHost) =
        [(some "nas01", "tank/pv/0000000b-0000-4000-8000-00000000000b"),
          (some "nas01", clonedSnapshot),
          (some "nas01", "tank/pv/0000000b-0000-4000-8000-00000000000b"),
          (some "nas01", clonedSnapshot)] ∧
      results = [.ok (), .ok ()] ∧
      ∀ before after, targetsDestroyed (removedTwice.exchangesFrom refusingHost) =
          before ++ (some "nas01", clonedSnapshot) :: after →
        (some "nas01", "tank/pv/0000000b-0000-4000-8000-00000000000b") ∈ before := by
  have huuid : volumeUuid cloned = .ok (Simulation.Peers.numberedUuid 11) := by rfl
  have hsnapshot : removableSnapshot Sample.layout cloned = some clonedSnapshot := by
    decide +kernel
  have run := Program.runs_from refusingHost removedTwice
  obtain ⟨-, -, repeated⟩ := removal_is_best_effort Sample.shellProvider.backend cloned
  obtain ⟨hresults, hfirst⟩ := repeated _ huuid 2 _ _ run
  exact ⟨_, run, by decide +kernel, hresults, hfirst clonedSnapshot hsnapshot⟩

end DatasetProvisioner.Storage
