import DatasetProvisioner.Proofs.Requests
import DatasetProvisioner.Proofs.RestRuns
import DatasetProvisioner.Storage.Backend

/-!
# Effects of the storage backends

What a trace of storage calls makes and what it destroys, whichever backend it is of. A thing is
made where the call for it succeeded; it counts as destroyed where its destruction was called for.
-/
namespace DatasetProvisioner.Storage

open Dataset

/-- A dataset or a snapshot: with the host on which commands work on it, or behind a management
interface. -/
abbrev Place := Option String × String

def carriedOut : Except Failure CommandOutput → Bool
  | .ok output => output.succeeded
  | .error _ => false

def datasetsMade (trace : StorageTrace) : List Place :=
  trace.filterMap fun
    | ⟨.exec host ⟨_, .create dataset _⟩, answer⟩ =>
      if carriedOut answer then some (some host, dataset) else none
    | ⟨.exec host ⟨_, .clone _ dataset _⟩, answer⟩ =>
      if carriedOut answer then some (some host, dataset) else none
    | ⟨.management (.createDataset request), .ok _⟩ => some (none, request.name)
    | ⟨.management (.cloneSnapshot _ dataset), .ok _⟩ => some (none, dataset)
    | _ => none

def snapshotsTaken (trace : StorageTrace) : List Place :=
  trace.filterMap fun
    | ⟨.exec host ⟨_, .snapshot snapshot _⟩, answer⟩ =>
      if carriedOut answer then some (some host, snapshot) else none
    | ⟨.management (.createSnapshot dataset snapshot _), .ok _⟩ =>
      some (none, dataset ++ "@" ++ snapshot)
    | _ => none

def sharesMade (trace : StorageTrace) : List String :=
  trace.filterMap fun
    | ⟨.management (.createShare path _ _), .ok _⟩ => some path
    | _ => none

/-- The datasets and snapshots whose destruction was called for. -/
def targetsDestroyed (trace : StorageTrace) : List Place :=
  trace.filterMap fun
    | ⟨.exec host ⟨_, .destroy target⟩, _⟩ => some (some host, target)
    | ⟨.management (.deleteDataset dataset), _⟩ => some (none, dataset)
    | ⟨.management (.deleteSnapshot snapshot), _⟩ => some (none, snapshot)
    | _ => none

def sharesSought (trace : StorageTrace) : List String :=
  trace.filterMap fun
    | ⟨.management (.findShares path), _⟩ => some path
    | _ => none

def sharesFound (trace : StorageTrace) : List Int :=
  (trace.filterMap fun
    | ⟨.management (.findShares _), .ok ids⟩ => some ids
    | _ => none).flatten

def sharesDeleted (trace : StorageTrace) : List Int :=
  trace.filterMap fun
    | ⟨.management (.deleteShare id), _⟩ => some id
    | _ => none

theorem datasetsMade_append (first rest : StorageTrace) :
    datasetsMade (first ++ rest) = datasetsMade first ++ datasetsMade rest :=
  List.filterMap_append

theorem snapshotsTaken_append (first rest : StorageTrace) :
    snapshotsTaken (first ++ rest) = snapshotsTaken first ++ snapshotsTaken rest :=
  List.filterMap_append

theorem sharesMade_append (first rest : StorageTrace) :
    sharesMade (first ++ rest) = sharesMade first ++ sharesMade rest :=
  List.filterMap_append

theorem targetsDestroyed_append (first rest : StorageTrace) :
    targetsDestroyed (first ++ rest) = targetsDestroyed first ++ targetsDestroyed rest :=
  List.filterMap_append

theorem sharesSought_append (first rest : StorageTrace) :
    sharesSought (first ++ rest) = sharesSought first ++ sharesSought rest :=
  List.filterMap_append

theorem sharesFound_append (first rest : StorageTrace) :
    sharesFound (first ++ rest) = sharesFound first ++ sharesFound rest := by
  simp only [sharesFound, List.filterMap_append, List.flatten_append]

theorem sharesDeleted_append (first rest : StorageTrace) :
    sharesDeleted (first ++ rest) = sharesDeleted first ++ sharesDeleted rest :=
  List.filterMap_append

/-- Storage calls that only read the clock. -/
inductive Idle : StorageTrace → Prop where
  | nil : Idle []
  | cons (now : Timestamp) {trace : StorageTrace} (rest : Idle trace) :
    Idle (onStorageClock now :: trace)

theorem Idle.makes_nothing {trace : StorageTrace} (idle : Idle trace) :
    datasetsMade trace = [] ∧ snapshotsTaken trace = [] ∧ sharesMade trace = [] := by
  induction idle with
  | nil => exact ⟨rfl, rfl, rfl⟩
  | cons now rest ih => exact ih

theorem Idle.destroys_nothing {trace : StorageTrace} (idle : Idle trace) :
    targetsDestroyed trace = [] ∧ sharesSought trace = [] ∧ sharesFound trace = [] ∧
      sharesDeleted trace = [] := by
  induction idle with
  | nil => exact ⟨rfl, rfl, rfl, rfl⟩
  | cons now rest ih => exact ih

namespace Backend

def place (backend : Backend) (name : String) : Place :=
  match backend with
  | .shell b => (some b.host, name)
  | .rest _ => (none, name)

/-- The paths that are shared for a volume. -/
def shares (backend : Backend) (annotations : Annotations) (uuid : Uuid) : List String :=
  match backend with
  | .shell _ => []
  | .rest b => [b.exportIn annotations uuid]

end Backend

/-- An appliance names a snapshot by its dataset and the name that was asked for. -/
def NamesSnapshots (trace : StorageTrace) : Prop :=
  ∀ dataset name volumeRef snapshot,
    onManagement (.createSnapshot dataset name volumeRef) (.ok snapshot) ∈ trace →
      snapshot = dataset ++ "@" ++ name

theorem NamesSnapshots.part {whole part : StorageTrace} (named : NamesSnapshots whole)
    (h : part ⊆ whole) : NamesSnapshots part :=
  fun dataset name volumeRef snapshot taken => named dataset name volumeRef snapshot (h taken)

/-- A snapshot of a dataset of a backend's own. -/
def Taken (backend : Backend) (snapshot : String) : Prop :=
  ∃ dataset name, snapshot = dataset ++ "@" ++ name ∧ name ≠ "" ∧
    backend.layout.owns backend.layout.host dataset = true

/-- Making a dataset: what was made, and what the annotations say of a snapshot taken for it. -/
structure MadeDataset (backend : Backend) (recorded after : Annotations) (uuid : Uuid)
    (trace : StorageTrace) : Prop where
  frame : ∀ key ≠ Key.cloneSnapshot, after[key]? = recorded[key]?
  dataset : datasetsMade trace = [backend.place (backend.layout.datasetPath uuid)]
  snapshot : snapshotsTaken trace = [] ∧
      after[Key.cloneSnapshot]? = recorded[Key.cloneSnapshot]? ∨
    ∃ snapshot, snapshotsTaken trace = [backend.place snapshot] ∧
      after[Key.cloneSnapshot]? = some snapshot ∧ Taken backend snapshot
  unshared : sharesMade trace = []

/-- What a successful creation made for a request, and what the annotations say of it. -/
structure Made (backend : Backend) (request after : Annotations) (uuid : Uuid)
    (trace : StorageTrace) : Prop where
  identified : volumeUuid request = .ok uuid
  frame : ∀ key ∉ placeKeys, key ≠ Key.cloneSnapshot → after[key]? = request[key]?
  dataset : datasetsMade trace = [backend.place (backend.layout.datasetPath uuid)]
  snapshot : snapshotsTaken trace = [] ∧
      after[Key.cloneSnapshot]? = request[Key.cloneSnapshot]? ∨
    ∃ snapshot, snapshotsTaken trace = [backend.place snapshot] ∧
      after[Key.cloneSnapshot]? = some snapshot ∧ Taken backend snapshot
  shares : sharesMade trace = backend.shares after uuid

/-- What a removal destroys for a volume: what its identifier and its annotations name, and of the
shares those that were found under its export. -/
structure Removed (backend : Backend) (annotations : Annotations) (uuid : Uuid)
    (trace : StorageTrace) : Prop where
  targets : targetsDestroyed trace =
    (backend.layout.datasetPath uuid ::
      (removableSnapshot backend.layout annotations).toList).map backend.place
  sought : sharesSought trace = backend.shares annotations uuid
  deleted : sharesDeleted trace = sharesFound trace

/-- A checked clone source is a dataset of the backend's own. -/
theorem owns_of_prepared {layout : Layout} {request recorded : Annotations}
    {placement : Placement} (prepared : Prepared layout request recorded placement)
    {source : String} (h : placement.source = some source) :
    layout.owns layout.host source = true := by
  rcases prepared.placed.source with ⟨-, hnone⟩ | ⟨ref, dataset, -, hsource, hsome⟩
  · rw [hnone] at h
    cases h
  · rw [hsome, Option.some.injEq] at h
    exact h ▸ (Layout.cloneSource_eq_ok_iff.mp hsource).2

/-- What follows the making of a dataset makes shares only, and records none but the export. -/
theorem MadeDataset.made {backend : Backend} {request recorded after last : Annotations}
    {placement : Placement} {making sharing : StorageTrace}
    (made : MadeDataset backend recorded after placement.uuid making)
    (prepared : Prepared backend.layout request recorded placement)
    (hlast : ∀ key ≠ Key.exportPath, last[key]? = after[key]?)
    (hdatasets : datasetsMade sharing = []) (hsnapshots : snapshotsTaken sharing = [])
    (hshares : sharesMade sharing = backend.shares last placement.uuid) :
    Made backend request last placement.uuid (making ++ sharing) := by
  refine ⟨prepared.placed.uuid, fun key hplace hsnapshot => ?_, ?_, ?_, ?_⟩
  · have hexport : key ≠ Key.exportPath := by
      rintro rfl
      exact hplace (by decide)
    rw [hlast key hexport, made.frame key hsnapshot, prepared.frame key hplace]
  · rw [datasetsMade_append, made.dataset, hdatasets, List.append_nil]
  · rw [snapshotsTaken_append, hsnapshots, List.append_nil, hlast Key.cloneSnapshot (by decide),
      ← prepared.frame Key.cloneSnapshot (by decide)]
    exact made.snapshot
  · rw [sharesMade_append, made.unshared, hshares, List.nil_append]

namespace ShellBackend

variable {backend : ShellBackend}

theorem judged_eq_ok_iff {command : Shell.Command} {answer : Except Failure CommandOutput} :
    judged command answer = .ok () ↔ carriedOut answer = true := by
  rcases answer with failure | output
  · simp [judged, carriedOut]
  · by_cases hzero : output.succeeded = true <;> simp [judged, carriedOut, hzero]

theorem madeDataset_of_makeRun {request recorded after : Annotations} {placement : Placement}
    (prepared : Prepared backend.layout request recorded placement) {size : Nat}
    {trace : StorageTrace} (run : MakeRun backend placement size recorded trace (after, .ok ())) :
    MadeDataset (.shell backend) recorded after placement.uuid trace := by
  generalize hresult : (after, Except.ok ()) = result at run
  cases run with
  | fresh h answer =>
    rw [Prod.mk.injEq] at hresult
    obtain ⟨rfl, hdone⟩ := hresult
    have hdone := judged_eq_ok_iff.mp hdone.symm
    refine ⟨fun _ _ => rfl, ?_, .inl ⟨rfl, rfl⟩, rfl⟩
    simp [datasetsMade, createCommand, command, hdone, Backend.place, Backend.layout]
  | unsnapped => simp at hresult
  | cloned source h now taken htaken answer =>
    rw [Prod.mk.injEq] at hresult
    obtain ⟨rfl, hdone⟩ := hresult
    have hdone := judged_eq_ok_iff.mp hdone.symm
    have htaken := judged_eq_ok_iff.mp htaken
    refine ⟨fun key hkey => Annotations.getElem?_insert_ne hkey.symm, ?_,
      .inr ⟨snapshotFor placement source now, ?_, Std.ExtTreeMap.getElem?_insert_self, ?_⟩, rfl⟩
    · simp [datasetsMade, snapshotCommand, cloneCommand, command, hdone, Backend.place,
        Backend.layout]
    · simp [snapshotsTaken, snapshotCommand, cloneCommand, command, htaken, Backend.place]
    · exact ⟨source, Snapshot.name placement.volumeRef now, rfl, Snapshot.name_ne_empty _ _,
        owns_of_prepared prepared h⟩

theorem made_of_createRun {request after : Annotations} {size : Nat} {trace : StorageTrace}
    {descriptor : Descriptor}
    (run : CreateRun backend request size trace (after, .ok descriptor)) :
    ∃ uuid, Made (.shell backend) request after uuid trace := by
  obtain ⟨recorded, placement, making, setting, set, h, rfl, make, permissions, -⟩ :=
    created_of_createRun run
  have prepared := prepared_of_prepare h
  have made := madeDataset_of_makeRun prepared make
  refine ⟨placement.uuid, made.made prepared (fun _ _ => rfl) ?_ ?_ ?_⟩
  · cases permissions <;> rfl
  · cases permissions <;> rfl
  · cases permissions <;> rfl

/-- A removal is called for with the dataset of the volume and the snapshot recorded for it. -/
theorem removed_of_removeRun {annotations : Annotations} {trace : StorageTrace}
    {result : Except Failure Unit} (run : RemoveRun backend annotations trace result) {uuid : Uuid}
    (huuid : volumeUuid annotations = .ok uuid) :
    Removed (.shell backend) annotations uuid trace := by
  cases run with
  | unnamed failure h =>
    rw [huuid] at h
    cases h
  | dataset uuid' h clean answer =>
    obtain rfl := Except.ok.inj (huuid.symm.trans h)
    refine ⟨?_, rfl, rfl⟩
    change _ = List.map _ (_ :: (removableSnapshot backend.layout annotations).toList)
    rw [clean]
    rfl
  | both uuid' h snapshot recorded answer last =>
    obtain rfl := Except.ok.inj (huuid.symm.trans h)
    refine ⟨?_, rfl, rfl⟩
    change _ = List.map _ (_ :: (removableSnapshot backend.layout annotations).toList)
    rw [recorded]
    rfl

end ShellBackend

namespace RestBackend

variable {backend : RestBackend}

theorem quiet_quotaRun {dataset : String} {quota : Quota} {trace : StorageTrace}
    {result : Except Failure Unit} (run : QuotaRun dataset quota trace result) :
    datasetsMade trace = [] ∧ snapshotsTaken trace = [] ∧ sharesMade trace = [] := by
  cases run <;> exact ⟨rfl, rfl, rfl⟩

theorem madeDataset_of_cloneRun {request recorded after : Annotations} {placement : Placement}
    (prepared : Prepared backend.layout request recorded placement) {source : String}
    (hsource : placement.source = some source) {size : Nat} {options : Options}
    {trace : StorageTrace} (named : NamesSnapshots trace) {info : Info}
    (run : CloneRun backend placement source size options recorded trace (after, .ok (some info))) :
    MadeDataset (.rest backend) recorded after placement.uuid trace := by
  generalize hresult : (after, Except.ok (some info)) = result at run
  cases run with
  | unsnapped => simp at hresult
  | uncloned => simp at hresult
  | unlimited => simp at hresult
  | @cloned now snapshot limiting limited found =>
    rw [Prod.mk.injEq] at hresult
    obtain ⟨rfl, -⟩ := hresult
    have hname := named source (Snapshot.name placement.volumeRef now) placement.volumeRef snapshot
      (by simp)
    obtain ⟨hdatasets, hsnapshots, hshares⟩ := quiet_quotaRun limited
    refine ⟨fun key hkey => Annotations.getElem?_insert_ne hkey.symm, ?_,
      .inr ⟨snapshot, ?_, Std.ExtTreeMap.getElem?_insert_self, ?_⟩, ?_⟩
    · change (none, backend.layout.datasetPath placement.uuid) :: datasetsMade (limiting ++ _) = _
      rw [datasetsMade_append, hdatasets]
      rfl
    · change (none, source ++ "@" ++ Snapshot.name placement.volumeRef now) ::
        snapshotsTaken (limiting ++ _) = _
      rw [snapshotsTaken_append, hsnapshots, hname]
      rfl
    · exact ⟨source, _, hname, Snapshot.name_ne_empty _ _, owns_of_prepared prepared hsource⟩
    · change sharesMade (limiting ++ _) = _
      rw [sharesMade_append, hshares]
      rfl

theorem madeDataset_of_makeRun {request recorded after : Annotations} {placement : Placement}
    (prepared : Prepared backend.layout request recorded placement) {size : Nat}
    {trace : StorageTrace} (named : NamesSnapshots trace) {info : Info}
    (run : MakeRun backend placement size recorded trace (after, .ok (some info))) :
    MadeDataset (.rest backend) recorded after placement.uuid trace := by
  generalize hresult : (after, Except.ok (some info)) = result at run
  cases run with
  | @fresh h trace found run =>
    rw [Prod.mk.injEq] at hresult
    obtain ⟨rfl, hfound⟩ := hresult
    cases run with
    | rejected => cases hfound
    | mounted => exact ⟨fun _ _ => rfl, rfl, .inl ⟨rfl, rfl⟩, rfl⟩
    | lookedUp => exact ⟨fun _ _ => rfl, rfl, .inl ⟨rfl, rfl⟩, rfl⟩
  | clone source h run =>
    subst hresult
    exact madeDataset_of_cloneRun prepared h named run

theorem made_of_createRun {request after : Annotations} {size : Nat} {trace : StorageTrace}
    (named : NamesSnapshots trace) {descriptor : Descriptor}
    (run : CreateRun backend request size trace (after, .ok descriptor)) :
    ∃ uuid, Made (.rest backend) request after uuid trace := by
  obtain ⟨recorded, placement, making, sharing, last, info, h, rfl, make, shared, rfl, -⟩ :=
    created_of_createRun run
  have prepared := prepared_of_prepare h
  have made := madeDataset_of_makeRun prepared
    (named.part (List.subset_append_left making sharing)) make
  have hexport : backend.exportIn
      (last.insert Key.exportPath (backend.exportOf placement info)) placement.uuid =
      backend.exportOf placement info := by
    rw [exportIn, Std.ExtTreeMap.getElem?_insert_self]
    rfl
  refine ⟨placement.uuid, made.made prepared
    (fun key hkey => Annotations.getElem?_insert_ne hkey.symm) ?_ ?_ ?_⟩
  · cases shared <;> rfl
  · cases shared <;> rfl
  · change _ = [backend.exportIn _ placement.uuid]
    rw [hexport]
    cases shared <;> rfl

/-! ## Removal -/

theorem effects_unshareRun {ids : List Int} {trace : StorageTrace} (run : UnshareRun ids trace) :
    targetsDestroyed trace = [] ∧ sharesSought trace = [] ∧ sharesFound trace = [] ∧
      sharesDeleted trace = ids := by
  induction run with
  | nil => exact ⟨rfl, rfl, rfl, rfl⟩
  | cons id answer rest ih =>
    obtain ⟨htargets, hsought, hfound, hdeleted⟩ := ih
    exact ⟨htargets, hsought, hfound, congrArg (id :: ·) hdeleted⟩

/-- A search deletes the shares that it finds, and nothing else. -/
theorem effects_searchRun {path : String} {trace : StorageTrace} (run : SearchRun path trace) :
    targetsDestroyed trace = [] ∧ sharesSought trace = [path] ∧
      sharesDeleted trace = sharesFound trace := by
  cases run with
  | unsearched => exact ⟨rfl, rfl, rfl⟩
  | @searched ids deleting run =>
    obtain ⟨htargets, hsought, hfound, hdeleted⟩ := effects_unshareRun run
    refine ⟨htargets, congrArg (path :: ·) hsought, hdeleted.trans ?_⟩
    change ids = ids ++ sharesFound deleting
    rw [hfound, List.append_nil]

theorem effects_unsnapRun (backend : RestBackend) {snapshot : Option String} {trace : StorageTrace}
    (run : UnsnapRun snapshot trace) :
    targetsDestroyed trace = snapshot.toList.map (Backend.rest backend).place ∧
      sharesSought trace = [] ∧ sharesFound trace = [] ∧ sharesDeleted trace = [] := by
  cases run <;> exact ⟨rfl, rfl, rfl, rfl⟩

theorem removed_of_removeRun {annotations : Annotations} {trace : StorageTrace}
    {result : Except Failure Unit} (run : RemoveRun backend annotations trace result) {uuid : Uuid}
    (huuid : volumeUuid annotations = .ok uuid) :
    Removed (.rest backend) annotations uuid trace := by
  cases run with
  | unnamed failure h =>
    rw [huuid] at h
    cases h
  | @removed uuid' h searching search answer last snapshot =>
    obtain rfl := Except.ok.inj (huuid.symm.trans h)
    obtain ⟨htargets, hsought, hdeleted⟩ := effects_searchRun search
    obtain ⟨hlast, hlastSought, hlastFound, hlastDeleted⟩ :=
      effects_unsnapRun backend snapshot
    refine ⟨?_, ?_, ?_⟩
    · rw [targetsDestroyed_append, htargets]
      change (none, backend.layout.datasetPath uuid) :: targetsDestroyed last = _
      rw [hlast]
      rfl
    · rw [sharesSought_append, hsought]
      change [_] ++ sharesSought last = _
      rw [hlastSought]
      rfl
    · rw [sharesDeleted_append, sharesFound_append, hdeleted]
      change _ ++ sharesDeleted last = _ ++ sharesFound last
      rw [hlastDeleted, hlastFound]

end RestBackend

namespace Backend

variable {backend : Backend}

theorem runs_create {request : Annotations} {size : Nat} {trace : StorageTrace}
    {answer : Annotations × Option Descriptor} :
    Program.Runs (backend.create request size) trace answer ↔
      ∃ result, Program.Runs (backend.tryCreate request size) trace (answer.1, result) ∧
        answer.2 = result.toOption := by
  unfold create
  rw [Program.runs_bind]
  constructor
  · rintro ⟨first, ⟨after, result⟩, rest, rfl, htry, hafter⟩
    obtain ⟨rfl, rfl⟩ := Program.runs_pure.mp hafter
    rw [List.append_nil]
    exact ⟨result, htry, rfl⟩
  · obtain ⟨after, descriptor?⟩ := answer
    rintro ⟨result, htry, rfl⟩
    exact ⟨trace, (after, result), [], (List.append_nil trace).symm, htry, .done _⟩

theorem tried_of_created {request after : Annotations} {size : Nat} {trace : StorageTrace}
    {descriptor : Descriptor}
    (run : Program.Runs (backend.create request size) trace (after, some descriptor)) :
    Program.Runs (backend.tryCreate request size) trace (after, .ok descriptor) := by
  obtain ⟨result, htry, hresult⟩ := runs_create.mp run
  rcases result with failure | made
  · cases hresult
  · cases hresult
    exact htry

/-- Whichever backend made a volume: what was made for it, and what its annotations say of it. -/
theorem made_of_runs {request after : Annotations} {size : Nat} {trace : StorageTrace}
    {descriptor : Descriptor} (named : NamesSnapshots trace)
    (run : Program.Runs (backend.create request size) trace (after, some descriptor)) :
    ∃ uuid, Made backend request after uuid trace := by
  have tried := tried_of_created run
  cases backend with
  | shell b => exact ShellBackend.made_of_createRun (ShellBackend.runs_create.mp tried)
  | rest b => exact RestBackend.made_of_createRun named (RestBackend.runs_create.mp tried)

/-- Whichever backend removes a volume: what is destroyed for it. -/
theorem removed_of_runs {annotations : Annotations} {trace : StorageTrace}
    {result : Except Failure Unit}
    (run : Program.Runs (backend.remove annotations) trace result) {uuid : Uuid}
    (huuid : volumeUuid annotations = .ok uuid) : Removed backend annotations uuid trace := by
  cases backend with
  | shell b => exact ShellBackend.removed_of_removeRun (ShellBackend.removeRun_of_runs run) huuid
  | rest b => exact RestBackend.removed_of_removeRun (RestBackend.removeRun_of_runs run) huuid

end Backend

end DatasetProvisioner.Storage
