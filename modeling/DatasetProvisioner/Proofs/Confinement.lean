import DatasetProvisioner.Proofs.Effects
import DatasetProvisioner.Proofs.Sample

/-!
# Operations are confined to the root of a backend

Annotations reach a storage host by four ways: the identifier and the name of a volume, its clone
reference and the snapshot recorded for it. Whatever they hold, a backend makes, copies, limits and
destroys only datasets that lie under its own root, and the file system that it destroys is the one
of the volume's identifier.

The paths of shares are not confined: an export is shared at the mount point that the management
interface answers with.
-/
namespace DatasetProvisioner.Storage

open Dataset
open Reconciler (Sample.layout Sample.shellProvider Sample.storageAnswer)

/-! ## Places that annotations can name -/

/-- The identifier that annotations hold, in any of its spellings. -/
def Identifies (annotations : Annotations) (uuid : Uuid) : Prop :=
  ∃ raw, annotations[Key.volumeUuid]? = some raw ∧ Uuid.ofString? raw = some uuid

/-- The dataset of the identifier, in its canonical spelling. -/
def VolumeDataset (layout : Layout) (annotations : Annotations) (dataset : String) : Prop :=
  ∃ uuid, Identifies annotations uuid ∧ dataset = layout.datasetRoot ++ "/" ++ uuid.toString

/-- The export of the identifier, in its canonical spelling. -/
def VolumeExport (layout : Layout) (annotations : Annotations) (path : String) : Prop :=
  ∃ uuid, Identifies annotations uuid ∧ path = layout.exportRoot ++ "/" ++ uuid.toString

/-- A dataset under the root that is named by an identifier, in any of its spellings. -/
def OwnDataset (layout : Layout) (dataset : String) : Prop :=
  ∃ leaf uuid, Uuid.ofString? leaf = some uuid ∧ dataset = layout.datasetRoot ++ "/" ++ leaf

/-- The name of a snapshot that is taken for the volume of the annotations. -/
def SnapshotName (annotations : Annotations) (name : String) : Prop :=
  ∃ volumeRef now, annotations[Key.volumeRef]? = some volumeRef ∧
    name = Snapshot.name volumeRef now

/-- A snapshot that is taken for the volume of the annotations. -/
def OwnSnapshot (layout : Layout) (annotations : Annotations) (snapshot : String) : Prop :=
  ∃ dataset name, OwnDataset layout dataset ∧ SnapshotName annotations name ∧
    snapshot = dataset ++ "@" ++ name

/-- A snapshot of something under the root. -/
def SnapshotUnder (layout : Layout) (snapshot : String) : Prop :=
  ∃ x y, x ≠ "" ∧ y ≠ "" ∧ snapshot = layout.datasetRoot ++ "/" ++ x ++ "@" ++ y

/-- What each call may work on. -/
def Confined (layout : Layout) (annotations : Annotations) : Call → Prop
  | .exec _ ⟨_, .create dataset _⟩ => VolumeDataset layout annotations dataset
  | .exec _ ⟨_, .snapshot snapshot _⟩ => OwnSnapshot layout annotations snapshot
  | .exec _ ⟨_, .clone origin dataset _⟩ =>
    OwnSnapshot layout annotations origin ∧ VolumeDataset layout annotations dataset
  | .exec _ ⟨_, .changeMode path _⟩ => VolumeExport layout annotations path
  | .exec _ ⟨_, .destroy target⟩ =>
    VolumeDataset layout annotations target ∨ SnapshotUnder layout target
  | .management (.createDataset request) => VolumeDataset layout annotations request.name
  | .management (.updateQuota dataset _) | .management (.getDataset dataset)
  | .management (.cloneSnapshot _ dataset) | .management (.deleteDataset dataset) =>
    VolumeDataset layout annotations dataset
  | .management (.createSnapshot dataset name _) =>
    OwnDataset layout dataset ∧ SnapshotName annotations name
  | .management (.deleteSnapshot snapshot) => SnapshotUnder layout snapshot
  | .management (.createShare _ _ _) | .management (.findShares _) | .management (.deleteShare _)
  | .management (.setMode _ _) | .clock => True

/-- Every call of a trace is confined. -/
def AllConfined (layout : Layout) (annotations : Annotations) (trace : StorageTrace) : Prop :=
  ∀ x ∈ trace, Confined layout annotations x.call

section

variable {layout : Layout} {annotations : Annotations}

@[simp] theorem allConfined_nil : AllConfined layout annotations [] :=
  List.forall_mem_nil _

@[simp] theorem allConfined_cons {x : Exchange interface} {trace : StorageTrace} :
    AllConfined layout annotations (x :: trace) ↔
      Confined layout annotations x.call ∧ AllConfined layout annotations trace :=
  List.forall_mem_cons

@[simp] theorem allConfined_append {first rest : StorageTrace} :
    AllConfined layout annotations (first ++ rest) ↔
      AllConfined layout annotations first ∧ AllConfined layout annotations rest :=
  List.forall_mem_append

theorem volumeDataset_of_volumeUuid {uuid : Uuid} (h : volumeUuid annotations = .ok uuid) :
    VolumeDataset layout annotations (layout.datasetPath uuid) :=
  ⟨uuid, volumeUuid_eq_ok_iff.mp h, rfl⟩

theorem ownDataset_of_owns {host dataset : String} (h : layout.owns host dataset = true) :
    OwnDataset layout dataset := by
  obtain ⟨-, leaf, uuid, hdataset, hread⟩ := Layout.owns_iff.mp h
  refine ⟨String.ofList leaf, uuid, ?_, ?_⟩
  · rw [Uuid.ofString?, String.toList_ofList, hread]
  · apply String.toList_inj.mp
    rw [hdataset]
    simp

theorem snapshotUnder_of_removable {snapshot : String}
    (h : removableSnapshot layout annotations = some snapshot) : SnapshotUnder layout snapshot := by
  obtain ⟨-, howns⟩ := Option.filter_eq_some_iff.mp h
  exact Layout.exists_of_ownsSnapshot howns

/-! ## What a checked request can name -/

theorem volumeDataset_of_prepared {recorded : Annotations} {placement : Placement}
    (prepared : Prepared layout annotations recorded placement) :
    VolumeDataset layout annotations (layout.datasetPath placement.uuid) :=
  volumeDataset_of_volumeUuid prepared.placed.uuid

theorem volumeExport_of_prepared {recorded : Annotations} {placement : Placement}
    (prepared : Prepared layout annotations recorded placement) :
    VolumeExport layout annotations (layout.exportPath placement.uuid) :=
  ⟨placement.uuid, volumeUuid_eq_ok_iff.mp prepared.placed.uuid, rfl⟩

theorem ownDataset_of_prepared {recorded : Annotations} {placement : Placement}
    (prepared : Prepared layout annotations recorded placement) {source : String}
    (h : placement.source = some source) : OwnDataset layout source :=
  ownDataset_of_owns (owns_of_prepared prepared h)

theorem snapshotName_of_prepared {recorded : Annotations} {placement : Placement}
    (prepared : Prepared layout annotations recorded placement) (now : Timestamp) :
    SnapshotName annotations (Snapshot.name placement.volumeRef now) :=
  ⟨placement.volumeRef, now, prepared.placed.named, rfl⟩

end

/-! ## The shell backend -/

namespace ShellBackend

variable {backend : ShellBackend} {annotations : Annotations}

theorem confined_of_makeRun {recorded : Annotations} {placement : Placement}
    (prepared : Prepared backend.layout annotations recorded placement) {size : Nat}
    {trace : StorageTrace} {result : Annotations × Except Failure Unit}
    (run : MakeRun backend placement size recorded trace result) :
    AllConfined backend.layout annotations trace := by
  have dataset := volumeDataset_of_prepared prepared
  have snapshot {source : String} (h : placement.source = some source) (now : Timestamp) :
      OwnSnapshot backend.layout annotations (snapshotFor placement source now) :=
    ⟨source, _, ownDataset_of_prepared prepared h, snapshotName_of_prepared prepared now, rfl⟩
  cases run with
  | fresh h answer =>
    simp only [allConfined_cons, allConfined_nil, and_true]
    exact dataset
  | unsnapped source h now answer failure hfail =>
    simp only [allConfined_cons, allConfined_nil, and_true]
    exact ⟨trivial, snapshot h now⟩
  | cloned source h now taken htaken answer =>
    simp only [allConfined_cons, allConfined_nil, and_true]
    exact ⟨trivial, snapshot h now, snapshot h now, dataset⟩

theorem confined_of_permissionRun {recorded : Annotations} {placement : Placement}
    (prepared : Prepared backend.layout annotations recorded placement) {trace : StorageTrace}
    {result : Except Failure Unit}
    (run : PermissionRun backend (backend.layout.exportPath placement.uuid) trace result) :
    AllConfined backend.layout annotations trace := by
  cases run with
  | unset => exact allConfined_nil
  | set mode h answer =>
    simp only [allConfined_cons, allConfined_nil, and_true]
    exact volumeExport_of_prepared prepared

theorem confined_of_createRun {size : Nat} {trace : StorageTrace}
    {result : Annotations × Except Failure Descriptor}
    (run : CreateRun backend annotations size trace result) :
    AllConfined backend.layout annotations trace := by
  cases run with
  | unready => exact allConfined_nil
  | unmade recorded placement h made =>
    exact confined_of_makeRun (prepared_of_prepare h) made
  | made recorded placement h made permissions =>
    have prepared := prepared_of_prepare h
    exact allConfined_append.mpr
      ⟨confined_of_makeRun prepared made, confined_of_permissionRun prepared permissions⟩

theorem confined_of_removeRun {trace : StorageTrace} {result : Except Failure Unit}
    (run : RemoveRun backend annotations trace result) :
    AllConfined backend.layout annotations trace := by
  cases run with
  | unnamed => exact allConfined_nil
  | dataset uuid h clean answer =>
    simp only [allConfined_cons, allConfined_nil, and_true]
    exact .inl (volumeDataset_of_volumeUuid h)
  | both uuid h snapshot recorded answer last =>
    simp only [allConfined_cons, allConfined_nil, and_true]
    exact ⟨.inl (volumeDataset_of_volumeUuid h), .inr (snapshotUnder_of_removable recorded)⟩

end ShellBackend

/-! ## The management backend -/

namespace RestBackend

variable {backend : RestBackend} {annotations : Annotations}

theorem confined_of_quotaRun {layout : Layout} {dataset : String} {quota : Quota}
    (h : VolumeDataset layout annotations dataset) {trace : StorageTrace}
    {result : Except Failure Unit} (run : QuotaRun dataset quota trace result) :
    AllConfined layout annotations trace := by
  cases run with
  | unlimited => exact allConfined_nil
  | imposed =>
    simp only [allConfined_cons, allConfined_nil, and_true]
    exact h

theorem confined_of_freshRun {recorded : Annotations} {placement : Placement}
    (prepared : Prepared backend.layout annotations recorded placement) {size : Nat}
    {options : Options} {trace : StorageTrace} {found : Except Failure (Option Info)}
    (run : FreshRun backend placement size options trace found) :
    AllConfined backend.layout annotations trace := by
  have dataset := volumeDataset_of_prepared prepared
  cases run with
  | rejected =>
    simp only [allConfined_cons, allConfined_nil, and_true]
    exact dataset
  | mounted =>
    simp only [allConfined_cons, allConfined_nil, and_true]
    exact dataset
  | lookedUp =>
    simp only [allConfined_cons, allConfined_nil, and_true]
    exact ⟨dataset, dataset⟩

theorem confined_of_cloneRun {recorded : Annotations} {placement : Placement}
    (prepared : Prepared backend.layout annotations recorded placement) {source : String}
    (h : placement.source = some source) {size : Nat} {options : Options} {trace : StorageTrace}
    {result : Annotations × Except Failure (Option Info)}
    (run : CloneRun backend placement source size options recorded trace result) :
    AllConfined backend.layout annotations trace := by
  have dataset := volumeDataset_of_prepared prepared
  have source := ownDataset_of_prepared prepared h
  have name := snapshotName_of_prepared prepared
  cases run with
  | unsnapped now failure =>
    simp only [allConfined_cons, allConfined_nil, and_true]
    exact ⟨trivial, source, name now⟩
  | uncloned now snapshot failure =>
    simp only [allConfined_cons, allConfined_nil, and_true]
    exact ⟨trivial, ⟨source, name now⟩, dataset⟩
  | unlimited now snapshot limited =>
    simp only [allConfined_cons]
    exact ⟨trivial, ⟨source, name now⟩, dataset, confined_of_quotaRun dataset limited⟩
  | cloned now snapshot limited found =>
    simp only [allConfined_cons, allConfined_append, allConfined_nil, and_true]
    exact ⟨trivial, ⟨source, name now⟩, dataset, confined_of_quotaRun dataset limited, dataset⟩

theorem confined_of_makeRun {recorded : Annotations} {placement : Placement}
    (prepared : Prepared backend.layout annotations recorded placement) {size : Nat}
    {trace : StorageTrace} {result : Annotations × Except Failure (Option Info)}
    (run : MakeRun backend placement size recorded trace result) :
    AllConfined backend.layout annotations trace := by
  cases run with
  | fresh h made => exact confined_of_freshRun prepared made
  | clone source h made => exact confined_of_cloneRun prepared h made

theorem confined_of_shareRun {layout : Layout} {placement : Placement} {path : String}
    {readOnly : Bool} {trace : StorageTrace} {result : Except Failure Unit}
    (run : ShareRun backend placement path readOnly trace result) :
    AllConfined layout annotations trace := by
  cases run <;> simp [Confined]

theorem confined_of_createRun {size : Nat} {trace : StorageTrace}
    {result : Annotations × Except Failure Descriptor}
    (run : CreateRun backend annotations size trace result) :
    AllConfined backend.layout annotations trace := by
  cases run with
  | unready => exact allConfined_nil
  | unmade recorded placement h made =>
    exact confined_of_makeRun (prepared_of_prepare h) made
  | missing recorded placement h made =>
    exact confined_of_makeRun (prepared_of_prepare h) made
  | made recorded placement h made shared =>
    exact allConfined_append.mpr
      ⟨confined_of_makeRun (prepared_of_prepare h) made, confined_of_shareRun shared⟩

theorem confined_of_unshareRun {layout : Layout} {ids : List Int} {trace : StorageTrace}
    (run : UnshareRun ids trace) : AllConfined layout annotations trace := by
  induction run with
  | nil => exact allConfined_nil
  | cons id answer rest ih => exact allConfined_cons.mpr ⟨trivial, ih⟩

theorem confined_of_removeRun {trace : StorageTrace} {result : Except Failure Unit}
    (run : RemoveRun backend annotations trace result) :
    AllConfined backend.layout annotations trace := by
  cases run with
  | unnamed => exact allConfined_nil
  | removed uuid h search answer snapshot =>
    refine allConfined_append.mpr ⟨?_, allConfined_cons.mpr ⟨volumeDataset_of_volumeUuid h, ?_⟩⟩
    · cases search with
      | unsearched => exact allConfined_cons.mpr ⟨trivial, allConfined_nil⟩
      | searched ids deleted =>
        exact allConfined_cons.mpr ⟨trivial, confined_of_unshareRun deleted⟩
    · generalize hrecorded : removableSnapshot backend.layout annotations = recorded at snapshot
      cases snapshot with
      | none => exact allConfined_nil
      | some snapshot answer =>
        exact allConfined_cons.mpr ⟨snapshotUnder_of_removable hrecorded, allConfined_nil⟩

end RestBackend

/-! ## Either backend -/

/-- Making or removing a volume for a set of annotations. -/
inductive Operates (backend : Backend) (annotations : Annotations) (trace : StorageTrace) :
    Prop where
  | creates (size : Nat) (answer : Annotations × Option Descriptor)
      (run : Program.Runs (backend.create annotations size) trace answer)
  | removes (result : Except Failure Unit)
      (run : Program.Runs (backend.remove annotations) trace result)

theorem allConfined_of_operates {backend : Backend} {annotations : Annotations}
    {trace : StorageTrace} (operates : Operates backend annotations trace) :
    AllConfined backend.layout annotations trace := by
  cases operates with
  | creates size answer run =>
    obtain ⟨result, htry, -⟩ := Backend.runs_create.mp run
    cases backend with
    | shell b => exact ShellBackend.confined_of_createRun (ShellBackend.runs_create.mp htry)
    | rest b => exact RestBackend.confined_of_createRun (RestBackend.runs_create.mp htry)
  | removes result run =>
    cases backend with
    | shell b => exact ShellBackend.confined_of_removeRun (ShellBackend.removeRun_of_runs run)
    | rest b => exact RestBackend.confined_of_removeRun (RestBackend.removeRun_of_runs run)

theorem destroyed_of_allConfined {layout : Layout} {annotations : Annotations}
    {trace : StorageTrace} (confined : AllConfined layout annotations trace) {place : Place}
    (h : place ∈ targetsDestroyed trace) :
    VolumeDataset layout annotations place.2 ∨ SnapshotUnder layout place.2 := by
  obtain ⟨x, hx, hplace⟩ := List.mem_filterMap.mp h
  have hconfined := confined x hx
  split at hplace
  · cases hplace
    exact hconfined
  · cases hplace
    exact .inl hconfined
  · cases hplace
    exact .inr hconfined
  · cases hplace

/-- A target that lies strictly under the root of a layout. -/
def Beneath (layout : Layout) (target : String) : Prop :=
  ∃ below, below ≠ "" ∧ target = layout.datasetRoot ++ "/" ++ below

theorem Beneath.ne_root {layout : Layout} {target : String} (h : Beneath layout target) :
    target ≠ layout.datasetRoot := by
  obtain ⟨below, -, rfl⟩ := h
  intro heq
  have hlength := congrArg String.length heq
  simp only [String.length_append] at hlength
  have hslash : "/".length = 1 := rfl
  omega

theorem SnapshotUnder.beneath {layout : Layout} {snapshot : String}
    (h : SnapshotUnder layout snapshot) : Beneath layout snapshot := by
  obtain ⟨x, y, hx, -, rfl⟩ := h
  refine ⟨x ++ "@" ++ y, ?_, by simp [String.append_assoc]⟩
  simp [hx]

theorem SnapshotUnder.at_mem {layout : Layout} {snapshot : String}
    (h : SnapshotUnder layout snapshot) : '@' ∈ snapshot.toList := by
  obtain ⟨x, y, -, -, rfl⟩ := h
  simp

theorem toString_ne_empty (uuid : Uuid) : uuid.toString ≠ "" := by
  intro hempty
  have hread := Uuid.ofString?_toString uuid
  rw [hempty] at hread
  exact Uuid.ne_nil_of_ofChars? hread rfl

theorem VolumeDataset.beneath {layout : Layout} {annotations : Annotations} {dataset : String}
    (h : VolumeDataset layout annotations dataset) : Beneath layout dataset := by
  obtain ⟨uuid, -, rfl⟩ := h
  exact ⟨uuid.toString, toString_ne_empty uuid, rfl⟩

/-- Whatever the annotations hold and whatever the host answers, each call of a creation or a
removal works on the places that are given to it. So nothing outside the root is destroyed, nor the
root itself, and no file system but the one of the volume. -/
theorem operations_are_confined {backend : Backend} {annotations : Annotations}
    {trace : StorageTrace} (operates : Operates backend annotations trace) :
    (∀ x ∈ trace, Confined backend.layout annotations x.call) ∧
      ∀ place ∈ targetsDestroyed trace,
        Beneath backend.layout place.2 ∧ place.2 ≠ backend.layout.datasetRoot ∧
          (VolumeDataset backend.layout annotations place.2 ∨
            '@' ∈ place.2.toList ∧ SnapshotUnder backend.layout place.2) := by
  have confined := allConfined_of_operates operates
  refine ⟨confined, fun place hplace => ?_⟩
  rcases destroyed_of_allConfined confined hplace with hdataset | hsnapshot
  · exact ⟨hdataset.beneath, hdataset.beneath.ne_root, .inl hdataset⟩
  · exact ⟨hsnapshot.beneath, hsnapshot.beneath.ne_root, .inr ⟨hsnapshot.at_mem, hsnapshot⟩⟩

/-- Annotations that spell the identifier in braces and upper case, and record a snapshot that
leaves the root by way of it. -/
def forged : Annotations :=
  (∅ : Annotations).insert Key.volumeUuid "\x7b0000000A-0000-4000-8000-00000000000A\x7d"
    |>.insert Key.cloneSnapshot "tank/pv/../db@a@b"

/-- Removing a volume with them destroys the dataset of the identifier, and a snapshot that is named
beneath the root. -/
theorem sample_operations_are_confined :
    ∃ trace, Operates Sample.shellProvider.backend forged trace ∧
      targetsDestroyed trace =
        [(some "nas01", "tank/pv/0000000a-0000-4000-8000-00000000000a"),
          (some "nas01", "tank/pv/../db@a@b")] ∧
      (∀ x ∈ trace, Confined Sample.layout forged x.call) ∧
      ∀ place ∈ targetsDestroyed trace,
        Beneath Sample.layout place.2 ∧ place.2 ≠ Sample.layout.datasetRoot ∧
          (VolumeDataset Sample.layout forged place.2 ∨
            '@' ∈ place.2.toList ∧ SnapshotUnder Sample.layout place.2) := by
  have run := Program.runs_from Sample.storageAnswer (Sample.shellProvider.backend.remove forged)
  have operates := Operates.removes _ run
  exact ⟨_, operates, by decide +kernel, operations_are_confined operates⟩

end DatasetProvisioner.Storage
