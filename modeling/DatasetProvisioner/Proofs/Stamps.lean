import DatasetProvisioner.Proofs.Effects

/-!
# What a backend writes into annotations

A backend that made a volume leaves its place in the annotations: the host, the dataset, the export
and the kind of mount, and the snapshot it took. All of it is known from the layout, the identifier
and the answers of the host; what stood under these keys before is gone.
-/
namespace DatasetProvisioner.Storage

open Dataset

/-- The snapshots that were taken, by the names under which their hosts know them. -/
def snapshotIds (trace : StorageTrace) : List String :=
  trace.filterMap fun
    | ⟨.exec _ ⟨_, .snapshot snapshot _⟩, answer⟩ =>
      if carriedOut answer then some snapshot else none
    | ⟨.management (.createSnapshot _ _ _), .ok snapshot⟩ => some snapshot
    | _ => none

/-- The mount points that the management interface told of. -/
def mountPoints (trace : StorageTrace) : List String :=
  trace.filterMap fun
    | ⟨.management (.createDataset _), .ok info⟩ => info.mountPoint
    | ⟨.management (.getDataset _), .ok (some info)⟩ => info.mountPoint
    | _ => none

theorem snapshotIds_append (first rest : StorageTrace) :
    snapshotIds (first ++ rest) = snapshotIds first ++ snapshotIds rest :=
  List.filterMap_append

theorem mountPoints_append (first rest : StorageTrace) :
    mountPoints (first ++ rest) = mountPoints first ++ mountPoints rest :=
  List.filterMap_append

theorem Idle.tells_nothing {trace : StorageTrace} (idle : Idle trace) :
    snapshotIds trace = [] ∧ mountPoints trace = [] := by
  induction idle with
  | nil => exact ⟨rfl, rfl⟩
  | cons now rest ih => exact ih

/-- Where a volume is exported: at the mount point that was told, or else at the place that the
layout gives it. -/
def exportTold (layout : Layout) (uuid : Uuid) (trace : StorageTrace) : String :=
  (mountPoints trace).head?.getD (layout.exportPath uuid)

/-- The place of a volume as its annotations have it. -/
structure Placard (layout : Layout) (uuid : Uuid) (annotations : Annotations) : Prop where
  host : annotations[Key.exportHost]? = some layout.host
  dataset : annotations[Key.datasetPath]? = some (layout.datasetPath uuid)
  provider : annotations[Key.managedProvider]? = some Layout.mountProtocol

theorem placard_record {layout : Layout} {uuid : Uuid} {annotations : Annotations} :
    Placard layout uuid (layout.record uuid annotations) := by
  unfold Layout.record
  constructor
  · rw [Annotations.getElem?_insert_ne (by decide), Annotations.getElem?_insert_ne (by decide),
      Annotations.getElem?_insert_ne (by decide)]
    exact Std.ExtTreeMap.getElem?_insert_self
  · rw [Annotations.getElem?_insert_ne (by decide), Annotations.getElem?_insert_ne (by decide)]
    exact Std.ExtTreeMap.getElem?_insert_self
  · exact Std.ExtTreeMap.getElem?_insert_self

theorem placard_of_prepare {layout : Layout} {request recorded : Annotations}
    {placement : Placement} (h : prepare layout request = (recorded, .ok placement)) :
    Placard layout placement.uuid recorded := by
  unfold prepare at h
  rcases hcheck : checkVolumeRequest request with ⟨checked, failure | _⟩
  · simp [hcheck] at h
  · simp only [hcheck] at h
    cases hplacement : placementOf layout checked with
    | error failure => simp [hplacement] at h
    | ok placed =>
      simp only [hplacement, Prod.mk.injEq, Except.ok.injEq] at h
      obtain ⟨rfl, rfl⟩ := h
      exact placard_record

theorem Placard.congr {layout : Layout} {uuid : Uuid} {annotations others : Annotations}
    (placard : Placard layout uuid annotations)
    (h : ∀ key ∈ [Key.exportHost, Key.datasetPath, Key.managedProvider],
      others[key]? = annotations[key]?) : Placard layout uuid others := by
  constructor
  · rw [h _ (by decide), placard.host]
  · rw [h _ (by decide), placard.dataset]
  · rw [h _ (by decide), placard.provider]

/-- Making a dataset changes the annotations under one key only, and there only where a snapshot
was taken: to its name. -/
structure Snapped (recorded after : Annotations) (ids : List String) : Prop where
  frame : ∀ key ≠ Key.cloneSnapshot, after[key]? = recorded[key]?
  snapshot : ids = [] ∧ after[Key.cloneSnapshot]? = recorded[Key.cloneSnapshot]? ∨
    ∃ snapshot, ids = [snapshot] ∧ after[Key.cloneSnapshot]? = some snapshot

theorem snapped_nothing (recorded : Annotations) : Snapped recorded recorded [] :=
  ⟨fun _ _ => rfl, .inl ⟨rfl, rfl⟩⟩

theorem snapped_insert (recorded : Annotations) (snapshot : String) :
    Snapped recorded (recorded.insert Key.cloneSnapshot snapshot) [snapshot] :=
  ⟨fun _ hkey => Annotations.getElem?_insert_ne hkey.symm,
    .inr ⟨snapshot, rfl, Std.ExtTreeMap.getElem?_insert_self⟩⟩

/-- What a backend that made a volume leaves, and what it says of the export. -/
structure Stamped (backend : Backend) (request after : Annotations) (uuid : Uuid)
    (trace : StorageTrace) (descriptor : Descriptor) : Prop where
  identified : volumeUuid request = .ok uuid
  frame : ∀ key ∉ placeKeys, key ≠ Key.cloneSnapshot → after[key]? = request[key]?
  placard : Placard backend.layout uuid after
  exportPath : after[Key.exportPath]? = some descriptor.exportPath
  told : descriptor.exportPath = exportTold backend.layout uuid trace
  snapshot : snapshotIds trace = [] ∧ after[Key.cloneSnapshot]? = request[Key.cloneSnapshot]? ∨
    ∃ snapshot, snapshotIds trace = [snapshot] ∧ after[Key.cloneSnapshot]? = some snapshot

/-- Readings of the clock around the calls of a backend tell nothing. -/
theorem Stamped.framed {backend : Backend} {request after : Annotations} {uuid : Uuid}
    {before made later : StorageTrace} {descriptor : Descriptor}
    (stamped : Stamped backend request after uuid made descriptor) (hbefore : Idle before)
    (hlater : Idle later) :
    Stamped backend request after uuid (before ++ (made ++ later)) descriptor := by
  obtain ⟨ids, points⟩ := hbefore.tells_nothing
  obtain ⟨ids', points'⟩ := hlater.tells_nothing
  refine { stamped with told := ?_, snapshot := ?_ }
  · rw [stamped.told, exportTold, exportTold, mountPoints_append, mountPoints_append, points,
      points', List.append_nil, List.nil_append]
  · rw [snapshotIds_append, snapshotIds_append, ids, ids', List.append_nil, List.nil_append]
    exact stamped.snapshot

/-- What follows the making of a dataset takes no snapshot and tells of no mount point, and sets the
export at most. -/
theorem stamped_of_snapped (backend : Backend) {request recorded after last : Annotations}
    {placement : Placement} (h : prepare backend.layout request = (recorded, .ok placement))
    {making sharing : StorageTrace} (snapped : Snapped recorded after (snapshotIds making))
    (hlast : ∀ key ≠ Key.exportPath, last[key]? = after[key]?)
    (hids : snapshotIds sharing = []) (hpoints : mountPoints sharing = [])
    {descriptor : Descriptor} (hexport : last[Key.exportPath]? = some descriptor.exportPath)
    (told : descriptor.exportPath = exportTold backend.layout placement.uuid making) :
    Stamped backend request last placement.uuid (making ++ sharing) descriptor := by
  have prepared := prepared_of_prepare h
  have recordedAt {key : String} (hpath : key ≠ Key.exportPath)
      (hsnapshot : key ≠ Key.cloneSnapshot) : last[key]? = recorded[key]? := by
    rw [hlast key hpath, snapped.frame key hsnapshot]
  refine ⟨prepared.placed.uuid, fun key hplace hsnapshot => ?_, ?_, hexport, ?_, ?_⟩
  · have hpath : key ≠ Key.exportPath := by
      rintro rfl
      exact hplace (by decide)
    rw [recordedAt hpath hsnapshot, prepared.frame key hplace]
  · refine (placard_of_prepare h).congr fun key hkey => recordedAt ?_ ?_
    · rintro rfl
      exact absurd hkey (by decide)
    · rintro rfl
      exact absurd hkey (by decide)
  · rw [told, exportTold, exportTold, mountPoints_append, hpoints, List.append_nil]
  · rw [snapshotIds_append, hids, List.append_nil, hlast Key.cloneSnapshot (by decide),
      ← prepared.frame Key.cloneSnapshot (by decide)]
    exact snapped.snapshot

namespace ShellBackend

variable {backend : ShellBackend}

theorem snapped_of_makeRun {recorded after : Annotations} {placement : Placement} {size : Nat}
    {trace : StorageTrace} (run : MakeRun backend placement size recorded trace (after, .ok ())) :
    Snapped recorded after (snapshotIds trace) ∧ mountPoints trace = [] := by
  generalize hresult : (after, Except.ok ()) = result at run
  cases run with
  | fresh h answer =>
    rw [Prod.mk.injEq] at hresult
    obtain ⟨rfl, -⟩ := hresult
    exact ⟨snapped_nothing after, rfl⟩
  | unsnapped => simp at hresult
  | cloned source h now taken htaken answer =>
    rw [Prod.mk.injEq] at hresult
    obtain ⟨rfl, -⟩ := hresult
    have hids : snapshotIds
        [onStorageClock now,
          onExec backend.host (backend.snapshotCommand (snapshotFor placement source now)
            placement.volumeRef) taken,
          onExec backend.host (backend.cloneCommand (snapshotFor placement source now)
            (backend.layout.datasetPath placement.uuid) placement.volumeRef size
            (Options.ofAnnotations recorded)) answer] = [snapshotFor placement source now] := by
      simp [snapshotIds, snapshotCommand, cloneCommand, command, judged_eq_ok_iff.mp htaken]
    rw [hids]
    exact ⟨snapped_insert recorded _, rfl⟩

theorem stamped_of_createRun {request after : Annotations} {size : Nat} {trace : StorageTrace}
    {descriptor : Descriptor}
    (run : CreateRun backend request size trace (after, .ok descriptor)) :
    ∃ uuid, Stamped (.shell backend) request after uuid trace descriptor := by
  obtain ⟨recorded, placement, making, setting, set, h, rfl, make, permissions, hdescriptor⟩ :=
    created_of_createRun run
  obtain ⟨snapped, hpoints⟩ := snapped_of_makeRun make
  refine ⟨placement.uuid,
    stamped_of_snapped (.shell backend) h snapped (fun _ _ => rfl) ?_ ?_ ?_ ?_⟩
  · cases permissions <;> rfl
  · cases permissions <;> rfl
  · rw [snapped.frame Key.exportPath (by decide), (prepared_of_prepare h).exportPath, hdescriptor]
    rfl
  · rw [exportTold, hpoints, hdescriptor]
    rfl

end ShellBackend

namespace RestBackend

variable {backend : RestBackend}

theorem aside_quotaRun {dataset : String} {quota : Quota} {trace : StorageTrace}
    {result : Except Failure Unit} (run : QuotaRun dataset quota trace result) :
    snapshotIds trace = [] ∧ mountPoints trace = [] := by
  cases run <;> exact ⟨rfl, rfl⟩

theorem aside_shareRun {placement : Placement} {path : String} {readOnly : Bool}
    {trace : StorageTrace} {result : Except Failure Unit}
    (run : ShareRun backend placement path readOnly trace result) :
    snapshotIds trace = [] ∧ mountPoints trace = [] := by
  cases run <;> exact ⟨rfl, rfl⟩

theorem snapped_of_makeRun {recorded after : Annotations} {placement : Placement} {size : Nat}
    {trace : StorageTrace} {info : Info}
    (run : MakeRun backend placement size recorded trace (after, .ok (some info))) :
    Snapped recorded after (snapshotIds trace) ∧
      (mountPoints trace).head? = info.mountPoint := by
  generalize hresult : (after, Except.ok (some info)) = result at run
  cases run with
  | fresh h run =>
    rw [Prod.mk.injEq] at hresult
    obtain ⟨rfl, rfl⟩ := hresult
    cases run with
    | mounted _ hmount =>
      refine ⟨snapped_nothing after, ?_⟩
      obtain ⟨point, hpoint⟩ := Option.isSome_iff_exists.mp hmount
      simp [mountPoints, hpoint]
    | lookedUp first hmount =>
      -- The dataset was made without a mount point, so the first that is told is the one looked up.
      refine ⟨snapped_nothing after, ?_⟩
      have hnone : first.mountPoint = none := Option.isNone_iff_eq_none.mp (by simpa using hmount)
      cases hpoint : info.mountPoint <;> simp [mountPoints, hnone, hpoint]
  | clone source h run =>
    subst hresult
    cases run with
    | @cloned now snapshot limiting limited found =>
      obtain ⟨hids, hpoints⟩ := aside_quotaRun limited
      constructor
      · change Snapped recorded _ (snapshot :: snapshotIds (limiting ++ _))
        rw [snapshotIds_append, hids]
        exact snapped_insert recorded snapshot
      · change (mountPoints (limiting ++ _)).head? = info.mountPoint
        rw [mountPoints_append, hpoints]
        cases hpoint : info.mountPoint <;> simp [mountPoints, hpoint]

theorem stamped_of_createRun {request after : Annotations} {size : Nat} {trace : StorageTrace}
    {descriptor : Descriptor}
    (run : CreateRun backend request size trace (after, .ok descriptor)) :
    ∃ uuid, Stamped (.rest backend) request after uuid trace descriptor := by
  obtain ⟨recorded, placement, making, sharing, last, info, h, rfl, make, shared, rfl,
    hdescriptor⟩ := created_of_createRun run
  obtain ⟨snapped, hpoints⟩ := snapped_of_makeRun make
  obtain ⟨hids, hquiet⟩ := aside_shareRun shared
  refine ⟨placement.uuid, stamped_of_snapped (.rest backend) h snapped
    (fun key hkey => Annotations.getElem?_insert_ne hkey.symm) hids hquiet ?_ ?_⟩
  · rw [hdescriptor]
    exact Std.ExtTreeMap.getElem?_insert_self
  · rw [exportTold, hpoints, hdescriptor]
    rfl

end RestBackend

/-- Whichever backend made a volume: what it leaves in the annotations. -/
theorem Backend.stamped_of_runs {backend : Backend} {request after : Annotations} {size : Nat}
    {trace : StorageTrace} {descriptor : Descriptor}
    (run : Program.Runs (backend.create request size) trace (after, some descriptor)) :
    ∃ uuid, Stamped backend request after uuid trace descriptor := by
  have tried := Backend.tried_of_created run
  cases backend with
  | shell b => exact ShellBackend.stamped_of_createRun (ShellBackend.runs_create.mp tried)
  | rest b => exact RestBackend.stamped_of_createRun (RestBackend.runs_create.mp tried)

end DatasetProvisioner.Storage
