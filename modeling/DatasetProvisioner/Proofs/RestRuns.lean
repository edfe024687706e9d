import DatasetProvisioner.Proofs.ShellRuns
import DatasetProvisioner.Storage.RestBackend

/-!
# What the management backend can do

The runs of a creation and of a removal through the management interface, read off once, for any
answers of that interface.
-/
namespace DatasetProvisioner.Storage.RestBackend

open Dataset

variable {backend : RestBackend}

theorem runs_management {α : Type} {c : Management.Call} {next : c.Answer → Program interface α}
    {trace : StorageTrace} {a : α} :
    Program.Runs (call c >>= next) trace a ↔
      ∃ answer rest, trace = onManagement c answer :: rest ∧ Program.Runs (next answer) rest a :=
  Program.runs_ask (I := interface) (c := .management c)

theorem runs_oneCall {c : Management.Call} {trace : StorageTrace} {answer : c.Answer} :
    Program.Runs (call c) trace answer ↔ trace = [onManagement c answer] :=
  Program.runs_call (I := interface) (c := .management c)

def requestFor (backend : RestBackend) (placement : Placement) (size : Nat) (options : Options) :
    Request where
  name := backend.layout.datasetPath placement.uuid
  volumeRef := placement.volumeRef
  quota := backend.quotaFor options size
  options := options

inductive FreshRun (backend : RestBackend) (placement : Placement) (size : Nat)
    (options : Options) : StorageTrace → Except Failure (Option Info) → Prop where
  | rejected (failure : Failure) :
    FreshRun backend placement size options
      [onManagement (.createDataset (backend.requestFor placement size options)) (.error failure)]
      (.error failure)
  | mounted (info : Info) (h : info.mountPoint.isSome = true) :
    FreshRun backend placement size options
      [onManagement (.createDataset (backend.requestFor placement size options)) (.ok info)]
      (.ok (some info))
  | lookedUp (info : Info) (h : info.mountPoint.isSome = false)
      (found : Except Failure (Option Info)) :
    FreshRun backend placement size options
      [onManagement (.createDataset (backend.requestFor placement size options)) (.ok info),
        onManagement (.getDataset (backend.layout.datasetPath placement.uuid)) found]
      found

theorem runs_makeFresh {placement : Placement} {size : Nat} {options : Options}
    {trace : StorageTrace} {result : Except Failure (Option Info)} :
    Program.Runs (backend.makeFresh placement size options) trace result ↔
      FreshRun backend placement size options trace result := by
  unfold makeFresh
  constructor
  · intro run
    obtain ⟨answer, rest, rfl, hafter⟩ := runs_management.mp run
    rcases answer with failure | info
    · obtain ⟨rfl, rfl⟩ := Program.runs_pure.mp hafter
      exact .rejected failure
    · cases hmount : info.mountPoint.isSome with
      | true =>
        simp only [hmount, if_true] at hafter
        obtain ⟨rfl, rfl⟩ := Program.runs_pure.mp hafter
        exact .mounted info hmount
      | false =>
        simp only [hmount, Bool.false_eq_true, if_false] at hafter
        rw [runs_oneCall.mp hafter]
        exact .lookedUp info hmount result
  · intro run
    cases run with
    | rejected failure => exact runs_management.mpr ⟨.error failure, [], rfl, .done _⟩
    | mounted info h =>
      refine runs_management.mpr ⟨.ok info, [], rfl, ?_⟩
      simp only [h, if_true]
      exact .done _
    | lookedUp info h =>
      refine runs_management.mpr ⟨.ok info, _, rfl, ?_⟩
      simp only [h, Bool.false_eq_true, if_false]
      exact runs_oneCall.mpr rfl

inductive QuotaRun (dataset : String) (quota : Quota) :
    StorageTrace → Except Failure Unit → Prop where
  | unlimited (h : quota.isEmpty = true) : QuotaRun dataset quota [] (.ok ())
  | imposed (h : quota.isEmpty = false) (answer : Except Failure Unit) :
    QuotaRun dataset quota [onManagement (.updateQuota dataset quota) answer] answer

theorem runs_imposeQuota {dataset : String} {quota : Quota} {trace : StorageTrace}
    {result : Except Failure Unit} :
    Program.Runs (imposeQuota dataset quota) trace result ↔
      QuotaRun dataset quota trace result := by
  unfold imposeQuota
  constructor
  · intro run
    cases hempty : quota.isEmpty with
    | true =>
      simp only [hempty, if_true] at run
      obtain ⟨rfl, rfl⟩ := Program.runs_done.mp run
      exact .unlimited hempty
    | false =>
      simp only [hempty, Bool.false_eq_true, if_false] at run
      rw [runs_oneCall.mp run]
      exact .imposed hempty result
  · intro run
    cases run with
    | unlimited h =>
      simp only [h, if_true]
      exact .done _
    | imposed h =>
      simp only [h, Bool.false_eq_true, if_false]
      exact runs_oneCall.mpr rfl

/-- Making a dataset as a clone: a snapshot is taken, cloned, limited and looked up. The snapshot
is recorded under the name that the interface gives it. -/
inductive CloneRun (backend : RestBackend) (placement : Placement) (source : String) (size : Nat)
    (options : Options) (annotations : Annotations) :
    StorageTrace → Annotations × Except Failure (Option Info) → Prop where
  | unsnapped (now : Timestamp) (failure : Failure) :
    CloneRun backend placement source size options annotations
      [onStorageClock now,
        onManagement (.createSnapshot source (Snapshot.name placement.volumeRef now)
          placement.volumeRef) (.error failure)]
      (annotations, .error failure)
  | uncloned (now : Timestamp) (snapshot : String) (failure : Failure) :
    CloneRun backend placement source size options annotations
      [onStorageClock now,
        onManagement (.createSnapshot source (Snapshot.name placement.volumeRef now)
          placement.volumeRef) (.ok snapshot),
        onManagement (.cloneSnapshot snapshot (backend.layout.datasetPath placement.uuid))
          (.error failure)]
      (annotations.insert Key.cloneSnapshot snapshot, .error failure)
  | unlimited (now : Timestamp) (snapshot : String) {limiting : StorageTrace} {failure : Failure}
      (run : QuotaRun (backend.layout.datasetPath placement.uuid) (backend.quotaFor options size)
        limiting (.error failure)) :
    CloneRun backend placement source size options annotations
      (onStorageClock now ::
        onManagement (.createSnapshot source (Snapshot.name placement.volumeRef now)
          placement.volumeRef) (.ok snapshot) ::
        onManagement (.cloneSnapshot snapshot (backend.layout.datasetPath placement.uuid))
          (.ok ()) :: limiting)
      (annotations.insert Key.cloneSnapshot snapshot, .error failure)
  | cloned (now : Timestamp) (snapshot : String) {limiting : StorageTrace}
      (run : QuotaRun (backend.layout.datasetPath placement.uuid) (backend.quotaFor options size)
        limiting (.ok ()))
      (found : Except Failure (Option Info)) :
    CloneRun backend placement source size options annotations
      (onStorageClock now ::
        onManagement (.createSnapshot source (Snapshot.name placement.volumeRef now)
          placement.volumeRef) (.ok snapshot) ::
        onManagement (.cloneSnapshot snapshot (backend.layout.datasetPath placement.uuid))
          (.ok ()) ::
        (limiting ++
          [onManagement (.getDataset (backend.layout.datasetPath placement.uuid)) found]))
      (annotations.insert Key.cloneSnapshot snapshot, found)

theorem runs_makeClone {placement : Placement} {source : String} {size : Nat} {options : Options}
    {annotations : Annotations} {trace : StorageTrace}
    {result : Annotations × Except Failure (Option Info)} :
    Program.Runs (backend.makeClone placement source size options annotations) trace result ↔
      CloneRun backend placement source size options annotations trace result := by
  unfold makeClone
  constructor
  · intro run
    obtain ⟨now, _, rfl, hsnapshot⟩ := runs_storageCall.mp run
    obtain ⟨taken, _, rfl, hclone⟩ := runs_management.mp hsnapshot
    rcases taken with failure | snapshot
    · obtain ⟨rfl, rfl⟩ := Program.runs_pure.mp hclone
      exact .unsnapped now failure
    · obtain ⟨copied, _, rfl, hlimit⟩ := runs_management.mp hclone
      rcases copied with failure | _
      · obtain ⟨rfl, rfl⟩ := Program.runs_pure.mp hlimit
        exact .uncloned now snapshot failure
      · obtain ⟨limiting, limited, _, rfl, hquota, hfind⟩ := Program.runs_bind.mp hlimit
        have hquota := runs_imposeQuota.mp hquota
        rcases limited with failure | _
        · obtain ⟨rfl, rfl⟩ := Program.runs_pure.mp hfind
          rw [List.append_nil]
          exact .unlimited now snapshot hquota
        · obtain ⟨found, _, rfl, hlast⟩ := runs_management.mp hfind
          obtain ⟨rfl, rfl⟩ := Program.runs_pure.mp hlast
          exact .cloned now snapshot hquota found
  · intro run
    cases run with
    | unsnapped now failure =>
      refine runs_storageCall.mpr ⟨now, _, rfl, ?_⟩
      exact runs_management.mpr ⟨.error failure, [], rfl, .done _⟩
    | uncloned now snapshot failure =>
      refine runs_storageCall.mpr ⟨now, _, rfl, ?_⟩
      refine runs_management.mpr ⟨.ok snapshot, _, rfl, ?_⟩
      exact runs_management.mpr ⟨.error failure, [], rfl, .done _⟩
    | @unlimited now snapshot limiting failure hquota =>
      refine runs_storageCall.mpr ⟨now, _, rfl, ?_⟩
      refine runs_management.mpr ⟨.ok snapshot, _, rfl, ?_⟩
      refine runs_management.mpr ⟨.ok (), _, rfl, ?_⟩
      rw [← List.append_nil limiting]
      exact (runs_imposeQuota.mpr hquota).bind (.done _)
    | cloned now snapshot hquota found =>
      refine runs_storageCall.mpr ⟨now, _, rfl, ?_⟩
      refine runs_management.mpr ⟨.ok snapshot, _, rfl, ?_⟩
      refine runs_management.mpr ⟨.ok (), _, rfl, ?_⟩
      refine (runs_imposeQuota.mpr hquota).bind ?_
      exact runs_management.mpr ⟨found, [], rfl, .done _⟩

/-- Making the dataset of a volume, fresh or as a clone. -/
inductive MakeRun (backend : RestBackend) (placement : Placement) (size : Nat)
    (annotations : Annotations) :
    StorageTrace → Annotations × Except Failure (Option Info) → Prop where
  | fresh (h : placement.source = none) {trace : StorageTrace}
      {found : Except Failure (Option Info)}
      (run : FreshRun backend placement size (Options.ofAnnotations annotations) trace found) :
    MakeRun backend placement size annotations trace (annotations, found)
  | clone (source : String) (h : placement.source = some source) {trace : StorageTrace}
      {result : Annotations × Except Failure (Option Info)}
      (run : CloneRun backend placement source size (Options.ofAnnotations annotations)
        annotations trace result) :
    MakeRun backend placement size annotations trace result

theorem runs_makeDataset {placement : Placement} {size : Nat} {annotations : Annotations}
    {trace : StorageTrace} {result : Annotations × Except Failure (Option Info)} :
    Program.Runs (backend.makeDataset placement size annotations) trace result ↔
      MakeRun backend placement size annotations trace result := by
  unfold makeDataset
  constructor
  · intro run
    cases hsource : placement.source with
    | none =>
      simp only [hsource] at run
      obtain ⟨making, found, _, rfl, hmake, hafter⟩ := Program.runs_bind.mp run
      obtain ⟨rfl, rfl⟩ := Program.runs_pure.mp hafter
      rw [List.append_nil]
      exact .fresh hsource (runs_makeFresh.mp hmake)
    | some source =>
      simp only [hsource] at run
      exact .clone source hsource (runs_makeClone.mp run)
  · intro run
    cases run with
    | fresh h hmade =>
      simp only [h]
      rw [← List.append_nil trace]
      exact (runs_makeFresh.mpr hmade).bind (.done _)
    | clone source h hmade =>
      simp only [h]
      exact runs_makeClone.mpr hmade

/-- Sharing a dataset, then setting the permissions of its export. -/
inductive ShareRun (backend : RestBackend) (placement : Placement) (path : String)
    (readOnly : Bool) : StorageTrace → Except Failure Unit → Prop where
  | unshared (failure : Failure) :
    ShareRun backend placement path readOnly
      [onManagement (.createShare path readOnly (comment placement.volumeRef)) (.error failure)]
      (.error failure)
  | shared (h : backend.unixMode = none) :
    ShareRun backend placement path readOnly
      [onManagement (.createShare path readOnly (comment placement.volumeRef)) (.ok ())] (.ok ())
  | opened (mode : Nat) (h : backend.unixMode = some mode) (answer : Except Failure Unit) :
    ShareRun backend placement path readOnly
      [onManagement (.createShare path readOnly (comment placement.volumeRef)) (.ok ()),
        onManagement (.setMode path mode) answer]
      answer

theorem runs_share {placement : Placement} {path : String} {readOnly : Bool}
    {trace : StorageTrace} {result : Except Failure Unit} :
    Program.Runs (backend.share placement path readOnly) trace result ↔
      ShareRun backend placement path readOnly trace result := by
  unfold share
  constructor
  · intro run
    obtain ⟨answer, rest, rfl, hafter⟩ := runs_management.mp run
    rcases answer with failure | _
    · obtain ⟨rfl, rfl⟩ := Program.runs_pure.mp hafter
      exact .unshared failure
    · cases hmode : backend.unixMode with
      | none =>
        simp only [hmode] at hafter
        obtain ⟨rfl, rfl⟩ := Program.runs_pure.mp hafter
        exact .shared hmode
      | some mode =>
        simp only [hmode] at hafter
        rw [runs_oneCall.mp hafter]
        exact .opened mode hmode result
  · intro run
    cases run with
    | unshared failure => exact runs_management.mpr ⟨.error failure, [], rfl, .done _⟩
    | shared h =>
      refine runs_management.mpr ⟨.ok (), [], rfl, ?_⟩
      simp only [h]
      exact .done _
    | opened mode h =>
      refine runs_management.mpr ⟨.ok (), _, rfl, ?_⟩
      simp only [h]
      exact runs_oneCall.mpr rfl

/-- Where the volume of a request is exported: at its mount point, or else at the place that the
layout gives it. -/
def exportOf (backend : RestBackend) (placement : Placement) (info : Info) : String :=
  info.mountPoint.getD (backend.layout.exportPath placement.uuid)

def described (backend : RestBackend) (placement : Placement) (info : Info) : Descriptor where
  exportHost := backend.layout.host
  exportPath := backend.exportOf placement info
  readOnly := info.readOnly
  assignedName := placement.volumeRef
  reclaimPolicy := none

/-- Making a volume: nothing is called for a request that fails a check. -/
inductive CreateRun (backend : RestBackend) (annotations : Annotations) (size : Nat) :
    StorageTrace → Annotations × Except Failure Descriptor → Prop where
  | unready (after : Annotations) (failure : Failure)
      (h : prepare backend.layout annotations = (after, .error failure)) :
    CreateRun backend annotations size [] (after, .error failure)
  | unmade (recorded : Annotations) (placement : Placement)
      (h : prepare backend.layout annotations = (recorded, .ok placement))
      {making : StorageTrace} {after : Annotations} {failure : Failure}
      (run : MakeRun backend placement size recorded making (after, .error failure)) :
    CreateRun backend annotations size making (after, .error failure)
  | missing (recorded : Annotations) (placement : Placement)
      (h : prepare backend.layout annotations = (recorded, .ok placement))
      {making : StorageTrace} {after : Annotations}
      (run : MakeRun backend placement size recorded making (after, .ok none)) :
    CreateRun backend annotations size making (after, .error (backend.notFound placement.uuid))
  | made (recorded : Annotations) (placement : Placement)
      (h : prepare backend.layout annotations = (recorded, .ok placement))
      {making sharing : StorageTrace} {after : Annotations} {info : Info}
      {result : Except Failure Unit}
      (run : MakeRun backend placement size recorded making (after, .ok (some info)))
      (shared : ShareRun backend placement (backend.exportOf placement info) info.readOnly sharing
        result) :
    CreateRun backend annotations size (making ++ sharing)
      (after.insert Key.exportPath (backend.exportOf placement info),
        result.map fun _ => backend.described placement info)

theorem runs_create {annotations : Annotations} {size : Nat} {trace : StorageTrace}
    {result : Annotations × Except Failure Descriptor} :
    Program.Runs (backend.create annotations size) trace result ↔
      CreateRun backend annotations size trace result := by
  unfold create
  constructor
  · intro run
    rcases hprepare : prepare backend.layout annotations with ⟨recorded, failure | placement⟩
    · simp only [hprepare] at run
      obtain ⟨rfl, rfl⟩ := Program.runs_done.mp run
      exact .unready recorded failure hprepare
    · simp only [hprepare] at run
      obtain ⟨making, ⟨after, made⟩, rest, rfl, hmake, hafter⟩ := Program.runs_bind.mp run
      have hmade := runs_makeDataset.mp hmake
      rcases made with failure | _ | info
      · obtain ⟨rfl, rfl⟩ := Program.runs_pure.mp hafter
        rw [List.append_nil]
        exact .unmade recorded placement hprepare hmade
      · obtain ⟨rfl, rfl⟩ := Program.runs_pure.mp hafter
        rw [List.append_nil]
        exact .missing recorded placement hprepare hmade
      · obtain ⟨sharing, shared, last, rfl, hshare, hlast⟩ := Program.runs_bind.mp hafter
        have hshared := runs_share.mp hshare
        rcases shared with failure | _
        · obtain ⟨rfl, rfl⟩ := Program.runs_pure.mp hlast
          rw [List.append_nil]
          exact .made recorded placement hprepare hmade hshared
        · obtain ⟨rfl, rfl⟩ := Program.runs_pure.mp hlast
          rw [List.append_nil]
          exact .made recorded placement hprepare hmade hshared
  · intro run
    cases run with
    | unready after failure h =>
      simp only [h]
      exact .done _
    | unmade recorded placement h hmade =>
      simp only [h]
      rw [← List.append_nil trace]
      exact (runs_makeDataset.mpr hmade).bind (.done _)
    | missing recorded placement h hmade =>
      simp only [h]
      rw [← List.append_nil trace]
      exact (runs_makeDataset.mpr hmade).bind (.done _)
    | @made recorded placement h making sharing after info shared hmade hshared =>
      simp only [h]
      refine (runs_makeDataset.mpr hmade).bind ?_
      rw [← List.append_nil sharing]
      refine (runs_share.mpr hshared).bind ?_
      rcases shared with failure | _
      · exact .done _
      · exact .done _

/-- What a creation that succeeds is made of. -/
theorem created_of_createRun {annotations after : Annotations} {size : Nat} {trace : StorageTrace}
    {descriptor : Descriptor}
    (run : CreateRun backend annotations size trace (after, .ok descriptor)) :
    ∃ recorded placement making sharing last info,
      prepare backend.layout annotations = (recorded, .ok placement) ∧ trace = making ++ sharing ∧
      MakeRun backend placement size recorded making (last, .ok (some info)) ∧
      ShareRun backend placement (backend.exportOf placement info) info.readOnly sharing
        (.ok ()) ∧
      after = last.insert Key.exportPath (backend.exportOf placement info) ∧
      descriptor = backend.described placement info := by
  generalize hresult : (after, Except.ok descriptor) = result at run
  cases run with
  | unready => simp at hresult
  | unmade => simp at hresult
  | missing => simp at hresult
  | @made recorded placement h making sharing last info shared run opened =>
    rw [Prod.mk.injEq] at hresult
    obtain ⟨rfl, hdone⟩ := hresult
    rcases shared with failure | _
    · cases hdone
    · exact ⟨recorded, placement, making, sharing, last, info, h, rfl, run, opened, rfl,
        Except.ok.inj hdone⟩

/-! ## Removal -/

inductive UnshareRun : List Int → StorageTrace → Prop where
  | nil : UnshareRun [] []
  | cons (id : Int) (answer : Except Failure Unit) {ids : List Int} {trace : StorageTrace}
      (rest : UnshareRun ids trace) :
    UnshareRun (id :: ids) (onManagement (.deleteShare id) answer :: trace)

theorem unshareRun_of_runs {ids : List Int} {trace : StorageTrace} {result : Unit}
    (run : Program.Runs (deleteShares ids) trace result) : UnshareRun ids trace := by
  induction ids generalizing trace with
  | nil =>
    obtain ⟨rfl, -⟩ := Program.runs_done.mp run
    exact .nil
  | cons id ids ih =>
    obtain ⟨answer, rest, rfl, hrest⟩ := runs_management.mp run
    exact .cons id answer (ih hrest)

/-- Searching the shares of an export and deleting those that are found. -/
inductive SearchRun (path : String) : StorageTrace → Prop where
  | unsearched (failure : Failure) :
    SearchRun path [onManagement (.findShares path) (.error failure)]
  | searched (ids : List Int) {deleting : StorageTrace} (run : UnshareRun ids deleting) :
    SearchRun path (onManagement (.findShares path) (.ok ids) :: deleting)

/-- Deleting the snapshot recorded for a volume, if one is. -/
inductive UnsnapRun : Option String → StorageTrace → Prop where
  | none : UnsnapRun none []
  | some (snapshot : String) (answer : Except Failure Unit) :
    UnsnapRun (some snapshot) [onManagement (.deleteSnapshot snapshot) answer]

/-- The export of a volume as its annotations have it. -/
def exportIn (backend : RestBackend) (annotations : Annotations) (uuid : Uuid) : String :=
  annotations[Key.exportPath]?.getD (backend.layout.exportPath uuid)

/-- Removing a volume: its shares, its dataset, then the snapshot recorded for it. -/
inductive RemoveRun (backend : RestBackend) (annotations : Annotations) :
    StorageTrace → Except Failure Unit → Prop where
  | unnamed (failure : Failure) (h : volumeUuid annotations = .error failure) :
    RemoveRun backend annotations [] (.error failure)
  | removed (uuid : Uuid) (h : volumeUuid annotations = .ok uuid) {searching : StorageTrace}
      (search : SearchRun (backend.exportIn annotations uuid) searching)
      (answer : Except Failure Unit) {last : StorageTrace}
      (snapshot : UnsnapRun (removableSnapshot backend.layout annotations) last) :
    RemoveRun backend annotations
      (searching ++
        onManagement (.deleteDataset (backend.layout.datasetPath uuid)) answer :: last)
      (.ok ())

/-- The part of a removal that follows the search for shares. -/
def removeDataset (backend : RestBackend) (annotations : Annotations) (uuid : Uuid) :
    Program interface (Except Failure Unit) := do
  let _ ← call (.deleteDataset (backend.layout.datasetPath uuid))
  match removableSnapshot backend.layout annotations with
  | none => return .ok ()
  | some snapshot =>
    let _ ← call (.deleteSnapshot snapshot)
    return .ok ()

theorem removeRun_of_searched {annotations : Annotations} {uuid : Uuid}
    (huuid : volumeUuid annotations = .ok uuid) {searching rest : StorageTrace}
    (search : SearchRun (backend.exportIn annotations uuid) searching)
    {result : Except Failure Unit}
    (run : Program.Runs (backend.removeDataset annotations uuid) rest result) :
    RemoveRun backend annotations (searching ++ rest) result := by
  obtain ⟨answer, rest, rfl, hsnapshot⟩ := runs_management.mp run
  cases hrecorded : removableSnapshot backend.layout annotations with
  | none =>
    simp only [hrecorded] at hsnapshot
    obtain ⟨rfl, rfl⟩ := Program.runs_pure.mp hsnapshot
    exact .removed uuid huuid search answer (hrecorded ▸ .none)
  | some snapshot =>
    simp only [hrecorded] at hsnapshot
    obtain ⟨deleted, rest, rfl, hdone⟩ := runs_management.mp hsnapshot
    obtain ⟨rfl, rfl⟩ := Program.runs_pure.mp hdone
    exact .removed uuid huuid search answer (hrecorded ▸ .some snapshot deleted)

theorem removeRun_of_runs {annotations : Annotations} {trace : StorageTrace}
    {result : Except Failure Unit}
    (run : Program.Runs (backend.remove annotations) trace result) :
    RemoveRun backend annotations trace result := by
  unfold remove at run
  cases huuid : volumeUuid annotations with
  | error failure =>
    simp only [huuid] at run
    obtain ⟨rfl, rfl⟩ := Program.runs_done.mp run
    exact .unnamed failure huuid
  | ok uuid =>
    simp only [huuid] at run
    obtain ⟨found, rest, rfl, hsearch⟩ := runs_management.mp run
    rcases found with failure | ids
    · exact removeRun_of_searched huuid (.unsearched failure) hsearch
    · obtain ⟨deleting, _, rest, rfl, hdelete, hrest⟩ := Program.runs_bind.mp hsearch
      exact removeRun_of_searched huuid (.searched ids (unshareRun_of_runs hdelete)) hrest

end DatasetProvisioner.Storage.RestBackend
