import DatasetProvisioner.Proofs.Lookup
import DatasetProvisioner.Proofs.Places
import DatasetProvisioner.Storage.Placement

/-!
# Checked requests

What is known of a request that passed all checks of a backend, and which annotations the checks
write.
-/
namespace DatasetProvisioner.Storage

open Dataset

variable {layout : Layout} {annotations : Annotations}

/-- The keys that preparing a request may set. -/
def placeKeys : List String :=
  [Key.mountProtocol, Key.exportHost, Key.datasetPath, Key.exportPath, Key.managedProvider]

theorem volumeUuid_eq_ok_iff {uuid : Uuid} :
    volumeUuid annotations = .ok uuid ↔
      ∃ raw, annotations[Key.volumeUuid]? = some raw ∧ Uuid.ofString? raw = some uuid := by
  unfold volumeUuid
  cases hraw : annotations[Key.volumeUuid]? with
  | none => simp
  | some raw => cases huuid : Uuid.ofString? raw <;> simp [huuid]

/-- The identifier, the name and the clone source of a request are those of its annotations. -/
structure Placed (layout : Layout) (annotations : Annotations) (placement : Placement) : Prop where
  uuid : volumeUuid annotations = .ok placement.uuid
  named : annotations[Key.volumeRef]? = some placement.volumeRef
  source : (annotations[Key.cloneRef]? = none ∧ placement.source = none) ∨
    ∃ ref dataset, annotations[Key.cloneRef]? = some ref ∧ layout.cloneSource ref = .ok dataset ∧
      placement.source = some dataset

theorem placementOf_eq_ok_iff {placement : Placement} :
    placementOf layout annotations = .ok placement ↔ Placed layout annotations placement := by
  unfold placementOf
  constructor
  · intro h
    cases huuid : volumeUuid annotations with
    | error failure => simp [huuid, bind, Except.bind] at h
    | ok uuid =>
      cases hname : annotations[Key.volumeRef]? with
      | none => simp [huuid, hname, bind, Except.bind, throw, throwThe, MonadExceptOf.throw] at h
      | some volumeRef =>
        cases href : annotations[Key.cloneRef]? with
        | none =>
          simp only [huuid, hname, href, bind, Except.bind, pure, Except.pure,
            Except.ok.injEq] at h
          subst h
          exact ⟨huuid, hname, .inl ⟨href, rfl⟩⟩
        | some ref =>
          cases hsource : layout.cloneSource ref with
          | error fault =>
            simp [huuid, hname, href, hsource, bind, Except.bind, throw, throwThe,
              MonadExceptOf.throw] at h
          | ok dataset =>
            simp only [huuid, hname, href, hsource, bind, Except.bind, pure, Except.pure,
              Except.ok.injEq] at h
            subst h
            exact ⟨huuid, hname, .inr ⟨ref, dataset, href, hsource, rfl⟩⟩
  · intro h
    obtain ⟨uuid, volumeRef, source⟩ := placement
    obtain ⟨huuid, hname, ⟨href, rfl⟩ | ⟨ref, dataset, href, hsource, rfl⟩⟩ := h
    · simp only [huuid, hname, href, bind, Except.bind, pure, Except.pure]
    · simp only [huuid, hname, href, hsource, bind, Except.bind, pure, Except.pure]

/-- A volume that is mounted as a file system, or does not say how it is mounted. -/
structure Mountable (annotations : Annotations) : Prop where
  mounted : asksForBlock annotations = none
  exported : ∀ protocol, annotations[Key.mountProtocol]? = some protocol →
    Text.sameIgnoringCase protocol Layout.mountProtocol = true

theorem Mountable.congr {other : Annotations}
    (hmode : other[Key.volumeMode]? = annotations[Key.volumeMode]?)
    (hprotocol : other[Key.mountProtocol]? = annotations[Key.mountProtocol]?)
    (h : Mountable annotations) : Mountable other := by
  refine ⟨?_, fun protocol hgiven => h.exported protocol (hprotocol ▸ hgiven)⟩
  rw [asksForBlock, hmode]
  exact h.mounted

theorem checkVolumeRequest_of_mountable (h : Mountable annotations) :
    ∃ checked, checkVolumeRequest annotations = (checked, .ok ()) ∧
      ∀ key ∉ placeKeys, checked[key]? = annotations[key]? := by
  unfold checkVolumeRequest
  simp only [h.mounted]
  cases hprotocol : annotations[Key.mountProtocol]? with
  | none =>
    refine ⟨_, rfl, fun key hkey => Annotations.getElem?_insert_ne ?_⟩
    rintro rfl
    exact hkey (by decide)
  | some protocol =>
    simp only [h.exported protocol hprotocol, if_true]
    exact ⟨annotations, rfl, fun _ _ => rfl⟩

theorem mountable_of_checkVolumeRequest {checked : Annotations}
    (h : checkVolumeRequest annotations = (checked, .ok ())) : Mountable annotations := by
  unfold checkVolumeRequest at h
  cases hmode : asksForBlock annotations with
  | some mode => simp [hmode] at h
  | none =>
    refine ⟨hmode, fun protocol hprotocol => ?_⟩
    simp only [hmode, hprotocol] at h
    by_cases hsame : Text.sameIgnoringCase protocol Layout.mountProtocol = true
    · exact hsame
    · simp [hsame] at h

theorem getElem?_record {uuid : Uuid} {key : String} (free : key ∉ placeKeys) :
    (layout.record uuid annotations)[key]? = annotations[key]? := by
  have hne {place : String} (h : place ∈ placeKeys) : place ≠ key := fun heq => free (heq ▸ h)
  rw [Layout.record, Annotations.getElem?_insert_ne (hne (by decide)),
    Annotations.getElem?_insert_ne (hne (by decide)),
    Annotations.getElem?_insert_ne (hne (by decide)),
    Annotations.getElem?_insert_ne (hne (by decide))]

theorem exportPath_record {uuid : Uuid} :
    (layout.record uuid annotations)[Key.exportPath]? = some (layout.exportPath uuid) := by
  rw [Layout.record, Annotations.getElem?_insert_ne (by decide)]
  exact Std.ExtTreeMap.getElem?_insert_self

/-- A request that passed all checks: what it places, and what was written for it. -/
structure Prepared (layout : Layout) (annotations recorded : Annotations) (placement : Placement) :
    Prop where
  mountable : Mountable annotations
  placed : Placed layout annotations placement
  frame : ∀ key ∉ placeKeys, recorded[key]? = annotations[key]?
  exportPath : recorded[Key.exportPath]? = some (layout.exportPath placement.uuid)

theorem Placed.congr {checked : Annotations} {placement : Placement}
    (frame : ∀ key ∉ placeKeys, checked[key]? = annotations[key]?)
    (placed : Placed layout checked placement) : Placed layout annotations placement := by
  obtain ⟨huuid, hname, hsource⟩ := placed
  refine ⟨?_, ?_, ?_⟩
  · rw [volumeUuid_eq_ok_iff, frame Key.volumeUuid (by decide)] at huuid
    exact volumeUuid_eq_ok_iff.mpr huuid
  · rw [← hname, frame Key.volumeRef (by decide)]
  · rw [frame Key.cloneRef (by decide)] at hsource
    exact hsource

theorem prepared_of_prepare {recorded : Annotations} {placement : Placement}
    (h : prepare layout annotations = (recorded, .ok placement)) :
    Prepared layout annotations recorded placement := by
  unfold prepare at h
  rcases hcheck : checkVolumeRequest annotations with ⟨checked, failure | _⟩
  · simp [hcheck] at h
  · have hmountable := mountable_of_checkVolumeRequest hcheck
    obtain ⟨checked', hcheck', hframe⟩ := checkVolumeRequest_of_mountable hmountable
    rw [hcheck, Prod.mk.injEq] at hcheck'
    obtain ⟨rfl, -⟩ := hcheck'
    simp only [hcheck] at h
    cases hplacement : placementOf layout checked with
    | error failure => simp [hplacement] at h
    | ok placed =>
      simp only [hplacement, Prod.mk.injEq, Except.ok.injEq] at h
      obtain ⟨rfl, rfl⟩ := h
      refine ⟨hmountable, (placementOf_eq_ok_iff.mp hplacement).congr hframe, ?_,
        exportPath_record⟩
      intro key hkey
      rw [getElem?_record hkey, hframe key hkey]

/-- Every request that is mountable and placed passes all checks. -/
theorem exists_prepare {placement : Placement} (mountable : Mountable annotations)
    (placed : Placed layout annotations placement) :
    ∃ recorded, prepare layout annotations = (recorded, .ok placement) := by
  obtain ⟨checked, hcheck, hframe⟩ := checkVolumeRequest_of_mountable mountable
  have hplaced : Placed layout checked placement :=
    placed.congr fun key hkey => (hframe key hkey).symm
  unfold prepare
  simp only [hcheck, placementOf_eq_ok_iff.mpr hplaced]
  exact ⟨_, rfl⟩

end DatasetProvisioner.Storage
