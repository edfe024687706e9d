import DatasetProvisioner.Proofs.Lookup
import DatasetProvisioner.Reconciler.Claims

/-!
# The working set of an attempt

What the annotations hold with which an attempt to make a volume begins: the marks that the
controller sets, and under all other keys what the claim supplies and may supply.
-/
namespace DatasetProvisioner.Reconciler

variable {identity : String} {event : ClaimEvent} {provider : Provider} {uuid : Uuid}

/-- The keys of a working set that the controller sets itself. -/
def ownKeys : List String :=
  [Key.managedBy, Key.volumeUuid, Key.storageClass, Key.volumeMode]

/-- What the claim supplies to the working set, less what it may not set. -/
def allowed (event : ClaimEvent) (provider : Provider) : Annotations :=
  (Annotations.withhold provider.blocked.toList
    (Annotations.ofClaim event.claimNamespace event.claimName event.annotations).stripInternal).2

theorem getElem?_allowed (key : String) :
    (allowed event provider)[key]? =
      if key ∈ Key.internalOnly ∨ key ∈ provider.blocked then none
      else (Annotations.ofClaim event.claimNamespace event.claimName event.annotations)[key]? := by
  rw [allowed, Annotations.getElem?_withhold, Annotations.stripInternal,
    Annotations.getElem?_eraseAll]
  by_cases hblocked : key ∈ provider.blocked
  · rw [if_pos (Std.ExtTreeSet.mem_toList.mpr hblocked), if_pos (.inr hblocked)]
  · rw [if_neg fun h => hblocked (Std.ExtTreeSet.mem_toList.mp h)]
    simp only [hblocked, or_false]

theorem workingSet_eq :
    workingSet identity event provider uuid =
      let owned := (allowed event provider).insert Key.managedBy identity
        |>.insert Key.volumeUuid uuid.toString
        |>.insert Key.storageClass provider.storageClass
      match event.volumeMode with
      | some mode => owned.insert Key.volumeMode mode
      | none => owned :=
  rfl

/-- Under every other key, a working set holds what the claim supplies. -/
theorem getElem?_workingSet {key : String} (free : key ∉ ownKeys) :
    (workingSet identity event provider uuid)[key]? = (allowed event provider)[key]? := by
  have hne {own : String} (h : own ∈ ownKeys) : own ≠ key := fun heq => free (heq ▸ h)
  rw [workingSet_eq]
  cases event.volumeMode with
  | none =>
    rw [Annotations.getElem?_insert_ne (hne (by decide)),
      Annotations.getElem?_insert_ne (hne (by decide)),
      Annotations.getElem?_insert_ne (hne (by decide))]
  | some mode =>
    rw [Annotations.getElem?_insert_ne (hne (by decide)),
      Annotations.getElem?_insert_ne (hne (by decide)),
      Annotations.getElem?_insert_ne (hne (by decide)),
      Annotations.getElem?_insert_ne (hne (by decide))]

/-- What identifies a volume and its owner in a set of annotations. -/
structure Marked (identity : String) (provider : Provider) (uuid : Uuid)
    (annotations : Annotations) : Prop where
  owner : annotations[Key.managedBy]? = some identity
  volume : annotations[Key.volumeUuid]? = some uuid.toString
  storageClass : annotations[Key.storageClass]? = some provider.storageClass

theorem Marked.insert {annotations : Annotations} {key value : String}
    (marked : Marked identity provider uuid annotations)
    (free : key ≠ Key.managedBy ∧ key ≠ Key.volumeUuid ∧ key ≠ Key.storageClass) :
    Marked identity provider uuid (annotations.insert key value) := by
  obtain ⟨hmanaged, huuid, hclass⟩ := free
  constructor
  · rw [Annotations.getElem?_insert_ne hmanaged, marked.owner]
  · rw [Annotations.getElem?_insert_ne huuid, marked.volume]
  · rw [Annotations.getElem?_insert_ne hclass, marked.storageClass]

theorem marked_workingSet :
    Marked identity provider uuid (workingSet identity event provider uuid) := by
  have owned : Marked identity provider uuid ((allowed event provider).insert Key.managedBy identity
      |>.insert Key.volumeUuid uuid.toString
      |>.insert Key.storageClass provider.storageClass) := by
    constructor
    · rw [Annotations.getElem?_insert_ne (by decide), Annotations.getElem?_insert_ne (by decide)]
      exact Std.ExtTreeMap.getElem?_insert_self
    · rw [Annotations.getElem?_insert_ne (by decide)]
      exact Std.ExtTreeMap.getElem?_insert_self
    · exact Std.ExtTreeMap.getElem?_insert_self
  rw [workingSet_eq]
  cases event.volumeMode with
  | none => exact owned
  | some mode => exact owned.insert (by decide)

end DatasetProvisioner.Reconciler
