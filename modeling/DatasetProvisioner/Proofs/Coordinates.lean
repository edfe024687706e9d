import DatasetProvisioner.Proofs.Ownership
import DatasetProvisioner.Proofs.Templates

/-!
# Where a volume says it comes from

A volume object carries the namespace and the name of its claim, and a name in the default format
is made of them. They are put into the working set before the claim's own annotations are, so what
a claim supplies under the same keys takes their place, and a class that denies the keys takes the
true values away. Here is what a volume object has in their place, and when it is the truth.
-/
namespace DatasetProvisioner

open Storage

/-- A backend names a volume as it was asked to. -/
theorem Storage.Backend.named_of_runs {backend : Backend} {request after : Annotations}
    {size : Nat} {trace : StorageTrace} {descriptor : Descriptor}
    (run : Program.Runs (backend.create request size) trace (after, some descriptor)) :
    request[Key.volumeRef]? = some descriptor.assignedName := by
  have tried := Backend.tried_of_created run
  cases backend with
  | shell b =>
    obtain ⟨recorded, placement, making, setting, set, h, -, -, -, rfl⟩ :=
      ShellBackend.created_of_createRun (ShellBackend.runs_create.mp tried)
    exact (prepared_of_prepare h).placed.named
  | rest b =>
    obtain ⟨recorded, placement, making, sharing, last, info, h, -, -, -, -, rfl⟩ :=
      RestBackend.created_of_createRun (RestBackend.runs_create.mp tried)
    exact (prepared_of_prepare h).placed.named

namespace Reconciler

open Manifest NameTemplate

variable {settings : Settings} {event : ClaimEvent} {provider : Provider} {uuid : Uuid}
  {scope : TransientScope} {after : Annotations} {descriptor : Descriptor} {whole : PeerTrace}
  {volume : Volume}

/-! ## Names -/

theorem volumeTag_of_scopeRun {reads : Trace}
    (run : ScopeRun settings event provider (opened settings event provider uuid) reads
      (.ok scope)) :
    scope.annotations[Key.volumeTag]? = some (volumeTag uuid) := by
  have tagged : (opened settings event provider uuid).annotations[Key.volumeTag]? =
      some (volumeTag uuid) :=
    Std.ExtTreeMap.getElem?_insert_self
  cases run with
  | plain => exact tagged
  | resolved => exact (Annotations.getElem?_insert_ne (by decide)).trans tagged

theorem getElem?_scope {reads : Trace}
    (run : ScopeRun settings event provider (opened settings event provider uuid) reads (.ok scope))
    {key : String} (free : key ∉ attemptKeys) :
    scope.annotations[key]? = (workingSet settings.identity event provider uuid)[key]? := by
  have hne : Key.volumeRef ≠ key := by
    rintro rfl
    exact free (by decide)
  rw [← (attempt_of_scopeRun run).lookup key free]
  exact (Annotations.getElem?_insert_ne hne).symm

/-- A volume object has the name that the template gives for what its attempt began with. -/
theorem Making.name (making : Making settings event provider uuid scope after descriptor whole
    volume) : volume.metadata.name = some (render provider.nameFormat scope.annotations) := by
  obtain ⟨before, made, later, -, -, -, hcreate⟩ := making.created
  have named := Backend.named_of_runs hcreate
  have asked : (requested provider scope).annotations[Key.volumeRef]? =
      some (render provider.nameFormat scope.annotations) :=
    Std.ExtTreeMap.getElem?_insert_self
  rw [making.object]
  exact named.symm.trans asked

/-! ## Coordinates -/

/-- What a volume object has under the key of a coordinate, of which `own` is the true value. -/
def coordinate (event : ClaimEvent) (provider : Provider) (key own : String) : Option String :=
  if key ∈ provider.blocked then none else some (event.annotations[key]?.getD own)

/-- The name in the default format: a coordinate that is denied leaves its placeholder. -/
def defaultName (event : ClaimEvent) (provider : Provider) (uuid : Uuid) : String :=
  provider.storageClass ++ "-" ++
    (coordinate event provider Key.claimNamespace event.claimNamespace).getD
      (placeholder Key.claimNamespace) ++ "-" ++
    (coordinate event provider Key.claimName event.claimName).getD (placeholder Key.claimName) ++
    "-" ++ volumeTag uuid

theorem coordinate_allowed {key own : String} (kept : key ∉ Annotations.renamedKeys)
    (external : key ∉ Key.internalOnly)
    (told : ((∅ : Annotations).insert Key.claimNamespace event.claimNamespace
      |>.insert Key.claimName event.claimName)[key]? = some own) :
    (allowed event provider)[key]? = coordinate event provider key own := by
  rw [getElem?_allowed, Annotations.getElem?_ofClaim_or (Annotations.workingKey_eq_iff kept), told,
    coordinate]
  simp only [external, false_or]
  cases event.annotations[key]? <;> rfl

theorem claimNamespace_allowed : (allowed event provider)[Key.claimNamespace]? =
    coordinate event provider Key.claimNamespace event.claimNamespace := by
  refine coordinate_allowed (by decide) (by decide) ?_
  rw [Annotations.getElem?_insert_ne (by decide)]
  exact Std.ExtTreeMap.getElem?_insert_self

theorem claimName_allowed : (allowed event provider)[Key.claimName]? =
    coordinate event provider Key.claimName event.claimName :=
  coordinate_allowed (by decide) (by decide) Std.ExtTreeMap.getElem?_insert_self

theorem Making.defaultName (making : Making settings event provider uuid scope after descriptor
    whole volume) (format : provider.nameFormat = Provider.defaultNameFormat) :
    volume.metadata.name = some (defaultName event provider uuid) := by
  obtain ⟨reads, hscope⟩ := making.prepared
  have class_shown : shown scope.annotations Key.storageClass = provider.storageClass :=
    shown_of_some ((getElem?_scope hscope (by decide)).trans marked_workingSet.storageClass)
  have tag_shown : shown scope.annotations Key.volumeTag = volumeTag uuid :=
    shown_of_some (volumeTag_of_scopeRun hscope)
  have supplied (key : String) (free : key ∉ attemptKeys ∧ key ∉ ownKeys) :
      scope.annotations[key]? = (allowed event provider)[key]? :=
    (getElem?_scope hscope free.1).trans (getElem?_workingSet free.2)
  have space_shown := (supplied Key.claimNamespace (by decide)).trans claimNamespace_allowed
  have name_shown := (supplied Key.claimName (by decide)).trans claimName_allowed
  rw [making.name, format, render_defaultNameFormat, class_shown, tag_shown, shown, shown,
    space_shown, name_shown]
  rfl

/-- What a volume object says of the claim that it was made for. -/
structure Labelled (event : ClaimEvent) (provider : Provider) (uuid : Uuid) (volume : Volume) :
    Prop where
  space : volume.annotations[Key.claimNamespace]? =
    coordinate event provider Key.claimNamespace event.claimNamespace
  name : volume.annotations[Key.claimName]? =
    coordinate event provider Key.claimName event.claimName
  label : provider.nameFormat = Provider.defaultNameFormat →
    volume.metadata.name = some (defaultName event provider uuid)

theorem Making.labelled (making : Making settings event provider uuid scope after descriptor whole
    volume) : Labelled event provider uuid volume where
  space := (making.supplied (by decide)).trans claimNamespace_allowed
  name := (making.supplied (by decide)).trans claimName_allowed
  label := making.defaultName

/-! ## When it is the truth -/

/-- A coordinate is not denied, and the claim supplies no other value for it. -/
structure Truthful (event : ClaimEvent) (provider : Provider) (key own : String) : Prop where
  kept : key ∉ provider.blocked
  told : ∀ supplied, event.annotations[key]? = some supplied → supplied = own

theorem coordinate_eq_own_iff {key own : String} :
    coordinate event provider key own = some own ↔ Truthful event provider key own := by
  unfold coordinate
  by_cases hblocked : key ∈ provider.blocked
  · rw [if_pos hblocked]
    refine iff_of_false (by simp) fun truthful => ?_
    exact truthful.kept hblocked
  · rw [if_neg hblocked, Option.some.injEq]
    constructor
    · intro heq
      refine ⟨hblocked, fun supplied hsupplied => ?_⟩
      rw [hsupplied, Option.getD_some] at heq
      exact heq
    · intro truthful
      cases hsupplied : event.annotations[key]? with
      | none => rfl
      | some supplied => exact truthful.told supplied hsupplied

theorem Labelled.true_iff (labelled : Labelled event provider uuid volume) :
    (volume.annotations[Key.claimNamespace]? = some event.claimNamespace ∧
      volume.annotations[Key.claimName]? = some event.claimName) ↔
    (Truthful event provider Key.claimNamespace event.claimNamespace ∧
      Truthful event provider Key.claimName event.claimName) := by
  rw [labelled.space, labelled.name, coordinate_eq_own_iff, coordinate_eq_own_iff]

theorem defaultName_of_truthful
    (space : Truthful event provider Key.claimNamespace event.claimNamespace)
    (name : Truthful event provider Key.claimName event.claimName) :
    defaultName event provider uuid = provider.storageClass ++ "-" ++ event.claimNamespace ++ "-" ++
      event.claimName ++ "-" ++ volumeTag uuid := by
  rw [defaultName, coordinate_eq_own_iff.mpr space, coordinate_eq_own_iff.mpr name,
    Option.getD_some, Option.getD_some]

/-- A volume object that is submitted for a claim names the claim as the claim's own annotations
have it, and not at all where its class denies that. It names the claim truly, and then also has the
name that the default format promises, if the class denies neither coordinate and the claim supplies
no other; the annotations are true in no other case. -/
theorem coordinates_true_iff (settings : Settings) (event : ClaimEvent) {whole : PeerTrace}
    {outcome : Except Failure ClaimOutcome}
    (run : Program.Runs (onPeers (handleClaim settings event)) whole outcome) {volume : Volume}
    (h : volume ∈ submitted (clusterPart whole)) :
    ∃ provider uuid, serverOf settings event = some provider ∧ identifiers whole = [uuid] ∧
      Labelled event provider uuid volume ∧
      ((volume.annotations[Key.claimNamespace]? = some event.claimNamespace ∧
          volume.annotations[Key.claimName]? = some event.claimName) ↔
        (Truthful event provider Key.claimNamespace event.claimNamespace ∧
          Truthful event provider Key.claimName event.claimName)) ∧
      (Truthful event provider Key.claimNamespace event.claimNamespace →
        Truthful event provider Key.claimName event.claimName →
        provider.nameFormat = Provider.defaultNameFormat →
        volume.metadata.name = some (provider.storageClass ++ "-" ++ event.claimNamespace ++ "-" ++
          event.claimName ++ "-" ++ volumeTag uuid)) := by
  obtain ⟨provider, uuid, scope, after, descriptor, making⟩ := making_of_submitted run h
  have labelled := making.labelled
  refine ⟨provider, uuid, making.served, making.drawn, labelled, labelled.true_iff,
    fun space name format => ?_⟩
  rw [labelled.label format, defaultName_of_truthful space name]

/-- One class with names in the default format, that denies claims some annotations. -/
def Sample.labelling (blocked : KeySet) : Settings where
  identity := Key.defaultIdentity
  registry := ⟨some "zfs-basic", (∅ : Std.ExtTreeMap String Provider compare).insert "zfs-basic"
    { Sample.shellProvider with nameFormat := Provider.defaultNameFormat, blocked }⟩

/-- A claim of one namespace that passes for one of another. -/
def Sample.impostor : ClaimEvent :=
  { Sample.claim with
    annotations := (∅ : Annotations).insert Key.claimNamespace "prod"
      |>.insert Key.claimName "db" }

/-- The claim of the other namespace is named by its volume, in the annotations and in the name. -/
theorem sample_coordinates_true_iff :
    ∃ volume, submitted (clusterPart (Sample.servedBy (Sample.labelling ∅) 1 Sample.impostor)) =
        [volume] ∧
      volume.annotations[Key.claimNamespace]? = some "prod" ∧
      volume.annotations[Key.claimName]? = some "db" ∧
      volume.metadata.name = some "zfs-basic-prod-db-00000001" := by
  obtain ⟨outcome, run⟩ := Sample.runs_servedBy (Sample.labelling ∅) 1 Sample.impostor
  obtain ⟨once, drawing⟩ :
      (submitted (clusterPart
        (Sample.servedBy (Sample.labelling ∅) 1 Sample.impostor))).length = 1 ∧
      identifiers (Sample.servedBy (Sample.labelling ∅) 1 Sample.impostor) =
        [Simulation.Peers.numberedUuid 1] := by decide +kernel
  obtain ⟨volume, hvolume⟩ := List.length_eq_one_iff.mp once
  obtain ⟨provider, uuid, served, drawn, labelled, -, -⟩ :=
    coordinates_true_iff _ _ run (hvolume ▸ List.mem_singleton_self volume)
  have serving : serverOf (Sample.labelling ∅) Sample.impostor =
    some { Sample.shellProvider with nameFormat := Provider.defaultNameFormat } := by rfl
  obtain rfl := Option.some.inj (served.symm.trans serving)
  obtain rfl := List.singleton_inj.mp (drawn.symm.trans drawing)
  refine ⟨volume, hvolume, labelled.space.trans ?_, labelled.name.trans ?_,
    (labelled.label rfl).trans ?_⟩
  · decide +kernel
  · decide +kernel
  · decide +kernel

/-- It is not so that a volume object always names the claim that it was made for. -/
theorem coordinates_fail :
    ¬∀ (settings : Settings) (event : ClaimEvent) (whole : PeerTrace)
      (outcome : Except Failure ClaimOutcome),
      Program.Runs (onPeers (handleClaim settings event)) whole outcome →
      ∀ volume ∈ submitted (clusterPart whole),
        volume.annotations[Key.claimNamespace]? = some event.claimNamespace ∧
        volume.annotations[Key.claimName]? = some event.claimName ∧
        ∀ provider, serverOf settings event = some provider →
          provider.nameFormat = Provider.defaultNameFormat →
          ∃ uuid ∈ identifiers whole, volume.metadata.name =
            some (provider.storageClass ++ "-" ++ event.claimNamespace ++ "-" ++ event.claimName ++
              "-" ++ volumeTag uuid) := by
  intro holds
  obtain ⟨outcome, run⟩ := Sample.runs_servedBy (Sample.labelling ∅) 1 Sample.impostor
  have spoofed : (submitted (clusterPart
      (Sample.servedBy (Sample.labelling ∅) 1 Sample.impostor))).map
        (·.annotations[Key.claimNamespace]?) = [some "prod"] := by decide +kernel
  obtain ⟨volume, hvolume, space⟩ := List.map_eq_singleton_iff.mp spoofed
  obtain ⟨true_space, -, -⟩ := holds _ _ _ outcome run volume
    (hvolume ▸ List.mem_singleton_self volume)
  rw [space] at true_space
  revert true_space
  decide

end Reconciler

end DatasetProvisioner
