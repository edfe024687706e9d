import DatasetProvisioner.Proofs.CloneIsolation
import DatasetProvisioner.Proofs.Confinement

/-!
# What clone references decode to

A reference is a host and a dataset with a colon between them. It is read by cutting the text at
every colon, so a reference with a further colon, in the host or in the dataset, is refused although
the layout takes its parts for its own. A dataset is recognised by an identifier in any of its
spellings, and the one that a reference has is what snapshots are taken of.
-/
namespace DatasetProvisioner

namespace Text

theorem splitAt_of_notin {separator : Char} {cs : List Char} (h : separator ∉ cs) :
    splitAt separator cs = [cs] := by
  induction cs with
  | nil => rfl
  | cons c cs ih =>
    rw [List.mem_cons, not_or] at h
    rw [splitAt, if_neg (Ne.symm h.1), ih h.2]

/-- A text is cut into two parts if the separator stands between them and nowhere else. -/
theorem splitAt_eq_pair_iff {separator : Char} {cs a b : List Char} :
    splitAt separator cs = [a, b] ↔ cs = a ++ separator :: b ∧ separator ∉ a ∧ separator ∉ b := by
  constructor
  · intro h
    by_cases hcs : separator ∈ cs
    · obtain ⟨first, rest, rfl, hfirst⟩ := List.eq_append_cons_of_mem hcs
      rw [splitAt_append, splitAt_of_notin hfirst, List.singleton_append, List.cons.injEq] at h
      obtain ⟨rfl, hrest⟩ := h
      by_cases hmore : separator ∈ rest
      · obtain ⟨second, last, rfl, hsecond⟩ := List.eq_append_cons_of_mem hmore
        rw [splitAt_append, splitAt_of_notin hsecond, List.singleton_append,
          List.cons.injEq] at hrest
        exact absurd hrest.2 (splitAt_ne_nil separator last)
      · rw [splitAt_of_notin hmore, List.cons.injEq] at hrest
        obtain ⟨rfl, -⟩ := hrest
        exact ⟨rfl, hfirst, hmore⟩
    · rw [splitAt_of_notin hcs, List.cons.injEq] at h
      cases h.2
  · rintro ⟨rfl, ha, hb⟩
    rw [splitAt_append, splitAt_of_notin ha, splitAt_of_notin hb]
    rfl

end Text

namespace Storage

open Dataset
open Reconciler (Sample.layout Sample.shellProvider)

variable {layout : Layout} {host dataset ref : String} {request : Annotations}

/-- Neither the host of a layout nor a dataset has a colon. -/
def Unambiguous (layout : Layout) (dataset : String) : Prop :=
  ':' ∉ layout.host.toList ∧ ':' ∉ dataset.toList

/-- A layout owns the datasets of its host that are named by an identifier, in any spelling. -/
theorem owns_iff_ownDataset :
    layout.owns host dataset = true ↔ host = layout.host ∧ OwnDataset layout dataset := by
  rw [Layout.owns_iff]
  refine and_congr_right fun _ => ?_
  constructor
  · rintro ⟨leaf, uuid, hpath, hread⟩
    refine ⟨String.ofList leaf, uuid, ?_, ?_⟩
    · rw [Uuid.ofString?, String.toList_ofList, hread]
    · apply String.toList_inj.mp
      rw [hpath]
      simp
  · rintro ⟨leaf, uuid, hread, rfl⟩
    exact ⟨leaf.toList, uuid, by simp, hread⟩

/-- A reference is decoded to a dataset if it is made of the layout's host and that dataset, neither
has a colon, and the layout owns the dataset. -/
theorem cloneSource_eq_ok_iff_unambiguous :
    layout.cloneSource ref = .ok dataset ↔
      ref = layout.host ++ ":" ++ dataset ∧ Unambiguous layout dataset ∧
        OwnDataset layout dataset := by
  rw [Layout.cloneSource_eq_ok_iff, Text.splitAt_eq_pair_iff, owns_iff_ownDataset]
  have hjoin : ref.toList = layout.host.toList ++ ':' :: dataset.toList ↔
      ref = layout.host ++ ":" ++ dataset := by
    rw [← String.toList_inj]
    simp
  rw [hjoin]
  simp only [Unambiguous, and_assoc, true_and]

/-- A request that a backend would accept if it asked for no clone. -/
structure Ready (request : Annotations) : Prop where
  mountable : Mountable request
  identified : ∃ uuid, volumeUuid request = .ok uuid
  named : ∃ volumeRef, request[Key.volumeRef]? = some volumeRef

/-- Which clone sources a backend accepts. -/
theorem sourceOf_iff (ready : Ready request) (href : request[Key.cloneRef]? = some ref) :
    SourceOf layout request dataset ↔ layout.cloneSource ref = .ok dataset := by
  constructor
  · intro hsource
    obtain ⟨ref', href', hread⟩ := cloneRef_of_sourceOf hsource
    obtain rfl := Option.some.inj (href.symm.trans href')
    exact hread
  · intro hread
    obtain ⟨uuid, huuid⟩ := ready.identified
    obtain ⟨volumeRef, hname⟩ := ready.named
    have placed : Placed layout request ⟨uuid, volumeRef, some dataset⟩ :=
      ⟨huuid, hname, .inr ⟨ref, dataset, href, hread, rfl⟩⟩
    obtain ⟨recorded, hprepare⟩ := exists_prepare ready.mountable placed
    exact ⟨recorded, _, hprepare, rfl⟩

/-- A backend can take a snapshot of a dataset, or clone one of it, when it makes a volume. -/
def MayCopy (backend : Backend) (request : Annotations) (size : Nat) (dataset : String) : Prop :=
  ∃ trace answer, Program.Runs (backend.create request size) trace answer ∧
    NamesSnapshots trace ∧ ∃ x ∈ trace, Copies x dataset

/-- What a backend can copy for a request is its checked clone source. -/
theorem mayCopy_iff {backend : Backend} {size : Nat} :
    MayCopy backend request size dataset ↔ SourceOf backend.layout request dataset := by
  constructor
  · rintro ⟨trace, answer, run, named, x, hx, hcopy⟩
    exact Backend.source_of_copies run named hx hcopy
  · intro hsource
    obtain ⟨trace, after, run, named, x, hx, hcopy⟩ := Backend.exists_copy hsource size
    exact ⟨trace, (after, none), run, named, x, hx, hcopy⟩

/-- What clone references decode to, and what becomes of one that is composed for an accepted
source: it is accepted, and its dataset copied as it is spelled, exactly if there is no further
colon. -/
theorem clone_references_decode (layout : Layout) :
    (∀ host dataset, layout.owns host dataset = true ↔
      host = layout.host ∧ OwnDataset layout dataset) ∧
    (∀ ref dataset, layout.cloneSource ref = .ok dataset ↔
      ref = layout.host ++ ":" ++ dataset ∧ Unambiguous layout dataset ∧
        OwnDataset layout dataset) ∧
    ∀ (identity volumeName : String) (provider : Provider) (volume : Annotations) (ref : String),
      provider.backend.layout = layout →
      Reconciler.cloneRefOf identity provider volumeName volume = .ok ref →
      ∃ source, ref = layout.host ++ ":" ++ source ∧ OwnDataset layout source ∧
        ∀ (request : Annotations) (size : Nat), Ready request →
          request[Key.cloneRef]? = some ref →
          ∀ dataset, MayCopy provider.backend request size dataset ↔
            dataset = source ∧ Unambiguous layout source := by
  refine ⟨fun _ _ => owns_iff_ownDataset, fun _ _ => cloneSource_eq_ok_iff_unambiguous, ?_⟩
  rintro identity volumeName provider volume ref rfl hfound
  obtain ⟨-, host, source, -, -, hlocal, rfl⟩ := Reconciler.cloneRefOf_eq_ok_iff.mp hfound
  obtain ⟨rfl, hown⟩ := owns_iff_ownDataset.mp hlocal
  refine ⟨source, rfl, hown, fun request size ready href dataset => ?_⟩
  rw [mayCopy_iff, sourceOf_iff ready href]
  constructor
  · intro hread
    obtain rfl := Layout.eq_of_cloneSource hread
    exact ⟨rfl, (cloneSource_eq_ok_iff_unambiguous.mp hread).2.1⟩
  · rintro ⟨rfl, hplain⟩
    exact cloneSource_eq_ok_iff_unambiguous.mpr ⟨rfl, hplain, hown⟩

/-- An identifier in upper case. -/
def upperLeaf : String := "0000000A-0000-4000-8000-00000000000A"

def upperDataset : String := Sample.layout.datasetRoot ++ "/" ++ upperLeaf

theorem ownDataset_upperDataset : OwnDataset Sample.layout upperDataset :=
  ⟨upperLeaf, Simulation.Peers.numberedUuid 10, by decide +kernel, rfl⟩

theorem unambiguous_upperDataset : Unambiguous Sample.layout upperDataset :=
  ⟨by decide, by decide⟩

/-- The annotations of a volume with this dataset. -/
def copied : Annotations :=
  (∅ : Annotations).insert Key.managedBy Key.defaultIdentity
    |>.insert Key.exportHost Sample.layout.host
    |>.insert Key.datasetPath upperDataset

/-- A request for a clone of it. -/
def copying : Annotations :=
  (∅ : Annotations).insert Key.volumeUuid "0000000b-0000-4000-8000-00000000000b"
    |>.insert Key.volumeRef "pv-1"
    |>.insert Key.cloneRef "nas01:tank/pv/0000000A-0000-4000-8000-00000000000A"

theorem ready_copying : Ready copying where
  mountable := ⟨by decide, fun protocol h => nomatch h⟩
  identified := ⟨_, rfl⟩
  named := ⟨_, rfl⟩

/-- The volume is an accepted source, and a request with the reference that is composed for it
copies its dataset and nothing else. -/
theorem sample_clone_references_decode :
    Reconciler.cloneRefOf Key.defaultIdentity Sample.shellProvider "pv-db" copied =
        .ok "nas01:tank/pv/0000000A-0000-4000-8000-00000000000A" ∧
      Ready copying ∧
      copying[Key.cloneRef]? = some "nas01:tank/pv/0000000A-0000-4000-8000-00000000000A" ∧
      ∀ dataset, MayCopy Sample.shellProvider.backend copying 1000 dataset ↔
        dataset = upperDataset := by
  have hlocal : Sample.layout.owns Sample.layout.host upperDataset = true :=
    owns_iff_ownDataset.mpr ⟨rfl, ownDataset_upperDataset⟩
  have hfound : Reconciler.cloneRefOf Key.defaultIdentity Sample.shellProvider "pv-db" copied =
      .ok "nas01:tank/pv/0000000A-0000-4000-8000-00000000000A" :=
    Reconciler.cloneRefOf_eq_ok_iff.mpr ⟨rfl, _, _, rfl, rfl, hlocal, rfl⟩
  obtain ⟨-, -, decoded⟩ := clone_references_decode Sample.layout
  obtain ⟨source, href, -, copies⟩ := decoded _ _ _ _ _ rfl hfound
  obtain rfl : upperDataset = source :=
    (String.append_right_inj (Sample.layout.host ++ ":")).mp href
  refine ⟨hfound, ready_copying, rfl, fun dataset => ?_⟩
  rw [copies copying 1000 ready_copying rfl dataset]
  exact and_iff_left unambiguous_upperDataset

/-- A layout whose host is an address of the sixth version. -/
def addressed : Layout :=
  Layout.ofSettings "fd00::1" "/mnt/tank/pv" "tank/pv"

theorem cloneSource_upperDataset :
    Sample.layout.cloneSource (Sample.layout.host ++ ":" ++ upperDataset) = .ok upperDataset :=
  cloneSource_eq_ok_iff_unambiguous.mpr ⟨rfl, unambiguous_upperDataset, ownDataset_upperDataset⟩

/-- What reads as this identifier is written in lower case. -/
theorem upperDataset_ne_datasetPath (uuid : Uuid) :
    upperDataset ≠ Sample.layout.datasetPath uuid := by
  intro h
  have hleaf : upperLeaf = uuid.toString := by
    have hchars := congrArg String.toList h
    simp only [upperDataset, Layout.datasetPath, String.toList_append] at hchars
    exact String.toList_inj.mp (List.append_cancel_left hchars)
  have hlower : (Uuid.ofString? upperLeaf).map Uuid.toString ≠ some upperLeaf := by
    decide +kernel
  rw [hleaf, Uuid.ofString?_toString] at hlower
  exact hlower rfl

/-- References are not decoded exactly: one that names a volume of its layout is refused, for the
colons of the host, and a dataset that is no volume's is accepted and a snapshot taken of it. -/
theorem exact_references_fail :
    (addressed.owns addressed.host
        (addressed.datasetPath (Simulation.Peers.numberedUuid 10)) = true ∧
      ∀ dataset, addressed.cloneSource (addressed.host ++ ":" ++
        addressed.datasetPath (Simulation.Peers.numberedUuid 10)) ≠ .ok dataset) ∧
    Sample.layout.cloneSource (Sample.layout.host ++ ":" ++ upperDataset) = .ok upperDataset ∧
      (∀ uuid, upperDataset ≠ Sample.layout.datasetPath uuid) ∧
      MayCopy Reconciler.Sample.shellProvider.backend copying 1000 upperDataset := by
  refine ⟨⟨by decide +kernel, fun dataset h => ?_⟩, cloneSource_upperDataset,
    upperDataset_ne_datasetPath,
    mayCopy_iff.mpr ((sourceOf_iff ready_copying rfl).mpr cloneSource_upperDataset)⟩
  have hplain := (cloneSource_eq_ok_iff_unambiguous.mp h).2.1.1
  revert hplain
  decide

end Storage

end DatasetProvisioner
