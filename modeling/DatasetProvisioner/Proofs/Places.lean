import DatasetProvisioner.Dataset.Layout
import DatasetProvisioner.Proofs.Identifiers

/-!
# Places on a storage host

Which texts a layout takes for a dataset or a snapshot of its own, and what a clone reference
gives.
-/
namespace DatasetProvisioner

namespace Text

theorem after?_eq_some_iff {start cs rest : List Char} :
    after? start cs = some rest ↔ cs = start ++ rest := by
  induction start generalizing cs with
  | nil => simp [after?]
  | cons s start ih =>
    cases cs with
    | nil => simp [after?]
    | cons c cs =>
      by_cases h : s = c
      · simp [after?, h, ih]
      · simp [after?, h, Ne.symm h]

theorem splitAt_ne_nil (separator : Char) (cs : List Char) : splitAt separator cs ≠ [] := by
  cases cs with
  | nil => simp [splitAt]
  | cons c cs =>
    by_cases h : c = separator
    · simp [splitAt, h]
    · simp only [splitAt, h, if_false]
      split
      · simp
      · simp

theorem splitAt_append (separator : Char) (a b : List Char) :
    splitAt separator (a ++ separator :: b) = splitAt separator a ++ splitAt separator b := by
  induction a with
  | nil => simp [splitAt]
  | cons c a ih =>
    by_cases h : c = separator
    · simp [splitAt, h, ih]
    · rw [List.cons_append, splitAt, if_neg h, ih, splitAt, if_neg h]
      cases ha : splitAt separator a with
      | nil => exact absurd ha (splitAt_ne_nil separator a)
      | cons part parts => simp

/-- A text that is cut into one part is that part. -/
theorem eq_of_splitAt {separator : Char} {cs part : List Char}
    (h : splitAt separator cs = [part]) : part = cs := by
  induction cs generalizing part with
  | nil =>
    simp only [splitAt, List.cons.injEq, and_true] at h
    exact h.symm
  | cons c cs ih =>
    by_cases hc : c = separator
    · simp [splitAt, hc, splitAt_ne_nil] at h
    · rw [splitAt, if_neg hc] at h
      cases hcs : splitAt separator cs with
      | nil => exact absurd hcs (splitAt_ne_nil separator cs)
      | cons first others =>
        rw [hcs] at h
        simp only [List.cons.injEq] at h
        obtain ⟨rfl, rfl⟩ := h
        rw [ih hcs]

end Text

namespace Dataset.Layout

variable {layout : Layout}

theorem underRoot?_eq_some_iff {path leaf : List Char} :
    layout.underRoot? path = some leaf ↔ path = layout.datasetRoot.toList ++ '/' :: leaf := by
  rw [underRoot?, Text.after?_eq_some_iff, List.append_assoc]
  rfl

/-- A dataset tells the identifier that it was made for, whatever the layout. -/
theorem uuid_of_datasetPath {other : Layout} {u v : Uuid}
    (h : layout.datasetPath u = other.datasetPath v) : u = v := by
  have chars := congrArg String.toList h
  simp only [datasetPath, String.toList_append] at chars
  have hu : u.toString.toList.length = 36 := by
    rw [Uuid.toString, String.toList_ofList, Uuid.length_toChars]
  have hv : v.toString.toList.length = 36 := by
    rw [Uuid.toString, String.toList_ofList, Uuid.length_toChars]
  obtain ⟨-, tails⟩ := List.append_inj' chars (hu.trans hv.symm)
  exact Uuid.toString_inj (String.toList_injective tails)

/-- A dataset of a layout lies under its root and is named by an identifier. -/
theorem owns_iff {host path : String} :
    layout.owns host path = true ↔
      host = layout.host ∧ ∃ leaf uuid,
        path.toList = layout.datasetRoot.toList ++ '/' :: leaf ∧
          Uuid.ofChars? leaf = some uuid := by
  rw [owns, Bool.and_eq_true, beq_iff_eq]
  refine and_congr_right fun _ => ?_
  constructor
  · intro h
    obtain ⟨uuid, huuid⟩ := Option.isSome_iff_exists.mp h
    obtain ⟨leaf, hleaf, hread⟩ := Option.bind_eq_some_iff.mp huuid
    exact ⟨leaf, uuid, underRoot?_eq_some_iff.mp hleaf, hread⟩
  · rintro ⟨leaf, uuid, hpath, hread⟩
    rw [underRoot?_eq_some_iff.mpr hpath, Option.bind_some, hread]
    rfl

/-- A clone reference gives a dataset if it consists of the layout's host and that dataset, and
the dataset is one of the layout's own. -/
theorem cloneSource_eq_ok_iff {ref dataset : String} :
    layout.cloneSource ref = .ok dataset ↔
      Text.splitAt ':' ref.toList = [layout.host.toList, dataset.toList] ∧
        layout.owns layout.host dataset = true := by
  unfold cloneSource
  constructor
  · intro h
    split at h
    · next host part hparts =>
      by_cases hhost : String.ofList host = layout.host
      · by_cases howns : layout.owns layout.host (String.ofList part) = true
        · simp only [hhost, howns, ne_eq, not_true_eq_false, if_false, if_true] at h
          cases h
          rw [← hhost, String.toList_ofList, String.toList_ofList, hhost]
          exact ⟨hparts, howns⟩
        · simp [hhost, howns] at h
      · simp [hhost] at h
    · cases h
  · rintro ⟨hparts, howns⟩
    simp only [hparts, String.ofList_toList, howns, ne_eq, not_true_eq_false, if_false, if_true]

/-- A reference that gives a host and a path gives the dataset of that path or none. -/
theorem eq_of_cloneSource {host path dataset : String}
    (h : layout.cloneSource (host ++ ":" ++ path) = .ok dataset) : dataset = path := by
  obtain ⟨hparts, -⟩ := cloneSource_eq_ok_iff.mp h
  have hcut : (host ++ ":" ++ path).toList = host.toList ++ ':' :: path.toList := by
    simp
  rw [hcut, Text.splitAt_append] at hparts
  -- Two parts in all leave one for the host and one for the path.
  rcases hhost : Text.splitAt ':' host.toList with _ | ⟨part, parts⟩
  · exact absurd hhost (Text.splitAt_ne_nil ':' host.toList)
  · rw [hhost, List.cons_append, List.cons.injEq] at hparts
    cases parts with
    | nil => exact String.toList_inj.mp (Text.eq_of_splitAt hparts.2)
    | cons other others =>
      rw [List.cons_append, List.cons.injEq, List.append_eq_nil_iff] at hparts
      exact absurd hparts.2.2.2 (Text.splitAt_ne_nil ':' path.toList)

/-- A snapshot of a dataset of the layout is one of its own snapshots, unless the root itself
looks like a snapshot. -/
theorem ownsSnapshot_of_owns {host dataset : String} (howns : layout.owns host dataset = true)
    (hroot : '@' ∉ layout.datasetRoot.toList) {name : String} (hname : name ≠ "") :
    layout.ownsSnapshot (dataset ++ "@" ++ name) = true := by
  obtain ⟨-, leaf, uuid, hdataset, hread⟩ := owns_iff.mp howns
  have hplain : ∀ c ∈ dataset.toList, (c != '@') = true := by
    intro c hc
    rw [hdataset, List.mem_append, List.mem_cons] at hc
    rw [bne_iff_ne]
    rintro rfl
    rcases hc with hc | hc | hc
    · exact hroot hc
    · exact absurd hc (by decide)
    · exact Uuid.at_notin_of_ofChars? hread hc
  have hcut : (dataset ++ "@" ++ name).toList = dataset.toList ++ '@' :: name.toList := by
    simp
  have hbefore : (dataset ++ "@" ++ name).toList.takeWhile (· != '@') = dataset.toList := by
    rw [hcut, List.takeWhile_append_of_pos hplain]
    simp
  have hafter : (dataset ++ "@" ++ name).toList.dropWhile (· != '@') = '@' :: name.toList := by
    rw [hcut, List.dropWhile_append_of_pos hplain]
    simp
  have hchars : name.toList ≠ [] := fun h => hname (String.toList_eq_nil_iff.mp h)
  obtain ⟨first, rest, hname⟩ := List.exists_cons_of_ne_nil hchars
  simp only [ownsSnapshot, hbefore, hafter, hname, underRoot?_eq_some_iff.mpr hdataset]
  simpa using Uuid.ne_nil_of_ofChars? hread

/-- A snapshot that a layout takes for its own is named, and is one of a dataset under its root. -/
theorem exists_of_ownsSnapshot {snapshot : String} (h : layout.ownsSnapshot snapshot = true) :
    ∃ x y : String, x ≠ "" ∧ y ≠ "" ∧
      snapshot = layout.datasetRoot ++ "/" ++ x ++ "@" ++ y := by
  have hcut := List.takeWhile_append_dropWhile (p := (· != '@')) (l := snapshot.toList)
  simp only [ownsSnapshot] at h
  rcases hafter : snapshot.toList.dropWhile (· != '@') with _ | ⟨separator, _ | ⟨first, rest⟩⟩
  · simp [hafter] at h
  · simp [hafter] at h
  · rw [hafter] at h
    obtain ⟨leaf, hunder, hleaf⟩ := (Option.any_eq_true _ _).mp h
    have hseparator : separator = '@' := by
      have hfirst := List.head?_dropWhile_not (· != '@') snapshot.toList
      rw [hafter] at hfirst
      simpa using hfirst
    refine ⟨String.ofList leaf, String.ofList (first :: rest), ?_, ?_, ?_⟩
    · rw [Ne, String.ofList_eq_empty_iff]
      rintro rfl
      cases hleaf
    · rw [Ne, String.ofList_eq_empty_iff]
      exact List.cons_ne_nil first rest
    · rw [hafter, underRoot?_eq_some_iff.mp hunder, hseparator] at hcut
      apply String.toList_inj.mp
      rw [← hcut]
      simp

end Dataset.Layout

namespace Dataset.Snapshot

theorem name_ne_empty (volumeName : String) (time : Timestamp) : name volumeName time ≠ "" := by
  intro h
  have hchars := congrArg String.toList h
  simp [name] at hchars

theorem at_notin_padded (width n : Nat) : '@' ∉ (Text.padded 10 width n).toList := by
  rw [Text.padded, String.toList_ofList, List.mem_append, not_or]
  constructor
  · intro h
    exact absurd (List.eq_of_mem_replicate h) (by decide)
  · intro h
    have hdigit := Nat.isDigit_of_mem_toDigits (by decide) (by decide) h
    revert hdigit
    decide

theorem at_notin_yearText (year : Int) : '@' ∉ (Timestamp.yearText year).toList := by
  unfold Timestamp.yearText
  split
  · simp [at_notin_padded]
  · split
    · simp [at_notin_padded]
    · exact at_notin_padded _ _

theorem at_notin_sanitised (volumeName : String) : '@' ∉ (sanitised volumeName).toList := by
  rw [sanitised, String.toList_ofList, List.mem_map]
  rintro ⟨c, -, hc⟩
  split at hc
  · next hname =>
    subst hc
    revert hname
    decide
  · revert hc
    decide

/-- The name of a snapshot does not hold the character that separates it from its dataset. -/
theorem at_notin_name (volumeName : String) (time : Timestamp) :
    '@' ∉ (name volumeName time).toList := by
  simp [name, Timestamp.compact, at_notin_padded, at_notin_yearText, at_notin_sanitised]

end Dataset.Snapshot

/-- A snapshot is one of a dataset: its name follows the last separator. -/
def SnapshotOf (snapshot dataset : String) : Prop :=
  ∃ name : String, '@' ∉ name.toList ∧ snapshot = dataset ++ "@" ++ name

theorem cut_unique {a b x y : List Char} (hx : '@' ∉ x) (hy : '@' ∉ y)
    (h : a ++ '@' :: x = b ++ '@' :: y) : a = b := by
  induction a generalizing b with
  | nil =>
    cases b with
    | nil => rfl
    | cons c b =>
      simp only [List.nil_append, List.cons_append, List.cons.injEq] at h
      exact absurd (h.2 ▸ List.mem_append_right b List.mem_cons_self) hx
  | cons c a ih =>
    cases b with
    | nil =>
      simp only [List.nil_append, List.cons_append, List.cons.injEq] at h
      exact absurd (h.2 ▸ List.mem_append_right a List.mem_cons_self) hy
    | cons c' b =>
      simp only [List.cons_append, List.cons.injEq] at h
      rw [h.1, ih h.2]

theorem SnapshotOf.unique {snapshot dataset other : String} (h : SnapshotOf snapshot dataset)
    (h' : SnapshotOf snapshot other) : dataset = other := by
  obtain ⟨name, hname, rfl⟩ := h
  obtain ⟨name', hname', heq⟩ := h'
  have hchars := congrArg String.toList heq
  simp only [String.toList_append] at hchars
  rw [List.append_assoc, List.append_assoc] at hchars
  exact String.toList_inj.mp (cut_unique hname hname' hchars)

end DatasetProvisioner
