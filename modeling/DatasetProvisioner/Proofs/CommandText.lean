import Mathlib.Data.List.Nodup
import DatasetProvisioner.Proofs.ShellWords
import DatasetProvisioner.Storage.ShellBackend

/-!
# The commands of the shell backend

What a host is asked to run for a volume: the arguments that a shell cuts each command into, and
the properties that are set on a dataset. Annotations choose among fixed values of these
properties; no text of theirs but the name of the volume becomes part of one.
-/
namespace DatasetProvisioner.Dataset

/-! ## Properties -/

theorem decimal_eq (n : Nat) : Text.decimal n = toString n := by
  have hdigits : 1 - (Nat.toDigits 10 n).length = 0 := by
    have := Nat.length_toDigits_pos (b := 10) (n := n)
    omega
  rw [Text.decimal, Text.padded, hdigits]
  rfl

theorem mem_accepted_of_value? {t : Tunable} {raw value : String} (h : t.value? raw = some value) :
    value ∈ t.accepted := by
  by_cases hmem : Text.asciiLower (Text.trim raw) ∈ t.accepted
  · simp only [Tunable.value?, if_pos hmem, Option.some.injEq] at h
    exact h ▸ hmem
  · simp [Tunable.value?, hmem] at h

theorem mem_recordSizes_of_recordSize? {raw : String} {n : Nat} (h : recordSize? raw = some n) :
    n ∈ recordSizes := by
  simpa using (Option.filter_eq_some_iff.mp h).2

theorem name_injective : ∀ t u : Tunable, t.name = u.name → t = u := by
  intro t u
  cases t <;> cases u <;> decide

/-- What may be set on a dataset that is made for a volume: the name of the volume, its size as a
limit or as a guarantee, a record size, or a tunable property with one of its fixed values. -/
inductive Admissible (volumeRef : String) (size : Nat) : String × String → Prop where
  | tracking : Admissible volumeRef size (trackingProperty, volumeRef)
  | limit : Admissible volumeRef size ("quota", toString size)
  | guarantee : Admissible volumeRef size ("reservation", toString size)
  | recordSize (n : Nat) (h : n ∈ recordSizes) :
    Admissible volumeRef size ("recordsize", toString n)
  | tuned (t : Tunable) (value : String) (h : value ∈ t.accepted) :
    Admissible volumeRef size (t.name, value)

namespace Options

/-- Options that hold no value but those of the fixed sets. -/
structure Restricted (options : Options) : Prop where
  recordSize : ∀ n, options.recordSize = some n → n ∈ recordSizes
  tuned : ∀ t value, options.tuned t = some value → value ∈ t.accepted

theorem restricted_ofAnnotations (annotations : Annotations) :
    (ofAnnotations annotations).Restricted := by
  constructor
  · intro n h
    obtain ⟨raw, -, hread⟩ := Option.bind_eq_some_iff.mp h
    exact mem_recordSizes_of_recordSize? hread
  · intro t value h
    obtain ⟨raw, -, hread⟩ := Option.bind_eq_some_iff.mp h
    exact mem_accepted_of_value? hread

theorem tuned_without {options : Options} {t u : Tunable} {value : String}
    (h : (options.without t).tuned u = some value) : u ≠ t ∧ options.tuned u = some value := by
  by_cases hut : u = t
  · simp [without, hut] at h
  · simp only [without, hut, if_false] at h
    exact ⟨hut, h⟩

theorem Restricted.without {options : Options} (restricted : options.Restricted) (t : Tunable) :
    (options.without t).Restricted where
  recordSize := restricted.recordSize
  tuned u value h := restricted.tuned u value (tuned_without h).2

theorem mem_properties {options : Options} {p : String × String} :
    p ∈ options.properties ↔
      (∃ n, options.recordSize = some n ∧ p = ("recordsize", toString n)) ∨
        ∃ t value, options.tuned t = some value ∧ p = (t.name, value) := by
  have all (t : Tunable) : t ∈ Tunable.all := by
    cases t <;> decide
  simp only [properties, List.mem_append, List.mem_map, Option.mem_toList, List.mem_filterMap,
    Option.map_eq_some_iff, decimal_eq]
  constructor
  · rintro (⟨n, hn, rfl⟩ | ⟨t, -, value, hvalue, rfl⟩)
    · exact .inl ⟨n, hn, rfl⟩
    · exact .inr ⟨t, value, hvalue, rfl⟩
  · rintro (⟨n, hn, rfl⟩ | ⟨t, value, hvalue, rfl⟩)
    · exact .inl ⟨n, hn, rfl⟩
    · exact .inr ⟨t, all t, value, hvalue, rfl⟩

theorem ne_name_of_mem_without {options : Options} {t : Tunable} {p : String × String}
    (h : p ∈ (options.without t).properties) : p.1 ≠ t.name := by
  rcases mem_properties.mp h with ⟨n, -, rfl⟩ | ⟨u, value, hvalue, rfl⟩
  · change "recordsize" ≠ t.name
    cases t <;> decide
  · intro hname
    exact (tuned_without hvalue).1 (name_injective u t hname)

theorem names_tuned (options : Options) (ts : List Tunable) :
    List.Sublist
      ((ts.filterMap fun t => (options.tuned t).map fun value => (t.name, value)).map Prod.fst)
      (ts.map Tunable.name) := by
  induction ts with
  | nil => exact .slnil
  | cons t ts ih =>
    cases hvalue : options.tuned t with
    | none => simpa [hvalue] using ih.cons t.name
    | some value => simpa [hvalue] using ih.cons_cons t.name

theorem names_properties (options : Options) :
    (options.properties.map Prod.fst).Sublist ("recordsize" :: Tunable.all.map Tunable.name) := by
  rw [properties, List.map_append]
  change List.Sublist _ (["recordsize"] ++ Tunable.all.map Tunable.name)
  refine .append ?_ (names_tuned options Tunable.all)
  cases options.recordSize <;> simp

end Options

theorem names_quota (quota : Quota) :
    (quota.properties.map Prod.fst).Sublist ["quota", "reservation"] := by
  rw [Quota.properties, List.map_append]
  change List.Sublist _ (["quota"] ++ ["reservation"])
  refine .append ?_ ?_
  · cases quota.limit <;> simp
  · cases quota.guarantee <;> simp

end DatasetProvisioner.Dataset

namespace DatasetProvisioner.Storage.ShellBackend

open Dataset

variable {backend : ShellBackend}

/-! ## Commands -/

/-- What a host shall run: a program and what it shall do, each property as an argument of its own,
then the targets. -/
def argumentVector (backend : ShellBackend) (program : List String)
    (properties : List (String × String)) (targets : List String) : List String :=
  (if backend.becomeRoot then ["sudo"] else []) ++ program ++
    (properties.flatMap fun p => ["-o", p.1 ++ "=" ++ p.2]) ++ targets

/-- Properties that may be set for a volume, each of them once. -/
structure Settable (volumeRef : String) (size : Nat) (properties : List (String × String)) :
    Prop where
  admissible : ∀ p ∈ properties, Admissible volumeRef size p
  once : (properties.map Prod.fst).Nodup

theorem admissible_of_quota {mode : QuotaMode} {volumeRef : String} {size : Nat}
    {p : String × Nat} (h : p ∈ (Quota.ofSize mode size).properties) :
    Admissible volumeRef size (p.1, toString p.2) := by
  simp only [Quota.properties, Quota.ofSize, List.mem_append, List.mem_map, Option.mem_toList,
    Option.ite_none_right_eq_some, Option.some.injEq] at h
  rcases h with ⟨_, ⟨-, rfl⟩, rfl⟩ | ⟨_, ⟨-, rfl⟩, rfl⟩
  · exact .limit
  · exact .guarantee

theorem admissible_of_options {options : Options} (restricted : options.Restricted)
    {volumeRef : String} {size : Nat} {p : String × String} (h : p ∈ options.properties) :
    Admissible volumeRef size p := by
  rcases Options.mem_properties.mp h with ⟨n, hn, rfl⟩ | ⟨t, value, hvalue, rfl⟩
  · exact .recordSize n (restricted.recordSize n hn)
  · exact .tuned t value (restricted.tuned t value hvalue)

theorem settable_datasetProperties (backend : ShellBackend) {options : Options}
    (restricted : options.Restricted) (volumeRef : String) (size : Nat) :
    Settable volumeRef size (backend.datasetProperties volumeRef size options) := by
  constructor
  · intro p hp
    simp only [datasetProperties, List.cons_append, List.mem_cons, List.mem_append,
      List.mem_map, decimal_eq] at hp
    rcases hp with rfl | ⟨quota, hquota, rfl⟩ | hoption
    · exact .tracking
    · exact admissible_of_quota hquota
    · exact admissible_of_options restricted hoption
  -- The names stand in one fixed order, and each of them comes once in it.
  · have names : ((backend.datasetProperties volumeRef size options).map Prod.fst).Sublist
        (trackingProperty ::
          (["quota", "reservation"] ++ "recordsize" :: Tunable.all.map Tunable.name)) := by
      rw [datasetProperties, List.cons_append, List.map_cons, List.map_append, List.map_map]
      exact .cons_cons _ (.append (names_quota _) (Options.names_properties options))
    exact names.nodup (by decide)

theorem ne_caseSensitivity_of_mem {options : Options} {volumeRef : String} {size : Nat}
    {p : String × String}
    (h : p ∈ backend.datasetProperties volumeRef size (options.without .caseSensitivity)) :
    p.1 ≠ "casesensitivity" := by
  rw [datasetProperties, List.cons_append, List.mem_cons, List.mem_append, List.mem_map] at h
  rcases h with rfl | ⟨quota, hquota, rfl⟩ | hoption
  · exact (by decide : trackingProperty ≠ "casesensitivity")
  · have hname := (names_quota _).subset (List.mem_map_of_mem hquota)
    intro hcase
    rw [hcase] at hname
    exact absurd hname (by decide)
  · exact Options.ne_name_of_mem_without hoption

/-- Whatever the texts are that a command is made of, a shell cuts it into the arguments that are
meant; and whatever the annotations hold, the properties that are set are those that may be set. -/
theorem commands_split_into_arguments (backend : ShellBackend) (annotations : Annotations)
    (dataset snapshot path volumeRef : String) (size mode : Nat) :
    let options := Options.ofAnnotations annotations
    let fresh := backend.datasetProperties volumeRef size options
    let copied := backend.datasetProperties volumeRef size (options.without .caseSensitivity)
    Shell.split (backend.createCommand dataset volumeRef size options).text =
        some (backend.argumentVector ["zfs", "create"] fresh [dataset]) ∧
      Shell.split (backend.snapshotCommand snapshot volumeRef).text =
        some (backend.argumentVector ["zfs", "snapshot"] [(trackingProperty, volumeRef)]
          [snapshot]) ∧
      Shell.split (backend.cloneCommand snapshot dataset volumeRef size options).text =
        some (backend.argumentVector ["zfs", "clone"] copied [snapshot, dataset]) ∧
      Shell.split (backend.changeModeCommand path mode).text =
        some (backend.argumentVector ["chmod", Text.padded 8 4 mode] [] [path]) ∧
      Shell.split (backend.destroyCommand dataset).text =
        some (backend.argumentVector ["zfs", "destroy"] [] [dataset]) ∧
      Settable volumeRef size fresh ∧ Settable volumeRef size copied ∧
      ∀ p ∈ copied, p.1 ≠ "casesensitivity" := by
  intro options fresh copied
  have restricted := Options.restricted_ofAnnotations annotations
  exact ⟨Shell.split_text _, Shell.split_text _, Shell.split_text _, Shell.split_text _,
    Shell.split_text _, settable_datasetProperties backend restricted volumeRef size,
    settable_datasetProperties backend (restricted.without _) volumeRef size,
    fun p hp => ne_caseSensitivity_of_mem hp⟩

end DatasetProvisioner.Storage.ShellBackend
