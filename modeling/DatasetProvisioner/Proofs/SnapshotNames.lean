import DatasetProvisioner.Proofs.Calendar
import DatasetProvisioner.Proofs.CloneProperties
import DatasetProvisioner.Proofs.Effects

/-!
# Names of snapshots

The time at the end of a snapshot's name stands in fields of fixed width, so that it is read off
whatever the name of the volume before it ends in. A snapshot that the shell backend takes is one
that it accepts for removal.
-/
namespace DatasetProvisioner

namespace Text

/-! ## Numbers of fixed width -/

theorem length_padded {width n : Nat} (hwidth : 0 < width) (h : n < 10 ^ width) :
    (padded 10 width n).toList.length = width := by
  have hdigits : (Nat.toDigits 10 n).length ≤ width :=
    (Nat.length_toDigits_le_iff (by decide) hwidth).mpr h
  rw [padded, String.toList_ofList, List.length_append, List.length_replicate]
  omega

/-- A number is read back from its digits, whatever zeros stand before them. -/
theorem ofDigitChars_padded (width n : Nat) :
    Nat.ofDigitChars 10 (padded 10 width n).toList 0 = n := by
  rw [padded, String.toList_ofList, Nat.ofDigitChars_append, Nat.ofDigitChars_replicate_zero,
    Nat.mul_zero]
  exact Nat.ofDigitChars_ten_toDigits

theorem padded_injective {width m n : Nat}
    (h : (padded 10 width m).toList = (padded 10 width n).toList) : m = n := by
  calc m = Nat.ofDigitChars 10 (padded 10 width m).toList 0 := (ofDigitChars_padded width m).symm
    _ = Nat.ofDigitChars 10 (padded 10 width n).toList 0 := by rw [h]
    _ = n := ofDigitChars_padded width n

/-- A number at the end of a text is read off if it has the width of its field. -/
theorem eq_of_append_padded {before before' : List Char} {width m n : Nat} (hwidth : 0 < width)
    (hm : m < 10 ^ width) (hn : n < 10 ^ width)
    (h : before ++ (padded 10 width m).toList = before' ++ (padded 10 width n).toList) :
    before = before' ∧ m = n := by
  have hlength : (padded 10 width m).toList.length = (padded 10 width n).toList.length := by
    rw [length_padded hwidth hm, length_padded hwidth hn]
  obtain ⟨hbefore, hfield⟩ := List.append_inj' h hlength
  exact ⟨hbefore, padded_injective hfield⟩

theorem isDigit_of_mem_padded {width n : Nat} {c : Char} (h : c ∈ (padded 10 width n).toList) :
    c.isDigit = true := by
  rw [padded, String.toList_ofList, List.mem_append] at h
  rcases h with h | h
  · rw [List.eq_of_mem_replicate h]
    rfl
  · exact Nat.isDigit_of_mem_toDigits (by decide) (by decide) h

end Text

namespace Timestamp

/-! ## The fields of a point in time -/

variable {t u : Timestamp}

/-- Whole days since 1970-01-01, rounded down. -/
def days (t : Timestamp) : Int :=
  t.milliseconds.fdiv 86400000

/-- The milliseconds of its day that have passed. -/
def ofDay (t : Timestamp) : Nat :=
  (t.milliseconds - t.days * 86400000).toNat

def date (t : Timestamp) : Date :=
  dateOfDays t.days

theorem compact_eq (t : Timestamp) :
    t.compact = yearText t.date.year ++ Text.padded 10 2 t.date.month ++
      Text.padded 10 2 t.date.day ++ Text.padded 10 2 (t.ofDay / 3600000) ++
      Text.padded 10 2 (t.ofDay / 60000 % 60) ++ Text.padded 10 2 (t.ofDay / 1000 % 60) ++
      Text.padded 10 3 (t.ofDay % 1000) :=
  rfl

theorem milliseconds_eq (t : Timestamp) :
    t.milliseconds = t.days * 86400000 + t.ofDay ∧ t.ofDay < 86400000 := by
  have hdiv := Int.mul_fdiv_add_fmod t.milliseconds 86400000
  have hnonneg := Int.fmod_nonneg_of_pos t.milliseconds (show (0 : Int) < 86400000 by decide)
  have hlt := Int.fmod_lt_of_pos t.milliseconds (show (0 : Int) < 86400000 by decide)
  rw [ofDay, days]
  omega

theorem Date.eq_of_fields {a b : Date} (hyear : a.year = b.year) (hmonth : a.month = b.month)
    (hday : a.day = b.day) : a = b := by
  cases a
  cases b
  rw [Date.mk.injEq]
  exact ⟨hyear, hmonth, hday⟩

/-- A point in time is given by its date and by how much of the day has passed. -/
theorem eq_of_date (hdate : t.date = u.date) (hofDay : t.ofDay = u.ofDay) : t = u := by
  have hdays : t.days = u.days := by
    rw [← toDays_dateOfDays t.days, ← toDays_dateOfDays u.days]
    exact congrArg Date.toDays hdate
  obtain ⟨ht, -⟩ := t.milliseconds_eq
  obtain ⟨hu, -⟩ := u.milliseconds_eq
  have hmilliseconds : t.milliseconds = u.milliseconds := by
    rw [ht, hu, hdays, hofDay]
  cases t
  cases u
  exact congrArg Timestamp.mk hmilliseconds

/-- A point in time in the years 0 to 9999. -/
def HasFourDigitYear (t : Timestamp) : Prop :=
  0 ≤ t.date.year ∧ t.date.year ≤ 9999

instance (t : Timestamp) : Decidable t.HasFourDigitYear :=
  inferInstanceAs (Decidable (_ ∧ _))

theorem HasFourDigitYear.yearText_eq (h : t.HasFourDigitYear) :
    yearText t.date.year = Text.padded 10 4 t.date.year.natAbs := by
  obtain ⟨hleast, hgreatest⟩ := h
  have hsign : ¬ t.date.year < 0 := by omega
  have hdigits : ¬ 9999 < t.date.year := by omega
  rw [yearText, if_neg hsign, if_neg hdigits]

/-- Times at the end of two texts are the same if the texts are, since all fields of a time but a
year of more digits have a fixed width. -/
theorem eq_of_append_compact {before before' : List Char} (ht : t.HasFourDigitYear)
    (hu : u.HasFourDigitYear)
    (h : before ++ t.compact.toList = before' ++ u.compact.toList) : before = before' ∧ t = u := by
  obtain ⟨-, htday⟩ := t.milliseconds_eq
  obtain ⟨-, huday⟩ := u.milliseconds_eq
  obtain ⟨htmonth, htdate⟩ := month_and_day_lt t.days
  obtain ⟨humonth, hudate⟩ := month_and_day_lt u.days
  have htyear : t.date.year.natAbs < 10 ^ 4 := by
    have := ht.2
    have := ht.1
    omega
  have huyear : u.date.year.natAbs < 10 ^ 4 := by
    have := hu.2
    have := hu.1
    omega
  simp only [compact_eq, ht.yearText_eq, hu.yearText_eq, String.toList_append,
    ← List.append_assoc] at h
  -- The fields are taken off from the last one to the first.
  obtain ⟨h, hmillisecond⟩ := Text.eq_of_append_padded (by decide) (by omega) (by omega) h
  obtain ⟨h, hsecond⟩ := Text.eq_of_append_padded (by decide) (by omega) (by omega) h
  obtain ⟨h, hminute⟩ := Text.eq_of_append_padded (by decide) (by omega) (by omega) h
  obtain ⟨h, hhour⟩ := Text.eq_of_append_padded (by decide) (by omega) (by omega) h
  obtain ⟨h, hday⟩ := Text.eq_of_append_padded (by decide) htdate hudate h
  obtain ⟨h, hmonth⟩ := Text.eq_of_append_padded (by decide) htmonth humonth h
  obtain ⟨h, hyear⟩ := Text.eq_of_append_padded (by decide) htyear huyear h
  have hsigned : t.date.year = u.date.year := by
    have := ht.1
    have := hu.1
    omega
  have hofDay : t.ofDay = u.ofDay := by omega
  exact ⟨h, eq_of_date (Date.eq_of_fields hsigned hmonth hday) hofDay⟩

end Timestamp

namespace Dataset

/-! ## What a name is made of -/

namespace Snapshot

/-- The characters of a snapshot name that neither a host nor a shell takes for anything else. -/
def IsSafe (c : Char) : Prop :=
  ('A' ≤ c ∧ c ≤ 'Z') ∨ ('a' ≤ c ∧ c ≤ 'z') ∨ ('0' ≤ c ∧ c ≤ '9') ∨ c ∈ ['_', '.', ':', '-']

theorem isSafe_of_isDigit {c : Char} (h : c.isDigit = true) : IsSafe c := by
  obtain ⟨hleast, hgreatest⟩ := Bool.and_eq_true_iff.mp h
  exact .inr (.inr (.inl ⟨of_decide_eq_true hleast, of_decide_eq_true hgreatest⟩))

theorem isSafe_of_isAlphanum {c : Char} (h : c.isAlphanum = true) : IsSafe c := by
  rcases Bool.or_eq_true_iff.mp h with hletter | hdigit
  · rcases Bool.or_eq_true_iff.mp hletter with hupper | hlower
    · exact .inl (of_decide_eq_true hupper)
    · obtain ⟨hleast, hgreatest⟩ := Bool.and_eq_true_iff.mp hlower
      exact .inr (.inl ⟨of_decide_eq_true hleast, of_decide_eq_true hgreatest⟩)
  · exact isSafe_of_isDigit hdigit

theorem isSafe_of_isNameChar {c : Char} (h : isNameChar c = true) : IsSafe c := by
  simp only [isNameChar, Text.isAsciiAlphanumeric, Bool.or_eq_true, beq_iff_eq] at h
  rcases h with (((halphanum | hmark) | hmark) | hmark) | hmark
  · exact isSafe_of_isAlphanum halphanum
  all_goals exact .inr (.inr (.inr (by simp [hmark])))

theorem isSafe_of_mem_sanitised {volumeName : String} {c : Char}
    (h : c ∈ (sanitised volumeName).toList) : IsSafe c := by
  rw [sanitised, String.toList_ofList, List.mem_map] at h
  obtain ⟨given, -, rfl⟩ := h
  by_cases hkept : isNameChar given = true
  · rw [if_pos hkept]
    exact isSafe_of_isNameChar hkept
  · rw [if_neg hkept]
    exact .inr (.inr (.inr (by decide)))

theorem isSafe_of_mem_compact {time : Timestamp} (htime : time.HasFourDigitYear) {c : Char}
    (h : c ∈ time.compact.toList) : IsSafe c := by
  rw [Timestamp.compact_eq, htime.yearText_eq] at h
  simp only [String.toList_append, List.mem_append] at h
  apply isSafe_of_isDigit
  rcases h with (((((h | h) | h) | h) | h) | h) | h
  all_goals exact Text.isDigit_of_mem_padded h

theorem toList_name (volumeName : String) (time : Timestamp) :
    (name volumeName time).toList =
      "zfspv-".toList ++ (sanitised volumeName).toList ++ ['-'] ++ time.compact.toList := by
  simp [name]

theorem isSafe_of_mem_name {volumeName : String} {time : Timestamp}
    (htime : time.HasFourDigitYear) {c : Char} (h : c ∈ (name volumeName time).toList) :
    IsSafe c := by
  have hfixed : ∀ c ∈ "zfspv-".toList ++ ['-'], isNameChar c = true :=
    List.all_eq_true.mp rfl
  rw [toList_name] at h
  simp only [List.mem_append] at h hfixed
  rcases h with ((h | h) | h) | h
  · exact isSafe_of_isNameChar (hfixed c (.inl h))
  · exact isSafe_of_mem_sanitised h
  · exact isSafe_of_isNameChar (hfixed c (.inr h))
  · exact isSafe_of_mem_compact htime h

/-- A name tells its time and the sanitised name of the volume, whatever that name ends in. -/
theorem eq_of_name {volumeName other : String} {time later : Timestamp}
    (htime : time.HasFourDigitYear) (hlater : later.HasFourDigitYear)
    (h : name volumeName time = name other later) :
    time = later ∧ sanitised volumeName = sanitised other := by
  have hchars := congrArg String.toList h
  rw [toList_name, toList_name] at hchars
  obtain ⟨hbefore, htimes⟩ := Timestamp.eq_of_append_compact htime hlater hchars
  have hnames := List.append_cancel_left (List.append_cancel_right hbefore)
  exact ⟨htimes, String.toList_inj.mp hnames⟩

end Snapshot

theorem Layout.owns_datasetPath (layout : Layout) (uuid : Uuid) :
    layout.owns layout.host (layout.datasetPath uuid) = true := by
  refine Layout.owns_iff.mpr ⟨rfl, uuid.toString.toList, uuid, ?_, Uuid.ofString?_toString uuid⟩
  simp [Layout.datasetPath]

end Dataset

namespace Storage

open Dataset

/-! ## What is taken is accepted -/

/-- A recorded snapshot is to be removed if the layout takes it for its own. -/
theorem removableSnapshot_of_owns {layout : Layout} {annotations : Annotations}
    {snapshot : String} (hrecorded : annotations[Key.cloneSnapshot]? = some snapshot)
    (howns : layout.ownsSnapshot snapshot = true) :
    removableSnapshot layout annotations = some snapshot := by
  rw [removableSnapshot, hrecorded, Option.filter_some, if_pos howns]

namespace ShellBackend

variable {backend : ShellBackend}

theorem MakeRun.frame {placement : Placement} {size : Nat} {annotations : Annotations}
    {trace : StorageTrace} {result : Annotations × Except Failure Unit}
    (run : MakeRun backend placement size annotations trace result) {key : String}
    (hkey : key ≠ Key.cloneSnapshot) : result.1[key]? = annotations[key]? := by
  cases run with
  | fresh => rfl
  | unsnapped => rfl
  | cloned => exact Annotations.getElem?_insert_ne hkey.symm

theorem eq_of_onExec_snapshotCommand {host snapshot taken volumeRef : String} {becomeRoot : Bool}
    {properties : List (String × String)} {answer given : Except Failure CommandOutput}
    (h : onExec host ⟨becomeRoot, .snapshot snapshot properties⟩ answer =
      onExec backend.host (backend.snapshotCommand taken volumeRef) given) :
    host = backend.host ∧ snapshot = taken ∧ answer = given := by
  rw [snapshotCommand, command] at h
  cases h
  exact ⟨rfl, rfl, rfl⟩

/-- A snapshot that is asked for is one of the source, and is recorded if it was taken. -/
theorem MakeRun.asked {placement : Placement} {size : Nat} {annotations : Annotations}
    {trace : StorageTrace} {result : Annotations × Except Failure Unit}
    (run : MakeRun backend placement size annotations trace result) {host snapshot : String}
    {becomeRoot : Bool} {properties : List (String × String)}
    {answer : Except Failure CommandOutput}
    (h : onExec host ⟨becomeRoot, .snapshot snapshot properties⟩ answer ∈ trace) :
    (∃ source now, placement.source = some source ∧ snapshot = snapshotFor placement source now) ∧
      (carriedOut answer = true →
        host = backend.host ∧ result.1[Key.cloneSnapshot]? = some snapshot) := by
  cases run with
  | fresh hsource last =>
    rw [List.mem_singleton, createCommand, command] at h
    cases h
  | unsnapped source hsource now taken failure hfail =>
    rw [List.mem_cons, List.mem_singleton] at h
    rcases h with h | h
    · cases h
    · obtain ⟨rfl, rfl, rfl⟩ := eq_of_onExec_snapshotCommand h
      refine ⟨⟨source, now, hsource, rfl⟩, fun hdone => ?_⟩
      rw [judged_eq_ok_iff.mpr hdone] at hfail
      cases hfail
  | cloned source hsource now taken htaken last =>
    rw [List.mem_cons, List.mem_cons, List.mem_singleton] at h
    rcases h with h | h | h
    · cases h
    · obtain ⟨rfl, rfl, rfl⟩ := eq_of_onExec_snapshotCommand h
      exact ⟨⟨source, now, hsource, rfl⟩, fun _ => ⟨rfl, Std.ExtTreeMap.getElem?_insert_self⟩⟩
    · rw [cloneCommand, command] at h
      cases h

/-- What a creation that asks for a snapshot knows of it: the source is a dataset of the backend's
own, and the annotations after it identify the volume and, if the snapshot was taken, record it. -/
structure Asked (backend : ShellBackend) (after : Annotations) (host snapshot : String)
    (answer : Except Failure CommandOutput) : Prop where
  named : ∃ source volumeRef now, backend.layout.owns backend.layout.host source = true ∧
    snapshot = source ++ "@" ++ Snapshot.name volumeRef now
  identified : ∃ uuid, volumeUuid after = .ok uuid
  recorded : carriedOut answer = true →
    host = backend.host ∧ after[Key.cloneSnapshot]? = some snapshot

theorem asked_of_makeRun {request recorded : Annotations} {placement : Placement} {size : Nat}
    {trace : StorageTrace} {result : Annotations × Except Failure Unit}
    (prepared : Prepared backend.layout request recorded placement)
    (run : MakeRun backend placement size recorded trace result) {host snapshot : String}
    {becomeRoot : Bool} {properties : List (String × String)}
    {answer : Except Failure CommandOutput}
    (h : onExec host ⟨becomeRoot, .snapshot snapshot properties⟩ answer ∈ trace) :
    Asked backend result.1 host snapshot answer := by
  obtain ⟨⟨source, now, hsource, hsnapshot⟩, hrecorded⟩ := run.asked h
  refine ⟨⟨source, placement.volumeRef, now, owns_of_prepared prepared hsource, hsnapshot⟩,
    ⟨placement.uuid, ?_⟩, hrecorded⟩
  have huuid := volumeUuid_eq_ok_iff.mp prepared.placed.uuid
  apply volumeUuid_eq_ok_iff.mpr
  rw [run.frame (by decide), prepared.frame Key.volumeUuid (by decide)]
  exact huuid

theorem asked_of_createRun {request : Annotations} {size : Nat} {trace : StorageTrace}
    {result : Annotations × Except Failure Descriptor}
    (run : CreateRun backend request size trace result) {host snapshot : String}
    {becomeRoot : Bool} {properties : List (String × String)}
    {answer : Except Failure CommandOutput}
    (h : onExec host ⟨becomeRoot, .snapshot snapshot properties⟩ answer ∈ trace) :
    Asked backend result.1 host snapshot answer := by
  cases run with
  | unready => cases h
  | unmade recorded placement hprepare making =>
    exact asked_of_makeRun (prepared_of_prepare hprepare) making h
  | made recorded placement hprepare making permissions =>
    rcases List.mem_append.mp h with h | h
    · exact asked_of_makeRun (prepared_of_prepare hprepare) making h
    · -- The permissions are set by a command that takes no snapshot.
      cases permissions with
      | unset => cases h
      | set mode hmode last =>
        rw [List.mem_singleton, changeModeCommand, command] at h
        cases h

/-- A backend accepts the snapshots that it asked for. -/
theorem Asked.accepted {after : Annotations} {host snapshot : String}
    {answer : Except Failure CommandOutput} (asked : Asked backend after host snapshot answer)
    (hroot : '@' ∉ backend.layout.datasetRoot.toList) :
    backend.layout.ownsSnapshot snapshot = true := by
  obtain ⟨source, volumeRef, now, howns, rfl⟩ := asked.named
  exact Layout.ownsSnapshot_of_owns howns hroot (Snapshot.name_ne_empty volumeRef now)

/-- A snapshot that was taken is destroyed by a removal. -/
theorem Asked.destroyed {after : Annotations} {host snapshot : String}
    {answer : Except Failure CommandOutput} (asked : Asked backend after host snapshot answer)
    (hroot : '@' ∉ backend.layout.datasetRoot.toList) (hdone : carriedOut answer = true)
    {removal : StorageTrace} {outcome : Except Failure Unit}
    (run : Program.Runs (backend.remove after) removal outcome) :
    (some host, snapshot) ∈ targetsDestroyed removal := by
  obtain ⟨uuid, huuid⟩ := asked.identified
  obtain ⟨rfl, hrecorded⟩ := asked.recorded hdone
  have hremovable := removableSnapshot_of_owns hrecorded (asked.accepted hroot)
  have removed := removed_of_removeRun (removeRun_of_runs run) huuid
  rw [removed.targets, Backend.layout, hremovable]
  exact List.mem_map_of_mem (List.mem_cons_of_mem _ List.mem_cons_self)

end ShellBackend

/-- The name of a snapshot is safe, and tells its time and its volume; the snapshot is accepted for
removal by the layout in which it was taken, whoever recorded it, and what the shell backend takes
its own removal destroys. -/
theorem snapshot_names_identify :
    (∀ (volumeName : String) (time : Timestamp), time.HasFourDigitYear →
      ∀ c ∈ (Snapshot.name volumeName time).toList, Snapshot.IsSafe c) ∧
    (∀ (volumeName other : String) (time later : Timestamp), time.HasFourDigitYear →
      later.HasFourDigitYear → Snapshot.name volumeName time = Snapshot.name other later →
      time = later ∧ Snapshot.sanitised volumeName = Snapshot.sanitised other) ∧
    (∀ layout : Layout, '@' ∉ layout.datasetRoot.toList →
      ∀ (uuid : Uuid) (volumeName : String) (time : Timestamp) (snapshot : String),
        snapshot = layout.datasetPath uuid ++ "@" ++ Snapshot.name volumeName time →
        layout.ownsSnapshot snapshot = true ∧
          ∀ annotations : Annotations, annotations[Key.cloneSnapshot]? = some snapshot →
            removableSnapshot layout annotations = some snapshot) ∧
    (∀ backend : ShellBackend, '@' ∉ backend.layout.datasetRoot.toList →
      ∀ (request : Annotations) (size : Nat) (trace : StorageTrace)
        (result : Annotations × Except Failure Descriptor),
        Program.Runs (backend.create request size) trace result →
      ∀ (host : String) (becomeRoot : Bool) (snapshot : String)
        (properties : List (String × String)) (answer : Except Failure CommandOutput),
        onExec host ⟨becomeRoot, .snapshot snapshot properties⟩ answer ∈ trace →
        (∀ annotations : Annotations, annotations[Key.cloneSnapshot]? = some snapshot →
          removableSnapshot backend.layout annotations = some snapshot) ∧
        (carriedOut answer = true → ∀ removal outcome,
          Program.Runs (backend.remove result.1) removal outcome →
            (some host, snapshot) ∈ targetsDestroyed removal)) := by
  refine ⟨fun _ _ htime c hc => Snapshot.isSafe_of_mem_name htime hc,
    fun _ _ _ _ htime hlater h => Snapshot.eq_of_name htime hlater h, ?_, ?_⟩
  · rintro layout hroot uuid volumeName time _ rfl
    have howns := Layout.owns_datasetPath layout uuid
    have haccepted :=
      Layout.ownsSnapshot_of_owns howns hroot (Snapshot.name_ne_empty volumeName time)
    exact ⟨haccepted, fun annotations hrecorded =>
      removableSnapshot_of_owns hrecorded haccepted⟩
  · intro backend hroot request size trace result run host becomeRoot snapshot properties answer h
    have asked := ShellBackend.asked_of_createRun (ShellBackend.runs_create.mp run) h
    refine ⟨fun annotations hrecorded => ?_, fun hdone removal outcome removing => ?_⟩
    · exact removableSnapshot_of_owns hrecorded (asked.accepted hroot)
    · exact asked.destroyed hroot hdone removing

open Reconciler (Sample.layout Sample.now Sample.storageAnswer)

/-- The snapshot that is taken for a clone on the sample's appliance. -/
def goldenSnapshot : String :=
  "tank/pv/0000000a-0000-4000-8000-00000000000a@zfspv-pv-1-20231114221320123"

/-- Names that are sanitised alike are told apart by nothing else; the snapshot of the sample's
clone is removed with it. -/
theorem sample_snapshot_names_identify :
    (Sample.now.HasFourDigitYear ∧ ∀ c ∈ (Snapshot.name "pv/1" Sample.now).toList,
      Snapshot.IsSafe c) ∧
    (Snapshot.name "pv/1" Sample.now = Snapshot.name "pv-1" Sample.now ∧
      Snapshot.sanitised "pv/1" = Snapshot.sanitised "pv-1") ∧
    (goldenSnapshot = Sample.layout.datasetPath (Simulation.Peers.numberedUuid 10) ++ "@" ++
        Snapshot.name "pv-1" Sample.now ∧
      Sample.layout.ownsSnapshot goldenSnapshot = true) ∧
    ((some "nas01", goldenSnapshot) ∈ targetsDestroyed
      ((commanding.remove ((commanding.create cloning 1000).resultFrom
        Sample.storageAnswer).1).exchangesFrom Sample.storageAnswer)) := by
  have hyear : Sample.now.HasFourDigitYear := by decide
  have hroot : '@' ∉ Sample.layout.datasetRoot.toList := by decide
  have hsame : Snapshot.name "pv/1" Sample.now = Snapshot.name "pv-1" Sample.now := by
    decide +kernel
  have hgolden : goldenSnapshot = Sample.layout.datasetPath (Simulation.Peers.numberedUuid 10) ++
      "@" ++ Snapshot.name "pv-1" Sample.now := by
    decide +kernel
  have hasked : onExec "nas01" ⟨false, .snapshot goldenSnapshot [(trackingProperty, "pv-1")]⟩
      (.ok ⟨0, ""⟩) ∈ (commanding.create cloning 1000).exchangesFrom Sample.storageAnswer :=
    List.mem_of_getElem? (i := 1) rfl
  obtain ⟨hsafe, hidentify, haccepted, htaken⟩ := snapshot_names_identify
  refine ⟨⟨hyear, hsafe "pv/1" Sample.now hyear⟩,
    ⟨hsame, (hidentify _ _ _ _ hyear hyear hsame).2⟩,
    ⟨hgolden, (haccepted _ hroot _ _ _ _ hgolden).1⟩, ?_⟩
  exact (htaken commanding hroot cloning 1000 _ _ (Program.runs_from _ _) _ _ _ _ _ hasked).2 rfl
    _ _ (Program.runs_from _ _)

end Storage

end DatasetProvisioner
