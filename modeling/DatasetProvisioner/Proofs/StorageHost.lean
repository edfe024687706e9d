import Mathlib.Data.Set.Insert
import DatasetProvisioner.Proofs.Effects

/-!
# A storage host

What commands do on a host with file systems and snapshots: a file system that has a snapshot and a
snapshot that has a clone cannot be destroyed, and nothing else fails. Of a host that bears, beside
what was there before, a set of file systems with the snapshots they were cloned from, withdrawing
one of them takes it away with its snapshot, unless some file system was cloned from it.
-/
namespace DatasetProvisioner

/-- The dataset that a snapshot is of. -/
def Dataset.Snapshot.dataset (snapshot : String) : String :=
  String.ofList (snapshot.toList.takeWhile (· ≠ '@'))

namespace Storage

open Dataset

/-- A file system on a host. -/
structure Filesystem where
  name : String
  /-- The snapshot that it was cloned from. -/
  origin : Option String
  deriving Repr, DecidableEq

/-- The dataset that a file system was cloned from. -/
def Filesystem.source? (fs : Filesystem) : Option String :=
  fs.origin.map Snapshot.dataset

structure Host where
  filesystems : List Filesystem := []
  snapshots : List String := []
  deriving Repr, DecidableEq

namespace Host

/-! ## Commands -/

def HasFilesystem (host : Host) (name : String) : Prop :=
  ∃ fs ∈ host.filesystems, fs.name = name

instance (host : Host) (name : String) : Decidable (host.HasFilesystem name) :=
  inferInstanceAs (Decidable (∃ fs ∈ host.filesystems, fs.name = name))

def HasSnapshotOf (host : Host) (dataset : String) : Prop :=
  ∃ snapshot ∈ host.snapshots, Snapshot.dataset snapshot = dataset

instance (host : Host) (dataset : String) : Decidable (host.HasSnapshotOf dataset) :=
  inferInstanceAs (Decidable (∃ snapshot ∈ host.snapshots, Snapshot.dataset snapshot = dataset))

def HasCloneOf (host : Host) (snapshot : String) : Prop :=
  ∃ fs ∈ host.filesystems, fs.origin = some snapshot

instance (host : Host) (snapshot : String) : Decidable (host.HasCloneOf snapshot) :=
  inferInstanceAs (Decidable (∃ fs ∈ host.filesystems, fs.origin = some snapshot))

/-- A destruction fails if there is nothing of the name, and of a file system with a snapshot and
of a snapshot with a clone. -/
def Refuses (host : Host) (target : String) : Prop :=
  (¬host.HasFilesystem target ∧ target ∉ host.snapshots) ∨
    (host.HasFilesystem target ∧ host.HasSnapshotOf target) ∨
      (target ∈ host.snapshots ∧ host.HasCloneOf target)

instance (host : Host) (target : String) : Decidable (host.Refuses target) :=
  inferInstanceAs (Decidable (_ ∨ _ ∨ _))

/-- What a destruction leaves; one that fails has no effect. -/
def destroy (host : Host) (target : String) : Host :=
  if host.Refuses target then host
  else ⟨host.filesystems.filter (·.name ≠ target), host.snapshots.filter (· ≠ target)⟩

/-- What a command leaves, and whether it succeeds. -/
def perform (host : Host) : Shell.Action → Bool × Host
  | .create dataset _ => (true, { host with filesystems := ⟨dataset, none⟩ :: host.filesystems })
  | .snapshot target _ => (true, { host with snapshots := target :: host.snapshots })
  | .clone origin dataset _ =>
    (true, { host with filesystems := ⟨dataset, some origin⟩ :: host.filesystems })
  | .changeMode _ _ => (true, host)
  | .destroy target => (!decide (host.Refuses target), host.destroy target)

/-- The host after the calls of a trace, if the answers are those of the host: a command was carried
out exactly if it succeeds. All commands run on this host, and there is no management interface. -/
def serve (host : Host) : StorageTrace → Option Host
  | [] => some host
  | ⟨.clock, _⟩ :: rest => host.serve rest
  | ⟨.exec _ command, answer⟩ :: rest =>
    if carriedOut answer = (host.perform command.action).1 then
      (host.perform command.action).2.serve rest
    else none
  | ⟨.management _, _⟩ :: _ => none

variable {host after : Host}

theorem serve_exec {name : String} {command : Shell.Command}
    {answer : Except Failure CommandOutput} {rest : StorageTrace}
    (h : host.serve (onExec name command answer :: rest) = some after) :
    (host.perform command.action).2.serve rest = some after := by
  rw [serve] at h
  split at h
  · exact h
  · cases h

theorem serve_clock {now : Timestamp} {rest : StorageTrace}
    (h : host.serve (onStorageClock now :: rest) = some after) : host.serve rest = some after :=
  h

theorem serve_append {first rest : StorageTrace} (h : host.serve (first ++ rest) = some after) :
    ∃ mid, host.serve first = some mid ∧ mid.serve rest = some after := by
  induction first generalizing host with
  | nil => exact ⟨host, rfl, h⟩
  | cons x first ih =>
    obtain ⟨call, answer⟩ := x
    cases call with
    | exec name command =>
      rw [List.cons_append, serve] at h
      split at h
      · next obeyed =>
        obtain ⟨mid, hmid, hrest⟩ := ih h
        exact ⟨mid, by rw [serve, if_pos obeyed, hmid], hrest⟩
      · cases h
    | management => cases h
    | clock => exact ih h

theorem serve_idle {trace : StorageTrace} (idle : Idle trace) : host.serve trace = some host := by
  induction idle with
  | nil => rfl
  | cons now rest ih => exact ih

/-- Readings of the clock around other calls change nothing. -/
theorem serve_framed {first part last : StorageTrace} (hfirst : Idle first) (hlast : Idle last)
    (h : host.serve (first ++ (part ++ last)) = some after) : host.serve part = some after := by
  obtain ⟨start, hstart, h⟩ := serve_append h
  obtain ⟨mid, hmid, hend⟩ := serve_append h
  rw [serve_idle hfirst, Option.some.injEq] at hstart
  rw [serve_idle hlast, Option.some.injEq] at hend
  rw [hstart, ← hend, hmid]

/-! ## Making and withdrawing -/

/-- The host with a file system more, and the snapshot that it was cloned from. -/
def add (host : Host) (fs : Filesystem) : Host :=
  ⟨fs :: host.filesystems, fs.origin.toList ++ host.snapshots⟩

/-- The host after the destruction of a file system was tried, then that of its origin. -/
def withdraw (host : Host) (fs : Filesystem) : Host :=
  match fs.origin with
  | none => host.destroy fs.name
  | some snapshot => (host.destroy fs.name).destroy snapshot

/-- Some file system was cloned from a dataset. -/
def IsCloned (host : Host) (dataset : String) : Prop :=
  ∃ fs ∈ host.filesystems, fs.source? = some dataset

instance (host : Host) (dataset : String) : Decidable (host.IsCloned dataset) :=
  inferInstanceAs (Decidable (∃ fs ∈ host.filesystems, fs.source? = some dataset))

/-- Nothing on a host bears a name or comes from what bears it. -/
structure Lacks (host : Host) (name : String) : Prop where
  filesystem : ¬host.HasFilesystem name
  clone : ¬host.HasCloneOf name
  source : ¬host.IsCloned name
  snapshot : name ∉ host.snapshots
  snapshots : ¬host.HasSnapshotOf name

end Host

/-- A file system and the snapshot that it was cloned from are new to a host. -/
structure Filesystem.NewTo (fs : Filesystem) (host : Host) : Prop where
  name : host.Lacks fs.name
  origin : ∀ snapshot, fs.origin = some snapshot → host.Lacks snapshot

/-! ## What stands on a host -/

/-- File systems that may stand beside what is on a host: they are new to it, no two of them have
one name, and of their names and those of their origins only these hold a separator. -/
structure Apart (base : Host) (made : Set Filesystem) : Prop where
  new : ∀ fs ∈ made, fs.NewTo base
  distinct : ∀ fs ∈ made, ∀ other ∈ made, fs.name = other.name → fs = other
  plain : ∀ fs ∈ made, '@' ∉ fs.name.toList
  separated : ∀ fs ∈ made, ∀ snapshot, fs.origin = some snapshot → '@' ∈ snapshot.toList

/-- A host bears what another one did and some file systems more, with the snapshots that these
were cloned from. -/
structure Bears (base : Host) (standing : Set Filesystem) (host : Host) : Prop where
  filesystems : ∀ fs, fs ∈ host.filesystems ↔ fs ∈ base.filesystems ∨ fs ∈ standing
  snapshots : ∀ snapshot, snapshot ∈ host.snapshots ↔
    snapshot ∈ base.snapshots ∨ ∃ fs ∈ standing, fs.origin = some snapshot

/-- What stands once a file system was withdrawn: all but that one, and that one if it is cloned. -/
def remaining (host : Host) (standing : Set Filesystem) (fs : Filesystem) : Set Filesystem :=
  {other ∈ standing | other = fs → host.IsCloned fs.name}

variable {base host : Host} {made standing : Set Filesystem} {fs : Filesystem}

theorem bears_nothing (base : Host) : Bears base ∅ base where
  filesystems := by simp
  snapshots := by simp

theorem Bears.add (bears : Bears base standing host) (fs : Filesystem) :
    Bears base (insert fs standing) (host.add fs) where
  filesystems other := by
    rw [Host.add, List.mem_cons, bears.filesystems, Set.mem_insert_iff, or_left_comm]
  snapshots snapshot := by
    simp only [Host.add, List.mem_append, Option.mem_toList, bears.snapshots, Set.exists_mem_insert]
    exact or_left_comm

section

variable (apart : Apart base made) (part : standing ⊆ made) (bears : Bears base standing host)
  (member : fs ∈ made)

include apart bears member

/-- Of a file system there is a snapshot exactly as long as there is a clone. -/
theorem hasSnapshotOf_iff : host.HasSnapshotOf fs.name ↔ host.IsCloned fs.name := by
  have lacks := (apart.new fs member).name
  constructor
  · rintro ⟨snapshot, hsnapshot, hdataset⟩
    rcases (bears.snapshots snapshot).mp hsnapshot with hbase | ⟨other, hother, horigin⟩
    · exact absurd ⟨snapshot, hbase, hdataset⟩ lacks.snapshots
    · refine ⟨other, (bears.filesystems other).mpr (.inr hother), ?_⟩
      rw [Filesystem.source?, horigin, Option.map_some, hdataset]
  · rintro ⟨other, hother, hsource⟩
    rcases (bears.filesystems other).mp hother with hbase | hstanding
    · exact absurd ⟨other, hbase, hsource⟩ lacks.source
    · obtain ⟨snapshot, horigin, hdataset⟩ := Option.map_eq_some_iff.mp hsource
      exact ⟨snapshot, (bears.snapshots snapshot).mpr (.inr ⟨other, hstanding, horigin⟩),
        hdataset⟩

include part

theorem hasFilesystem_iff : host.HasFilesystem fs.name ↔ fs ∈ standing := by
  constructor
  · rintro ⟨other, hother, hname⟩
    rcases (bears.filesystems other).mp hother with hbase | hstanding
    · exact absurd ⟨other, hbase, hname⟩ (apart.new fs member).name.filesystem
    · exact apart.distinct other (part hstanding) fs member hname ▸ hstanding
  · intro h
    exact ⟨fs, (bears.filesystems fs).mpr (.inr h), rfl⟩

/-- The name of a file system is not that of a snapshot. -/
theorem name_notin_snapshots : fs.name ∉ host.snapshots := by
  intro h
  rcases (bears.snapshots fs.name).mp h with hbase | ⟨other, hother, horigin⟩
  · exact (apart.new fs member).name.snapshot hbase
  · exact apart.plain fs member (apart.separated other (part hother) _ horigin)

theorem refuses_name_iff : host.Refuses fs.name ↔ fs ∈ standing → host.IsCloned fs.name := by
  have hsnapshot := name_notin_snapshots apart part bears member
  simp only [Host.Refuses, hasFilesystem_iff apart part bears member,
    hasSnapshotOf_iff apart bears member, hsnapshot, not_false_eq_true, and_true, false_and,
    or_false]
  by_cases h : fs ∈ standing <;> simp [h]

theorem filesystems_destroy (other : Filesystem) :
    other ∈ (host.destroy fs.name).filesystems ↔
      other ∈ base.filesystems ∨ other ∈ remaining host standing fs := by
  have hrefuses := refuses_name_iff apart part bears member
  by_cases refused : host.Refuses fs.name
  · rw [Host.destroy, if_pos refused, bears.filesystems]
    refine or_congr_right ⟨fun h => ⟨h, ?_⟩, And.left⟩
    rintro rfl
    exact hrefuses.mp refused h
  · obtain ⟨stands, uncloned⟩ := Classical.not_imp.mp (mt hrefuses.mpr refused)
    rw [Host.destroy, if_neg refused, List.mem_filter, bears.filesystems, decide_eq_true_iff]
    constructor
    · rintro ⟨hbase | hstanding, hname⟩
      · exact .inl hbase
      · refine .inr ⟨hstanding, ?_⟩
        rintro rfl
        exact absurd rfl hname
    · rintro (hbase | ⟨hstanding, hkept⟩)
      · refine ⟨.inl hbase, fun hname => ?_⟩
        exact (apart.new fs member).name.filesystem ⟨other, hbase, hname⟩
      · refine ⟨.inr hstanding, fun hname => uncloned (hkept ?_)⟩
        exact apart.distinct other (part hstanding) fs member hname

theorem snapshots_destroy (snapshot : String) :
    snapshot ∈ (host.destroy fs.name).snapshots ↔ snapshot ∈ host.snapshots := by
  rw [Host.destroy]
  split
  · rfl
  · rw [List.mem_filter, decide_eq_true_iff, and_iff_left_iff_imp]
    rintro h rfl
    exact name_notin_snapshots apart part bears member h

end

/-- A snapshot that may be one too many is destroyed exactly if it has no clone. -/
theorem bears_destroy {snapshot : String}
    (filesystems : ∀ fs, fs ∈ host.filesystems ↔ fs ∈ base.filesystems ∨ fs ∈ standing)
    (others : ∀ other ≠ snapshot, (other ∈ host.snapshots ↔
      other ∈ base.snapshots ∨ ∃ fs ∈ standing, fs.origin = some other))
    (kept : (∃ fs ∈ standing, fs.origin = some snapshot) → snapshot ∈ host.snapshots)
    (new : base.Lacks snapshot) (unnamed : ¬host.HasFilesystem snapshot) :
    Bears base standing (host.destroy snapshot) := by
  have hclone : host.HasCloneOf snapshot ↔ ∃ fs ∈ standing, fs.origin = some snapshot := by
    constructor
    · rintro ⟨fs, hfs, horigin⟩
      rcases (filesystems fs).mp hfs with hbase | hstanding
      · exact absurd ⟨fs, hbase, horigin⟩ new.clone
      · exact ⟨fs, hstanding, horigin⟩
    · rintro ⟨fs, hfs, horigin⟩
      exact ⟨fs, (filesystems fs).mpr (.inr hfs), horigin⟩
  have hrefuses :
      host.Refuses snapshot ↔ snapshot ∈ host.snapshots → host.HasCloneOf snapshot := by
    simp only [Host.Refuses, unnamed, not_false_eq_true, true_and, false_and, false_or]
    by_cases h : snapshot ∈ host.snapshots <;> simp [h]
  by_cases refused : host.Refuses snapshot
  · rw [Host.destroy, if_pos refused]
    refine ⟨filesystems, fun other => ?_⟩
    by_cases hother : other = snapshot
    · subst hother
      exact ⟨fun h => .inr (hclone.mp (hrefuses.mp refused h)),
        fun h => kept (h.resolve_left new.snapshot)⟩
    · exact others other hother
  · obtain ⟨present, uncloned⟩ := Classical.not_imp.mp (mt hrefuses.mpr refused)
    rw [Host.destroy, if_neg refused]
    refine ⟨fun fs => ?_, fun other => ?_⟩
    · rw [List.mem_filter, decide_eq_true_iff, filesystems, and_iff_left_iff_imp]
      rintro h rfl
      exact unnamed ⟨fs, (filesystems fs).mpr h, rfl⟩
    · rw [List.mem_filter, decide_eq_true_iff]
      by_cases hother : other = snapshot
      · subst hother
        simp only [ne_eq, not_true_eq_false, and_false, false_iff, not_or]
        exact ⟨new.snapshot, fun h => uncloned (hclone.mpr h)⟩
      · rw [others other hother, and_iff_left hother]

/-- Withdrawing a file system takes it away with its snapshot, unless one was cloned from it. -/
theorem Bears.withdraw (bears : Bears base standing host) (apart : Apart base made)
    (part : standing ⊆ made) (member : fs ∈ made) :
    Bears base (remaining host standing fs) (host.withdraw fs) := by
  have filesystems := filesystems_destroy apart part bears member
  -- A snapshot other than its own is that of as many file systems as before.
  have others (snapshot : String) (h : fs.origin ≠ some snapshot) :
      snapshot ∈ (host.destroy fs.name).snapshots ↔
        snapshot ∈ base.snapshots ∨
          ∃ other ∈ remaining host standing fs, other.origin = some snapshot := by
    rw [snapshots_destroy apart part bears member, bears.snapshots]
    refine or_congr_right (exists_congr fun other => and_congr_left fun horigin => ?_)
    refine ⟨fun hstanding => ⟨hstanding, ?_⟩, And.left⟩
    rintro rfl
    exact absurd horigin h
  rw [Host.withdraw]
  split
  · next horigin => exact ⟨filesystems, fun snapshot => others snapshot (by simp [horigin])⟩
  · next snapshot horigin =>
    refine bears_destroy filesystems (fun other hother => others other ?_) ?_
      ((apart.new fs member).origin snapshot horigin) ?_
    · rw [horigin, ne_eq, Option.some.injEq]
      exact hother.symm
    · rintro ⟨other, ⟨hstanding, -⟩, hsnapshot⟩
      rw [snapshots_destroy apart part bears member, bears.snapshots]
      exact .inr ⟨other, hstanding, hsnapshot⟩
    · rintro ⟨other, hother, rfl⟩
      rcases (filesystems other).mp hother with hbase | ⟨hstanding, -⟩
      · exact ((apart.new fs member).origin other.name horigin).filesystem ⟨other, hbase, rfl⟩
      · exact apart.plain other (part hstanding) (apart.separated fs member _ horigin)

end Storage

end DatasetProvisioner
