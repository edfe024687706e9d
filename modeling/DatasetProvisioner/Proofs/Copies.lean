import DatasetProvisioner.Proofs.Effects

/-!
# Copies of datasets

Which dataset a snapshot or a clone is of, and that a backend copies the checked clone source of
its request and no other dataset.
-/
namespace DatasetProvisioner.Storage

/-- A call takes a snapshot of a dataset or clones one. -/
def Copies : Exchange interface → String → Prop
  | ⟨.exec _ ⟨_, .snapshot snapshot _⟩, _⟩, dataset => SnapshotOf snapshot dataset
  | ⟨.exec _ ⟨_, .clone origin _ _⟩, _⟩, dataset => SnapshotOf origin dataset
  | ⟨.management (.createSnapshot source _ _), _⟩, dataset => source = dataset
  | ⟨.management (.cloneSnapshot snapshot _), _⟩, dataset => SnapshotOf snapshot dataset
  | _, _ => False

theorem not_copies_of_idle {trace : StorageTrace} (idle : Idle trace) {x : Exchange interface}
    (hx : x ∈ trace) (dataset : String) : ¬Copies x dataset := by
  induction idle with
  | nil => cases hx
  | cons now rest ih =>
    rcases List.mem_cons.mp hx with rfl | hx
    · exact id
    · exact ih hx

theorem snapshotOf_name (dataset volumeName : String) (now : Timestamp) :
    SnapshotOf (dataset ++ "@" ++ Dataset.Snapshot.name volumeName now) dataset :=
  ⟨_, Dataset.Snapshot.at_notin_name volumeName now, rfl⟩

/-- The checked clone source of a request. -/
def SourceOf (layout : Dataset.Layout) (request : Annotations) (dataset : String) : Prop :=
  ∃ recorded placement, prepare layout request = (recorded, .ok placement) ∧
    placement.source = some dataset

/-- A request has a checked clone source only if it has a clone reference, and the reference gives
it. -/
theorem cloneRef_of_sourceOf {layout : Dataset.Layout} {request : Annotations} {dataset : String}
    (hsource : SourceOf layout request dataset) :
    ∃ ref, request[Key.cloneRef]? = some ref ∧ layout.cloneSource ref = .ok dataset := by
  obtain ⟨recorded, placement, hprepare, hdataset⟩ := hsource
  rcases (prepared_of_prepare hprepare).placed.source with ⟨-, hnone⟩ | ⟨ref, path, href, hpath, h⟩
  · rw [hnone] at hdataset
    cases hdataset
  · obtain rfl := Option.some.inj (h.symm.trans hdataset)
    exact ⟨ref, href, hpath⟩

/-- A call takes a snapshot. -/
def Call.isSnapshot : Call → Bool
  | .exec _ ⟨_, .snapshot _ _⟩ => true
  | .management (.createSnapshot _ _ _) => true
  | _ => false

/-- A call takes a snapshot or clones one. -/
def Call.isCopy : Call → Bool
  | .exec _ ⟨_, .snapshot _ _⟩ => true
  | .exec _ ⟨_, .clone _ _ _⟩ => true
  | .management (.createSnapshot _ _ _) => true
  | .management (.cloneSnapshot _ _) => true
  | _ => false

/-- Calls copy only where there is a dataset to copy, and take snapshots of that one only. -/
def CopiesFrom (source : Option String) (trace : StorageTrace) : Prop :=
  ∀ x ∈ trace, x.call.isCopy = true →
    ∃ dataset, source = some dataset ∧ (x.call.isSnapshot = true → Copies x dataset)

theorem copiesFrom_of_quiet {source : Option String} {trace : StorageTrace}
    (quiet : ∀ x ∈ trace, x.call.isCopy = false) : CopiesFrom source trace := by
  intro x hx hcopy
  rw [quiet x hx] at hcopy
  cases hcopy

theorem copiesFrom_append {source : Option String} {first rest : StorageTrace}
    (hfirst : CopiesFrom source first) (hrest : CopiesFrom source rest) :
    CopiesFrom source (first ++ rest) := by
  intro x hx
  rcases List.mem_append.mp hx with hx | hx
  · exact hfirst x hx
  · exact hrest x hx

theorem not_isCopy_of_idle {trace : StorageTrace} (idle : Idle trace) :
    ∀ x ∈ trace, x.call.isCopy = false := by
  induction idle with
  | nil => simp
  | cons now rest ih => exact List.forall_mem_cons.mpr ⟨rfl, ih⟩

namespace ShellBackend

variable {backend : ShellBackend} {x : Exchange interface} {dataset : String}

theorem source_of_makeRun {placement : Placement} {size : Nat} {recorded : Annotations}
    {trace : StorageTrace} {result : Annotations × Except Failure Unit}
    (run : MakeRun backend placement size recorded trace result) (hx : x ∈ trace)
    (hcopy : Copies x dataset) : placement.source = some dataset := by
  cases run with
  | fresh =>
    rw [List.mem_singleton] at hx
    subst hx
    exact hcopy.elim
  | unsnapped source h now =>
    rw [List.mem_cons, List.mem_singleton] at hx
    rcases hx with rfl | rfl
    · exact hcopy.elim
    · rw [h, (snapshotOf_name source placement.volumeRef now).unique hcopy]
  | cloned source h now =>
    rw [List.mem_cons, List.mem_cons, List.mem_singleton] at hx
    rcases hx with rfl | rfl | rfl
    · exact hcopy.elim
    · rw [h, (snapshotOf_name source placement.volumeRef now).unique hcopy]
    · rw [h, (snapshotOf_name source placement.volumeRef now).unique hcopy]

theorem source_of_createRun {request : Annotations} {size : Nat} {trace : StorageTrace}
    {result : Annotations × Except Failure Descriptor}
    (run : CreateRun backend request size trace result) (hx : x ∈ trace)
    (hcopy : Copies x dataset) : SourceOf backend.layout request dataset := by
  cases run with
  | unready => cases hx
  | unmade recorded placement h run =>
    exact ⟨recorded, placement, h, source_of_makeRun run hx hcopy⟩
  | made recorded placement h run permissions =>
    rcases List.mem_append.mp hx with hx | hx
    · exact ⟨recorded, placement, h, source_of_makeRun run hx hcopy⟩
    · cases permissions with
      | unset => cases hx
      | set =>
        rw [List.mem_singleton] at hx
        subst hx
        exact hcopy.elim

theorem copiesFrom_of_makeRun {placement : Placement} {size : Nat} {recorded : Annotations}
    {trace : StorageTrace} {result : Annotations × Except Failure Unit}
    (run : MakeRun backend placement size recorded trace result) :
    CopiesFrom placement.source trace := by
  have snapped (source : String) (now : Timestamp) (answer : Except Failure CommandOutput) :
      Copies (onExec backend.host (backend.snapshotCommand (snapshotFor placement source now)
        placement.volumeRef) answer) source :=
    snapshotOf_name source placement.volumeRef now
  cases run with
  | fresh => exact copiesFrom_of_quiet (List.forall_mem_singleton.mpr rfl)
  | unsnapped source h now answer =>
    intro x hx hcopy
    rw [List.mem_cons, List.mem_singleton] at hx
    rcases hx with rfl | rfl
    · cases hcopy
    · exact ⟨source, h, fun _ => snapped source now answer⟩
  | cloned source h now taken =>
    intro x hx hcopy
    rw [List.mem_cons, List.mem_cons, List.mem_singleton] at hx
    rcases hx with rfl | rfl | rfl
    · cases hcopy
    · exact ⟨source, h, fun _ => snapped source now taken⟩
    · exact ⟨source, h, fun hsnapshot => nomatch hsnapshot⟩

theorem copiesFrom_of_createRun {request : Annotations} {size : Nat} {trace : StorageTrace}
    {result : Annotations × Except Failure Descriptor}
    (run : CreateRun backend request size trace result) :
    trace = [] ∨ ∃ recorded placement,
      prepare backend.layout request = (recorded, .ok placement) ∧
        CopiesFrom placement.source trace := by
  cases run with
  | unready => exact .inl rfl
  | unmade recorded placement h run =>
    exact .inr ⟨recorded, placement, h, copiesFrom_of_makeRun run⟩
  | made recorded placement h run permissions =>
    refine .inr ⟨recorded, placement, h, copiesFrom_append (copiesFrom_of_makeRun run)
      (copiesFrom_of_quiet ?_)⟩
    cases permissions with
    | unset => simp
    | set => exact List.forall_mem_singleton.mpr rfl

/-- The first command of a clone is the snapshot of its source, whatever becomes of it. -/
theorem exists_copy {request recorded : Annotations} {placement : Placement}
    (hprepare : prepare backend.layout request = (recorded, .ok placement))
    (hsource : placement.source = some dataset) (size : Nat) :
    ∃ trace failure, CreateRun backend request size trace (recorded, .error failure) ∧
      NamesSnapshots trace ∧ ∃ x ∈ trace, Copies x dataset := by
  refine ⟨_, .internal "", .unmade recorded placement hprepare
    (.unsnapped dataset hsource ⟨0⟩ (.error (.internal "")) (.internal "") rfl), ?_, ?_⟩
  · intro source name volumeRef snapshot hmem
    simp at hmem
  · exact ⟨_, List.mem_cons_of_mem _ (List.mem_singleton_self _),
      snapshotOf_name dataset placement.volumeRef _⟩

end ShellBackend

namespace RestBackend

variable {backend : RestBackend} {x : Exchange interface} {dataset : String}

theorem not_copies_of_quotaRun {target : String} {quota : Dataset.Quota} {trace : StorageTrace}
    {result : Except Failure Unit} (run : QuotaRun target quota trace result) (hx : x ∈ trace) :
    ¬Copies x dataset := by
  cases run with
  | unlimited => cases hx
  | imposed =>
    rw [List.mem_singleton] at hx
    subst hx
    exact id

theorem source_of_cloneRun {placement : Placement} {source : String} {size : Nat}
    {options : Dataset.Options} {recorded : Annotations} {trace : StorageTrace}
    {result : Annotations × Except Failure (Option Dataset.Info)}
    (run : CloneRun backend placement source size options recorded trace result)
    (named : NamesSnapshots trace) (hx : x ∈ trace) (hcopy : Copies x dataset) :
    source = dataset := by
  -- A snapshot that is cloned was taken before, and has the name that was asked for.
  have cloned (now : Timestamp) {snapshot : String}
      (taken : onManagement (.createSnapshot source
        (Dataset.Snapshot.name placement.volumeRef now) placement.volumeRef) (.ok snapshot) ∈ trace)
      (hof : SnapshotOf snapshot dataset) : source = dataset := by
    rw [named _ _ _ _ taken] at hof
    exact (snapshotOf_name source placement.volumeRef now).unique hof
  cases run with
  | unsnapped now =>
    rw [List.mem_cons, List.mem_singleton] at hx
    rcases hx with rfl | rfl
    · exact hcopy.elim
    · exact hcopy
  | uncloned now snapshot =>
    rw [List.mem_cons, List.mem_cons, List.mem_singleton] at hx
    rcases hx with rfl | rfl | rfl
    · exact hcopy.elim
    · exact hcopy
    · exact cloned now (by simp) hcopy
  | unlimited now snapshot run =>
    rw [List.mem_cons, List.mem_cons, List.mem_cons] at hx
    rcases hx with rfl | rfl | rfl | hx
    · exact hcopy.elim
    · exact hcopy
    · exact cloned now (by simp) hcopy
    · exact absurd hcopy (not_copies_of_quotaRun run hx)
  | cloned now snapshot run =>
    rw [List.mem_cons, List.mem_cons, List.mem_cons, List.mem_append, List.mem_singleton] at hx
    rcases hx with rfl | rfl | rfl | hx | rfl
    · exact hcopy.elim
    · exact hcopy
    · exact cloned now (by simp) hcopy
    · exact absurd hcopy (not_copies_of_quotaRun run hx)
    · exact hcopy.elim

theorem source_of_makeRun {placement : Placement} {size : Nat} {recorded : Annotations}
    {trace : StorageTrace} {result : Annotations × Except Failure (Option Dataset.Info)}
    (run : MakeRun backend placement size recorded trace result) (named : NamesSnapshots trace)
    (hx : x ∈ trace) (hcopy : Copies x dataset) : placement.source = some dataset := by
  cases run with
  | fresh h run =>
    cases run with
    | rejected =>
      rw [List.mem_singleton] at hx
      subst hx
      exact hcopy.elim
    | mounted =>
      rw [List.mem_singleton] at hx
      subst hx
      exact hcopy.elim
    | lookedUp =>
      rw [List.mem_cons, List.mem_singleton] at hx
      rcases hx with rfl | rfl
      · exact hcopy.elim
      · exact hcopy.elim
  | clone source h run => rw [h, source_of_cloneRun run named hx hcopy]

theorem source_of_createRun {request : Annotations} {size : Nat} {trace : StorageTrace}
    {result : Annotations × Except Failure Descriptor}
    (run : CreateRun backend request size trace result) (named : NamesSnapshots trace)
    (hx : x ∈ trace) (hcopy : Copies x dataset) : SourceOf backend.layout request dataset := by
  cases run with
  | unready => cases hx
  | unmade recorded placement h run =>
    exact ⟨recorded, placement, h, source_of_makeRun run named hx hcopy⟩
  | missing recorded placement h run =>
    exact ⟨recorded, placement, h, source_of_makeRun run named hx hcopy⟩
  | @made recorded placement h making sharing after info result run shared =>
    rcases List.mem_append.mp hx with hx | hx
    · have named := named.part (List.subset_append_left making sharing)
      exact ⟨recorded, placement, h, source_of_makeRun run named hx hcopy⟩
    · cases shared with
      | unshared =>
        rw [List.mem_singleton] at hx
        subst hx
        exact hcopy.elim
      | shared =>
        rw [List.mem_singleton] at hx
        subst hx
        exact hcopy.elim
      | opened =>
        rw [List.mem_cons, List.mem_singleton] at hx
        rcases hx with rfl | rfl
        · exact hcopy.elim
        · exact hcopy.elim

theorem not_isCopy_of_quotaRun {target : String} {quota : Dataset.Quota} {trace : StorageTrace}
    {result : Except Failure Unit} (run : QuotaRun target quota trace result) :
    ∀ x ∈ trace, x.call.isCopy = false := by
  cases run with
  | unlimited => simp
  | imposed => exact List.forall_mem_singleton.mpr rfl

theorem not_isCopy_of_freshRun {placement : Placement} {size : Nat} {options : Dataset.Options}
    {trace : StorageTrace} {found : Except Failure (Option Dataset.Info)}
    (run : FreshRun backend placement size options trace found) :
    ∀ x ∈ trace, x.call.isCopy = false := by
  cases run with
  | rejected => exact List.forall_mem_singleton.mpr rfl
  | mounted => exact List.forall_mem_singleton.mpr rfl
  | lookedUp => exact List.forall_mem_cons.mpr ⟨rfl, List.forall_mem_singleton.mpr rfl⟩

theorem not_isCopy_of_shareRun {placement : Placement} {path : String} {readOnly : Bool}
    {trace : StorageTrace} {result : Except Failure Unit}
    (run : ShareRun backend placement path readOnly trace result) :
    ∀ x ∈ trace, x.call.isCopy = false := by
  cases run with
  | unshared => exact List.forall_mem_singleton.mpr rfl
  | shared => exact List.forall_mem_singleton.mpr rfl
  | opened => exact List.forall_mem_cons.mpr ⟨rfl, List.forall_mem_singleton.mpr rfl⟩

/-- The calls for a clone begin with the one snapshot that is taken, of the source. -/
theorem copiesFrom_of_cloneRun {placement : Placement} {source : String} {size : Nat}
    {options : Dataset.Options} {recorded : Annotations} {trace : StorageTrace}
    {result : Annotations × Except Failure (Option Dataset.Info)}
    (run : CloneRun backend placement source size options recorded trace result) :
    CopiesFrom (some source) trace := by
  have clock (now : Timestamp) : CopiesFrom (some source) [onStorageClock now] :=
    copiesFrom_of_quiet (List.forall_mem_singleton.mpr rfl)
  have snapped (now : Timestamp) (answer : Except Failure String) :
      CopiesFrom (some source) [onManagement (.createSnapshot source
        (Dataset.Snapshot.name placement.volumeRef now) placement.volumeRef) answer] := by
    intro x hx _
    obtain rfl := List.mem_singleton.mp hx
    exact ⟨source, rfl, fun _ => rfl⟩
  have copied (snapshot : String) (answer : Except Failure Unit) :
      CopiesFrom (some source) [onManagement (.cloneSnapshot snapshot
        (backend.layout.datasetPath placement.uuid)) answer] := by
    intro x hx _
    obtain rfl := List.mem_singleton.mp hx
    exact ⟨source, rfl, fun hsnapshot => nomatch hsnapshot⟩
  cases run with
  | unsnapped now failure => exact copiesFrom_append (clock now) (snapped now _)
  | uncloned now snapshot failure =>
    exact copiesFrom_append (clock now) (copiesFrom_append (snapped now _) (copied snapshot _))
  | unlimited now snapshot run =>
    exact copiesFrom_append (clock now) <| copiesFrom_append (snapped now _) <|
      copiesFrom_append (copied snapshot _) (copiesFrom_of_quiet (not_isCopy_of_quotaRun run))
  | cloned now snapshot run =>
    exact copiesFrom_append (clock now) <| copiesFrom_append (snapped now _) <|
      copiesFrom_append (copied snapshot _) <|
      copiesFrom_append (copiesFrom_of_quiet (not_isCopy_of_quotaRun run))
        (copiesFrom_of_quiet (List.forall_mem_singleton.mpr rfl))

theorem copiesFrom_of_makeRun {placement : Placement} {size : Nat} {recorded : Annotations}
    {trace : StorageTrace} {result : Annotations × Except Failure (Option Dataset.Info)}
    (run : MakeRun backend placement size recorded trace result) :
    CopiesFrom placement.source trace := by
  cases run with
  | fresh h run => exact copiesFrom_of_quiet (not_isCopy_of_freshRun run)
  | clone source h run => exact h ▸ copiesFrom_of_cloneRun run

theorem copiesFrom_of_createRun {request : Annotations} {size : Nat} {trace : StorageTrace}
    {result : Annotations × Except Failure Descriptor}
    (run : CreateRun backend request size trace result) :
    trace = [] ∨ ∃ recorded placement,
      prepare backend.layout request = (recorded, .ok placement) ∧
        CopiesFrom placement.source trace := by
  cases run with
  | unready => exact .inl rfl
  | unmade recorded placement h run =>
    exact .inr ⟨recorded, placement, h, copiesFrom_of_makeRun run⟩
  | missing recorded placement h run =>
    exact .inr ⟨recorded, placement, h, copiesFrom_of_makeRun run⟩
  | made recorded placement h run shared =>
    exact .inr ⟨recorded, placement, h, copiesFrom_append (copiesFrom_of_makeRun run)
      (copiesFrom_of_quiet (not_isCopy_of_shareRun shared))⟩

/-- The first call for a clone takes the snapshot of its source, whatever becomes of it. -/
theorem exists_copy {request recorded : Annotations} {placement : Placement}
    (hprepare : prepare backend.layout request = (recorded, .ok placement))
    (hsource : placement.source = some dataset) (size : Nat) :
    ∃ trace failure, CreateRun backend request size trace (recorded, .error failure) ∧
      NamesSnapshots trace ∧ ∃ x ∈ trace, Copies x dataset := by
  refine ⟨_, .internal "", .unmade recorded placement hprepare
    (.clone dataset hsource (.unsnapped ⟨0⟩ (.internal ""))), ?_, ?_⟩
  · intro source name volumeRef snapshot hmem
    simp at hmem
  · exact ⟨_, List.mem_cons_of_mem _ (List.mem_singleton_self _), rfl⟩

end RestBackend

namespace Backend

variable {backend : Backend} {dataset : String}

/-- A backend copies the checked clone source of its request and no other dataset. -/
theorem source_of_copies {request : Annotations} {size : Nat} {trace : StorageTrace}
    {answer : Annotations × Option Descriptor}
    (run : Program.Runs (backend.create request size) trace answer) (named : NamesSnapshots trace)
    {x : Exchange interface} (hx : x ∈ trace) (hcopy : Copies x dataset) :
    SourceOf backend.layout request dataset := by
  obtain ⟨result, htry, -⟩ := runs_create.mp run
  cases backend with
  | shell b => exact ShellBackend.source_of_createRun (ShellBackend.runs_create.mp htry) hx hcopy
  | rest b => exact RestBackend.source_of_createRun (RestBackend.runs_create.mp htry) named hx hcopy

/-- A backend takes its clone path only for a request with a checked clone source, and takes
snapshots of that dataset only. -/
theorem sourceOf_of_isCopy {request : Annotations} {size : Nat} {trace : StorageTrace}
    {answer : Annotations × Option Descriptor}
    (run : Program.Runs (backend.create request size) trace answer) {x : Exchange interface}
    (hx : x ∈ trace) (hcopy : x.call.isCopy = true) :
    ∃ source, SourceOf backend.layout request source ∧
      (x.call.isSnapshot = true → Copies x source) := by
  obtain ⟨result, htry, -⟩ := runs_create.mp run
  have prepared : trace = [] ∨ ∃ recorded placement,
      prepare backend.layout request = (recorded, .ok placement) ∧
        CopiesFrom placement.source trace := by
    cases backend with
    | shell b => exact ShellBackend.copiesFrom_of_createRun (ShellBackend.runs_create.mp htry)
    | rest b => exact RestBackend.copiesFrom_of_createRun (RestBackend.runs_create.mp htry)
  rcases prepared with rfl | ⟨recorded, placement, hprepare, copies⟩
  · cases hx
  · obtain ⟨source, hsource, hsnapped⟩ := copies x hx hcopy
    exact ⟨source, ⟨recorded, placement, hprepare, hsource⟩, hsnapped⟩

/-- Where a request has a checked clone source, that dataset is copied in some run. -/
theorem exists_copy {request : Annotations} (hsource : SourceOf backend.layout request dataset)
    (size : Nat) :
    ∃ trace after, Program.Runs (backend.create request size) trace (after, none) ∧
      NamesSnapshots trace ∧ ∃ x ∈ trace, Copies x dataset := by
  obtain ⟨recorded, placement, hprepare, hsource⟩ := hsource
  cases backend with
  | shell b =>
    have hprepare : prepare b.layout request = (recorded, .ok placement) := hprepare
    obtain ⟨trace, failure, run, named, copied⟩ := ShellBackend.exists_copy hprepare hsource size
    exact ⟨trace, recorded,
      runs_create.mpr ⟨_, ShellBackend.runs_create.mpr run, rfl⟩, named, copied⟩
  | rest b =>
    have hprepare : prepare b.layout request = (recorded, .ok placement) := hprepare
    obtain ⟨trace, failure, run, named, copied⟩ := RestBackend.exists_copy hprepare hsource size
    exact ⟨trace, recorded,
      runs_create.mpr ⟨_, RestBackend.runs_create.mpr run, rfl⟩, named, copied⟩

end Backend

end DatasetProvisioner.Storage
