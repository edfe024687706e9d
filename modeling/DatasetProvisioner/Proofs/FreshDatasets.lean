import DatasetProvisioner.Proofs.RequestBodies
import DatasetProvisioner.Proofs.Requests
import DatasetProvisioner.Proofs.RestRuns
import DatasetProvisioner.Proofs.Sample

/-!
# The two backends on fresh datasets

A fresh dataset is made by one command or by one request. Both are composed of the same options, in
different forms: here the body of the request is read back and compared with what the command sets.
Log bias is set by the command only, and the request rounds sizes up to whole records.
-/
namespace DatasetProvisioner.Storage

open Dataset Management
open Reconciler (Sample.layout)

variable {layout : Layout} {annotations other recorded : Annotations} {placement : Placement}

/-! ## What a fresh dataset depends on -/

/-- The keys that tune a dataset. -/
def tuningKeys : List String :=
  Key.blockSize :: Tunable.all.map Tunable.key

/-- The keys that a fresh dataset depends on. -/
def freshKeys : List String :=
  Key.volumeUuid :: Key.volumeRef :: tuningKeys

theorem key_mem_tuningKeys (t : Tunable) : t.key ∈ tuningKeys := by
  cases t <;> decide

theorem ofAnnotations_congr (agree : ∀ key ∈ tuningKeys, other[key]? = annotations[key]?) :
    Options.ofAnnotations other = Options.ofAnnotations annotations := by
  have htuned : (Options.ofAnnotations other).tuned = (Options.ofAnnotations annotations).tuned :=
    funext fun t => congrArg (·.bind t.value?) (agree t.key (key_mem_tuningKeys t))
  have hsize : other[Key.blockSize]? = annotations[Key.blockSize]? :=
    agree Key.blockSize List.mem_cons_self
  simp only [Options.ofAnnotations, Options.mk.injEq]
  exact ⟨by rw [hsize], htuned⟩

/-- Preparing a request does not touch what tunes its dataset. -/
theorem Prepared.options (prepared : Prepared layout annotations recorded placement) :
    Options.ofAnnotations recorded = Options.ofAnnotations annotations := by
  refine ofAnnotations_congr fun key hkey => prepared.frame key ?_
  have free : ∀ key ∈ tuningKeys, key ∉ placeKeys := by decide
  exact free key hkey

theorem eq_of_prepare {recorded' : Annotations} {placement' : Placement}
    (h : prepare layout annotations = (recorded, .ok placement))
    (h' : prepare layout annotations = (recorded', .ok placement')) :
    recorded = recorded' ∧ placement = placement' := by
  rw [h, Prod.mk.injEq, Except.ok.injEq] at h'
  exact h'

theorem Placed.source_eq_none (placed : Placed layout annotations placement)
    (fresh : annotations[Key.cloneRef]? = none) : placement.source = none := by
  rcases placed.source with ⟨-, hnone⟩ | ⟨ref, -, href, -, -⟩
  · exact hnone
  · rw [fresh] at href
    cases href

/-- Requests without a clone reference that agree on the identifier and the name of the volume are
placed alike. -/
theorem Placed.unique {placement' : Placement} (placed : Placed layout annotations placement)
    (placed' : Placed layout other placement') (agree : ∀ key ∈ freshKeys,
      other[key]? = annotations[key]?) (fresh : annotations[Key.cloneRef]? = none)
    (fresh' : other[Key.cloneRef]? = none) : placement' = placement := by
  have huuid : volumeUuid other = volumeUuid annotations := by
    rw [volumeUuid, volumeUuid, agree Key.volumeUuid (by decide)]
  obtain ⟨uuid, volumeRef, source⟩ := placement
  obtain ⟨uuid', volumeRef', source'⟩ := placement'
  obtain rfl : source = none := placed.source_eq_none fresh
  obtain rfl : source' = none := placed'.source_eq_none fresh'
  obtain rfl : uuid = uuid' :=
    Except.ok.inj (placed.uuid.symm.trans (huuid.symm.trans placed'.uuid))
  obtain rfl : volumeRef = volumeRef' :=
    Option.some.inj (placed.named.symm.trans
      ((agree Key.volumeRef (by decide)).symm.trans placed'.named))
  rfl

/-! ## The properties of a command and of a request -/

/-- A property as a request sets it where a command sets another: a size is a whole number of
records, if a record size is set. -/
def inRecords (options : Options) (p : String × String) : String × String :=
  if p.1 = "quota" ∨ p.1 = "reservation" then
    match Text.natural? 10 p.2.toList with
    | some size => (p.1, Text.decimal (RestBackend.imposedSize options size))
    | none => p
  else p

/-- A request expresses what a command does that sets some properties on a dataset: all of them but
log bias, with sizes in whole records, and each once. -/
structure Expresses (request : Request) (dataset : String) (options : Options)
    (properties : List (String × String)) : Prop where
  dataset : bodyDataset? request.body = some dataset
  properties : ∃ read, bodyProperties? request.body = some read ∧ (read.map Prod.fst).Nodup ∧
    read.Perm ((properties.filter (·.1 ≠ "logbias")).map (inRecords options))

theorem inRecords_size (options : Options) {name : String}
    (h : name = "quota" ∨ name = "reservation") (size : Nat) :
    inRecords options (name, Text.decimal size) =
      (name, Text.decimal (RestBackend.imposedSize options size)) := by
  simp only [inRecords, h, if_true, Text.natural?_decimal]

theorem inRecords_of_ne {options : Options} {p : String × String}
    (h : p.1 ≠ "quota" ∧ p.1 ≠ "reservation") : inRecords options p = p := by
  rw [inRecords, if_neg (not_or.mpr h)]

theorem fst_inRecords (options : Options) (p : String × String) :
    (inRecords options p).1 = p.1 := by
  unfold inRecords
  split
  · split <;> rfl
  · rfl

/-- The quota of a request is that of a command, in whole records. -/
theorem map_inRecords_quota (options : Options) (mode : QuotaMode) (size : Nat) :
    ((Quota.ofSize mode size).properties.map fun p => (p.1, Text.decimal p.2)).map
        (inRecords options) =
      (Quota.ofSize mode (RestBackend.imposedSize options size)).properties.map
        fun p => (p.1, Text.decimal p.2) := by
  have hlimit := inRecords_size options (.inl rfl) size
  have hguarantee := inRecords_size options (.inr rfl) size
  cases mode <;> simp [Quota.ofSize, Quota.properties, QuotaMode.limits, QuotaMode.guarantees,
    hlimit, hguarantee]

theorem filter_quota (quota : Quota) :
    (quota.properties.map fun p => (p.1, Text.decimal p.2)).filter (·.1 ≠ "logbias") =
      quota.properties.map fun p => (p.1, Text.decimal p.2) := by
  rw [List.filter_eq_self]
  intro p hp
  obtain ⟨q, hq, rfl⟩ := List.mem_map.mp hp
  rcases name_of_mem_quota hq with hname | hname <;> rw [hname] <;> decide

theorem filter_options (options : Options) :
    options.properties.filter (·.1 ≠ "logbias") = (options.without .logBias).properties := by
  rw [Options.properties, Options.properties, List.filter_append, List.filter_filterMap]
  congr 1
  · change List.filter _ (options.recordSize.toList.map _) = options.recordSize.toList.map _
    rw [List.filter_eq_self]
    intro p hp
    obtain ⟨n, -, rfl⟩ := List.mem_map.mp hp
    rfl
  · refine List.filterMap_congr fun t _ => ?_
    by_cases h : t = .logBias
    · subst h
      cases options.tuned .logBias <;> simp [Options.without, Option.filter, Tunable.name]
    · have hname : t.name ≠ "logbias" := fun hname => h (name_injective t .logBias hname)
      cases htuned : options.tuned t <;> simp [Options.without, Option.filter, h, hname, htuned]

theorem ne_quota_of_mem_options {options : Options} {p : String × String}
    (h : p ∈ options.properties) : p.1 ≠ "quota" ∧ p.1 ≠ "reservation" := by
  have hname := (Options.names_properties options).subset (List.mem_map_of_mem h)
  have hall : ∀ name ∈ "recordsize" :: Tunable.all.map Tunable.name,
      name ≠ "quota" ∧ name ≠ "reservation" := by
    decide
  exact hall p.1 hname

theorem tracking_ne_quota : trackingProperty ≠ "quota" ∧ trackingProperty ≠ "reservation" := by
  decide

theorem map_inRecords_options (options kept : Options) :
    kept.properties.map (inRecords options) = kept.properties := by
  rw [List.map_congr_left fun p hp => inRecords_of_ne (ne_quota_of_mem_options hp), List.map_id']

/-- The properties of a command without log bias and in whole records: first the name of the volume,
then the quota and the options of the request. -/
theorem inRecords_datasetProperties (backend : ShellBackend) (volumeRef : String) (size : Nat)
    (options : Options) :
    ((backend.datasetProperties volumeRef size options).filter (·.1 ≠ "logbias")).map
        (inRecords options) =
      (trackingProperty, volumeRef) ::
        (((Quota.ofSize backend.quotaMode (RestBackend.imposedSize options size)).properties.map
          fun p => (p.1, Text.decimal p.2)) ++ (options.without .logBias).properties) := by
  have htracking : inRecords options (trackingProperty, volumeRef) =
      (trackingProperty, volumeRef) :=
    inRecords_of_ne tracking_ne_quota
  have hkept : decide ((trackingProperty, volumeRef).1 ≠ "logbias") = true := rfl
  rw [ShellBackend.datasetProperties, List.cons_append, List.filter_cons, if_pos hkept,
    List.filter_append, filter_quota, filter_options, List.map_cons, List.map_append,
    map_inRecords_quota, map_inRecords_options, htracking]

/-- The request for a dataset expresses what the command for it does. -/
theorem expresses_requestFor {shell : ShellBackend} {rest : RestBackend}
    (sameLayout : shell.layout = rest.layout) (sameMode : shell.quotaMode = rest.quotaMode)
    {options : Options} (restricted : options.Restricted) (placement : Placement) (size : Nat) :
    Expresses (rest.requestFor placement size options) (shell.layout.datasetPath placement.uuid)
      options (shell.datasetProperties placement.volumeRef size options) := by
  obtain ⟨read, hread, hperm⟩ : ∃ read,
      bodyProperties? (rest.requestFor placement size options).body = some read ∧
        read.Perm (((shell.datasetProperties placement.volumeRef size options).filter
          (·.1 ≠ "logbias")).map (inRecords options)) := by
    refine ⟨_, bodyProperties?_body restricted, ?_⟩
    rw [inRecords_datasetProperties, sameMode]
    exact List.perm_append_singleton _ _
  refine ⟨?_, read, hread, ?_, hperm⟩
  · rw [bodyDataset?_body, sameLayout]
    rfl
  · have honce := (ShellBackend.settable_datasetProperties shell restricted placement.volumeRef
      size).once
    have hnames : (fun p => (inRecords options p).1) = Prod.fst := funext (fst_inRecords options)
    rw [(hperm.map Prod.fst).nodup_iff, List.map_map, Function.comp_def, hnames]
    exact honce.sublist (List.filter_sublist.map Prod.fst)

/-! ## The first call of a creation -/

theorem ShellBackend.first_of_createRun {backend : ShellBackend}
    (accepted : prepare backend.layout annotations = (recorded, .ok placement))
    (fresh : placement.source = none) {size : Nat} {trace : StorageTrace}
    {result : Annotations × Except Failure Descriptor}
    (run : CreateRun backend annotations size trace result) :
    ∃ answer rest, trace = onExec backend.host (backend.createCommand
      (backend.layout.datasetPath placement.uuid) placement.volumeRef size
      (Options.ofAnnotations recorded)) answer :: rest := by
  have first {making : StorageTrace} {made : Annotations × Except Failure Unit}
      (run : MakeRun backend placement size recorded making made) :
      ∃ answer, making = [onExec backend.host (backend.createCommand
        (backend.layout.datasetPath placement.uuid) placement.volumeRef size
        (Options.ofAnnotations recorded)) answer] := by
    cases run with
    | fresh h answer => exact ⟨answer, rfl⟩
    | unsnapped source h => simp [fresh] at h
    | cloned source h => simp [fresh] at h
  cases run with
  | unready after failure h => simp [accepted] at h
  | unmade recorded' placement' h run =>
    obtain ⟨rfl, rfl⟩ := eq_of_prepare accepted h
    obtain ⟨answer, rfl⟩ := first run
    exact ⟨answer, [], rfl⟩
  | made recorded' placement' h run permissions =>
    obtain ⟨rfl, rfl⟩ := eq_of_prepare accepted h
    obtain ⟨answer, rfl⟩ := first run
    exact ⟨answer, _, rfl⟩

theorem RestBackend.first_of_createRun {backend : RestBackend}
    (accepted : prepare backend.layout annotations = (recorded, .ok placement))
    (fresh : placement.source = none) {size : Nat} {trace : StorageTrace}
    {result : Annotations × Except Failure Descriptor}
    (run : CreateRun backend annotations size trace result) :
    ∃ answer rest, trace = onManagement (.createDataset
      (backend.requestFor placement size (Options.ofAnnotations recorded))) answer :: rest := by
  have first {making : StorageTrace} {made : Annotations × Except Failure (Option Info)}
      (run : MakeRun backend placement size recorded making made) :
      ∃ answer rest, making = onManagement (.createDataset
        (backend.requestFor placement size (Options.ofAnnotations recorded))) answer :: rest := by
    cases run with
    | fresh h run => cases run <;> exact ⟨_, _, rfl⟩
    | clone source h => simp [fresh] at h
  cases run with
  | unready after failure h => simp [accepted] at h
  | unmade recorded' placement' h run =>
    obtain ⟨rfl, rfl⟩ := eq_of_prepare accepted h
    exact first run
  | missing recorded' placement' h run =>
    obtain ⟨rfl, rfl⟩ := eq_of_prepare accepted h
    exact first run
  | made recorded' placement' h run shared =>
    obtain ⟨rfl, rfl⟩ := eq_of_prepare accepted h
    obtain ⟨answer, rest, rfl⟩ := first run
    exact ⟨answer, _, rfl⟩

/-- A request that passed all checks and is not to clone anything. -/
def AcceptedFresh (layout : Layout) (annotations : Annotations) : Prop :=
  annotations[Key.cloneRef]? = none ∧
    ∃ recorded placement, prepare layout annotations = (recorded, .ok placement)

/-- One request and the properties of one command belong to the annotations of a fresh dataset: the
request expresses what the command does, and the two backends begin with them for all annotations
that agree on the identifier and the name of the volume and on what tunes a dataset. -/
structure MadeAlike (shell : ShellBackend) (rest : RestBackend) (annotations : Annotations)
    (size : Nat) (uuid : Uuid) (request : Request) (properties : List (String × String)) :
    Prop where
  identified : volumeUuid annotations = .ok uuid
  expressed : Expresses request (shell.layout.datasetPath uuid)
    (Options.ofAnnotations annotations) properties
  commanded : ∀ other, AcceptedFresh shell.layout other →
    (∀ key ∈ freshKeys, other[key]? = annotations[key]?) →
    ∀ trace result, Program.Runs (shell.create other size) trace result →
      ∃ answer last, trace = onExec shell.host
        (shell.command (.create (shell.layout.datasetPath uuid) properties)) answer :: last
  requested : ∀ other, AcceptedFresh rest.layout other →
    (∀ key ∈ freshKeys, other[key]? = annotations[key]?) →
    ∀ trace result, Program.Runs (rest.create other size) trace result →
      ∃ answer last, trace = onManagement (.createDataset request) answer :: last

/-- The two backends agree on fresh datasets, whatever the layout, the mode, the size and the
annotations. -/
theorem fresh_datasets_alike {shell : ShellBackend} {rest : RestBackend}
    (sameLayout : shell.layout = rest.layout) (sameMode : shell.quotaMode = rest.quotaMode)
    (size : Nat) (accepted : AcceptedFresh shell.layout annotations) :
    ∃ uuid request properties, MadeAlike shell rest annotations size uuid request properties := by
  obtain ⟨fresh, recorded, placement, hprepare⟩ := accepted
  have prepared := prepared_of_prepare hprepare
  have hsource := prepared.placed.source_eq_none fresh
  -- Whatever else other annotations hold, they are placed alike and tuned alike.
  have alike {other : Annotations} (accepted : AcceptedFresh shell.layout other)
      (agree : ∀ key ∈ freshKeys, other[key]? = annotations[key]?) :
      ∃ recorded, prepare shell.layout other = (recorded, .ok placement) ∧
        Options.ofAnnotations recorded = Options.ofAnnotations annotations := by
    obtain ⟨fresh', recorded', placement', hprepare'⟩ := accepted
    have prepared' := prepared_of_prepare hprepare'
    obtain rfl := prepared.placed.unique prepared'.placed agree fresh fresh'
    refine ⟨recorded', hprepare', prepared'.options.trans ?_⟩
    exact ofAnnotations_congr fun key hkey =>
      agree key (List.mem_cons_of_mem _ (List.mem_cons_of_mem _ hkey))
  refine ⟨placement.uuid, rest.requestFor placement size (Options.ofAnnotations annotations),
    shell.datasetProperties placement.volumeRef size (Options.ofAnnotations annotations),
    prepared.placed.uuid, expresses_requestFor sameLayout sameMode
      (Options.restricted_ofAnnotations annotations) placement size, ?_, ?_⟩
  · intro other accepted agree trace result run
    obtain ⟨recorded', hprepare', hoptions⟩ := alike accepted agree
    rw [← hoptions]
    exact ShellBackend.first_of_createRun hprepare' hsource (ShellBackend.runs_create.mp run)
  · intro other accepted agree trace result run
    obtain ⟨recorded', hprepare', hoptions⟩ := alike (sameLayout ▸ accepted) agree
    rw [← hoptions]
    exact RestBackend.first_of_createRun (sameLayout ▸ hprepare') hsource
      (RestBackend.runs_create.mp run)

/-- Annotations with a record size, a compression in upper case and a log bias. -/
def tuned : Annotations :=
  (∅ : Annotations).insert Key.volumeUuid "0000000A-0000-4000-8000-00000000000A"
    |>.insert Key.volumeRef "pv-1"
    |>.insert Key.blockSize "131072"
    |>.insert Key.compression " LZ4 "
    |>.insert Key.logBias "latency"

def commanding : ShellBackend where
  name := "shell"
  layout := Sample.layout
  host := "nas01"
  quotaMode := .both

def requesting : RestBackend where
  name := "rest"
  layout := Sample.layout
  quotaMode := .both

theorem acceptedFresh_tuned : AcceptedFresh Sample.layout tuned := by
  refine ⟨by decide, ?_⟩
  obtain ⟨uuid, huuid⟩ : ∃ uuid, volumeUuid tuned = .ok uuid := ⟨_, rfl⟩
  have mountable : Mountable tuned := ⟨by decide, fun protocol h => nomatch h⟩
  have placed : Placed Sample.layout tuned ⟨uuid, "pv-1", none⟩ :=
    ⟨huuid, rfl, .inl ⟨by decide, rfl⟩⟩
  obtain ⟨recorded, hprepare⟩ := exists_prepare mountable placed
  exact ⟨recorded, _, hprepare⟩

theorem sample_fresh_datasets_alike :
    commanding.layout = requesting.layout ∧ commanding.quotaMode = requesting.quotaMode ∧
      AcceptedFresh commanding.layout tuned ∧
      ∃ uuid request properties,
        MadeAlike commanding requesting tuned 100000 uuid request properties :=
  ⟨rfl, rfl, acceptedFresh_tuned, fresh_datasets_alike rfl rfl 100000 acceptedFresh_tuned⟩

/-- The sizes of the command are rounded up to one record, and the log bias is missing. -/
example (uuid : Uuid) :
    let options := Options.ofAnnotations tuned
    commanding.datasetProperties "pv-1" 100000 options =
        [("zfspv:pvref", "pv-1"), ("quota", "100000"), ("reservation", "100000"),
          ("recordsize", "131072"), ("compression", "lz4"), ("logbias", "latency")] ∧
      bodyProperties? (requesting.requestFor ⟨uuid, "pv-1", none⟩ 100000 options).body =
        some [("quota", "131072"), ("reservation", "131072"), ("recordsize", "131072"),
          ("compression", "lz4"), ("zfspv:pvref", "pv-1")] := by
  exact ⟨by decide +kernel, rfl⟩

end DatasetProvisioner.Storage
