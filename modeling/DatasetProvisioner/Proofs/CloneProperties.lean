import DatasetProvisioner.Proofs.Appliance
import DatasetProvisioner.Proofs.Copies
import DatasetProvisioner.Proofs.FreshDatasets
import DatasetProvisioner.Proofs.References

/-!
# Which properties clones carry

A command that clones a dataset sets the name of the volume, the quota and the options of the
clone. Through the management interface a clone gets its quota by a request of its own, and nothing
else: neither the name of its volume nor an option is sent for it.
-/
namespace DatasetProvisioner

open Dataset Management

/-- The dataset that a call makes or changes. -/
def Management.Call.target? : Management.Call → Option String
  | .createDataset request => some request.name
  | .cloneSnapshot _ dataset => some dataset
  | .updateQuota dataset _ => some dataset
  | _ => none

namespace Storage

open Reconciler (Sample.layout Sample.storageAnswer)

variable {client : Client} {dataset : String} {annotations recorded : Annotations}
  {placement : Placement} {size : Nat} {trace : StorageTrace}

/-- The bodies of the requests by which a dataset is made or changed. -/
def bodiesFor (client : Client) (dataset : String) (trace : StorageTrace) : List Json :=
  trace.filterMap fun
    | ⟨.management c, _⟩ =>
      if c.target? = some dataset then (client.requestOf? c).bind (·.body) else none
    | _ => none

/-- The properties that these requests set on the dataset. -/
def propertiesSent? (client : Client) (dataset : String) (trace : StorageTrace) :
    Option (List (String × String)) :=
  readAll bodyProperties? (bodiesFor client dataset trace)

/-- What a clone has to carry: the name of its volume and all options but case sensitivity, which is
fixed when a dataset is first made, and log bias, which the management interface does not know. -/
def cloneProperties (volumeRef : String) (options : Options) : List (String × String) :=
  (trackingProperty, volumeRef) :: ((options.without .caseSensitivity).without .logBias).properties

theorem propertiesSent?_append {first rest : StorageTrace} {a b : List (String × String)}
    (hfirst : propertiesSent? client dataset first = some a)
    (hrest : propertiesSent? client dataset rest = some b) :
    propertiesSent? client dataset (first ++ rest) = some (a ++ b) := by
  have hbodies : bodiesFor client dataset (first ++ rest) =
      bodiesFor client dataset first ++ bodiesFor client dataset rest :=
    List.filterMap_append
  rw [propertiesSent?, hbodies]
  exact readAll_append hfirst hrest

/-- A call that makes or changes the dataset sends what is read of its body. -/
theorem propertiesSent?_of_target {c : Management.Call} {answer : c.Answer} {body : Json}
    {properties : List (String × String)} (htarget : c.target? = some dataset)
    (hbody : (client.requestOf? c).bind (·.body) = some body)
    (hread : bodyProperties? body = some properties) :
    propertiesSent? client dataset [onManagement c answer] = some properties := by
  have hbodies : bodiesFor client dataset [onManagement c answer] = [body] := by
    simp [bodiesFor, htarget, hbody]
  simp [propertiesSent?, readAll, hbodies, hread]

theorem propertiesSent?_quotaRun {quota : Quota} {result : Except Failure Unit}
    (run : RestBackend.QuotaRun dataset quota trace result) :
    propertiesSent? client dataset trace =
      some (quota.properties.map fun p => (p.1, Text.decimal p.2)) := by
  cases run with
  | unlimited h =>
    have hnone : quota.properties = [] := by
      rw [Quota.isEmpty, Bool.and_eq_true, Option.isNone_iff_eq_none,
        Option.isNone_iff_eq_none] at h
      simp [Quota.properties, h.1, h.2]
    rw [hnone]
    rfl
  | imposed h => exact propertiesSent?_of_target rfl rfl (bodyProperties?_quota quota)

theorem propertiesSent?_shareRun {backend : RestBackend} {path : String} {readOnly : Bool}
    {result : Except Failure Unit}
    (run : RestBackend.ShareRun backend placement path readOnly trace result) :
    propertiesSent? client dataset trace = some [] := by
  cases run <;> rfl

/-- For a clone that is made, its quota is sent. The snapshot gets a property of its own, but the
request that clones it has no room for any. -/
theorem propertiesSent?_cloneRun {backend : RestBackend} {source : String} {options : Options}
    {after : Annotations} {info : Info}
    (run : RestBackend.CloneRun backend placement source size options recorded trace
      (after, .ok (some info))) :
    propertiesSent? client (backend.layout.datasetPath placement.uuid) trace =
      some ((backend.quotaFor options size).properties.map fun p => (p.1, Text.decimal p.2)) := by
  generalize hresult : (after, Except.ok (some info)) = result at run
  cases run with
  | unsnapped => simp at hresult
  | uncloned => simp at hresult
  | unlimited => simp at hresult
  | @cloned now snapshot limiting limited found =>
    have hclone : propertiesSent? client (backend.layout.datasetPath placement.uuid)
        [onManagement (.cloneSnapshot snapshot (backend.layout.datasetPath placement.uuid))
          (.ok ())] = some [] :=
      propertiesSent?_of_target rfl rfl rfl
    have hlast : propertiesSent? client (backend.layout.datasetPath placement.uuid)
        [onManagement (.getDataset (backend.layout.datasetPath placement.uuid)) found] = some [] :=
      rfl
    have hrest := propertiesSent?_append hclone
      (propertiesSent?_append (propertiesSent?_quotaRun limited) hlast)
    rw [List.nil_append, List.append_nil] at hrest
    exact hrest

theorem propertiesSent?_createRun {backend : RestBackend} {after : Annotations}
    {descriptor : Descriptor} {source : String}
    (hprepare : prepare backend.layout annotations = (recorded, .ok placement))
    (hsource : placement.source = some source)
    (run : RestBackend.CreateRun backend annotations size trace (after, .ok descriptor)) :
    propertiesSent? client (backend.layout.datasetPath placement.uuid) trace =
      some ((backend.quotaFor (Options.ofAnnotations annotations) size).properties.map
        fun p => (p.1, Text.decimal p.2)) := by
  obtain ⟨recorded', placement', making, sharing, last, info, hprepare', rfl, making', shared,
    -, -⟩ := RestBackend.created_of_createRun run
  obtain ⟨rfl, rfl⟩ := eq_of_prepare hprepare hprepare'
  have hmade : propertiesSent? client (backend.layout.datasetPath placement.uuid) making =
      some ((backend.quotaFor (Options.ofAnnotations recorded) size).properties.map
        fun p => (p.1, Text.decimal p.2)) := by
    generalize hresult : (last, Except.ok (some info)) = result at making'
    cases making' with
    | fresh h => simp [hsource] at h
    | clone source' h run =>
      subst hresult
      exact propertiesSent?_cloneRun run
  have hall := propertiesSent?_append hmade (propertiesSent?_shareRun shared)
  rw [List.append_nil, (prepared_of_prepare hprepare).options] at hall
  exact hall

/-- A clone that is made by commands is made by one that sets its properties. -/
theorem ShellBackend.cloned_of_createRun {backend : ShellBackend} {after : Annotations}
    {descriptor : Descriptor} {source : String}
    (hprepare : prepare backend.layout annotations = (recorded, .ok placement))
    (hsource : placement.source = some source)
    (run : CreateRun backend annotations size trace (after, .ok descriptor)) :
    ∃ snapshot answer, onExec backend.host (backend.cloneCommand snapshot
      (backend.layout.datasetPath placement.uuid) placement.volumeRef size
      (Options.ofAnnotations annotations)) answer ∈ trace := by
  obtain ⟨recorded', placement', making, setting, set, hprepare', rfl, making', -, -⟩ :=
    created_of_createRun run
  obtain ⟨rfl, rfl⟩ := eq_of_prepare hprepare hprepare'
  rw [← (prepared_of_prepare hprepare).options]
  generalize hresult : (after, Except.ok ()) = result at making'
  cases making' with
  | fresh h => simp [hsource] at h
  | unsnapped => simp at hresult
  | cloned source' h now taken htaken answer =>
    exact ⟨snapshotFor placement source' now, answer, by simp⟩

/-! ## Clones of both backends -/

theorem mem_properties_of_without {options : Options} {t : Tunable} {p : String × String}
    (h : p ∈ (options.without t).properties) : p ∈ options.properties := by
  rcases Options.mem_properties.mp h with ⟨n, hn, rfl⟩ | ⟨u, value, hvalue, rfl⟩
  · exact Options.mem_properties.mpr (.inl ⟨n, hn, rfl⟩)
  · exact Options.mem_properties.mpr (.inr ⟨u, value, (Options.tuned_without hvalue).2, rfl⟩)

/-- The command for a clone sets all that a clone has to carry. -/
theorem cloneProperties_subset (backend : ShellBackend) (volumeRef : String) (size : Nat)
    (options : Options) : cloneProperties volumeRef options ⊆
      backend.datasetProperties volumeRef size (options.without .caseSensitivity) := by
  intro p hp
  rw [ShellBackend.datasetProperties, List.cons_append]
  rcases List.mem_cons.mp hp with rfl | hp
  · exact List.mem_cons_self
  · exact List.mem_cons_of_mem _ (List.mem_append_right _ (mem_properties_of_without hp))

/-- Nothing that a clone has to carry is part of its quota. -/
theorem name_notin_quota {volumeRef : String} {options : Options} {p : String × String}
    (h : p ∈ cloneProperties volumeRef options) (quota : Quota) :
    p.1 ∉ (quota.properties.map fun p => (p.1, Text.decimal p.2)).map Prod.fst := by
  have hne : p.1 ≠ "quota" ∧ p.1 ≠ "reservation" := by
    rcases List.mem_cons.mp h with rfl | h
    · exact tracking_ne_quota
    · exact ne_quota_of_mem_options h
  rw [List.map_map]
  intro hmem
  obtain ⟨q, hq, hname⟩ := List.mem_map.mp hmem
  have hname : q.1 = p.1 := hname
  rw [← hname] at hne
  exact (name_of_mem_quota hq).elim hne.1 hne.2

/-- How the clone for a request is made by two backends: through the management interface its quota
is sent and nothing else, so none of what it has to carry, and by commands all of that is set. -/
structure ClonedApart (shell : ShellBackend) (rest : RestBackend) (client : Client)
    (annotations : Annotations) (size : Nat) (uuid : Uuid) (volumeRef : String) : Prop where
  identified : volumeUuid annotations = .ok uuid
  named : annotations[Key.volumeRef]? = some volumeRef
  requested : ∀ trace after descriptor,
    Program.Runs (rest.create annotations size) trace (after, .ok descriptor) →
    ∃ sent, propertiesSent? client (rest.layout.datasetPath uuid) trace = some sent ∧
      sent = ((rest.quotaFor (Options.ofAnnotations annotations) size).properties.map
        fun p => (p.1, Text.decimal p.2)) ∧
      ∀ p ∈ cloneProperties volumeRef (Options.ofAnnotations annotations), p.1 ∉ sent.map Prod.fst
  commanded : ∀ trace after descriptor,
    Program.Runs (shell.create annotations size) trace (after, .ok descriptor) →
    ∃ snapshot properties answer, onExec shell.host (shell.command
        (.clone snapshot (shell.layout.datasetPath uuid) properties)) answer ∈ trace ∧
      cloneProperties volumeRef (Options.ofAnnotations annotations) ⊆ properties

/-- Clones differ between the backends, whatever is cloned and whatever is asked for it. -/
theorem clones_differ {shell : ShellBackend} {rest : RestBackend}
    (sameLayout : shell.layout = rest.layout) (client : Client) (size : Nat) {source : String}
    (hsource : SourceOf rest.layout annotations source) :
    ∃ uuid volumeRef, ClonedApart shell rest client annotations size uuid volumeRef := by
  obtain ⟨recorded, placement, hprepare, hclone⟩ := hsource
  have placed := (prepared_of_prepare hprepare).placed
  refine ⟨placement.uuid, placement.volumeRef, placed.uuid, placed.named, ?_, ?_⟩
  · intro trace after descriptor run
    exact ⟨_, propertiesSent?_createRun hprepare hclone (RestBackend.runs_create.mp run), rfl,
      fun p hp => name_notin_quota hp _⟩
  · intro trace after descriptor run
    obtain ⟨snapshot, answer, hmem⟩ := ShellBackend.cloned_of_createRun (sameLayout ▸ hprepare)
      hclone (ShellBackend.runs_create.mp run)
    exact ⟨snapshot, _, answer, hmem, cloneProperties_subset shell placement.volumeRef size _⟩

/-- A request for a clone with a compression. -/
def cloning : Annotations :=
  (∅ : Annotations).insert Key.volumeUuid "0000000b-0000-4000-8000-00000000000b"
    |>.insert Key.volumeRef "pv-1"
    |>.insert Key.cloneRef "nas01:tank/pv/0000000a-0000-4000-8000-00000000000a"
    |>.insert Key.compression "lz4"

theorem sourceOf_cloning :
    SourceOf Sample.layout cloning "tank/pv/0000000a-0000-4000-8000-00000000000a" := by
  have ready : Ready cloning := ⟨⟨by decide, fun protocol h => nomatch h⟩, ⟨_, rfl⟩, ⟨_, rfl⟩⟩
  have href : cloning[Key.cloneRef]? =
      some "nas01:tank/pv/0000000a-0000-4000-8000-00000000000a" := by
    decide
  exact (sourceOf_iff ready href).mpr (by decide +kernel)

/-- Both backends make this clone on the sample's appliance, and make it apart. -/
theorem sample_clones_differ :
    commanding.layout = requesting.layout ∧
      SourceOf requesting.layout cloning "tank/pv/0000000a-0000-4000-8000-00000000000a" ∧
      ((commanding.create cloning 1000).resultFrom Sample.storageAnswer).2.toOption.isSome = true ∧
      ((requesting.create cloning 1000).resultFrom Sample.storageAnswer).2.toOption.isSome = true ∧
      ∃ uuid volumeRef,
        ClonedApart commanding requesting applianceClient cloning 1000 uuid volumeRef :=
  ⟨rfl, sourceOf_cloning, by decide +kernel, by decide +kernel,
    clones_differ rfl applianceClient 1000 sourceOf_cloning⟩

/-- A clone made through the management interface does not carry what it has to. -/
theorem carrying_properties_fails :
    ¬∀ (rest : RestBackend) (client : Client) (annotations after : Annotations) (size : Nat)
      (source volumeRef : String) (uuid : Uuid) (trace : StorageTrace) (descriptor : Descriptor),
      SourceOf rest.layout annotations source → volumeUuid annotations = .ok uuid →
      annotations[Key.volumeRef]? = some volumeRef →
      Program.Runs (rest.create annotations size) trace (after, .ok descriptor) →
      ∃ sent, propertiesSent? client (rest.layout.datasetPath uuid) trace = some sent ∧
        ∀ p ∈ cloneProperties volumeRef (Options.ofAnnotations annotations), p ∈ sent := by
  intro carried
  obtain ⟨recorded, placement, hprepare, hclone⟩ := sourceOf_cloning
  have placed := (prepared_of_prepare hprepare).placed
  have run := Program.runs_from Sample.storageAnswer (requesting.create cloning 1000)
  have hmade :
      ((requesting.create cloning 1000).resultFrom Sample.storageAnswer).2.toOption.isSome =
        true := by
    decide +kernel
  rcases hresult : (requesting.create cloning 1000).resultFrom Sample.storageAnswer with
    ⟨after, failure | descriptor⟩
  · rw [hresult] at hmade
    cases hmade
  · rw [hresult] at run
    obtain ⟨sent, hsent, hall⟩ := carried requesting applianceClient cloning after 1000 _ _ _ _ _
      sourceOf_cloning placed.uuid placed.named run
    have hquota := hsent.symm.trans
      (propertiesSent?_createRun hprepare hclone (RestBackend.runs_create.mp run))
    have htracking : (trackingProperty, placement.volumeRef) ∈
        cloneProperties placement.volumeRef (Options.ofAnnotations cloning) :=
      List.mem_cons_self
    have hmem := hall _ htracking
    rw [Option.some.inj hquota] at hmem
    exact name_notin_quota htracking _ (List.mem_map_of_mem hmem)

end Storage

end DatasetProvisioner
