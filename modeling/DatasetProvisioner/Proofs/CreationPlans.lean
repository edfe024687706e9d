import DatasetProvisioner.Proofs.FreshDatasets
import DatasetProvisioner.Proofs.Removals

/-!
# Creation plans

A creation checks its request before it calls anything, then goes through the calls of a plan until
one of them fails. Which calls these are depends on the settings of the backend, on the request and
on what is told on the way: the time, the name of a snapshot, what the dataset is said to be. A
volume is reported where the whole plan succeeded.
-/
namespace DatasetProvisioner.Storage

open Dataset
open Reconciler (Sample.layout Sample.storageAnswer)

variable {layout : Layout} {annotations recorded : Annotations} {placement : Placement}

/-! ## Requests that are declined -/

/-- What is wrong with a request that no backend of a layout tries to serve. -/
inductive Declined (layout : Layout) (annotations : Annotations) : Prop where
  | blockDevice (mode : String) (asked : annotations[Key.volumeMode]? = some mode)
      (block : Text.sameIgnoringCase mode "block" = true)
  | otherMount (protocol : String) (asked : annotations[Key.mountProtocol]? = some protocol)
      (other : Text.sameIgnoringCase protocol "nfs" = false)
  | unidentified (h : Unidentified annotations)
  | unnamed (h : annotations[Key.volumeRef]? = none)
  | misplacedSource (ref : String) (fault : Layout.CloneRefFault)
      (asked : annotations[Key.cloneRef]? = some ref)
      (rejected : layout.cloneSource ref = .error fault)

theorem not_declined_of_prepared (prepared : Prepared layout annotations recorded placement) :
    ¬Declined layout annotations := by
  obtain ⟨⟨mounted, exported⟩, ⟨huuid, hnamed, hsource⟩, -, -⟩ := prepared
  intro declined
  cases declined with
  | blockDevice mode asked block =>
    rw [asksForBlock, asked, Option.filter_some, if_pos block] at mounted
    cases mounted
  | otherMount protocol asked other =>
    have hsame := exported protocol asked
    rw [Layout.mountProtocol, other] at hsame
    cases hsame
  | unidentified h =>
    obtain ⟨failure, hfailure⟩ := unidentified_iff.mp h
    rw [huuid] at hfailure
    cases hfailure
  | unnamed h =>
    rw [h] at hnamed
    cases hnamed
  | misplacedSource ref fault asked rejected =>
    rcases hsource with ⟨hnone, -⟩ | ⟨given, dataset, hgiven, haccepted, -⟩
    · rw [asked] at hnone
      cases hnone
    · obtain rfl := Option.some.inj (asked.symm.trans hgiven)
      rw [rejected] at haccepted
      cases haccepted

theorem mountable_of_not_declined (h : ¬Declined layout annotations) : Mountable annotations := by
  constructor
  · rw [asksForBlock, Option.filter_eq_none_iff]
    intro mode asked block
    exact h (.blockDevice mode asked block)
  · intro protocol asked
    cases hsame : Text.sameIgnoringCase protocol Layout.mountProtocol with
    | true => rfl
    | false => exact absurd (.otherMount protocol asked hsame) h

theorem exists_placed_of_not_declined (h : ¬Declined layout annotations) :
    ∃ placement, Placed layout annotations placement := by
  obtain ⟨uuid, huuid⟩ : ∃ uuid, volumeUuid annotations = .ok uuid := by
    cases hread : volumeUuid annotations with
    | error failure => exact absurd (.unidentified (unidentified_iff.mpr ⟨failure, hread⟩)) h
    | ok uuid => exact ⟨uuid, rfl⟩
  obtain ⟨volumeRef, hnamed⟩ : ∃ volumeRef, annotations[Key.volumeRef]? = some volumeRef :=
    Option.ne_none_iff_exists'.mp fun hnone => h (.unnamed hnone)
  cases href : annotations[Key.cloneRef]? with
  | none => exact ⟨⟨uuid, volumeRef, none⟩, huuid, hnamed, .inl ⟨href, rfl⟩⟩
  | some ref =>
    cases hsource : layout.cloneSource ref with
    | error fault => exact absurd (.misplacedSource ref fault href hsource) h
    | ok dataset =>
      exact ⟨⟨uuid, volumeRef, some dataset⟩, huuid, hnamed,
        .inr ⟨ref, dataset, href, hsource, rfl⟩⟩

/-- The checks find fault with just the requests that are to be declined. -/
theorem declined_iff :
    Declined layout annotations ↔
      ∃ after failure, prepare layout annotations = (after, .error failure) := by
  constructor
  · intro declined
    rcases hprepare : prepare layout annotations with ⟨after, failure | placement⟩
    · exact ⟨after, failure, rfl⟩
    · exact absurd declined (not_declined_of_prepared (prepared_of_prepare hprepare))
  · rintro ⟨after, failure, hprepare⟩
    by_contra hnot
    obtain ⟨placement, placed⟩ := exists_placed_of_not_declined hnot
    obtain ⟨recorded, hok⟩ := exists_prepare (mountable_of_not_declined hnot) placed
    rw [hprepare] at hok
    cases hok

/-! ## Attempting a plan -/

/-- Whether the dataset was there when it was looked up. -/
def isFound : Except Failure (Option Info) → Bool
  | .ok (some _) => true
  | _ => false

theorem isOk_map {α β : Type} (f : α → β) (result : Except Failure α) :
    (result.map f).isOk = result.isOk := by
  cases result <;> rfl

/-- Whether a call did what it was made for. -/
def succeeds : Exchange interface → Bool
  | ⟨.exec _ _, answer⟩ => carriedOut answer
  | ⟨.clock, _⟩ => true
  | ⟨.management (.createDataset _), answer⟩ => answer.isOk
  | ⟨.management (.getDataset _), answer⟩ => isFound answer
  | ⟨.management (.updateQuota _ _), answer⟩ => answer.isOk
  | ⟨.management (.deleteDataset _), answer⟩ => answer.isOk
  | ⟨.management (.createSnapshot _ _ _), answer⟩ => answer.isOk
  | ⟨.management (.cloneSnapshot _ _), answer⟩ => answer.isOk
  | ⟨.management (.deleteSnapshot _), answer⟩ => answer.isOk
  | ⟨.management (.createShare _ _ _), answer⟩ => answer.isOk
  | ⟨.management (.findShares _), answer⟩ => answer.isOk
  | ⟨.management (.deleteShare _), answer⟩ => answer.isOk
  | ⟨.management (.setMode _ _), answer⟩ => answer.isOk

def isRemote : Call → Bool
  | .clock => false
  | _ => true

/-- The calls of a trace to the storage host or to its management interface. -/
def remotePart (trace : StorageTrace) : StorageTrace :=
  trace.filter fun x => isRemote x.call

theorem remotePart_append (first rest : StorageTrace) :
    remotePart (first ++ rest) = remotePart first ++ remotePart rest :=
  List.filter_append _ _

/-- The calls of a plan, made in turn until one of them fails, and whether none did. -/
inductive Attempted : StorageTrace → List Call → Bool → Prop where
  | finished : Attempted [] [] true
  | failed (x : Exchange interface) (h : succeeds x = false) (left : List Call) :
    Attempted [x] (x.call :: left) false
  | wentOn (x : Exchange interface) (h : succeeds x = true) {left : List Call}
      {trace : StorageTrace} {completed : Bool} (rest : Attempted trace left completed) :
    Attempted (x :: trace) (x.call :: left) completed

/-- The calls that were made are the plan up to the first of them that failed, and the plan is
reported as completed where that is all of it and none failed. -/
structure FollowsPlan (plan : List Call) (made : StorageTrace) (completed : Bool) : Prop where
  order : made.map Exchange.call <+: plan
  cut : ∀ before x after, made = before ++ x :: after → succeeds x = false → after = []
  goesOn : (∀ x ∈ made, succeeds x = true) → made.map Exchange.call = plan
  reported : completed = true ↔
    made.map Exchange.call = plan ∧ ∀ x ∈ made, succeeds x = true

namespace Attempted

variable {plan first rest left : List Call} {made a b : StorageTrace} {completed : Bool}

theorem single (x : Exchange interface) : Attempted [x] [x.call] (succeeds x) := by
  cases h : succeeds x with
  | false => exact .failed x h []
  | true => exact .wentOn x h .finished

theorem append (head : Attempted a first true) (tail : Attempted b rest completed) :
    Attempted (a ++ b) (first ++ rest) completed := by
  generalize hdone : true = done at head
  induction head with
  | finished => exact tail
  | failed => cases hdone
  | wentOn x h _ ih => exact .wentOn x h (ih hdone)

/-- What was planned after a plan that failed is not attempted. -/
theorem append_of_failed (head : Attempted a first false) (rest : List Call) :
    Attempted a (first ++ rest) false := by
  generalize hdone : false = done at head
  induction head with
  | finished => cases hdone
  | failed x h left => exact .failed x h (left ++ rest)
  | wentOn x h _ ih => exact .wentOn x h (ih hdone)

theorem order (attempted : Attempted made plan completed) :
    made.map Exchange.call <+: plan := by
  induction attempted with
  | finished => exact List.prefix_rfl
  | failed x h left => exact ⟨left, rfl⟩
  | wentOn x h _ ih => exact List.prefix_cons_inj x.call |>.mpr ih

theorem cut (attempted : Attempted made plan completed) {before after : StorageTrace}
    {x : Exchange interface} (split : made = before ++ x :: after) (h : succeeds x = false) :
    after = [] := by
  induction attempted generalizing before with
  | finished => simp at split
  | failed y hy left =>
    cases before with
    | nil => exact (List.cons.inj split).2.symm
    | cons z before => simp at split
  | wentOn y hy rest ih =>
    cases before with
    | nil =>
      obtain ⟨rfl, -⟩ := List.cons.inj split
      rw [hy] at h
      cases h
    | cons z before => exact ih (List.cons.inj split).2

theorem goesOn (attempted : Attempted made plan completed) (h : ∀ x ∈ made, succeeds x = true) :
    completed = true ∧ made.map Exchange.call = plan := by
  induction attempted with
  | finished => exact ⟨rfl, rfl⟩
  | failed x hx left =>
    have hsucceeds := h x List.mem_cons_self
    rw [hx] at hsucceeds
    cases hsucceeds
  | wentOn x hx rest ih =>
    obtain ⟨hcompleted, hcalls⟩ := ih fun y hy => h y (List.mem_cons_of_mem x hy)
    exact ⟨hcompleted, congrArg (x.call :: ·) hcalls⟩

theorem succeeds_of_completed (attempted : Attempted made plan completed)
    (done : completed = true) : ∀ x ∈ made, succeeds x = true := by
  induction attempted with
  | finished => exact fun _ hx => (List.not_mem_nil hx).elim
  | failed => cases done
  | wentOn x h rest ih => exact List.forall_mem_cons.mpr ⟨h, ih done⟩

theorem followsPlan (attempted : Attempted made plan completed) :
    FollowsPlan plan made completed := by
  refine ⟨attempted.order, fun _ _ _ => attempted.cut, fun h => (attempted.goesOn h).2, ?_⟩
  constructor
  · intro done
    have hall := attempted.succeeds_of_completed done
    exact ⟨(attempted.goesOn hall).2, hall⟩
  · rintro ⟨-, hall⟩
    exact (attempted.goesOn hall).1

/-- Of a plan that is not empty, the first call is made. -/
theorem ne_nil (attempted : Attempted made plan completed) (h : plan ≠ []) : made ≠ [] := by
  cases attempted with
  | finished => exact absurd rfl h
  | failed => exact List.cons_ne_nil _ _
  | wentOn => exact List.cons_ne_nil _ _

end Attempted

/-! ## The plans of the backends -/

/-- What is told to a creation on its way. -/
structure Told where
  now : Timestamp := ⟨0⟩
  /-- The snapshot that was taken. -/
  snapshot : String := ""
  /-- The dataset as it is described when it is made. -/
  created : Info := ⟨"", none, false⟩
  /-- The dataset as it is described when it is looked up. -/
  found : Info := ⟨"", none, false⟩

/-- What an answer says, where it says something that a creation goes by, is what was told. -/
def Tells (told : Told) : Exchange interface → Prop
  | ⟨.clock, now⟩ => told.now = now
  | ⟨.management (.createSnapshot _ _ _), .ok snapshot⟩ => told.snapshot = snapshot
  | ⟨.management (.createDataset _), .ok info⟩ => told.created = info
  | ⟨.management (.getDataset _), .ok (some info)⟩ => told.found = info
  | _ => True

namespace ShellBackend

variable {backend : ShellBackend} {told : Told} {size : Nat} {trace : StorageTrace}

/-- The commands that make a dataset. -/
def datasetPlan (backend : ShellBackend) (size : Nat) (options : Options) (placement : Placement)
    (told : Told) : List Shell.Command :=
  let dataset := backend.layout.datasetPath placement.uuid
  match placement.source with
  | none => [backend.createCommand dataset placement.volumeRef size options]
  | some source =>
    let snapshot := snapshotFor placement source told.now
    [backend.snapshotCommand snapshot placement.volumeRef,
      backend.cloneCommand snapshot dataset placement.volumeRef size options]

def permissionPlan (backend : ShellBackend) (path : String) : List Shell.Command :=
  backend.unixMode.toList.map (backend.changeModeCommand path)

def plan (backend : ShellBackend) (size : Nat) (options : Options) (placement : Placement)
    (told : Told) : List Call :=
  (backend.datasetPlan size options placement told ++
    backend.permissionPlan (backend.layout.exportPath placement.uuid)).map (.exec backend.host)

theorem isOk_judged (command : Shell.Command) (answer : Except Failure CommandOutput) :
    (judged command answer).isOk = carriedOut answer := by
  rcases answer with failure | output
  · rfl
  · cases hzero : output.succeeded <;> simp [judged, carriedOut, hzero, Except.isOk, Except.toBool]

theorem carriedOut_of_judged {command : Shell.Command} {answer : Except Failure CommandOutput}
    {result : Except Failure Unit} (h : judged command answer = result) :
    carriedOut answer = result.isOk := by
  rw [← h, isOk_judged]

theorem attempted_of_makeRun {after : Annotations} {result : Except Failure Unit}
    (run : MakeRun backend placement size recorded trace (after, result)) :
    ∃ told, (∀ x ∈ trace, Tells told x) ∧
      Attempted (remotePart trace)
        ((backend.datasetPlan size (Options.ofAnnotations recorded) placement told).map
          (.exec backend.host)) result.isOk := by
  generalize hresult : (after, result) = made at run
  cases run with
  | fresh h answer =>
    obtain ⟨rfl, rfl⟩ := Prod.mk.inj hresult
    refine ⟨{}, by simp [Tells], ?_⟩
    rw [isOk_judged, datasetPlan, h]
    exact .single _
  | unsnapped source h now answer failure hfail =>
    obtain ⟨rfl, rfl⟩ := Prod.mk.inj hresult
    refine ⟨{ now }, by simp [Tells], ?_⟩
    rw [datasetPlan, h]
    refine .failed _ ?_ _
    exact carriedOut_of_judged hfail
  | cloned source h now taken htaken answer =>
    obtain ⟨rfl, rfl⟩ := Prod.mk.inj hresult
    refine ⟨{ now }, by simp [Tells], ?_⟩
    rw [isOk_judged, datasetPlan, h]
    refine .wentOn _ ?_ (.single _)
    exact carriedOut_of_judged htaken

theorem tells_of_permissionRun {path : String} {result : Except Failure Unit}
    (run : PermissionRun backend path trace result) (told : Told) : ∀ x ∈ trace, Tells told x := by
  cases run <;> simp [Tells]

theorem attempted_of_permissionRun {path : String} {result : Except Failure Unit}
    (run : PermissionRun backend path trace result) :
    Attempted (remotePart trace) ((backend.permissionPlan path).map (.exec backend.host))
      result.isOk := by
  cases run with
  | unset h =>
    rw [permissionPlan, h]
    exact .finished
  | set mode h answer =>
    rw [permissionPlan, h, isOk_judged]
    exact .single _

end ShellBackend

namespace RestBackend

variable {backend : RestBackend} {told : Told} {size : Nat} {trace : StorageTrace}

/-- The calls that make a fresh dataset. It is looked up where its description tells no mount
point. -/
def freshPlan (backend : RestBackend) (size : Nat) (options : Options) (placement : Placement)
    (told : Told) : List Management.Call :=
  .createDataset (backend.requestFor placement size options) ::
    if told.created.mountPoint.isSome then []
    else [.getDataset (backend.layout.datasetPath placement.uuid)]

/-- The call that imposes a quota on a clone, unless there is none to impose. -/
def quotaPlan (dataset : String) (quota : Quota) : List Management.Call :=
  if quota.isEmpty then [] else [.updateQuota dataset quota]

/-- The calls that clone a dataset. -/
def clonePlan (backend : RestBackend) (size : Nat) (options : Options) (placement : Placement)
    (source : String) (told : Told) : List Management.Call :=
  let dataset := backend.layout.datasetPath placement.uuid
  let quota := backend.quotaFor options size
  .createSnapshot source (Snapshot.name placement.volumeRef told.now) placement.volumeRef ::
    .cloneSnapshot told.snapshot dataset ::
    (quotaPlan dataset quota ++ [.getDataset dataset])

def datasetPlan (backend : RestBackend) (size : Nat) (options : Options) (placement : Placement)
    (told : Told) : List Management.Call :=
  match placement.source with
  | none => backend.freshPlan size options placement told
  | some source => backend.clonePlan size options placement source told

/-- The dataset as it is described last. -/
def settled (placement : Placement) (told : Told) : Info :=
  if placement.source.isNone && told.created.mountPoint.isSome then told.created else told.found

def sharePlan (backend : RestBackend) (placement : Placement) (info : Info) :
    List Management.Call :=
  let path := backend.exportOf placement info
  .createShare path info.readOnly (comment placement.volumeRef) ::
    backend.unixMode.toList.map (.setMode path)

def plan (backend : RestBackend) (size : Nat) (options : Options) (placement : Placement)
    (told : Told) : List Call :=
  (backend.datasetPlan size options placement told ++
    backend.sharePlan placement (settled placement told)).map .management

theorem exists_description (found : Except Failure (Option Info)) :
    ∃ last : Info, ∀ info, found = .ok (some info) → last = info := by
  rcases found with failure | _ | last
  · exact ⟨⟨"", none, false⟩, fun info h => nomatch h⟩
  · exact ⟨⟨"", none, false⟩, fun info h => nomatch h⟩
  · exact ⟨last, fun info h => Option.some.inj (Except.ok.inj h)⟩

theorem tells_getDataset {id : String} {found : Except Failure (Option Info)}
    (h : ∀ info, found = .ok (some info) → told.found = info) :
    Tells told (onManagement (.getDataset id) found) := by
  rcases found with failure | _ | info
  · trivial
  · trivial
  · exact h info rfl

theorem attempted_of_freshRun {options : Options} {found : Except Failure (Option Info)}
    (fresh : placement.source = none)
    (run : FreshRun backend placement size options trace found) :
    ∃ told, (∀ x ∈ trace, Tells told x) ∧
      Attempted (remotePart trace)
        ((backend.freshPlan size options placement told).map .management) (isFound found) ∧
      ∀ info, found = .ok (some info) → settled placement told = info := by
  cases run with
  | rejected failure =>
    refine ⟨{}, by simp [Tells], ?_, fun info h => nomatch h⟩
    exact .failed _ rfl _
  | mounted info h =>
    refine ⟨{ created := info }, by simp [Tells], ?_, ?_⟩
    · rw [freshPlan, if_pos h]
      exact .wentOn _ rfl .finished
    · intro last hlast
      rw [settled, fresh, h]
      exact Option.some.inj (Except.ok.inj hlast)
  | lookedUp info h =>
    obtain ⟨last, hlast⟩ := exists_description found
    refine ⟨{ created := info, found := last }, ?_, ?_, ?_⟩
    · simp only [List.forall_mem_cons]
      exact ⟨rfl, tells_getDataset hlast, by simp⟩
    · rw [freshPlan, h]
      exact .wentOn _ rfl (.single _)
    · rw [settled, h, Bool.and_false]
      exact hlast

theorem tells_of_quotaRun {dataset : String} {quota : Quota} {result : Except Failure Unit}
    (run : QuotaRun dataset quota trace result) (told : Told) : ∀ x ∈ trace, Tells told x := by
  cases run <;> simp [Tells]

theorem attempted_of_quotaRun {dataset : String} {quota : Quota} {result : Except Failure Unit}
    (run : QuotaRun dataset quota trace result) :
    Attempted (remotePart trace) ((quotaPlan dataset quota).map .management) result.isOk := by
  cases run with
  | unlimited h =>
    rw [quotaPlan, if_pos h]
    exact .finished
  | imposed h answer =>
    rw [quotaPlan, h]
    exact .single _

theorem attempted_of_cloneRun {source : String} {options : Options} {after : Annotations}
    {found : Except Failure (Option Info)} (cloning : placement.source = some source)
    (run : CloneRun backend placement source size options recorded trace (after, found)) :
    ∃ told, (∀ x ∈ trace, Tells told x) ∧
      Attempted (remotePart trace)
        ((backend.clonePlan size options placement source told).map .management) (isFound found) ∧
      ∀ info, found = .ok (some info) → settled placement told = info := by
  generalize hresult : (after, found) = made at run
  cases run with
  | unsnapped now failure =>
    obtain ⟨rfl, rfl⟩ := Prod.mk.inj hresult
    refine ⟨{ now }, by simp [Tells], ?_, fun info h => nomatch h⟩
    exact .failed _ rfl _
  | uncloned now snapshot failure =>
    obtain ⟨rfl, rfl⟩ := Prod.mk.inj hresult
    refine ⟨{ now, snapshot }, by simp [Tells], ?_, fun info h => nomatch h⟩
    exact .wentOn _ rfl (.failed _ rfl _)
  | @unlimited now snapshot limiting failure quota =>
    obtain ⟨rfl, rfl⟩ := Prod.mk.inj hresult
    refine ⟨{ now, snapshot }, ?_, ?_, fun info h => nomatch h⟩
    · simp only [List.forall_mem_cons]
      exact ⟨rfl, rfl, trivial, tells_of_quotaRun quota _⟩
    · rw [clonePlan, List.map_cons, List.map_cons, List.map_append]
      exact .wentOn _ rfl (.wentOn _ rfl ((attempted_of_quotaRun quota).append_of_failed _))
  | @cloned now snapshot limiting quota found =>
    obtain ⟨rfl, rfl⟩ := Prod.mk.inj hresult
    obtain ⟨last, hlast⟩ := exists_description found
    refine ⟨{ now, snapshot, found := last }, ?_, ?_, ?_⟩
    · simp only [List.forall_mem_cons, List.forall_mem_append]
      exact ⟨rfl, rfl, trivial, tells_of_quotaRun quota _, tells_getDataset hlast, by simp⟩
    · rw [clonePlan, List.map_cons, List.map_cons, List.map_append]
      refine .wentOn _ rfl (.wentOn _ rfl ?_)
      change Attempted (remotePart (limiting ++ _)) _ _
      rw [remotePart_append]
      exact (attempted_of_quotaRun quota).append (.single _)
    · rw [settled, cloning]
      exact hlast

theorem attempted_of_makeRun {after : Annotations} {found : Except Failure (Option Info)}
    (run : MakeRun backend placement size recorded trace (after, found)) :
    ∃ told, (∀ x ∈ trace, Tells told x) ∧
      Attempted (remotePart trace)
        ((backend.datasetPlan size (Options.ofAnnotations recorded) placement told).map .management)
        (isFound found) ∧
      ∀ info, found = .ok (some info) → settled placement told = info := by
  unfold datasetPlan
  generalize hresult : (after, found) = made at run
  cases run with
  | fresh h run =>
    obtain ⟨rfl, rfl⟩ := Prod.mk.inj hresult
    rw [h]
    exact attempted_of_freshRun h run
  | clone source h run =>
    subst hresult
    rw [h]
    exact attempted_of_cloneRun h run

theorem tells_of_shareRun {path : String} {readOnly : Bool} {result : Except Failure Unit}
    (run : ShareRun backend placement path readOnly trace result) (told : Told) :
    ∀ x ∈ trace, Tells told x := by
  cases run <;> simp [Tells]

theorem attempted_of_shareRun {info : Info} {result : Except Failure Unit}
    (run : ShareRun backend placement (backend.exportOf placement info) info.readOnly trace
      result) :
    Attempted (remotePart trace) ((backend.sharePlan placement info).map .management)
      result.isOk := by
  cases run with
  | unshared failure => exact .failed _ rfl _
  | shared h =>
    rw [sharePlan, h]
    exact .wentOn _ rfl .finished
  | opened mode h answer =>
    rw [sharePlan, h]
    exact .wentOn _ rfl (.single _)

end RestBackend

/-- The remote calls of a creation that is not declined. -/
def Backend.plan (backend : Backend) (size : Nat) (options : Options) (placement : Placement)
    (told : Told) : List Call :=
  match backend with
  | .shell b => b.plan size options placement told
  | .rest b => b.plan size options placement told

/-- What becomes of a creation: it is declined at once, or its plan is attempted. -/
inductive Creation (backend : Backend) (annotations : Annotations) (size : Nat) :
    StorageTrace → Bool → Prop where
  | declined (h : Declined backend.layout annotations) : Creation backend annotations size [] false
  | attempted (accepted : ¬Declined backend.layout annotations) (placement : Placement)
      (placed : Placed backend.layout annotations placement) (told : Told) {trace : StorageTrace}
      {completed : Bool} (tells : ∀ x ∈ trace, Tells told x)
      (calls : Attempted (remotePart trace)
        (backend.plan size (Options.ofAnnotations annotations) placement told) completed) :
    Creation backend annotations size trace completed

/-- A request that passed all checks has its plan attempted. -/
theorem Creation.of_prepared {backend : Backend} {size : Nat} {told : Told} {trace : StorageTrace}
    {completed : Bool} (prepared : Prepared backend.layout annotations recorded placement)
    (tells : ∀ x ∈ trace, Tells told x)
    (calls : Attempted (remotePart trace)
      (backend.plan size (Options.ofAnnotations recorded) placement told) completed) :
    Creation backend annotations size trace completed := by
  rw [prepared.options] at calls
  exact .attempted (not_declined_of_prepared prepared) placement prepared.placed told tells calls

theorem ShellBackend.creation_of_createRun {backend : ShellBackend} {size : Nat}
    {trace : StorageTrace} {after : Annotations} {result : Except Failure Descriptor}
    (run : CreateRun backend annotations size trace (after, result)) :
    Creation (.shell backend) annotations size trace result.isOk := by
  generalize hmade : (after, result) = made at run
  cases run with
  | unready last failure h =>
    obtain ⟨rfl, rfl⟩ := Prod.mk.inj hmade
    exact .declined (declined_iff.mpr ⟨after, failure, h⟩)
  | unmade recorded placement h run =>
    obtain ⟨rfl, rfl⟩ := Prod.mk.inj hmade
    obtain ⟨told, tells, attempted⟩ := attempted_of_makeRun run
    refine .of_prepared (prepared_of_prepare h) tells ?_
    rw [Backend.plan, plan, List.map_append]
    exact attempted.append_of_failed _
  | @made recorded placement h making setting last set run permissions =>
    obtain ⟨rfl, rfl⟩ := Prod.mk.inj hmade
    obtain ⟨told, tells, attempted⟩ := attempted_of_makeRun run
    refine .of_prepared (prepared_of_prepare h)
      (List.forall_mem_append.mpr ⟨tells, tells_of_permissionRun permissions told⟩) ?_
    rw [Backend.plan, plan, List.map_append, remotePart_append, isOk_map]
    exact attempted.append (attempted_of_permissionRun permissions)

theorem RestBackend.creation_of_createRun {backend : RestBackend} {size : Nat}
    {trace : StorageTrace} {after : Annotations} {result : Except Failure Descriptor}
    (run : CreateRun backend annotations size trace (after, result)) :
    Creation (.rest backend) annotations size trace result.isOk := by
  -- A dataset that could not be made or found ends the plan.
  have unfound {recorded after : Annotations} {placement : Placement} {making : StorageTrace}
      {found : Except Failure (Option Info)}
      (h : prepare backend.layout annotations = (recorded, .ok placement))
      (run : MakeRun backend placement size recorded making (after, found))
      (hfound : isFound found = false) :
      Creation (.rest backend) annotations size making false := by
    obtain ⟨told, tells, attempted, -⟩ := attempted_of_makeRun run
    rw [hfound] at attempted
    refine .of_prepared (prepared_of_prepare h) tells ?_
    rw [Backend.plan, plan, List.map_append]
    exact attempted.append_of_failed _
  generalize hmade : (after, result) = made at run
  cases run with
  | unready last failure h =>
    obtain ⟨rfl, rfl⟩ := Prod.mk.inj hmade
    exact .declined (declined_iff.mpr ⟨after, failure, h⟩)
  | unmade recorded placement h run =>
    obtain ⟨rfl, rfl⟩ := Prod.mk.inj hmade
    exact unfound h run rfl
  | missing recorded placement h run =>
    obtain ⟨rfl, rfl⟩ := Prod.mk.inj hmade
    exact unfound h run rfl
  | @made recorded placement h making sharing last info shared run share =>
    obtain ⟨rfl, rfl⟩ := Prod.mk.inj hmade
    obtain ⟨told, tells, attempted, hsettled⟩ := attempted_of_makeRun run
    refine .of_prepared (prepared_of_prepare h)
      (List.forall_mem_append.mpr ⟨tells, tells_of_shareRun share told⟩) ?_
    rw [Backend.plan, plan, List.map_append, remotePart_append, isOk_map, hsettled info rfl]
    exact attempted.append (attempted_of_shareRun share)

theorem Backend.creation_of_runs {backend : Backend} {size : Nat} {trace : StorageTrace}
    {after : Annotations} {created : Option Descriptor}
    (run : Program.Runs (backend.create annotations size) trace (after, created)) :
    Creation backend annotations size trace created.isSome := by
  obtain ⟨result, run, hcreated⟩ := Backend.runs_create.mp run
  have hsome : created.isSome = result.isOk := by
    cases result <;> exact congrArg Option.isSome hcreated
  rw [hsome]
  cases backend with
  | shell b => exact ShellBackend.creation_of_createRun (ShellBackend.runs_create.mp run)
  | rest b => exact RestBackend.creation_of_createRun (RestBackend.runs_create.mp run)

theorem Backend.plan_ne_nil (backend : Backend) (size : Nat) (options : Options)
    (placement : Placement) (told : Told) : backend.plan size options placement told ≠ [] := by
  cases backend with
  | shell b =>
    cases hsource : placement.source <;>
      simp [plan, ShellBackend.plan, ShellBackend.datasetPlan, hsource]
  | rest b => simp [plan, RestBackend.plan, RestBackend.sharePlan]

namespace Creation

variable {backend : Backend} {size : Nat} {trace : StorageTrace} {completed : Bool}

/-- Nothing is called and nothing comes of a creation just where the request is declined. -/
theorem declined_iff (creation : Creation backend annotations size trace completed) :
    (remotePart trace = [] ∧ completed = false) ↔ Declined backend.layout annotations := by
  cases creation with
  | declined h => exact ⟨fun _ => h, fun _ => ⟨rfl, rfl⟩⟩
  | attempted accepted placement placed told tells calls =>
    have hmade := calls.ne_nil (backend.plan_ne_nil size _ placement told)
    exact ⟨fun h => absurd h.1 hmade, fun h => absurd h accepted⟩

theorem followsPlan (creation : Creation backend annotations size trace completed)
    (accepted : ¬Declined backend.layout annotations) :
    ∃ placement told, Placed backend.layout annotations placement ∧ (∀ x ∈ trace, Tells told x) ∧
      FollowsPlan (backend.plan size (Options.ofAnnotations annotations) placement told)
        (remotePart trace) completed := by
  cases creation with
  | declined h => exact absurd h accepted
  | attempted _ placement placed told tells calls =>
    exact ⟨placement, told, placed, tells, calls.followsPlan⟩

end Creation

/-- Creations check first, stop at the first failure and report just what they completed. Nothing is
called and no volume is reported exactly where the request is declined, which depends on the layout
of the backend only; otherwise the calls are those of the plan up to the first one that fails, and a
volume is reported where the whole plan succeeded. -/
theorem creation_follows_plan (backend : Backend) (annotations : Annotations) (size : Nat) :
    (∀ trace after created,
      Program.Runs (backend.create annotations size) trace (after, created) →
        ((remotePart trace = [] ∧ created = none) ↔ Declined backend.layout annotations) ∧
        (¬Declined backend.layout annotations → ∃ placement told,
          Placed backend.layout annotations placement ∧ (∀ x ∈ trace, Tells told x) ∧
          FollowsPlan (backend.plan size (Options.ofAnnotations annotations) placement told)
            (remotePart trace) created.isSome)) ∧
    ∀ other : Backend, other.layout = backend.layout →
      ∀ trace after created, Program.Runs (backend.create annotations size) trace (after, created) →
      ∀ size' trace' after' created',
        Program.Runs (other.create annotations size') trace' (after', created') →
        ((remotePart trace = [] ∧ created = none) ↔ remotePart trace' = [] ∧ created' = none) := by
  have declines {backend : Backend} {size : Nat} {trace : StorageTrace} {after : Annotations}
      {created : Option Descriptor}
      (run : Program.Runs (backend.create annotations size) trace (after, created)) :
      (remotePart trace = [] ∧ created = none) ↔ Declined backend.layout annotations := by
    rw [← (Backend.creation_of_runs run).declined_iff, Option.isSome_eq_false_iff,
      Option.isNone_iff_eq_none]
  refine ⟨fun trace after created run => ⟨declines run, ?_⟩, ?_⟩
  · exact (Backend.creation_of_runs run).followsPlan
  · intro other sameLayout trace after created run size' trace' after' created' run'
    rw [declines run, declines run', sameLayout]

theorem not_declined_tuned : ¬Declined Sample.layout tuned := by
  obtain ⟨-, recorded, placement, hprepare⟩ := acceptedFresh_tuned
  exact not_declined_of_prepared (prepared_of_prepare hprepare)

/-- Both backends serve one request, and the one that runs commands goes through its whole plan. -/
theorem sample_creation_follows_plan :
    ∃ trace after created trace' after' created',
      Program.Runs (Backend.create (.shell commanding) tuned 100000) trace (after, created) ∧
      Program.Runs (Backend.create (.rest requesting) tuned 100000) trace' (after', created') ∧
      ¬Declined Sample.layout tuned ∧
      (∃ placement told, Placed Sample.layout tuned placement ∧ (∀ x ∈ trace, Tells told x) ∧
        FollowsPlan
          (Backend.plan (.shell commanding) 100000 (Options.ofAnnotations tuned) placement told)
          (remotePart trace) created.isSome) ∧
      created.isSome = true ∧ created'.isSome = true ∧
      ((remotePart trace = [] ∧ created = none) ↔ remotePart trace' = [] ∧ created' = none) := by
  have run := Program.runs_from Sample.storageAnswer
    (Backend.create (.shell commanding) tuned 100000)
  have run' := Program.runs_from Sample.storageAnswer
    (Backend.create (.rest requesting) tuned 100000)
  obtain ⟨plans, alike⟩ := creation_follows_plan (.shell commanding) tuned 100000
  exact ⟨_, _, _, _, _, _, run, run', not_declined_tuned, (plans _ _ _ run).2 not_declined_tuned,
    by decide +kernel, by decide +kernel, alike (.rest requesting) rfl _ _ _ run 100000 _ _ _ run'⟩

end DatasetProvisioner.Storage
