import DatasetProvisioner.Proofs.Appliance
import DatasetProvisioner.Proofs.Effects
import DatasetProvisioner.Proofs.Sample

/-!
# Which exports a removal ends

Removing a volume deletes shares of the appliance: all that export the path which the annotations
record as the volume's export. Nothing is asked of that path, and a share is deleted with all the
paths that it exports. So other exports are spared exactly where no share that is found in this way
exports anything else.
-/
namespace DatasetProvisioner.Storage

open Dataset
open Management (Client)
open Management.Client (listing sharePaths sharesOf valueOf)
open Reconciler (Sample.layout)

variable {client : Client} {table : List Json} {trace : StorageTrace} {whole : WireTrace}

/-- The number of a share. -/
def shareId? (share : Json) : Option Int :=
  (share.field? "id").bind Json.int64?

/-- Wherever the shares are listed, the response holds this table. -/
def Lists (client : Client) (table : List Json) (whole : WireTrace) : Prop :=
  ∀ response, onRequest client.listing response ∈ whole →
    valueOf "list NFS shares" response = .ok (.array table)

/-- The export of a volume: the place that the layout gives it, or the mount point of its
dataset. -/
def OwnExport (layout : Layout) (uuid : Uuid) (mountPoint : Option String) (path : String) : Prop :=
  path = layout.exportPath uuid ∨ mountPoint = some path

/-- Of the shares in a table, those with one of the numbers export nothing but the volume's own. -/
def Spares (layout : Layout) (uuid : Uuid) (mountPoint : Option String) (table : List Json)
    (deleted : List Int) : Prop :=
  ∀ share ∈ table, ∀ id ∈ deleted, shareId? share = some id →
    ∀ path ∈ sharePaths share, OwnExport layout uuid mountPoint path

/-- A share has the number of one that exports a path. -/
def Hit (table : List Json) (path : String) (share : Json) : Prop :=
  ∃ id, shareId? share = some id ∧ ∃ other ∈ table, shareId? other = some id ∧
    path ∈ sharePaths other

theorem mem_sharesOf {path : String} {id : Int} :
    id ∈ sharesOf path (.array table) ↔
      ∃ share ∈ table, path ∈ sharePaths share ∧ shareId? share = some id := by
  rw [sharesOf, Json.array?, Option.getD_some, List.mem_filterMap]
  refine exists_congr fun share => and_congr_right fun _ => ?_
  rw [Option.ite_none_right_eq_some]
  rfl

/-- A search finds the shares of the table that export its path. -/
theorem found_of_carried (carried : Program.Carried (overHttp client) trace whole)
    (lists : Lists client table whole) {path : String} {answer : Except Failure (List Int)}
    (h : onManagement (.findShares path) answer ∈ trace) :
    answer = .ok (sharesOf path (.array table)) := by
  obtain ⟨part, hpart, run⟩ := Program.part_of_carried carried h
  obtain ⟨response, rfl, rfl⟩ := (runs_overHttp (client.perform_findShares path)).mp run
  rw [lists response (hpart (List.mem_singleton_self _))]
  rfl

/-- A removal deletes the shares of the path that the annotations record. -/
theorem deleted_of_removeRun {backend : RestBackend} {annotations : Annotations} {uuid : Uuid}
    (huuid : volumeUuid annotations = .ok uuid) {result : Except Failure Unit}
    (run : RestBackend.RemoveRun backend annotations trace result)
    (carried : Program.Carried (overHttp client) trace whole) (lists : Lists client table whole) :
    sharesDeleted trace = sharesOf (backend.exportIn annotations uuid) (.array table) := by
  cases run with
  | unnamed failure h =>
    rw [huuid] at h
    cases h
  | @removed uuid' h searching search answer last snapshot =>
    obtain rfl := Except.ok.inj (huuid.symm.trans h)
    have hfound (answer : Except Failure (List Int))
        (h : onManagement (.findShares (backend.exportIn annotations uuid)) answer ∈ searching) :
        answer = .ok (sharesOf (backend.exportIn annotations uuid) (.array table)) :=
      found_of_carried carried lists (List.mem_append_left _ h)
    obtain ⟨-, -, -, hlast⟩ := RestBackend.effects_unsnapRun backend snapshot
    rw [sharesDeleted_append]
    cases search with
    | unsearched failure => cases hfound (.error failure) List.mem_cons_self
    | @searched ids deleting unshare =>
      obtain ⟨-, -, -, hdeleting⟩ := RestBackend.effects_unshareRun unshare
      obtain rfl := Except.ok.inj (hfound (.ok ids) List.mem_cons_self)
      change sharesDeleted deleting ++ sharesDeleted last = _
      rw [hdeleting, hlast, List.append_nil]

/-- A removal spares all other exports exactly if every share with the number of one that exports
the recorded path exports nothing but the volume's own. -/
theorem exports_spared_iff {backend : RestBackend} {annotations : Annotations} {uuid : Uuid}
    (huuid : volumeUuid annotations = .ok uuid) {result : Except Failure Unit}
    (run : Program.Runs (backend.remove annotations) trace result)
    (carried : Program.Carried (overHttp client) trace whole) (lists : Lists client table whole)
    (mountPoint : Option String) :
    Spares backend.layout uuid mountPoint table (sharesDeleted trace) ↔
      ∀ share ∈ table, Hit table (backend.exportIn annotations uuid) share →
        ∀ path ∈ sharePaths share, OwnExport backend.layout uuid mountPoint path := by
  rw [deleted_of_removeRun huuid (RestBackend.removeRun_of_runs run) carried lists]
  constructor
  · rintro spares share hshare ⟨id, hid, other, hother, hsame, hpath⟩
    exact spares share hshare id (mem_sharesOf.mpr ⟨other, hother, hpath, hsame⟩) hid
  · intro hhit share hshare id hdeleted hid
    obtain ⟨other, hother, hpath, hsame⟩ := mem_sharesOf.mp hdeleted
    exact hhit share hshare ⟨id, hid, other, hother, hsame, hpath⟩

/-! ## A recorded export that is not the volume's own -/

def appliance : RestBackend where
  name := "rest"
  layout := Sample.layout

/-- Annotations that record the export of another volume. -/
def strayed : Annotations :=
  (∅ : Annotations).insert Key.volumeUuid "0000000a-0000-4000-8000-00000000000a"
    |>.insert Key.exportPath "/mnt/tank/pv/0000000b-0000-4000-8000-00000000000b"

/-- A listing with one share, of the other volume's export. -/
def listingText : String :=
  "[\x7b\"id\":7,\"paths\":[\"/mnt/tank/pv/0000000b-0000-4000-8000-00000000000b\"]\x7d]"

/-- The shares in a listing. -/
def sharesIn (text : String) : List Json :=
  match Json.read text with
  | .ok (.array shares) => shares
  | _ => []

def applianceAnswer : (c : WireCall) → c.Answer
  | .exec _ _ => .ok ⟨0, ""⟩
  | .request r => .response 200 (if r.method = .get then listingText else "")
  | .clock => ⟨0⟩

/-- A text that is read as an array. -/
def holdsArray (text : String) : Bool :=
  match Json.read text with
  | .ok (.array _) => true
  | _ => false

theorem read_of_holdsArray {text : String} (h : holdsArray text = true) :
    Json.read text = .ok (.array (sharesIn text)) := by
  unfold holdsArray at h
  split at h
  · next shares hread => simp only [sharesIn, hread]
  · cases h

theorem valueOf_response {operation text : String} {value : Json}
    (h : Json.read text = .ok value) : valueOf operation (.response 200 text) = .ok value := by
  have hbody : Client.bodyOf operation (.response 200 text) = .ok text := rfl
  rw [valueOf, hbody]
  simp only [bind, Except.bind, h, pure, Except.pure]

theorem lists_exchangesFrom {α : Type} (p : Program wire α) :
    Lists applianceClient (sharesIn listingText) (p.exchangesFrom applianceAnswer) := by
  intro response h
  have heq := Program.eq_of_mem_exchangesFrom h
  rw [Exchange.mk.injEq] at heq
  have hresponse : response = .response 200 listingText := eq_of_heq heq.2
  rw [hresponse, valueOf_response (read_of_holdsArray (by decide +kernel))]

/-- A removal with these annotations on this appliance. -/
theorem exists_removal : ∃ uuid trace whole result, volumeUuid strayed = .ok uuid ∧
    Program.Runs (appliance.remove strayed) trace result ∧
    Program.Carried (overHttp applianceClient) trace whole ∧
    Lists applianceClient (sharesIn listingText) whole := by
  have run := Program.runs_from applianceAnswer
    ((appliance.remove strayed).translate (overHttp applianceClient))
  obtain ⟨trace, hrun, carried⟩ := Program.runs_translate.mp run
  exact ⟨_, trace, _, _, rfl, hrun, carried, lists_exchangesFrom _⟩

/-- On this appliance the removal spares other exports only if the share that it finds exports
nothing but the volume's own. -/
theorem sample_exports_spared_iff : ∃ uuid trace whole result, volumeUuid strayed = .ok uuid ∧
    Program.Runs (appliance.remove strayed) trace result ∧
    Program.Carried (overHttp applianceClient) trace whole ∧
    Lists applianceClient (sharesIn listingText) whole ∧
    (Spares Sample.layout uuid none (sharesIn listingText) (sharesDeleted trace) ↔
      ∀ share ∈ sharesIn listingText,
        Hit (sharesIn listingText) (appliance.exportIn strayed uuid) share →
        ∀ path ∈ sharePaths share, OwnExport Sample.layout uuid none path) := by
  obtain ⟨uuid, trace, whole, result, huuid, run, carried, lists⟩ := exists_removal
  exact ⟨uuid, trace, whole, result, huuid, run, carried, lists,
    exports_spared_iff huuid run carried lists none⟩

/-- Removals do not always spare other exports: here the other volume's share is deleted. -/
theorem sparing_other_exports_fails :
    ¬∀ (backend : RestBackend) (client : Client) (annotations : Annotations) (uuid : Uuid)
      (table : List Json) (trace : StorageTrace) (whole : WireTrace)
      (result : Except Failure Unit) (mountPoint : Option String),
      volumeUuid annotations = .ok uuid →
      Program.Runs (backend.remove annotations) trace result →
      Program.Carried (overHttp client) trace whole → Lists client table whole →
      Spares backend.layout uuid mountPoint table (sharesDeleted trace) := by
  intro spared
  obtain ⟨uuid, trace, whole, result, huuid, run, carried, lists⟩ := exists_removal
  have spares := spared appliance applianceClient strayed uuid (sharesIn listingText) trace whole
    result none huuid run carried lists
  have hrecorded : strayed[Key.exportPath]? =
      some "/mnt/tank/pv/0000000b-0000-4000-8000-00000000000b" := by
    decide
  have hexport : appliance.exportIn strayed uuid =
      "/mnt/tank/pv/0000000b-0000-4000-8000-00000000000b" := by
    rw [RestBackend.exportIn, hrecorded, Option.getD_some]
  have hfound : 7 ∈ sharesOf (appliance.exportIn strayed uuid)
      (.array (sharesIn listingText)) := by
    rw [hexport]
    decide +kernel
  have hdeleted : 7 ∈ sharesDeleted trace := by
    rw [deleted_of_removeRun huuid (RestBackend.removeRun_of_runs run) carried lists]
    exact hfound
  obtain ⟨share, hshare, hpath, hid⟩ := mem_sharesOf.mp hfound
  have hown : (volumeUuid strayed).toOption.map Sample.layout.exportPath =
      some "/mnt/tank/pv/0000000a-0000-4000-8000-00000000000a" := by
    decide +kernel
  rw [huuid] at hown
  rcases spares share hshare 7 hdeleted hid _ hpath with h | h
  · rw [hexport] at h
    exact absurd (h.trans (Option.some.inj hown)) (by decide)
  · cases h

end DatasetProvisioner.Storage
