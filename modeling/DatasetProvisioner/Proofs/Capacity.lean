import Mathlib.Algebra.Order.Floor.Semiring
import Mathlib.Order.Bounds.Basic
import DatasetProvisioner.Proofs.FreshDatasets
import DatasetProvisioner.Proofs.Ownership
import DatasetProvisioner.Proofs.QuantityBytes

/-!
# The capacity of a volume

The object of a volume advertises the amount that its claim asks for, as the claim spells it; its
dataset gets a limit or a guarantee of whole bytes, where the mode of its class says so. Here the
number is followed from the text of the claim to the command or the request that sets it: it is the
amount rounded up, to whole bytes by a command and to whole records through the management
interface, and so never less than what is advertised.
-/
namespace DatasetProvisioner

/-! ## Bytes of a quantity -/

namespace Quantity

/-- The places of a fraction of one byte are counted by 32 bits, as they are in every text that is
shorter than `2 ^ 31` bytes. -/
def Written.Counted (w : Written) : Prop :=
  0 < w.value → w.value < 1 → w.number.places < 2 ^ 31

variable {s : String} {w : Written} {n : Nat}

theorem Spells.counted (hw : Spells s w) (hshort : s.utf8ByteSize < 2 ^ 31) : w.Counted :=
  fun _ _ => hw.places_le.trans_lt hshort

theorem nonneg_of_bytes (hw : Spells s w) (h : bytes s = .ok n) : 0 ≤ w.value :=
  (reading_of_bytes hw h).2.1

/-- The bytes are exact for nothing at all and from one byte on, whatever the text. -/
theorem ceil_of_whole (hw : Spells s w) (h : bytes s = .ok n) (hvalue : w.value = 0 ∨ 1 ≤ w.value) :
    ⌈w.value⌉ = n := by
  rcases hvalue with hzero | hone
  · obtain ⟨-, hnonneg, hamount, -, hshift, -⟩ := reading_of_bytes hw h
    have hnone : w.reading.amount = 0 := by
      have hvalue := Written.value_of_nonneg hnonneg
      have hpower : (0 : ℚ) < 10 ^ (w.suffix.power - (w.number.places : Int)) := by positivity
      rw [hzero] at hvalue
      exact_mod_cast (mul_eq_zero.mp hvalue.symm).resolve_right hpower.ne'
    have hceil := (ceil_of_shift? hamount hshift).1
    rw [hnone, Nat.cast_zero, zero_mul, Int.ceil_zero] at hceil
    rw [hzero, Int.ceil_zero, hceil]
  · exact ceil_of_bytes hw (places_lt_of_bytes hw hone h) h

theorem ceil_of_counted (hw : Spells s w) (h : bytes s = .ok n) (counted : w.Counted) :
    ⌈w.value⌉ = n := by
  have hnonneg := nonneg_of_bytes hw h
  rcases hnonneg.eq_or_lt with hzero | hpositive
  · exact ceil_of_whole hw h (.inl hzero.symm)
  · by_cases hone : 1 ≤ w.value
    · exact ceil_of_whole hw h (.inr hone)
    · exact ceil_of_bytes hw (counted hpositive (not_le.mp hone)) h

/-- A quantity that is read is never read as less than it is, not even where its places run over:
of a fraction of one byte at least one is left. -/
theorem value_le_of_bytes (hw : Spells s w) (h : bytes s = .ok n) : w.value ≤ n := by
  obtain ⟨-, hnonneg, hamount, -, hshift, -⟩ := reading_of_bytes hw h
  by_cases hwhole : w.value = 0 ∨ 1 ≤ w.value
  · have hceil := ceil_of_whole hw h hwhole
    calc w.value ≤ (⌈w.value⌉ : ℚ) := Int.le_ceil _
      _ = n := by rw [hceil, Int.cast_natCast]
  · obtain ⟨hzero, hless⟩ := not_or.mp hwhole
    have hsome : 0 < w.reading.amount := by
      apply Nat.pos_of_ne_zero
      intro hnone
      apply hzero
      rw [Written.value_of_nonneg hnonneg, hnone, Nat.cast_zero, zero_mul]
    have hleft : (0 : ℚ) < w.reading.amount * 10 ^ (-w.reading.places) := by positivity
    have hone : 1 ≤ n := by
      have hceil := (ceil_of_shift? hamount hshift).1
      have hpositive := Int.ceil_pos.mpr hleft
      omega
    calc w.value ≤ 1 := (not_le.mp hless).le
      _ ≤ n := by exact_mod_cast hone

end Quantity

/-! ## Whole records -/

namespace Dataset

/-- The least multiple of a record size that holds a size. -/
theorem isLeast_records (size : Nat) {record : Nat} (h : 0 < record) :
    IsLeast {n | record ∣ n ∧ size ≤ n} ((size + record - 1) / record * record) := by
  constructor
  · refine ⟨Nat.dvd_mul_left record _, ?_⟩
    have hmod := Nat.mod_lt (size + record - 1) h
    have hsplit := Nat.div_add_mod' (size + record - 1) record
    omega
  · rintro n ⟨⟨k, rfl⟩, hle⟩
    have hless : size + record - 1 < record * (k + 1) := by
      rw [Nat.mul_succ]
      omega
    rw [Nat.mul_comm record k]
    exact Nat.mul_le_mul_right record (Nat.le_of_lt_succ (Nat.div_lt_of_lt_mul hless))

theorem pos_of_recordSize? {raw : String} {record : Nat} (h : recordSize? raw = some record) :
    0 < record := by
  have hall : ∀ n ∈ recordSizes, 0 < n := by decide
  exact hall record (mem_recordSizes_of_recordSize? h)

/-- The properties that a mode sets. -/
def QuotaMode.names : QuotaMode → List String
  | .ignore => []
  | .quota => ["quota"]
  | .reserve => ["reservation"]
  | .both => ["quota", "reservation"]

theorem properties_ofSize (mode : QuotaMode) (size : Nat) :
    (Quota.ofSize mode size).properties = mode.names.map (·, size) := by
  cases mode <;> rfl

end Dataset

namespace Storage

open Dataset Management

/-! ## The sizes that are set -/

/-- The properties that a call sets on a dataset. -/
def propertiesSet? : Call → Option (List (String × String))
  | .exec _ command => some command.action.properties
  | .management (.createDataset request) => bodyProperties? request.body
  | .management (.updateQuota _ quota) => bodyProperties? quota.body
  | _ => some []

/-- The size that a property sets, if it is a limit or a guarantee. -/
def sizeOf? (p : String × String) : Option (List (String × Nat)) :=
  if p.1 = "quota" ∨ p.1 = "reservation" then
    (Text.natural? 10 p.2.toList).map fun n => [(p.1, n)]
  else some []

/-- The limits and guarantees that a trace sets, with their sizes. -/
def sizesSet? (trace : StorageTrace) : Option (List (String × Nat)) :=
  readAll (fun x => (propertiesSet? x.call).bind (readAll sizeOf?)) trace

/-- Of the sizes of a quota, a trace sets all or none, and it sets no others. -/
def SetsAtMost (quota : Quota) (trace : StorageTrace) : Prop :=
  sizesSet? trace = some [] ∨ sizesSet? trace = some quota.properties

variable {quota : Quota} {first rest trace : StorageTrace} {annotations recorded : Annotations}
  {placement : Placement} {size : Nat}

theorem sizeOf?_aside {p : String × String} (h : p.1 ≠ "quota" ∧ p.1 ≠ "reservation") :
    sizeOf? p = some [] := by
  rw [sizeOf?, if_neg (not_or.mpr h)]

theorem readAll_sizeOf?_quota (quota : Quota) :
    readAll sizeOf? (quota.properties.map fun p => (p.1, Text.decimal p.2)) =
      some quota.properties := by
  have heach : ∀ p ∈ quota.properties, sizeOf? (p.1, Text.decimal p.2) = some [id p] := by
    intro p hp
    rw [sizeOf?, if_pos (name_of_mem_quota hp), Text.natural?_decimal]
    rfl
  rw [readAll_map heach, List.map_id]

theorem readAll_sizeOf?_options (options : Options) :
    readAll sizeOf? options.properties = some [] :=
  readAll_aside fun _ hp => sizeOf?_aside (ne_quota_of_mem_options hp)

theorem readAll_sizeOf?_tracking (volumeRef : String) :
    readAll sizeOf? [(trackingProperty, volumeRef)] = some [] := by
  refine readAll_aside fun p hp => sizeOf?_aside ?_
  obtain rfl := List.mem_singleton.mp hp
  exact tracking_ne_quota

theorem sizesSet?_append {a b : List (String × Nat)} (hfirst : sizesSet? first = some a)
    (hrest : sizesSet? rest = some b) : sizesSet? (first ++ rest) = some (a ++ b) :=
  readAll_append hfirst hrest

theorem sizesSet?_single (x : Exchange interface) :
    sizesSet? [x] = (propertiesSet? x.call).bind (readAll sizeOf?) := by
  cases h : (propertiesSet? x.call).bind (readAll sizeOf?) <;> simp [sizesSet?, readAll, h]

theorem sizesSet?_idle (idle : Idle trace) : sizesSet? trace = some [] := by
  induction idle with
  | nil => rfl
  | cons now rest ih =>
    change sizesSet? ([onStorageClock now] ++ _) = some ([] ++ [])
    exact sizesSet?_append rfl ih

theorem SetsAtMost.append_aside (h : SetsAtMost quota first) (aside : sizesSet? rest = some []) :
    SetsAtMost quota (first ++ rest) := by
  rcases h with hnone | hall
  · exact .inl (sizesSet?_append hnone aside)
  · refine .inr ?_
    rw [sizesSet?_append hall aside, List.append_nil]

theorem SetsAtMost.aside_append (aside : sizesSet? first = some []) (h : SetsAtMost quota rest) :
    SetsAtMost quota (first ++ rest) := by
  rcases h with hnone | hall
  · exact .inl (sizesSet?_append aside hnone)
  · refine .inr ?_
    rw [sizesSet?_append aside hall, List.nil_append]

namespace ShellBackend

variable {backend : ShellBackend}

theorem readAll_datasetProperties (backend : ShellBackend) (volumeRef : String) (size : Nat)
    (options : Options) :
    readAll sizeOf? (backend.datasetProperties volumeRef size options) =
      some (Quota.ofSize backend.quotaMode size).properties := by
  have hread := readAll_append (readAll_append (readAll_sizeOf?_tracking volumeRef)
    (readAll_sizeOf?_quota (Quota.ofSize backend.quotaMode size)))
    (readAll_sizeOf?_options options)
  rw [List.nil_append, List.append_nil] at hread
  exact hread

/-- The commands that make a dataset set its sizes, those of a clone like those of a fresh one. -/
theorem setsAtMost_of_makeRun {result : Annotations × Except Failure Unit}
    (run : MakeRun backend placement size recorded trace result) :
    SetsAtMost (Quota.ofSize backend.quotaMode size) trace := by
  have snapped (now : Timestamp) (snapshot : String) (answer : Except Failure CommandOutput) :
      sizesSet? [onStorageClock now, onExec backend.host
        (backend.snapshotCommand snapshot placement.volumeRef) answer] = some [] := by
    change sizesSet? ([onStorageClock now] ++ [_]) = some ([] ++ [])
    refine sizesSet?_append rfl ((sizesSet?_single _).trans ?_)
    exact readAll_sizeOf?_tracking placement.volumeRef
  cases run with
  | fresh h answer =>
    exact .inr ((sizesSet?_single _).trans (readAll_datasetProperties backend _ _ _))
  | unsnapped source h now answer => exact .inl (snapped now _ answer)
  | cloned source h now taken htaken answer =>
    change SetsAtMost _ ([_, _] ++ [_])
    refine .aside_append (snapped now _ taken) (.inr ((sizesSet?_single _).trans ?_))
    exact readAll_datasetProperties backend _ _ _

theorem sizesSet?_permissionRun {path : String} {result : Except Failure Unit}
    (run : PermissionRun backend path trace result) : sizesSet? trace = some [] := by
  cases run <;> rfl

theorem setsAtMost_of_createRun {result : Annotations × Except Failure Descriptor}
    (run : CreateRun backend annotations size trace result) :
    SetsAtMost (Quota.ofSize backend.quotaMode size) trace := by
  cases run with
  | unready => exact .inl rfl
  | unmade recorded placement h run => exact setsAtMost_of_makeRun run
  | made recorded placement h run permissions =>
    exact (setsAtMost_of_makeRun run).append_aside (sizesSet?_permissionRun permissions)

end ShellBackend

namespace RestBackend

variable {backend : RestBackend} {options : Options}

/-- The request for a fresh dataset sets its sizes. -/
theorem setsAtMost_of_freshRun (restricted : options.Restricted)
    {found : Except Failure (Option Info)}
    (run : FreshRun backend placement size options trace found) :
    SetsAtMost (backend.quotaFor options size) trace := by
  have created (answer : Except Failure Info) : sizesSet? [onManagement (.createDataset
      (backend.requestFor placement size options)) answer] =
        some (backend.quotaFor options size).properties := by
    have hread := readAll_append (readAll_append
      (readAll_sizeOf?_quota (backend.quotaFor options size))
      (readAll_sizeOf?_options (options.without .logBias)))
      (readAll_sizeOf?_tracking placement.volumeRef)
    rw [List.append_nil, List.append_nil] at hread
    rw [sizesSet?_single]
    change (bodyProperties? (backend.requestFor placement size options).body).bind _ = _
    rw [bodyProperties?_body restricted]
    exact hread
  cases run with
  | rejected failure => exact .inr (created (.error failure))
  | mounted info => exact .inr (created (.ok info))
  | lookedUp info h =>
    change SetsAtMost _ ([_] ++ [_])
    exact .append_aside (.inr (created (.ok info))) rfl

theorem setsAtMost_of_quotaRun {dataset : String} {result : Except Failure Unit}
    (run : QuotaRun dataset quota trace result) : SetsAtMost quota trace := by
  cases run with
  | unlimited => exact .inl rfl
  | imposed h =>
    refine .inr ?_
    rw [sizesSet?_single]
    change (bodyProperties? quota.body).bind _ = _
    rw [bodyProperties?_quota]
    exact readAll_sizeOf?_quota quota

/-- For a clone, a request of its own sets the sizes. -/
theorem setsAtMost_of_cloneRun {source : String}
    {result : Annotations × Except Failure (Option Info)}
    (run : CloneRun backend placement source size options recorded trace result) :
    SetsAtMost (backend.quotaFor options size) trace := by
  cases run with
  | unsnapped => exact .inl rfl
  | uncloned => exact .inl rfl
  | unlimited now snapshot run =>
    change SetsAtMost _ ([_, _, _] ++ _)
    exact .aside_append rfl (setsAtMost_of_quotaRun run)
  | cloned now snapshot run found =>
    change SetsAtMost _ ([_, _, _] ++ _)
    exact .aside_append rfl ((setsAtMost_of_quotaRun run).append_aside rfl)

theorem sizesSet?_shareRun {path : String} {readOnly : Bool} {result : Except Failure Unit}
    (run : ShareRun backend placement path readOnly trace result) : sizesSet? trace = some [] := by
  cases run <;> rfl

theorem setsAtMost_of_makeRun {result : Annotations × Except Failure (Option Info)}
    (run : MakeRun backend placement size recorded trace result) :
    SetsAtMost (backend.quotaFor (Options.ofAnnotations recorded) size) trace := by
  cases run with
  | fresh h run => exact setsAtMost_of_freshRun (Options.restricted_ofAnnotations recorded) run
  | clone source h run => exact setsAtMost_of_cloneRun run

theorem setsAtMost_of_createRun {result : Annotations × Except Failure Descriptor}
    (run : CreateRun backend annotations size trace result) :
    SetsAtMost (backend.quotaFor (Options.ofAnnotations annotations) size) trace := by
  cases run with
  | unready => exact .inl rfl
  | unmade recorded placement h run =>
    rw [← (prepared_of_prepare h).options]
    exact setsAtMost_of_makeRun run
  | missing recorded placement h run =>
    rw [← (prepared_of_prepare h).options]
    exact setsAtMost_of_makeRun run
  | made recorded placement h run shared =>
    rw [← (prepared_of_prepare h).options]
    exact (setsAtMost_of_makeRun run).append_aside (sizesSet?_shareRun shared)

end RestBackend

/-! ## The sizes of a backend -/

namespace Backend

def quotaMode : Backend → QuotaMode
  | .shell backend => backend.quotaMode
  | .rest backend => backend.quotaMode

/-- The size that a backend imposes where the annotations ask for a size. -/
def imposedSize (backend : Backend) (annotations : Annotations) (size : Nat) : Nat :=
  match backend with
  | .shell _ => size
  | .rest _ => RestBackend.imposedSize (Options.ofAnnotations annotations) size

theorem setsAtMost_of_runs {backend : Backend} {answer : Annotations × Option Descriptor}
    (run : Program.Runs (backend.create annotations size) trace answer) :
    SetsAtMost (Quota.ofSize backend.quotaMode (backend.imposedSize annotations size)) trace := by
  obtain ⟨result, run, -⟩ := Backend.runs_create.mp run
  cases backend with
  | shell b => exact ShellBackend.setsAtMost_of_createRun (ShellBackend.runs_create.mp run)
  | rest b => exact RestBackend.setsAtMost_of_createRun (RestBackend.runs_create.mp run)

/-- What a backend makes of the least size that will do: by commands it imposes just that, through
the management interface the least whole number of records, as far as 64 bits hold it. -/
def Rounds (backend : Backend) (record : Option Nat) (least size : Nat) : Prop :=
  match backend, record with
  | .rest _, some record => ∃ whole, IsLeast {n | record ∣ n ∧ least ≤ n} whole ∧
      size = if whole < 2 ^ 64 then whole else 2 ^ 64 - 1
  | .rest _, none => size = least
  | .shell _, _ => size = least

theorem rounds_imposedSize (backend : Backend) (annotations : Annotations) (size : Nat) :
    backend.Rounds (Options.ofAnnotations annotations).recordSize size
      (backend.imposedSize annotations size) := by
  cases backend with
  | shell b => exact rfl
  | rest b =>
    simp only [imposedSize, RestBackend.imposedSize]
    cases hrecord : (Options.ofAnnotations annotations).recordSize with
    | none => exact rfl
    | some record =>
      obtain ⟨raw, -, hread⟩ := Option.bind_eq_some_iff.mp hrecord
      have hpositive := pos_of_recordSize? hread
      have hgreatest : Text.greatest64 = 2 ^ 64 - 1 := rfl
      refine ⟨_, isLeast_records size hpositive, ?_⟩
      simp only [roundUpToRecord, Nat.pos_iff_ne_zero.mp hpositive, if_false, hgreatest]
      split <;> omega

/-- No size is rounded down, and none is rounded up by a whole record. -/
theorem Rounds.bounds {backend : Backend} {record : Option Nat} {least size : Nat}
    (rounds : backend.Rounds record least size) (hfits : least < 2 ^ 64)
    (hrecord : ∀ r, record = some r → 0 < r) : least ≤ size ∧ size < least + record.getD 1 := by
  have hpositive : 0 < record.getD 1 := by
    cases record with
    | none => exact Nat.one_pos
    | some r => exact hrecord r rfl
  cases backend with
  | shell b =>
    obtain rfl : size = least := rounds
    exact ⟨Nat.le_refl size, by omega⟩
  | rest b =>
    cases record with
    | none =>
      obtain rfl : size = least := rounds
      exact ⟨Nat.le_refl size, by omega⟩
    | some r =>
      obtain ⟨whole, ⟨⟨hdvd, hle⟩, hleast⟩, hsize⟩ := rounds
      rw [Option.getD_some] at hpositive ⊢
      have hless : whole < least + r := by
        by_contra hmore
        -- One record less would do as well.
        have hfewer := hleast ⟨Nat.dvd_sub hdvd (Nat.dvd_refl r), by omega⟩
        omega
      split at hsize <;> omega

end Backend

end Storage

namespace Reconciler

open Manifest Storage Dataset

variable {settings : Settings} {event : ClaimEvent}

/-! ## From the claim to its dataset -/

/-- The storage that a claim asks for, zero where it asks for none. -/
def storageRequest (claim : Claim) : String :=
  ((claim.spec.bind (·.requests)).bind (·["storage"]?)).getD "0"

/-- The capacity that a volume object advertises. -/
def advertised (volume : Volume) : Option String :=
  (volume.spec.bind (·.capacity)).bind (·["storage"]?)

/-- The record size of a claim's dataset: what the claim asks for, where its class lets it. -/
def recordFor (event : ClaimEvent) (provider : Provider) : Option Nat :=
  (if Key.blockSize ∈ provider.blocked then none else event.annotations[Key.blockSize]?).bind
    recordSize?

theorem requested_of_ofClaim {change : Change} {claim : Claim}
    (h : ClaimEvent.ofClaim change claim = .ok event) :
    event.requestedStorage = storageRequest claim ∧
      Quantity.bytes (storageRequest claim) = .ok event.requestedBytes := by
  unfold ClaimEvent.ofClaim at h
  cases hname : claim.metadata.name with
  | none => simp [hname] at h
  | some name =>
    simp only [hname] at h
    rw [← storageRequest] at h
    cases hbytes : Quantity.bytes (storageRequest claim) with
    | error fault => simp [hbytes] at h
    | ok bytes =>
      simp only [hbytes, Except.ok.injEq] at h
      subst h
      exact ⟨rfl, rfl⟩

/-- The record size that the backend reads is that of the claim. -/
theorem Attempt.recordSize {provider : Provider} {uuid : Uuid} {scope : TransientScope}
    (attempt : Attempt settings event provider uuid scope) :
    (Options.ofAnnotations scope.annotations).recordSize = recordFor event provider := by
  have hlookup : scope.annotations[Key.blockSize]? =
      if Key.blockSize ∈ provider.blocked then none else event.annotations[Key.blockSize]? := by
    rw [attempt.lookup Key.blockSize (by decide), getElem?_workingSet (by decide),
      getElem?_allowed, Annotations.getElem?_ofClaim (Annotations.workingKey_eq_iff (by decide))
        (by decide) (by decide)]
    have hinternal : Key.blockSize ∉ Key.internalOnly := by decide
    simp only [hinternal, false_or]
  rw [recordFor, ← hlookup]
  rfl

/-- Handling a claim sets no size, or those of the mode of its class for the size that the backend
imposes. -/
theorem sizesSet?_of_handled {whole : PeerTrace} {outcome : Except Failure ClaimOutcome}
    (run : Program.Runs (onPeers (handleClaim settings event)) whole outcome) :
    sizesSet? (storagePart whole) = some [] ∨
      ∃ provider size, serverOf settings event = some provider ∧
        provider.backend.Rounds (recordFor event provider) event.requestedBytes size ∧
        sizesSet? (storagePart whole) = some (provider.backend.quotaMode.names.map (·, size)) := by
  obtain ⟨trace, hrun, carried⟩ := runs_onPeers.mp run
  cases runs_handleClaim.mp hrun with
  | stale => exact .inl (sizesSet?_idle (idle_of_carried carried (by simp)))
  | foreign => exact .inl (sizesSet?_idle (idle_of_carried carried (by simp)))
  | unclaimed => exact .inl (sizesSet?_idle (idle_of_carried carried (by simp [Call.onBackend])))
  | unserved => exact .inl (sizesSet?_idle (idle_of_carried carried (by simp [Call.onBackend])))
  | served addressed provider served hprovision =>
    obtain ⟨counting, attempting, rfl, hcount, hattempt⟩ := Program.carried_cons.mp carried
    cases runs_carry.mp hcount
    rw [storagePart_append]
    change sizesSet? (storagePart attempting) = _ ∨ ∃ _ _, _ ∧ _ ∧
      sizesSet? (storagePart attempting) = _
    rcases refused_or_attempted hprovision with ⟨uuid, reads, failure, hscope, rfl, -⟩ |
      ⟨uuid, reads, scope, after, descriptor?, rest, hscope, rfl, aside⟩
    · exact .inl (sizesSet?_idle (idle_of_carried hattempt (not_onBackend_of_scopeRun hscope)))
    · obtain ⟨before, made, later, hpart, hbefore, hlater, hcreate⟩ :=
        storagePart_of_attempt hscope aside hattempt
      have hmade := Backend.setsAtMost_of_runs hcreate
      have hsets := (hmade.append_aside (sizesSet?_idle hlater)).aside_append
        (sizesSet?_idle hbefore)
      rw [hpart]
      rcases hsets with hnone | hall
      · exact .inl hnone
      · refine .inr ⟨provider, _, served, ?_, hall.trans (congrArg some (properties_ofSize _ _))⟩
        rw [← (attempt_of_scopeRun hscope).recordSize]
        exact Backend.rounds_imposedSize _ _ _

theorem advertised_of_submitted {whole : PeerTrace} {outcome : Except Failure ClaimOutcome}
    (run : Program.Runs (onPeers (handleClaim settings event)) whole outcome) {volume : Volume}
    (h : volume ∈ submitted (clusterPart whole)) :
    advertised volume = some event.requestedStorage := by
  obtain ⟨provider, uuid, scope, after, descriptor, making⟩ := making_of_submitted run h
  rw [making.object]
  exact Std.ExtTreeMap.getElem?_insert_self

/-- A size provides for a quantity: it is no less, and it is the quantity in whole bytes as the
backend rounds it, so that less than one record is given away. -/
structure Provides (backend : Backend) (record : Option Nat) (w : Quantity.Written) (size : Nat) :
    Prop where
  enough : w.value ≤ size
  rounded : w.Counted → backend.Rounds record ⌈w.value⌉₊ size
  spare : w.Counted → size < ⌈w.value⌉₊ + record.getD 1

theorem provides_of_rounds {backend : Backend} {provider : Provider} {s : String}
    {w : Quantity.Written} {bytes size : Nat} (spells : Quantity.Spells s w)
    (hbytes : Quantity.bytes s = .ok bytes)
    (rounds : backend.Rounds (recordFor event provider) bytes size) :
    Provides backend (recordFor event provider) w size := by
  have hfits : bytes < 2 ^ 64 := (Quantity.reading_of_bytes spells hbytes).2.2.2.2.2
  have hrecord : ∀ r, recordFor event provider = some r → 0 < r := by
    intro r h
    obtain ⟨raw, -, hread⟩ := Option.bind_eq_some_iff.mp h
    exact pos_of_recordSize? hread
  obtain ⟨hle, hless⟩ := rounds.bounds hfits hrecord
  have hceil (counted : w.Counted) : ⌈w.value⌉₊ = bytes := by
    rw [← Int.ceil_toNat, Quantity.ceil_of_counted spells hbytes counted, Int.toNat_natCast]
  refine ⟨?_, fun counted => ?_, fun counted => ?_⟩
  · calc w.value ≤ bytes := Quantity.value_le_of_bytes spells hbytes
      _ ≤ size := by exact_mod_cast hle
  · rw [hceil counted]
    exact rounds
  · rw [hceil counted]
    exact hless

/-- No capacity is provided short. Whatever a claim asks for and however it is served, handling it
sets no size at all, or just the limit and the guarantee that the mode of its class names, both to
one size that provides for the quantity that the claim spells; and every volume object that is
submitted for it advertises this quantity in the same spelling. -/
theorem capacity_is_provided {change : Change} {claim : Claim}
    (accepted : ClaimEvent.ofClaim change claim = .ok event) {w : Quantity.Written}
    (spells : Quantity.Spells (storageRequest claim) w) {whole : PeerTrace}
    {outcome : Except Failure ClaimOutcome}
    (run : Program.Runs (onPeers (handleClaim settings event)) whole outcome) :
    (∃ sizes, sizesSet? (storagePart whole) = some sizes ∧
      (sizes = [] ∨ ∃ provider size, serverOf settings event = some provider ∧
        sizes = provider.backend.quotaMode.names.map (·, size) ∧
        Provides provider.backend (recordFor event provider) w size)) ∧
      ∀ volume ∈ submitted (clusterPart whole),
        advertised volume = some (storageRequest claim) := by
  obtain ⟨hstorage, hbytes⟩ := requested_of_ofClaim accepted
  constructor
  · rcases sizesSet?_of_handled run with hnone | ⟨provider, size, served, rounds, hall⟩
    · exact ⟨[], hnone, .inl rfl⟩
    · exact ⟨_, hall, .inr ⟨provider, size, served, rfl, provides_of_rounds spells hbytes rounds⟩⟩
  · intro volume hvolume
    rw [advertised_of_submitted run hvolume, hstorage]

/-- A hundred thousand bytes. -/
def Sample.hundredKilo : Quantity.Written :=
  ⟨.absent, ⟨['1', '0', '0'], none, List.all_eq_true.mp rfl, by decide⟩, .symbol .kilo⟩

theorem Sample.spells_hundredKilo : Quantity.Spells "100k" Sample.hundredKilo :=
  ⟨[], [], rfl, List.all_eq_true.mp rfl, List.all_eq_true.mp rfl⟩

/-- A claim for them, in records of 128 KiB. -/
def Sample.sizedClaim : Claim where
  metadata := {
    name := some "data"
    objectNamespace := some "demo"
    annotations := some ((∅ : Annotations).insert Key.blockSize "131072") }
  spec := some {
    requests := some ((∅ : Annotations).insert "storage" "100k")
    storageClassName := some "zfs-rest" }

def Sample.sizedEvent : ClaimEvent :=
  { Sample.claim with
    uid := ""
    requestedStorage := "100k"
    requestedBytes := 100000
    accessModes := []
    annotations := (∅ : Annotations).insert Key.blockSize "131072"
    storageClassName := some "zfs-rest" }

theorem Sample.ofClaim_sizedClaim :
    ClaimEvent.ofClaim .added Sample.sizedClaim = .ok Sample.sizedEvent := by
  rfl

/-- One record is set as the limit, and the volume object advertises what was asked for. -/
theorem sample_capacity_is_provided :
    ClaimEvent.ofClaim .added Sample.sizedClaim = .ok Sample.sizedEvent ∧
      Quantity.Spells (storageRequest Sample.sizedClaim) Sample.hundredKilo ∧
      Sample.hundredKilo.Counted ∧
      sizesSet? (storagePart (Sample.servedBy Sample.settings 1 Sample.sizedEvent)) =
        some [("quota", 131072)] ∧
      Provides Sample.restProvider.backend (some 131072) Sample.hundredKilo 131072 ∧
      (submitted (clusterPart (Sample.servedBy Sample.settings 1 Sample.sizedEvent))).length = 1 ∧
      ∀ volume ∈ submitted (clusterPart (Sample.servedBy Sample.settings 1 Sample.sizedEvent)),
        advertised volume = some "100k" := by
  obtain ⟨outcome, run⟩ := Sample.runs_servedBy Sample.settings 1 Sample.sizedEvent
  obtain ⟨hset, hone⟩ :
      sizesSet? (storagePart (Sample.servedBy Sample.settings 1 Sample.sizedEvent)) =
        some [("quota", 131072)] ∧
      (submitted (clusterPart (Sample.servedBy Sample.settings 1 Sample.sizedEvent))).length =
        1 := by decide +kernel
  obtain ⟨⟨sizes, hsizes, hnone | ⟨provider, size, served, hnames, provides⟩⟩, hadvertised⟩ :=
    capacity_is_provided Sample.ofClaim_sizedClaim Sample.spells_hundredKilo run
  · rw [hset, hnone] at hsizes
    cases hsizes
  · have serving : serverOf Sample.settings Sample.sizedEvent = some Sample.restProvider := by rfl
    obtain rfl := Option.some.inj (served.symm.trans serving)
    have hrecord : recordFor Sample.sizedEvent Sample.restProvider = some 131072 := by
      decide +kernel
    obtain rfl : size = 131072 := by
      rw [hset, hnames] at hsizes
      have hquota : Sample.restProvider.backend.quotaMode.names = ["quota"] := by rfl
      rw [hquota] at hsizes
      simpa using hsizes.symm
    exact ⟨Sample.ofClaim_sizedClaim, Sample.spells_hundredKilo,
      Sample.spells_hundredKilo.counted (by decide), hset, hrecord ▸ provides, hone, hadvertised⟩

end Reconciler

end DatasetProvisioner
