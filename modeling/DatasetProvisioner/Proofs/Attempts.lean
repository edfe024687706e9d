import DatasetProvisioner.Proofs.PeerRuns

/-!
# Attempts to make a volume

What the scope of an attempt holds when it is handed to the backend, and where in the calls of an
attempt the backend's own calls stand.
-/
namespace DatasetProvisioner.Reconciler

open Manifest Storage

variable {settings : Settings} {event : ClaimEvent} {provider : Provider}

/-- The keys that do not outlive an attempt. -/
def attemptKeys : List String :=
  [Key.volumeTag, Key.cloneRef, Key.volumeRef]

/-- A scope of an attempt: it sets no other keys for its duration, and holds the working set under
all others. -/
structure Attempt (settings : Settings) (event : ClaimEvent) (provider : Provider) (uuid : Uuid)
    (scope : TransientScope) : Prop where
  transient : ∀ key ∈ scope.transient, key ∈ attemptKeys
  lookup : ∀ key ∉ attemptKeys, scope.annotations[key]? =
    (workingSet settings.identity event provider uuid)[key]?

theorem Attempt.insertTransient {uuid : Uuid} {scope : TransientScope}
    (attempt : Attempt settings event provider uuid scope) {key : String} (value : String)
    (hkey : key ∈ attemptKeys) :
    Attempt settings event provider uuid (scope.insertTransient key value) := by
  refine ⟨fun other hother => ?_, fun other hother => ?_⟩
  · rcases TransientScope.mem_insertTransient.mp hother with rfl | hother
    · exact hkey
    · exact attempt.transient other hother
  · change (scope.annotations.insert key value)[other]? = _
    have hne : key ≠ other := by
      rintro rfl
      exact hother hkey
    rw [Annotations.getElem?_insert_ne hne, attempt.lookup other hother]

theorem attempt_opened (uuid : Uuid) :
    Attempt settings event provider uuid (opened settings event provider uuid) := by
  have begun : Attempt settings event provider uuid
      { annotations := workingSet settings.identity event provider uuid } :=
    ⟨fun key hkey => by simp at hkey, fun _ _ => rfl⟩
  exact begun.insertTransient _ (by decide)

theorem attempt_of_scopeRun {uuid : Uuid} {reads : Trace} {scope : TransientScope}
    (run : ScopeRun settings event provider (opened settings event provider uuid) reads
      (.ok scope)) :
    Attempt settings event provider uuid (requested provider scope) := by
  have attempt : Attempt settings event provider uuid scope := by
    cases run with
    | plain => exact attempt_opened uuid
    | resolved => exact (attempt_opened uuid).insertTransient _ (by decide)
  exact attempt.insertTransient _ (by decide)

/-- No attempt begins with a clone reference: a claim may not set one. -/
theorem cloneRef_opened (uuid : Uuid) :
    (opened settings event provider uuid).annotations[Key.cloneRef]? = none := by
  change ((workingSet settings.identity event provider uuid).insert Key.volumeTag
    (volumeTag uuid))[Key.cloneRef]? = none
  rw [Annotations.getElem?_insert_ne (by decide), getElem?_workingSet (by decide),
    getElem?_allowed, if_pos (.inl (by decide))]

theorem cloneRef_requested (scope : TransientScope) :
    (requested provider scope).annotations[Key.cloneRef]? = scope.annotations[Key.cloneRef]? :=
  Annotations.getElem?_insert_ne (by decide)

theorem volumeUuid_of_marked {identity : String} {uuid : Uuid} {annotations : Annotations}
    (marked : Marked identity provider uuid annotations) : volumeUuid annotations = .ok uuid :=
  volumeUuid_eq_ok_iff.mpr ⟨uuid.toString, marked.volume, Uuid.ofString?_toString uuid⟩

/-- The backend is asked for a volume of the identifier that was drawn. -/
theorem Attempt.identified {uuid : Uuid} {scope : TransientScope}
    (attempt : Attempt settings event provider uuid scope) :
    volumeUuid scope.annotations = .ok uuid := by
  refine volumeUuid_eq_ok_iff.mpr ⟨uuid.toString, ?_, Uuid.ofString?_toString uuid⟩
  rw [attempt.lookup Key.volumeUuid (by decide)]
  exact marked_workingSet.volume

/-- An attempt either is refused before the backend is called, or calls it once, for a scope that it
has prepared. -/
theorem refused_or_attempted {trace : Trace} {outcome : Except Failure ClaimOutcome}
    (run : ProvisionRun settings event provider trace outcome) :
    (∃ uuid reads failure, ScopeRun settings event provider
        (opened settings event provider uuid) reads (.error failure) ∧
      trace = onUuid uuid :: reads ∧ outcome = .error failure) ∨
      ∃ uuid reads scope after descriptor? rest,
        ScopeRun settings event provider (opened settings event provider uuid) reads (.ok scope) ∧
        trace = (onUuid uuid :: reads) ++ onAttempt event provider scope after descriptor? :: rest ∧
        ∀ x ∈ rest, x.call.onBackend = false := by
  cases run with
  | @refused uuid reads failure run => exact .inl ⟨uuid, reads, failure, run, rfl, rfl⟩
  | @declined uuid reads scope run after =>
    exact .inr ⟨uuid, reads, scope, after, none, _, run, rfl, by simp [Call.onBackend]⟩
  | @rejected uuid reads scope run after descriptor =>
    exact .inr ⟨uuid, reads, scope, after, some descriptor, _, run, rfl, by simp [Call.onBackend]⟩
  | @provisioned uuid reads scope run after descriptor =>
    exact .inr ⟨uuid, reads, scope, after, some descriptor, _, run, rfl, by simp [Call.onBackend]⟩

/-- Until the backend is called, an attempt draws an identifier and reads. -/
theorem not_onBackend_of_scopeRun {uuid : Uuid} {reads : Trace} {scope : TransientScope}
    {result : Except Failure TransientScope}
    (run : ScopeRun settings event provider scope reads result) :
    ∀ x ∈ onUuid uuid :: reads, x.call.onBackend = false :=
  List.forall_mem_cons.mpr ⟨rfl, fun x hx => onBackend_of_isRead (isRead_of_scopeRun run x hx)⟩

/-- An attempt calls the backend once at most, for a scope that it has prepared. -/
theorem onBackend_of_provisionRun {trace : Trace} {outcome : Except Failure ClaimOutcome}
    (run : ProvisionRun settings event provider trace outcome) :
    (∀ x ∈ trace, x.call.onBackend = false) ∨
      ∃ uuid reads scope after descriptor? rest,
        ScopeRun settings event provider (opened settings event provider uuid) reads (.ok scope) ∧
        trace = (onUuid uuid :: reads) ++ onAttempt event provider scope after descriptor? :: rest ∧
        ∀ x ∈ rest, x.call.onBackend = false := by
  rcases refused_or_attempted run with ⟨uuid, reads, failure, refusal, rfl, -⟩ | attempted
  · exact .inl (not_onBackend_of_scopeRun refusal)
  · exact .inr attempted

/-- The storage calls of an attempt are those of the backend's creation, but for the clock. -/
theorem storagePart_of_attempt {uuid : Uuid} {reads rest : Trace} {scope : TransientScope}
    {after : Annotations} {descriptor? : Option Descriptor} {whole : PeerTrace}
    (run : ScopeRun settings event provider (opened settings event provider uuid) reads (.ok scope))
    (aside : ∀ x ∈ rest, x.call.onBackend = false)
    (carried : Program.Carried carry
      ((onUuid uuid :: reads) ++ onAttempt event provider scope after descriptor? :: rest) whole) :
    ∃ before made later, storagePart whole = before ++ (made ++ later) ∧ Idle before ∧
      Idle later ∧
      Program.Runs (provider.backend.create (requested provider scope).annotations
        event.requestedBytes) made (after, descriptor?) := by
  obtain ⟨first, last, rfl, hfirst, hlast⟩ := Program.carried_append.mp carried
  obtain ⟨making, submitting, rfl, hmake, hsubmit⟩ := Program.carried_cons.mp hlast
  cases runs_carry.mp hmake with
  | @create _ _ _ made _ hcreate =>
    refine ⟨storagePart first, made, storagePart submitting, ?_, idle_of_carried hfirst ?_,
      idle_of_carried hsubmit aside, hcreate⟩
    · rw [storagePart_append, storagePart_append, storagePart_map]
    · exact not_onBackend_of_scopeRun run

end DatasetProvisioner.Reconciler
