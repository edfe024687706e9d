import DatasetProvisioner.Proofs.ClaimRuns
import DatasetProvisioner.Proofs.Sample

/-!
# Denied annotations

A class denies claims some annotations. Under a denied key a claim may carry anything or nothing:
the calls that handling it makes, their arguments and its outcome are the same.
-/
namespace DatasetProvisioner.Reconciler

variable {settings : Settings} {event : ClaimEvent} {provider : Provider}
  {annotations : Annotations}

/-- The keys by which a claim chooses its provisioner and its class. They are read before it is
known what the class denies. -/
def addressKeys : List String :=
  [Key.storageClass, Key.betaStorageClass, Key.gaProvisioner, Key.betaProvisioner]

/-- Two sets of annotations differ under denied keys at most, and not in what they address. -/
def DifferInDenied (provider : Provider) (own other : Annotations) : Prop :=
  ∀ key, own[key]? ≠ other[key]? → key ∈ provider.blocked ∧ key ∉ addressKeys

theorem DifferInDenied.agree {own other : Annotations} (differ : DifferInDenied provider own other)
    {key : String} (free : key ∉ provider.blocked ∨ key ∈ addressKeys) :
    own[key]? = other[key]? := by
  refine Decidable.byContradiction fun hne => ?_
  obtain ⟨denied, hkey⟩ := differ key hne
  rcases free with free | address
  · exact free denied
  · exact hkey address

/-- What is kept under the name of another key chooses the provisioner or the class. -/
theorem mem_addressKeys_of_renamed {key working : String} (h : Key.workingKey key = working)
    (hne : key ≠ working) : key ∈ addressKeys := by
  unfold Key.workingKey at h
  split at h
  · next hprovisioner =>
    simp only [Bool.or_eq_true, decide_eq_true_eq] at hprovisioner
    rcases hprovisioner with rfl | rfl <;> decide
  · split at h
    · next hclass =>
      subst hclass
      decide
    · exact absurd h hne

/-- What may be supplied is read from keys that are not denied, and from those of the address. -/
theorem allowed_of_differ (differ : DifferInDenied provider event.annotations annotations) :
    allowed { event with annotations } provider = allowed event provider := by
  refine Std.ExtTreeMap.ext_getElem? fun key => ?_
  rw [getElem?_allowed, getElem?_allowed]
  by_cases hkey : key ∈ Key.internalOnly ∨ key ∈ provider.blocked
  · rw [if_pos hkey, if_pos hkey]
  · rw [if_neg hkey, if_neg hkey]
    refine Annotations.getElem?_ofClaim_congr (fun other hother => (differ.agree ?_).symm) _ _
    by_cases hsame : other = key
    · exact .inl fun denied => hkey (.inr (hsame ▸ denied))
    · exact .inr (mem_addressKeys_of_renamed hother hsame)

theorem provisioner?_of_differ (differ : DifferInDenied provider event.annotations annotations) :
    annotations.provisioner? = event.annotations.provisioner? := by
  rw [Annotations.provisioner?, Annotations.provisioner?, differ.agree (.inr (by decide)),
    differ.agree (.inr (by decide))]

theorem classOf_of_differ (differ : DifferInDenied provider event.annotations annotations) :
    classOf { event with annotations } = classOf event := by
  have hclass : (Annotations.ofClaim event.claimNamespace event.claimName
      annotations).stripInternal[Key.storageClass]? =
      (Annotations.ofClaim event.claimNamespace event.claimName
        event.annotations).stripInternal[Key.storageClass]? := by
    rw [Annotations.stripInternal, Annotations.stripInternal, Annotations.getElem?_eraseAll,
      Annotations.getElem?_eraseAll, if_neg (by decide), if_neg (by decide)]
    refine Annotations.getElem?_ofClaim_congr (fun key hkey => (differ.agree (.inr ?_)).symm) _ _
    by_cases hsame : key = Key.storageClass
    · exact hsame ▸ List.mem_cons_self
    · exact mem_addressKeys_of_renamed hkey hsame
  rw [classOf, classOf, requestedClass, requestedClass, hclass]

/-- Two claims that differ only in what their class denies are handled alike: the class is the same,
and whatever cluster, backends, clock and source of identifiers answer, and also whatever host and
management interface answer the backends, the same calls are made with the same arguments in the
same order, with the same outcome. -/
theorem denied_annotations_have_no_effect (settings : Settings) (event : ClaimEvent)
    (annotations : Annotations) {provider : Provider}
    (served : serverOf settings event = some provider)
    (differ : DifferInDenied provider event.annotations annotations) :
    serverOf settings { event with annotations } = some provider ∧
    (∀ {σ : Type} (peer : (c : Call) → σ → Option c.Answer × σ) (s : σ),
      (handleClaim settings { event with annotations }).runWith (Program.logging peer) ([], s) =
        (handleClaim settings event).runWith (Program.logging peer) ([], s)) ∧
    ∀ {σ : Type} (peer : (c : PeerCall) → σ → Option c.Answer × σ) (s : σ),
      (onPeers (handleClaim settings { event with annotations })).runWith (Program.logging peer)
          ([], s) =
        (onPeers (handleClaim settings event)).runWith (Program.logging peer) ([], s) := by
  have alike : handleClaim settings { event with annotations } = handleClaim settings event := by
    refine handleClaim_of_agree (provisioner?_of_differ differ) (classOf_of_differ differ) ?_
    intro other hother
    obtain rfl := Option.some.inj (served.symm.trans hother)
    exact allowed_of_differ differ
  refine ⟨?_, fun peer s => ?_, fun peer s => ?_⟩
  · rw [serverOf, classOf_of_differ differ]
    exact served
  · rw [alike]
  · rw [alike]

/-- A class that denies claims to clone and to choose a compression. -/
def Sample.strictProvider : Provider :=
  { Sample.shellProvider with
    blocked := (∅ : KeySet).insert Key.cloneFrom |>.insert Key.compression }

def Sample.strict : Settings where
  identity := Key.defaultIdentity
  registry := ⟨some "zfs-basic",
    (∅ : Std.ExtTreeMap String Provider compare).insert "zfs-basic" Sample.strictProvider⟩

/-- A claim that asks to clone, and annotations that ask for a compression instead. -/
def Sample.cloning : ClaimEvent :=
  { Sample.claim with
    annotations := (∅ : Annotations).insert Key.sync "always" |>.insert Key.cloneFrom "golden" }

def Sample.compressing : Annotations :=
  (∅ : Annotations).insert Key.sync "always" |>.insert Key.compression "lz4"

theorem Sample.differInDenied :
    DifferInDenied Sample.strictProvider Sample.cloning.annotations Sample.compressing := by
  intro key hne
  by_cases hclone : Key.cloneFrom = key
  · subst hclone
    decide
  · by_cases hcompression : Key.compression = key
    · subst hcompression
      decide
    · refine absurd ?_ hne
      rw [Sample.compressing, Annotations.getElem?_insert_ne hcompression]
      exact Annotations.getElem?_insert_ne hclone

/-- The outcome for a claim of the strict class, and the calls it takes. -/
def Sample.logged (event : ClaimEvent) :
    Option (Except Failure ClaimOutcome) × (List PeerCall × Unit) :=
  (onPeers (handleClaim Sample.strict event)).runWith
    (Program.logging fun c _ =>
      (some (Sample.peerAnswer Sample.store (Simulation.Peers.numberedUuid 1) c), ()))
    ([], ())

/-- Either way a volume is made for the claim, by the same five calls. -/
theorem sample_denied_annotations_have_no_effect :
    Sample.cloning.annotations[Key.cloneFrom]? ≠ Sample.compressing[Key.cloneFrom]? ∧
    (Sample.logged Sample.cloning).1.bind Except.toOption = some (.provisioned "pv-00000001") ∧
    (Sample.logged Sample.cloning).2.1.length = 5 ∧
    Sample.logged { Sample.cloning with annotations := Sample.compressing } =
      Sample.logged Sample.cloning := by
  have served : serverOf Sample.strict Sample.cloning = some Sample.strictProvider := by rfl
  obtain ⟨-, -, alike⟩ := denied_annotations_have_no_effect Sample.strict Sample.cloning
    Sample.compressing served Sample.differInDenied
  exact ⟨by decide, by decide +kernel, by decide +kernel, alike _ ()⟩

end DatasetProvisioner.Reconciler
