import DatasetProvisioner.Proofs.ClaimRuns
import DatasetProvisioner.Proofs.Sample

/-!
# The translation of a claim's annotations

The cluster has two keys for the provisioner of a claim and one for its class. In the working set
they become keys of the controller, which the claim may also have set itself, and values that meet
under one key are set in the order of the keys that they come from. The last of them stands there:
the one of the controller's own key, and else the one that the claim path goes by when it decides
whose claim it is.
-/
namespace DatasetProvisioner

namespace Annotations

/-- Of values that are set in key order under one key, the last stands there. -/
theorem getElem?_foldl_of_last {rename : String → String} {entries : List (String × String)}
    (ordered : entries.Pairwise fun p q => compare p.1 q.1 = .lt) {last key value : String}
    (hmem : (last, value) ∈ entries) (hlast : rename last = key)
    (hearlier : ∀ p ∈ entries, rename p.1 = key → p.1 = last ∨ compare p.1 last = .lt)
    (set : Annotations) :
    (entries.foldl (fun set p => set.insert (rename p.1) p.2) set)[key]? = some value := by
  obtain ⟨before, after, rfl⟩ := List.append_of_mem hmem
  obtain ⟨-, hrest, -⟩ := List.pairwise_append.mp ordered
  obtain ⟨hlater, -⟩ := List.pairwise_cons.mp hrest
  have hothers : ∀ p ∈ after, rename p.1 ≠ key := by
    intro p hp hkey
    have hlt : compare last p.1 = .lt := hlater p hp
    rcases hearlier p (List.mem_append_right _ (List.mem_cons_of_mem _ hp)) hkey with heq | hgt
    · simp [heq] at hlt
    · exact Std.OrientedCmp.not_lt_of_lt hlt hgt
  rw [List.foldl_append, List.foldl_cons, getElem?_foldl_of_notin hothers, getElem?_insert,
    if_pos hlast]

/-- A working set holds under a key the value of the last, in key order, of the claim's own keys
that become that key, and a coordinate of the claim if there is none. -/
theorem getElem?_ofClaim_of_sources {key : String} {sources : List String}
    (ordered : sources.Pairwise fun a b => compare a b = .lt)
    (exact : ∀ k, Key.workingKey k = key ↔ k ∈ sources)
    (claimNamespace claimName : String) (own : Annotations) :
    (ofClaim claimNamespace claimName own)[key]? =
      (sources.reverse.findSome? fun k => own[k]?).or
        ((∅ : Annotations).insert Key.claimNamespace claimNamespace
          |>.insert Key.claimName claimName)[key]? := by
  have told {p : String × String} (hp : p ∈ own.toList) : own[p.1]? = some p.2 :=
    Std.ExtTreeMap.mem_toList_iff_getElem?_eq_some.mp hp
  rw [ofClaim, Std.ExtTreeMap.foldl_eq_foldl_toList]
  cases hfound : sources.reverse.findSome? fun k => own[k]? with
  | none =>
    have hunset := List.findSome?_eq_none_iff.mp hfound
    rw [Option.none_or]
    apply getElem?_foldl_of_notin
    intro p hp hkey
    have hnone := hunset p.1 (List.mem_reverse.mpr ((exact p.1).mp hkey))
    rw [told hp] at hnone
    cases hnone
  | some value =>
    obtain ⟨later, last, earlier, hsplit, hvalue, hunset⟩ := List.findSome?_eq_some_iff.mp hfound
    have hsources : sources = earlier.reverse ++ last :: later.reverse := by
      rw [← List.reverse_reverse sources, hsplit]
      simp
    have hmem : last ∈ sources := by
      rw [hsources]
      exact List.mem_append_right _ List.mem_cons_self
    rw [Option.some_or]
    refine getElem?_foldl_of_last Std.ExtTreeMap.ordered_keys_toList
      (Std.ExtTreeMap.mem_toList_iff_getElem?_eq_some.mpr hvalue) ((exact last).mpr hmem)
      (fun p hp hkey => ?_) _
    have hsource := (exact p.1).mp hkey
    rw [hsources, List.mem_append, List.mem_cons] at hsource
    rcases hsource with hearlier | hsame | hlater
    · rw [hsources] at ordered
      obtain ⟨-, -, hlt⟩ := List.pairwise_append.mp ordered
      exact .inr (hlt p.1 hearlier last List.mem_cons_self)
    · exact .inl hsame
    · -- The claim sets none of the keys that come after the one that was found.
      have hnone := hunset p.1 (List.mem_reverse.mp hlater)
      rw [told hp] at hnone
      cases hnone

theorem workingKey_eq_storageProvisioner (k : String) :
    Key.workingKey k = Key.storageProvisioner ↔
      k ∈ [Key.betaProvisioner, Key.gaProvisioner, Key.storageProvisioner] := by
  unfold Key.workingKey
  split
  · next h =>
    simp only [Bool.or_eq_true, decide_eq_true_eq] at h
    rcases h with rfl | rfl <;> decide
  · next h =>
    simp only [Bool.or_eq_true, decide_eq_true_eq, not_or] at h
    split
    · next hclass =>
      subst hclass
      decide
    · simp [h.1, h.2]

theorem workingKey_eq_storageClass (k : String) :
    Key.workingKey k = Key.storageClass ↔ k ∈ [Key.betaStorageClass, Key.storageClass] := by
  unfold Key.workingKey
  split
  · next h =>
    simp only [Bool.or_eq_true, decide_eq_true_eq] at h
    rcases h with rfl | rfl <;> decide
  · split
    · next hclass =>
      subst hclass
      decide
    · next hclass => simp [hclass]

/-- The keys that the cluster has for the provisioner and the class of a claim. -/
def clusterKeys : List String :=
  [Key.betaProvisioner, Key.gaProvisioner, Key.betaStorageClass]

/-- They become other keys, and no key becomes one of them. -/
theorem workingKey_ne_of_cluster {key : String} (cluster : key ∈ clusterKeys) (k : String) :
    Key.workingKey k ≠ key := by
  have hclass : Key.storageClass ∉ clusterKeys := by decide
  have hprovisioner : Key.storageProvisioner ∉ clusterKeys := by decide
  unfold Key.workingKey
  intro h
  split at h
  · exact hprovisioner (h ▸ cluster)
  · next hk =>
    split at h
    · exact hclass (h ▸ cluster)
    · next hk' =>
      subst h
      simp only [Bool.or_eq_true, decide_eq_true_eq, not_or] at hk
      simp [clusterKeys, hk.1, hk.2, hk'] at cluster

end Annotations

namespace Reconciler

open Annotations

variable {claimNamespace claimName : String} {own : Annotations}

/-- What a working set holds for the annotations of a claim. -/
structure Translated (own working : Annotations) : Prop where
  cluster : ∀ key ∈ clusterKeys, working[key]? = none
  provisioner : working[Key.storageProvisioner]? =
    own[Key.storageProvisioner]?.or own.provisioner?
  storageClass : working[Key.storageClass]? =
    own[Key.storageClass]?.or own[Key.betaStorageClass]?
  others : ∀ key ∉ Key.claimNamespace :: Key.claimName :: renamedKeys,
    working[key]? = own[key]?

theorem translated_ofClaim : Translated own (ofClaim claimNamespace claimName own) where
  cluster key hkey := by
    have hspace : Key.claimNamespace ≠ key := by
      rintro rfl
      revert hkey
      decide
    have hname : Key.claimName ≠ key := by
      rintro rfl
      revert hkey
      decide
    rw [getElem?_ofClaim_of_sources .nil (by simpa using workingKey_ne_of_cluster hkey),
      getElem?_insert_ne hname, getElem?_insert_ne hspace]
    simp
  provisioner := by
    rw [getElem?_ofClaim_of_sources (by decide) workingKey_eq_storageProvisioner,
      getElem?_insert_ne (by decide), getElem?_insert_ne (by decide), provisioner?]
    have fresh : (∅ : Annotations)[Key.storageProvisioner]? = none :=
      Std.ExtTreeMap.getElem?_empty
    have last : [Key.betaProvisioner, Key.gaProvisioner, Key.storageProvisioner].reverse =
        [Key.storageProvisioner, Key.gaProvisioner, Key.betaProvisioner] := rfl
    rw [fresh, Option.or_none, last]
    simp only [List.findSome?_cons, List.findSome?_nil]
    cases own[Key.storageProvisioner]? with
    | some value => rfl
    | none =>
      cases own[Key.gaProvisioner]? with
      | some value => rfl
      | none => cases own[Key.betaProvisioner]? <;> rfl
  storageClass := by
    rw [getElem?_ofClaim_of_sources (by decide) workingKey_eq_storageClass,
      getElem?_insert_ne (by decide), getElem?_insert_ne (by decide)]
    have fresh : (∅ : Annotations)[Key.storageClass]? = none := Std.ExtTreeMap.getElem?_empty
    have last : [Key.betaStorageClass, Key.storageClass].reverse =
        [Key.storageClass, Key.betaStorageClass] := rfl
    rw [fresh, Option.or_none, last]
    simp only [List.findSome?_cons, List.findSome?_nil]
    cases own[Key.storageClass]? with
    | some value => rfl
    | none => cases own[Key.betaStorageClass]? <;> rfl
  others key hkey := by
    simp only [List.mem_cons, not_or] at hkey
    obtain ⟨hspace, hname, hkept⟩ := hkey
    exact getElem?_ofClaim (workingKey_eq_iff hkept) hspace hname _ _ _

variable {settings : Settings} {event : ClaimEvent}

/-- A claim is left to another controller, which is then named, exactly if it names that one by the
keys of the cluster. -/
theorem foreign_of_handleClaim_iff {name : String} :
    (∃ trace, Program.Runs (handleClaim settings event) trace (.ok (.foreignProvisioner name))) ↔
      event.change = .added ∧ event.phase = .pending ∧
        event.annotations.provisioner? = some name ∧ name ≠ settings.identity := by
  constructor
  · rintro ⟨trace, run⟩
    generalize houtcome : Except.ok (ClaimOutcome.foreignProvisioner name) = outcome at run
    cases runs_handleClaim.mp run with
    | stale => cases houtcome
    | foreign added pending other hother hne =>
      cases houtcome
      exact ⟨added, pending, hother, hne⟩
    | unclaimed => cases houtcome
    | unserved => cases houtcome
    | served addressed provider served provisioning =>
      cases provisioning <;> cases houtcome
  · rintro ⟨added, pending, hname, hne⟩
    exact ⟨[], runs_handleClaim.mpr (.foreign added pending name hname hne)⟩

/-- The working set of a claim has the cluster's keys under the controller's names, with the values
that win there, and all else as the claim has it. Where the claim leaves the controller's own key
for the provisioner alone, the provisioner that the working set records is the one that is compared
with the identity of the controller. -/
theorem translation_agrees_with_ownership (claimNamespace claimName : String)
    (own : Annotations) :
    Translated own (ofClaim claimNamespace claimName own) ∧
    (own[Key.storageProvisioner]? = none →
      ∀ (settings : Settings) (event : ClaimEvent) (name : String),
        (∃ trace, Program.Runs
            (handleClaim settings { event with claimNamespace, claimName, annotations := own })
            trace (.ok (.foreignProvisioner name))) ↔
          event.change = .added ∧ event.phase = .pending ∧
            (ofClaim claimNamespace claimName own)[Key.storageProvisioner]? = some name ∧
            name ≠ settings.identity) := by
  have translated : Translated own (ofClaim claimNamespace claimName own) := translated_ofClaim
  refine ⟨translated, fun unset settings event name => ?_⟩
  rw [translated.provisioner, unset, Option.none_or]
  exact foreign_of_handleClaim_iff

/-- A claim that names two provisioners and two classes, by keys of the cluster and of the
controller. -/
def Sample.renamed : Annotations :=
  (∅ : Annotations).insert Key.betaProvisioner "legacy.io"
    |>.insert Key.gaProvisioner Key.defaultIdentity
    |>.insert Key.betaStorageClass "zfs-rest"
    |>.insert Key.storageClass "zfs-basic"
    |>.insert Key.sync "always"

/-- The newer of the cluster's keys wins, and the controller's own key over both: the claim is not
left to the other controller. -/
theorem sample_translation_agrees_with_ownership :
    (ofClaim "demo" "data" Sample.renamed)[Key.storageProvisioner]? = some Key.defaultIdentity ∧
    (ofClaim "demo" "data" Sample.renamed)[Key.storageClass]? = some "zfs-basic" ∧
    (ofClaim "demo" "data" Sample.renamed)[Key.betaProvisioner]? = none ∧
    (ofClaim "demo" "data" Sample.renamed)[Key.sync]? = some "always" ∧
    ¬∃ trace, Program.Runs
      (handleClaim Sample.settings { Sample.claim with annotations := Sample.renamed }) trace
      (.ok (.foreignProvisioner "legacy.io")) := by
  obtain ⟨translated, named⟩ :=
    translation_agrees_with_ownership "demo" "data" Sample.renamed
  have recorded := translated.provisioner.trans
    (show Sample.renamed[Key.storageProvisioner]?.or Sample.renamed.provisioner? =
      some Key.defaultIdentity by decide)
  refine ⟨recorded, translated.storageClass.trans (by decide), translated.cluster _ (by decide),
    (translated.others _ (by decide)).trans (by decide), fun foreign => ?_⟩
  obtain ⟨-, -, hname, -⟩ := (named (by decide) Sample.settings Sample.claim "legacy.io").mp foreign
  rw [recorded] at hname
  revert hname
  decide

end Reconciler

end DatasetProvisioner
