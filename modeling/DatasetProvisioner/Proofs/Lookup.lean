import DatasetProvisioner.Annotations

/-!
# What annotations hold

Which value stands under a key after the operations of the annotation protocol: setting and
removing keys, withholding denied ones, and translating the annotations of a claim.
-/
namespace DatasetProvisioner.Annotations

theorem getElem?_insert (set : Annotations) (key value other : String) :
    (set.insert key value)[other]? = if key = other then some value else set[other]? := by
  rw [Std.ExtTreeMap.getElem?_insert]
  simp only [Std.LawfulEqCmp.compare_eq_iff_eq]

theorem getElem?_erase (set : Annotations) (key other : String) :
    (set.erase key)[other]? = if key = other then none else set[other]? := by
  rw [Std.ExtTreeMap.getElem?_erase]
  simp only [Std.LawfulEqCmp.compare_eq_iff_eq]

theorem getElem?_insert_ne {set : Annotations} {key value other : String} (h : key ≠ other) :
    (set.insert key value)[other]? = set[other]? := by
  rw [getElem?_insert, if_neg h]

theorem getElem?_eraseAll (set : Annotations) (keys : List String) (other : String) :
    (set.eraseAll keys)[other]? = if other ∈ keys then none else set[other]? := by
  induction keys generalizing set with
  | nil => simp [eraseAll]
  | cons key keys ih =>
    change (eraseAll (set.erase key) keys)[other]? = _
    rw [ih, getElem?_erase]
    by_cases hkey : key = other
    · simp [hkey]
    · simp [hkey, Ne.symm hkey]

/-- Withholding removes exactly the denied keys. -/
theorem getElem?_withhold (denied : List String) (set : Annotations) (other : String) :
    (withhold denied set).2[other]? = if other ∈ denied then none else set[other]? := by
  induction denied generalizing set with
  | nil => simp [withhold]
  | cons key denied ih =>
    by_cases hmem : key ∈ set
    · simp only [withhold, hmem, if_true, ih, getElem?_erase]
      by_cases hkey : key = other
      · simp [hkey]
      · simp [hkey, Ne.symm hkey]
    · simp only [withhold, hmem, if_false, ih]
      by_cases hkey : key = other
      · subst hkey
        simp [Std.ExtTreeMap.getElem?_eq_none hmem]
      · simp [Ne.symm hkey]

/-! ## The annotations of a claim -/

/-- Values set one after the other leave a key alone that none of them is set under. -/
theorem getElem?_foldl_of_notin {rename : String → String} {entries : List (String × String)}
    {key : String} (h : ∀ p ∈ entries, rename p.1 ≠ key) (set : Annotations) :
    (entries.foldl (fun set p => set.insert (rename p.1) p.2) set)[key]? = set[key]? := by
  induction entries generalizing set with
  | nil => rfl
  | cons p entries ih =>
    rw [List.foldl_cons, ih fun q hq => h q (List.mem_cons_of_mem p hq)]
    exact getElem?_insert_ne (h p List.mem_cons_self)

/-- Values set one after the other leave the one value that is set under a key. -/
theorem getElem?_foldl_of_mem {rename : String → String} {entries : List (String × String)}
    {key value : String} (hset : ∃ p ∈ entries, rename p.1 = key)
    (hvalue : ∀ p ∈ entries, rename p.1 = key → p.2 = value) (set : Annotations) :
    (entries.foldl (fun set p => set.insert (rename p.1) p.2) set)[key]? = some value := by
  induction entries generalizing set with
  | nil => simp at hset
  | cons p entries ih =>
    rw [List.foldl_cons]
    by_cases hlater : ∃ q ∈ entries, rename q.1 = key
    · exact ih hlater (fun q hq => hvalue q (List.mem_cons_of_mem p hq)) _
    · rw [getElem?_foldl_of_notin fun q hq hkey => hlater ⟨q, hq, hkey⟩]
      obtain ⟨q, hq, hkey⟩ := hset
      rcases List.mem_cons.mp hq with rfl | hq
      · rw [getElem?_insert, if_pos hkey, hvalue q List.mem_cons_self hkey]
      · exact absurd ⟨q, hq, hkey⟩ hlater

/-- A key that neither is renamed nor is the new name of another keeps its value. Where it is one of
the claim's coordinates, that value wins over the true one. -/
theorem getElem?_ofClaim_or {key : String} (kept : ∀ k, Key.workingKey k = key ↔ k = key)
    (claimNamespace claimName : String) (own : Annotations) :
    (ofClaim claimNamespace claimName own)[key]? =
      own[key]?.or ((∅ : Annotations).insert Key.claimNamespace claimNamespace
        |>.insert Key.claimName claimName)[key]? := by
  rw [ofClaim, Std.ExtTreeMap.foldl_eq_foldl_toList]
  cases hown : own[key]? with
  | none =>
    rw [getElem?_foldl_of_notin, Option.none_or]
    intro p hp hkey
    have hp := Std.ExtTreeMap.mem_toList_iff_getElem?_eq_some.mp hp
    rw [(kept p.1).mp hkey, hown] at hp
    cases hp
  | some value =>
    rw [Option.some_or]
    refine getElem?_foldl_of_mem
      ⟨(key, value), Std.ExtTreeMap.mem_toList_iff_getElem?_eq_some.mpr hown, (kept key).mpr rfl⟩
      (fun p hp hkey => ?_) _
    have hp := Std.ExtTreeMap.mem_toList_iff_getElem?_eq_some.mp hp
    rw [(kept p.1).mp hkey, hown] at hp
    exact (Option.some.inj hp).symm

theorem getElem?_ofClaim {key : String} (kept : ∀ k, Key.workingKey k = key ↔ k = key)
    (hspace : key ≠ Key.claimNamespace) (hname : key ≠ Key.claimName)
    (claimNamespace claimName : String) (own : Annotations) :
    (ofClaim claimNamespace claimName own)[key]? = own[key]? := by
  rw [getElem?_ofClaim_or kept, getElem?_insert_ne hname.symm, getElem?_insert_ne hspace.symm]
  simp

/-- Values set one after the other under other keys do not matter for what stands under a key. -/
theorem getElem?_foldl_filter {rename : String → String} {entries : List (String × String)}
    {key : String} {set other : Annotations} (h : set[key]? = other[key]?) :
    (entries.foldl (fun set p => set.insert (rename p.1) p.2) set)[key]? =
      ((entries.filter (rename ·.1 = key)).foldl (fun set p => set.insert (rename p.1) p.2)
        other)[key]? := by
  induction entries generalizing set other with
  | nil => exact h
  | cons p entries ih =>
    by_cases hkey : rename p.1 = key
    · rw [List.foldl_cons, List.filter_cons_of_pos (by simpa using hkey), List.foldl_cons]
      refine ih ?_
      rw [getElem?_insert, getElem?_insert, if_pos hkey, if_pos hkey]
    · rw [List.foldl_cons, List.filter_cons_of_neg (by simpa using hkey)]
      refine ih ?_
      rw [getElem?_insert_ne hkey, h]

/-- What a claim supplies under a key depends on the annotations that are kept under it, and on no
others. -/
theorem getElem?_ofClaim_congr {own other : Annotations} {key : String}
    (h : ∀ k, Key.workingKey k = key → own[k]? = other[k]?) (claimNamespace claimName : String) :
    (ofClaim claimNamespace claimName own)[key]? =
      (ofClaim claimNamespace claimName other)[key]? := by
  have same : own.filter (fun k _ => Key.workingKey k = key) =
      other.filter (fun k _ => Key.workingKey k = key) := by
    refine Std.ExtTreeMap.ext_getElem? fun k => ?_
    rw [Std.ExtTreeMap.getElem?_filter', Std.ExtTreeMap.getElem?_filter']
    by_cases hkey : Key.workingKey k = key
    · rw [h k hkey]
    · simp [hkey]
  have entries := congrArg Std.ExtTreeMap.toList same
  rw [Std.ExtTreeMap.toList_filter, Std.ExtTreeMap.toList_filter] at entries
  rw [ofClaim, ofClaim, Std.ExtTreeMap.foldl_eq_foldl_toList,
    Std.ExtTreeMap.foldl_eq_foldl_toList]
  refine (getElem?_foldl_filter rfl).trans (.trans ?_ (getElem?_foldl_filter rfl).symm)
  rw [entries]

/-- The keys that are renamed, and their new names. -/
def renamedKeys : List String :=
  [Key.betaProvisioner, Key.gaProvisioner, Key.betaStorageClass, Key.storageProvisioner,
    Key.storageClass]

/-- Every other key keeps its name, and is the new name of no other. -/
theorem workingKey_eq_iff {key : String} (free : key ∉ renamedKeys) (other : String) :
    Key.workingKey other = key ↔ other = key := by
  have hne {renamed : String} (h : renamed ∈ renamedKeys) : renamed ≠ key :=
    fun heq => free (heq ▸ h)
  unfold Key.workingKey
  split
  · next h =>
    simp only [Bool.or_eq_true, decide_eq_true_eq] at h
    rcases h with rfl | rfl
    · exact iff_of_false (hne (by decide)) (hne (by decide))
    · exact iff_of_false (hne (by decide)) (hne (by decide))
  · split
    · next h =>
      subst h
      exact iff_of_false (hne (by decide)) (hne (by decide))
    · rfl

theorem workingKey_eq_cloneFrom (key : String) :
    Key.workingKey key = Key.cloneFrom ↔ key = Key.cloneFrom :=
  workingKey_eq_iff (by decide) key

end DatasetProvisioner.Annotations

namespace DatasetProvisioner.TransientScope

theorem mem_insertTransient {scope : TransientScope} {key value other : String} :
    other ∈ (scope.insertTransient key value).transient ↔
      other = key ∨ other ∈ scope.transient := by
  unfold insertTransient
  by_cases hmem : key ∈ scope.transient
  · simp only [hmem, if_true]
    refine ⟨.inr, ?_⟩
    rintro (rfl | hother)
    · exact hmem
    · exact hother
  · simp [hmem, or_comm]

theorem getElem?_close (scope : TransientScope) (key : String) :
    scope.close[key]? = if key ∈ scope.transient then none else scope.annotations[key]? :=
  Annotations.getElem?_eraseAll scope.annotations scope.transient key

end DatasetProvisioner.TransientScope
