import Mathlib.Data.List.Forall2
import Mathlib.Data.List.Nodup
import Mathlib.Data.List.Perm.Basic
import DatasetProvisioner.Configuration.Backends
import DatasetProvisioner.Proofs.Classes

/-!
# The classes of a configuration

The registry of a configuration holds what the configuration says. Names are checked twice, once
for the settings and once for the providers made of them; here the two checks are shown to agree
on every list of entries, and each provider is what its own entry and the settings for all classes
make of it, wherever in the list the entry stands.
-/
namespace DatasetProvisioner

/-! ## Providers put into a registry -/

namespace Registry

/-- Providers of different classes, none of them blank or already there, all find their place. -/
theorem exists_addAll {providers : List Provider} {map : Std.ExtTreeMap String Provider compare}
    (hblank : ∀ p ∈ providers, Text.isBlankText p.storageClass = false)
    (hnodup : (providers.map (·.storageClass)).Nodup)
    (hnew : ∀ p ∈ providers, p.storageClass ∉ map) :
    ∃ result, addAll providers map = .ok result ∧
      result.size = map.size + providers.length ∧
      (∀ p ∈ providers, result[p.storageClass]? = some p) ∧
      ∀ storageClass, (∀ p ∈ providers, p.storageClass ≠ storageClass) →
        result[storageClass]? = map[storageClass]? := by
  induction providers generalizing map with
  | nil => exact ⟨map, rfl, rfl, by simp, fun _ _ => rfl⟩
  | cons p providers ih =>
    obtain ⟨hp, hblank⟩ := List.forall_mem_cons.mp hblank
    obtain ⟨hnew, hrest⟩ := List.forall_mem_cons.mp hnew
    obtain ⟨hfirst, hnodup⟩ := List.nodup_cons.mp hnodup
    have hother : ∀ q ∈ providers, q.storageClass ≠ p.storageClass :=
      fun q hq heq => hfirst (List.mem_map.mpr ⟨q, hq, heq⟩)
    have hnew' : ∀ q ∈ providers, q.storageClass ∉ map.insert p.storageClass p := by
      intro q hq hmem
      rw [Std.ExtTreeMap.mem_insert, Std.LawfulEqCmp.compare_eq_iff_eq] at hmem
      rcases hmem with heq | hmem
      · exact hother q hq heq.symm
      · exact hrest q hq hmem
    obtain ⟨result, hadd, hsize, hpresent, hkept⟩ := ih hblank hnodup hnew'
    refine ⟨result, ?_, ?_, ?_, ?_⟩
    · unfold addAll
      simp only [hp, Bool.false_eq_true, hnew, if_false]
      exact hadd
    · rw [hsize, Std.ExtTreeMap.size_insert, if_neg (by simpa using hnew), List.length_cons]
      omega
    · refine List.forall_mem_cons.mpr ⟨?_, hpresent⟩
      rw [hkept _ hother, Std.ExtTreeMap.getElem?_insert_self]
    · intro storageClass hnone
      obtain ⟨hne, hnone⟩ := List.forall_mem_cons.mp hnone
      rw [hkept _ hnone, Std.ExtTreeMap.getElem?_insert,
        if_neg (by rwa [Std.LawfulEqCmp.compare_eq_iff_eq])]

/-- Providers of different classes, none of them blank, with the default class among them make a
registry of exactly these providers. -/
theorem exists_ofProviders {providers : List Provider} {defaultClass : Option String}
    (hblank : ∀ p ∈ providers, Text.isBlankText p.storageClass = false)
    (hnodup : (providers.map (·.storageClass)).Nodup)
    (hdefault : ∀ storageClass, named defaultClass = some storageClass →
      storageClass ∈ providers.map (·.storageClass)) :
    ∃ registry, ofProviders defaultClass providers = .ok registry ∧
      registry.defaultClass = named defaultClass ∧ registry.size = providers.length ∧
      (∀ p ∈ providers, registry.providers[p.storageClass]? = some p) ∧
      ∀ storageClass, (∀ p ∈ providers, p.storageClass ≠ storageClass) →
        registry.providers[storageClass]? = none := by
  obtain ⟨map, hadd, hsize, hpresent, hkept⟩ :=
    @exists_addAll providers ∅ hblank hnodup fun _ _ => Std.ExtTreeMap.not_mem_empty
  have habsent (storageClass : String) (hnone : ∀ p ∈ providers, p.storageClass ≠ storageClass) :
      map[storageClass]? = none := by
    rw [hkept storageClass hnone, Std.ExtTreeMap.getElem?_empty]
  have hlength : map.size = providers.length := by
    rw [hsize, Std.ExtTreeMap.size_empty, Nat.zero_add]
  unfold ofProviders
  simp only [hadd, bind, Except.bind, pure, Except.pure]
  cases hnamed : named defaultClass with
  | none => exact ⟨⟨none, map⟩, rfl, rfl, hlength, hpresent, habsent⟩
  | some storageClass =>
    obtain ⟨p, hp, hclass⟩ := List.mem_map.mp (hdefault storageClass hnamed)
    have hmem : storageClass ∈ map := by
      rw [Std.ExtTreeMap.mem_iff_isSome_getElem?, ← hclass, hpresent p hp]
      rfl
    simp only [hmem, if_true]
    exact ⟨⟨some storageClass, map⟩, rfl, rfl, hlength, hpresent, habsent⟩

theorem named_eq_some_iff {asked : Option String} {storageClass : String} :
    named asked = some storageClass ↔ asked = some storageClass ∧ storageClass ≠ "" := by
  rw [named, Option.filter_eq_some_iff, decide_eq_true_eq]

theorem named_eq_none_iff {asked : Option String} :
    named asked = none ↔ asked = none ∨ asked = some "" := by
  cases asked with
  | none => simp [named]
  | some text => simp [named, Option.filter_some]

end Registry

namespace Configuration

open Registry (named)

section

variable {ε α β : Type}

theorem bind_eq_ok_iff {step : Except ε α} {next : α → Except ε β} {result : β} :
    (step >>= next) = .ok result ↔ ∃ value, step = .ok value ∧ next value = .ok result := by
  cases step with
  | error fault => exact ⟨nofun, fun ⟨_, h, _⟩ => nomatch h⟩
  | ok value => exact ⟨fun h => ⟨value, rfl, h⟩, fun ⟨_, h, hnext⟩ => Except.ok.inj h ▸ hnext⟩

theorem exists_of_toBool {step : Except ε α} (h : step.toBool = true) :
    ∃ value, step = .ok value := by
  cases step with
  | error fault => cases h
  | ok value => exact ⟨value, rfl⟩

theorem exists_of_mem_left {R : α → β → Prop} {list : List α} {results : List β}
    (h : List.Forall₂ R list results) {a : α} (ha : a ∈ list) : ∃ b ∈ results, R a b := by
  induction h with
  | nil => cases ha
  | cons hfirst _ ih =>
    rcases List.mem_cons.mp ha with rfl | ha
    · exact ⟨_, List.mem_cons_self, hfirst⟩
    · obtain ⟨b, hb, hr⟩ := ih ha
      exact ⟨b, List.mem_cons_of_mem _ hb, hr⟩

theorem exists_of_mem_right {R : α → β → Prop} {list : List α} {results : List β}
    (h : List.Forall₂ R list results) {b : β} (hb : b ∈ results) : ∃ a ∈ list, R a b :=
  exists_of_mem_left (R := fun b a => R a b) (List.Forall₂.flip h) hb

theorem exists_forall₂ {R : α → β → Prop} {list : List α} (h : ∀ a ∈ list, ∃ b, R a b) :
    ∃ results, List.Forall₂ R list results := by
  induction list with
  | nil => exact ⟨[], .nil⟩
  | cons a list ih =>
    obtain ⟨⟨b, hb⟩, hrest⟩ := List.forall_mem_cons.mp h
    obtain ⟨bs, hbs⟩ := ih hrest
    exact ⟨b :: bs, .cons hb hbs⟩

theorem mapM_eq_ok_iff {f : α → Except ε β} {list : List α} {results : List β} :
    list.mapM f = .ok results ↔ List.Forall₂ (fun a b => f a = .ok b) list results := by
  induction list generalizing results with
  | nil =>
    rw [List.mapM_nil, List.forall₂_nil_left_iff]
    exact ⟨fun h => (Except.ok.inj h).symm, fun h => h ▸ rfl⟩
  | cons a list ih =>
    rw [List.mapM_cons, bind_eq_ok_iff, List.forall₂_cons_left_iff]
    constructor
    · rintro ⟨b, hb, h⟩
      obtain ⟨bs, hbs, h⟩ := bind_eq_ok_iff.mp h
      exact ⟨b, bs, hb, ih.mp hbs, (Except.ok.inj h).symm⟩
    · rintro ⟨b, bs, hb, hbs, rfl⟩
      exact ⟨b, hb, bind_eq_ok_iff.mpr ⟨bs, ih.mpr hbs, rfl⟩⟩

end

/-! ## Names of classes -/

theorem ClassSettings.className_eq_ok_iff {entry : ClassSettings} {name : String} :
    entry.className = .ok name ↔
      entry.storageClass = some name ∧ Text.isBlankText name = false := by
  unfold ClassSettings.className
  cases hclass : entry.storageClass with
  | none => simp
  | some own =>
    cases hblank : Text.isBlankText own with
    | true =>
      simp only [Option.filter_some, hblank, Bool.not_true, Bool.false_eq_true, if_false]
      constructor
      · nofun
      · rintro ⟨hsame, hfree⟩
        rw [← Option.some.inj hsame, hblank] at hfree
        cases hfree
    | false =>
      simp only [Option.filter_some, hblank, Bool.not_false, if_true, Except.ok.injEq,
        Option.some.injEq]
      constructor
      · rintro rfl
        exact ⟨rfl, hblank⟩
      · exact fun h => h.1

/-- The names that the entries give themselves, in their order. -/
def Named (entries : List ClassSettings) (names : List String) : Prop :=
  List.Forall₂ (fun entry name => entry.className = .ok name) entries names

theorem classNames_eq_ok_iff {seen names : List String} {entries : List ClassSettings}
    (hseen : seen.Nodup) :
    classNames seen entries = .ok names ↔
      ∃ own, Named entries own ∧ (seen ++ own).Nodup ∧ names = seen ++ own := by
  induction entries generalizing seen with
  | nil =>
    constructor
    · intro h
      refine ⟨[], .nil, ?_, ?_⟩
      · rwa [List.append_nil]
      · rw [List.append_nil, Except.ok.inj h]
    · rintro ⟨own, hown, -, rfl⟩
      obtain rfl := List.forall₂_nil_left_iff.mp hown
      rw [List.append_nil]
      rfl
  | cons entry entries ih =>
    have happend (name : String) (own : List String) :
        seen ++ name :: own = seen ++ [name] ++ own := by
      rw [List.append_assoc, List.singleton_append]
    rw [classNames, bind_eq_ok_iff]
    constructor
    · rintro ⟨name, hname, h⟩
      by_cases hmem : name ∈ seen
      · simp [hmem, throw, throwThe, MonadExceptOf.throw, bind, Except.bind] at h
      · simp only [hmem, if_false] at h
        have hnodup : (seen ++ [name]).Nodup :=
          hseen.append (List.nodup_singleton name) (by simpa using hmem)
        obtain ⟨own, hown, hall, rfl⟩ := (ih hnodup).mp h
        exact ⟨name :: own, .cons hname hown, happend name own ▸ hall, (happend name own).symm⟩
    · rintro ⟨own, hown, hall, rfl⟩
      obtain ⟨name, others, hname, hothers, rfl⟩ := List.forall₂_cons_left_iff.mp hown
      rw [happend] at hall
      have hnodup : (seen ++ [name]).Nodup := (List.nodup_append.mp hall).1
      have hmem : name ∉ seen := fun h =>
        (List.nodup_append.mp hnodup).2.2 name h name (List.mem_singleton_self name) rfl
      refine ⟨name, hname, ?_⟩
      simp only [hmem, if_false]
      exact (ih hnodup).mpr ⟨others, hothers, hall, happend name others⟩

/-- The settings are valid exactly where every class is named, each once, and the default class is
one of them. -/
theorem validate_eq_ok_iff {settings : Settings} :
    settings.validate = .ok () ↔
      ∃ names, Named settings.storageClasses names ∧ names.Nodup ∧
        ∀ name, named settings.defaultStorageClass = some name → name ∈ names := by
  have hchecked (names : List String) :
      classNames [] settings.storageClasses = .ok names ↔
        Named settings.storageClasses names ∧ names.Nodup := by
    rw [classNames_eq_ok_iff List.nodup_nil]
    simp only [List.nil_append, exists_eq_right_right']
  rw [Settings.validate, bind_eq_ok_iff]
  cases hdefault : named settings.defaultStorageClass with
  | none => simp [hchecked, pure, Except.pure]
  | some name =>
    refine exists_congr fun names => ?_
    rw [hchecked, and_assoc]
    by_cases hmem : name ∈ names <;>
      simp [hmem, pure, Except.pure, throw, throwThe, MonadExceptOf.throw]

/-! ## Providers of entries -/

/-- What can go wrong with an entry beside its name: its reclaim policy, if it has one, and its
backend. -/
structure ClassSettings.Buildable (entry : ClassSettings) : Prop where
  policy : ∀ text, entry.reclaimPolicy = some text →
    ∃ policy, ReclaimPolicy.ofString? text = some policy
  backend : ∃ backend, entry.backendOf = .ok backend

/-- The names of the annotations that are denied to the claims of all classes. A list that is
given counts, the empty one too. -/
def Settings.deniedToAll (settings : Settings) : List String :=
  match settings.blockedAnnotations with
  | none => Settings.standardBlocked
  | some names => names

/-- What an entry and the settings for all classes make a provider into. -/
structure ClassSettings.BuiltAs (settings : Settings) (entry : ClassSettings)
    (provider : Provider) : Prop where
  storageClass : entry.storageClass = some provider.storageClass
  backend : entry.backendOf = .ok provider.backend
  reclaimPolicy : entry.reclaimPolicy.elim (some .delete) ReclaimPolicy.ofString? =
    some provider.reclaimPolicy
  nameFormat : provider.nameFormat =
    (entry.nameFormat.filter (· ≠ "")).getD Provider.defaultNameFormat
  /-- Denied is what is denied to all or to this class, under the full keys, and nothing else. -/
  blocked : ∀ key, key ∈ provider.blocked ↔
    ∃ name, (name ∈ settings.deniedToAll ∨ name ∈ entry.blockedAnnotations) ∧
      Key.qualified name = key

theorem qualified_of_carried {name : String} (h : Key.base.toList <+: name.toList) :
    Key.qualified name = name := by
  rw [Key.qualified, if_pos (List.isPrefixOf_iff_prefix.mpr h)]

theorem qualified_of_short {name : String} (h : ¬Key.base.toList <+: name.toList) :
    Key.qualified name = Key.base ++ name := by
  rw [Key.qualified, if_neg fun hprefix => h (List.isPrefixOf_iff_prefix.mp hprefix)]

theorem mem_blockedKeys {settings : Settings} {key : String} :
    key ∈ settings.blockedKeys ↔ ∃ name ∈ settings.deniedToAll, Key.qualified name = key := by
  have hlist : settings.blockedAnnotations.getD Settings.standardBlocked =
      settings.deniedToAll := by
    unfold Settings.deniedToAll
    cases settings.blockedAnnotations <;> rfl
  rw [Settings.blockedKeys, hlist, Std.ExtTreeSet.mem_ofList, List.contains_iff_mem,
    List.mem_map]

theorem mem_foldl_insert {names : List String} {set : KeySet} {key : String} :
    key ∈ names.foldl (fun set name => set.insert (Key.qualified name)) set ↔
      key ∈ set ∨ ∃ name ∈ names, Key.qualified name = key := by
  induction names generalizing set with
  | nil => simp
  | cons name names ih =>
    rw [List.foldl_cons, ih, Std.ExtTreeSet.mem_insert, Std.LawfulEqCmp.compare_eq_iff_eq,
      List.exists_mem_cons_iff]
    constructor
    · rintro ((h | h) | h)
      · exact .inr (.inl h)
      · exact .inl h
      · exact .inr (.inr h)
    · rintro (h | h | h)
      · exact .inl (.inr h)
      · exact .inl (.inl h)
      · exact .inr h

theorem policy_eq_ok_iff {entry : ClassSettings} {name : String} {policy : ReclaimPolicy} :
    entry.policy name = .ok policy ↔
      entry.reclaimPolicy.elim (some .delete) ReclaimPolicy.ofString? = some policy := by
  unfold ClassSettings.policy
  cases entry.reclaimPolicy with
  | none => simp
  | some text =>
    cases hread : ReclaimPolicy.ofString? text with
    | none => simp [hread]
    | some own => simp [hread]

/-- The denied keys of a provider, whichever of the two lists they come from. -/
theorem mem_denied {settings : Settings} {entry : ClassSettings} {key : String} :
    key ∈ entry.blockedAnnotations.foldl (fun set name => set.insert (Key.qualified name))
        settings.blockedKeys ↔
      ∃ name, (name ∈ settings.deniedToAll ∨ name ∈ entry.blockedAnnotations) ∧
        Key.qualified name = key := by
  rw [mem_foldl_insert, mem_blockedKeys]
  constructor
  · rintro (⟨name, hname, rfl⟩ | ⟨name, hname, rfl⟩)
    · exact ⟨name, .inl hname, rfl⟩
    · exact ⟨name, .inr hname, rfl⟩
  · rintro ⟨name, hname | hname, rfl⟩
    · exact .inl ⟨name, hname, rfl⟩
    · exact .inr ⟨name, hname, rfl⟩

/-- A named entry gives exactly the provider that it is built as. -/
theorem provider_eq_ok_iff {settings : Settings} {entry : ClassSettings} {provider : Provider} :
    entry.provider settings.blockedKeys = .ok provider ↔
      entry.className = .ok provider.storageClass ∧ entry.BuiltAs settings provider := by
  constructor
  · intro h
    obtain ⟨name, hname, h⟩ := bind_eq_ok_iff.mp h
    obtain ⟨policy, hpolicy, h⟩ := bind_eq_ok_iff.mp h
    obtain ⟨backend, hbackend, h⟩ := bind_eq_ok_iff.mp h
    obtain rfl := Except.ok.inj h
    exact ⟨hname, (ClassSettings.className_eq_ok_iff.mp hname).1, hbackend,
      policy_eq_ok_iff.mp hpolicy, rfl, fun _ => mem_denied⟩
  · rintro ⟨hname, built⟩
    have hset : entry.blockedAnnotations.foldl
        (fun set name => set.insert (Key.qualified name)) settings.blockedKeys =
        provider.blocked := by
      apply Std.ExtTreeSet.ext_mem
      intro key
      rw [mem_denied, built.blocked]
    refine bind_eq_ok_iff.mpr ⟨_, hname, bind_eq_ok_iff.mpr ⟨provider.reclaimPolicy,
      policy_eq_ok_iff.mpr built.reclaimPolicy, bind_eq_ok_iff.mpr ⟨_, built.backend, ?_⟩⟩⟩
    simp only [pure, Except.pure, hset, ← built.nameFormat]

/-- An entry makes at most one provider. -/
theorem ClassSettings.BuiltAs.unique {settings : Settings} {entry : ClassSettings}
    {provider other : Provider} (h : entry.BuiltAs settings provider)
    (hother : entry.BuiltAs settings other) : provider = other := by
  obtain ⟨storageClass, backend, reclaimPolicy, nameFormat, blocked⟩ := provider
  obtain ⟨hclass, hbackend, hpolicy, hformat, hblocked⟩ := h
  have hset : blocked = other.blocked := by
    apply Std.ExtTreeSet.ext_mem
    intro key
    rw [hblocked, hother.blocked]
  have hsameClass := Option.some.inj (hclass.symm.trans hother.storageClass)
  have hsameBackend := Except.ok.inj (hbackend.symm.trans hother.backend)
  have hsamePolicy := Option.some.inj (hpolicy.symm.trans hother.reclaimPolicy)
  have hsameFormat := hformat.trans hother.nameFormat.symm
  obtain ⟨_, _, _, _, _⟩ := other
  simp only at hset hsameClass hsameBackend hsamePolicy hsameFormat
  subst hset hsameClass hsameBackend hsamePolicy hsameFormat
  rfl

/-- A named entry that can be built is built. -/
theorem exists_builtAs (settings : Settings) {entry : ClassSettings} {name : String}
    (hname : entry.className = .ok name) (h : entry.Buildable) :
    ∃ provider, entry.BuiltAs settings provider := by
  obtain ⟨backend, hbackend⟩ := h.backend
  obtain ⟨policy, hpolicy⟩ : ∃ policy,
      entry.reclaimPolicy.elim (some .delete) ReclaimPolicy.ofString? = some policy := by
    cases hgiven : entry.reclaimPolicy with
    | none => exact ⟨.delete, rfl⟩
    | some text =>
      simp only [Option.elim_some]
      exact h.policy text hgiven
  let provider : Provider := {
    storageClass := name, backend, reclaimPolicy := policy
    nameFormat := (entry.nameFormat.filter (· ≠ "")).getD Provider.defaultNameFormat
    blocked := entry.blockedAnnotations.foldl (fun set name => set.insert (Key.qualified name))
      settings.blockedKeys }
  exact ⟨provider, (ClassSettings.className_eq_ok_iff.mp hname).1, hbackend, hpolicy, rfl,
    fun _ => mem_denied⟩

theorem ClassSettings.BuiltAs.buildable {settings : Settings} {entry : ClassSettings}
    {provider : Provider} (h : entry.BuiltAs settings provider) : entry.Buildable where
  policy := by
    intro text hgiven
    have hpolicy := h.reclaimPolicy
    rw [hgiven, Option.elim_some] at hpolicy
    exact ⟨provider.reclaimPolicy, hpolicy⟩
  backend := ⟨provider.backend, h.backend⟩

/-! ## The registry of a configuration -/

/-- A registry holds the providers of a configuration and no others. -/
structure Expressed (settings : Settings) (registry : Registry) : Prop where
  defaultClass : registry.defaultClass = named settings.defaultStorageClass
  size : registry.size = settings.storageClasses.length
  present : ∀ entry ∈ settings.storageClasses, ∃ provider, entry.BuiltAs settings provider ∧
    registry.providers[provider.storageClass]? = some provider
  absent : ∀ storageClass,
    (∀ entry ∈ settings.storageClasses, entry.storageClass ≠ some storageClass) →
      registry.providers[storageClass]? = none

/-- Each entry with the provider that it gives. -/
def Provided (settings : Settings) (providers : List Provider) : Prop :=
  List.Forall₂ (fun entry provider => entry.className = .ok provider.storageClass ∧
    entry.BuiltAs settings provider) settings.storageClasses providers

theorem provided_iff {settings : Settings} {providers : List Provider} :
    Provided settings providers ↔
      settings.storageClasses.mapM (·.provider settings.blockedKeys) = .ok providers := by
  rw [mapM_eq_ok_iff]
  constructor
  · exact List.Forall₂.imp fun _ _ => provider_eq_ok_iff.mpr
  · exact List.Forall₂.imp fun _ _ => provider_eq_ok_iff.mp

theorem Named.unique {entries : List ClassSettings} {names others : List String}
    (h : Named entries names) (hothers : Named entries others) : names = others :=
  List.right_unique_forall₂' (fun _ _ _ hname hother => Except.ok.inj (hname.symm.trans hother))
    h hothers

theorem Provided.named {settings : Settings} {providers : List Provider}
    (h : Provided settings providers) :
    Named settings.storageClasses (providers.map (·.storageClass)) :=
  List.forall₂_map_right_iff.mpr (h.imp fun _ _ hmade => hmade.1)

/-- The providers of valid settings pass the second check of their names, and make a registry of
exactly them. -/
theorem exists_registry {settings : Settings} {providers : List Provider}
    (hvalid : settings.validate = .ok ()) (hprovided : Provided settings providers) :
    ∃ registry, Registry.ofProviders settings.defaultStorageClass providers = .ok registry ∧
      Expressed settings registry := by
  obtain ⟨names, hnames, hnodup, hdefault⟩ := validate_eq_ok_iff.mp hvalid
  obtain rfl := hprovided.named.unique hnames
  have hblank : ∀ p ∈ providers, Text.isBlankText p.storageClass = false := by
    intro p hp
    obtain ⟨entry, -, hname, -⟩ := exists_of_mem_right hprovided hp
    exact (ClassSettings.className_eq_ok_iff.mp hname).2
  obtain ⟨registry, hmade, hclass, hsize, hpresent, habsent⟩ :=
    Registry.exists_ofProviders hblank hnodup hdefault
  refine ⟨registry, hmade, hclass, hsize.trans hprovided.length_eq.symm, ?present, ?absent⟩
  case present =>
    intro entry hentry
    obtain ⟨p, hp, -, hbuilt⟩ := exists_of_mem_left hprovided hentry
    exact ⟨p, hbuilt, hpresent p hp⟩
  case absent =>
    intro storageClass hnone
    refine habsent storageClass fun p hp hsame => ?_
    obtain ⟨entry, hentry, -, hbuilt⟩ := exists_of_mem_right hprovided hp
    exact hnone entry hentry (hsame ▸ hbuilt.storageClass)

theorem registry_eq_ok_iff {settings : Settings} {registry : Registry} :
    settings.registry = .ok registry ↔
      settings.validate = .ok () ∧ ∃ providers, Provided settings providers ∧
        Registry.ofProviders settings.defaultStorageClass providers = .ok registry := by
  rw [Settings.registry, bind_eq_ok_iff]
  constructor
  · rintro ⟨_, hvalid, h⟩
    obtain ⟨providers, hproviders, h⟩ := bind_eq_ok_iff.mp h
    cases hmade : Registry.ofProviders settings.defaultStorageClass providers with
    | error fault =>
      rw [hmade] at h
      cases h
    | ok made =>
      rw [hmade] at h
      obtain rfl := Except.ok.inj h
      exact ⟨hvalid, providers, provided_iff.mpr hproviders, hmade⟩
  · rintro ⟨hvalid, providers, hprovided, hmade⟩
    refine ⟨(), hvalid, bind_eq_ok_iff.mpr ⟨providers, provided_iff.mp hprovided, ?_⟩⟩
    simp only [hmade]
    rfl

theorem expressed_of_registry {settings : Settings} {registry : Registry}
    (h : settings.registry = .ok registry) : Expressed settings registry := by
  obtain ⟨hvalid, providers, hprovided, hmade⟩ := registry_eq_ok_iff.mp h
  obtain ⟨other, hother, expressed⟩ := exists_registry hvalid hprovided
  rw [hmade] at hother
  exact Except.ok.inj hother ▸ expressed

/-- There is a registry exactly where the settings are valid and every entry can be built. -/
theorem exists_registry_iff {settings : Settings} :
    (∃ registry, settings.registry = .ok registry) ↔
      settings.validate = .ok () ∧ ∀ entry ∈ settings.storageClasses, entry.Buildable := by
  constructor
  · rintro ⟨registry, h⟩
    obtain ⟨hvalid, providers, hprovided, -⟩ := registry_eq_ok_iff.mp h
    refine ⟨hvalid, fun entry hentry => ?_⟩
    obtain ⟨p, -, -, hbuilt⟩ := exists_of_mem_left hprovided hentry
    exact hbuilt.buildable
  · rintro ⟨hvalid, hbuildable⟩
    obtain ⟨names, hnames, -, -⟩ := validate_eq_ok_iff.mp hvalid
    obtain ⟨providers, hprovided⟩ : ∃ providers, Provided settings providers := by
      refine exists_forall₂ fun entry hentry => ?_
      obtain ⟨name, -, hname⟩ := exists_of_mem_left hnames hentry
      obtain ⟨p, hbuilt⟩ := exists_builtAs settings hname (hbuildable entry hentry)
      have hclass := (ClassSettings.className_eq_ok_iff.mp hname).1
      have hsame := Option.some.inj (hclass.symm.trans hbuilt.storageClass)
      exact ⟨p, hsame ▸ hname, hbuilt⟩
    obtain ⟨registry, hmade, -⟩ := exists_registry hvalid hprovided
    exact ⟨registry, registry_eq_ok_iff.mpr ⟨hvalid, providers, hprovided, hmade⟩⟩

/-! ## The order of the entries -/

/-- Settings that differ in the order of their entries, and perhaps in their identity. -/
structure SameClasses (settings other : Settings) : Prop where
  defaultStorageClass : other.defaultStorageClass = settings.defaultStorageClass
  blockedAnnotations : other.blockedAnnotations = settings.blockedAnnotations
  storageClasses : other.storageClasses.Perm settings.storageClasses

theorem SameClasses.validate {settings other : Settings} (h : SameClasses settings other)
    (hvalid : settings.validate = .ok ()) : other.validate = .ok () := by
  obtain ⟨names, hnames, hnodup, hdefault⟩ := validate_eq_ok_iff.mp hvalid
  obtain ⟨others, hothers, hperm⟩ := List.perm_comp_forall₂ h.storageClasses hnames
  refine validate_eq_ok_iff.mpr ⟨others, hothers, hperm.nodup_iff.mpr hnodup, ?_⟩
  intro name hname
  rw [h.defaultStorageClass] at hname
  exact hperm.mem_iff.mpr (hdefault name hname)

theorem SameClasses.builtAs {settings other : Settings} (h : SameClasses settings other)
    {entry : ClassSettings} {provider : Provider} (hbuilt : entry.BuiltAs settings provider) :
    entry.BuiltAs other provider where
  storageClass := hbuilt.storageClass
  backend := hbuilt.backend
  reclaimPolicy := hbuilt.reclaimPolicy
  nameFormat := hbuilt.nameFormat
  blocked := by
    have hdenied : other.deniedToAll = settings.deniedToAll := by
      rw [Settings.deniedToAll, h.blockedAnnotations]
      rfl
    rw [hdenied]
    exact hbuilt.blocked

/-- At most one registry expresses settings, in whatever order their entries stand. -/
theorem SameClasses.registry_unique {settings other : Settings} (h : SameClasses settings other)
    {registry made : Registry} (expressed : Expressed settings registry)
    (hmade : Expressed other made) : made = registry := by
  have hmap : made.providers = registry.providers := by
    refine Std.ExtTreeMap.ext_getElem? fun storageClass => ?_
    by_cases hentry : ∃ entry ∈ settings.storageClasses, entry.storageClass = some storageClass
    · obtain ⟨entry, hmem, hclass⟩ := hentry
      obtain ⟨p, hbuilt, hp⟩ := expressed.present entry hmem
      obtain ⟨q, hother, hq⟩ := hmade.present entry (h.storageClasses.mem_iff.mpr hmem)
      obtain rfl := (h.builtAs hbuilt).unique hother
      obtain rfl := Option.some.inj (hbuilt.storageClass.symm.trans hclass)
      rw [hp, hq]
    · have hnone : ∀ entry ∈ settings.storageClasses, entry.storageClass ≠ some storageClass :=
        fun entry hmem hclass => hentry ⟨entry, hmem, hclass⟩
      rw [expressed.absent storageClass hnone, hmade.absent storageClass fun entry hmem =>
        hnone entry (h.storageClasses.mem_iff.mp hmem)]
  have hclass : made.defaultClass = registry.defaultClass := by
    rw [hmade.defaultClass, expressed.defaultClass, h.defaultStorageClass]
  obtain ⟨_, _⟩ := made
  obtain ⟨_, _⟩ := registry
  simp only at hmap hclass
  subst hmap hclass
  rfl

theorem SameClasses.registry {settings other : Settings} (h : SameClasses settings other)
    {registry : Registry} (hregistry : settings.registry = .ok registry) :
    other.registry = .ok registry := by
  obtain ⟨hvalid, hbuildable⟩ := exists_registry_iff.mp ⟨registry, hregistry⟩
  obtain ⟨made, hmade⟩ := exists_registry_iff.mpr ⟨h.validate hvalid, fun entry hentry =>
    hbuildable entry (h.storageClasses.mem_iff.mp hentry)⟩
  have hsame := h.registry_unique (expressed_of_registry hregistry) (expressed_of_registry hmade)
  exact hsame ▸ hmade

/-! ## Looking up classes -/

namespace Expressed

variable {settings : Settings} {registry : Registry}

theorem resolve_some (expressed : Expressed settings registry) {storageClass : String}
    (hne : storageClass ≠ "") {entry : ClassSettings} (hentry : entry ∈ settings.storageClasses)
    (hclass : entry.storageClass = some storageClass) :
    ∃ provider, registry.resolve (some storageClass) = some provider ∧
      entry.BuiltAs settings provider := by
  obtain ⟨p, hbuilt, hp⟩ := expressed.present entry hentry
  obtain rfl := Option.some.inj (hbuilt.storageClass.symm.trans hclass)
  rw [Registry.resolve, Registry.named_eq_some_iff.mpr ⟨rfl, hne⟩]
  exact ⟨p, hp, hbuilt⟩

theorem resolve_unknown (expressed : Expressed settings registry) {storageClass : String}
    (hne : storageClass ≠ "")
    (hnone : ∀ entry ∈ settings.storageClasses, entry.storageClass ≠ some storageClass) :
    registry.resolve (some storageClass) = none := by
  rw [Registry.resolve, Registry.named_eq_some_iff.mpr ⟨rfl, hne⟩]
  exact expressed.absent storageClass hnone

/-- Asking for no class is asking for the default class. -/
theorem resolve_default (expressed : Expressed settings registry) {asked : Option String}
    (h : asked = none ∨ asked = some "") :
    registry.resolve asked = (named settings.defaultStorageClass).bind fun storageClass =>
      registry.resolve (some storageClass) := by
  rw [Registry.resolve, Registry.named_eq_none_iff.mpr h]
  simp only [expressed.defaultClass]
  cases hdefault : named settings.defaultStorageClass with
  | none => rfl
  | some storageClass =>
    have hne := (Registry.named_eq_some_iff.mp hdefault).2
    rw [Option.bind_some, Option.bind_some, Registry.resolve,
      Registry.named_eq_some_iff.mpr ⟨rfl, hne⟩]

end Expressed

/-- The registry is exactly the configuration. It is there just where the settings are valid and
every entry can be built, and the second check of the names never refuses what the first let
through. It has one provider for each entry, whatever the order of the entries; a class leads to
the provider of its own entry; no class leads to the default one, if there is one; and each
provider denies what the two lists say, under full keys. -/
theorem registry_eq_configuration (settings : Settings) :
    ((∃ registry, settings.registry = .ok registry) ↔
      settings.validate = .ok () ∧ ∀ entry ∈ settings.storageClasses, entry.Buildable) ∧
    (settings.validate = .ok () → ∀ providers,
      settings.storageClasses.mapM (·.provider settings.blockedKeys) = .ok providers →
        ∃ registry,
          Registry.ofProviders settings.defaultStorageClass providers = .ok registry) ∧
    (∀ registry, settings.registry = .ok registry →
      registry.size = settings.storageClasses.length ∧
      (∀ other, SameClasses settings other → other.registry = .ok registry) ∧
      (∀ storageClass, storageClass ≠ "" →
        (∀ entry ∈ settings.storageClasses, entry.storageClass = some storageClass →
          ∃ provider, registry.resolve (some storageClass) = some provider ∧
            entry.BuiltAs settings provider) ∧
        ((∀ entry ∈ settings.storageClasses, entry.storageClass ≠ some storageClass) →
          registry.resolve (some storageClass) = none)) ∧
      (∀ asked, asked = none ∨ asked = some "" →
        (∀ storageClass, storageClass ≠ "" → settings.defaultStorageClass = some storageClass →
          ∃ entry ∈ settings.storageClasses, entry.storageClass = some storageClass ∧
            ∃ provider, registry.resolve asked = some provider ∧
              entry.BuiltAs settings provider) ∧
        (settings.defaultStorageClass = none ∨ settings.defaultStorageClass = some "" →
          registry.resolve asked = none))) ∧
    ∀ name, (Key.base.toList <+: name.toList → Key.qualified name = name) ∧
      (¬Key.base.toList <+: name.toList → Key.qualified name = Key.base ++ name) := by
  refine ⟨exists_registry_iff, ?second, ?lookups, fun name => ⟨qualified_of_carried,
    qualified_of_short⟩⟩
  case second =>
    intro hvalid providers hproviders
    obtain ⟨registry, hmade, -⟩ := exists_registry hvalid (provided_iff.mpr hproviders)
    exact ⟨registry, hmade⟩
  case lookups =>
    intro registry hregistry
    have expressed := expressed_of_registry hregistry
    refine ⟨expressed.size, fun other same => same.registry hregistry,
      fun storageClass hne => ⟨fun entry => expressed.resolve_some hne,
        expressed.resolve_unknown hne⟩, fun asked hasked => ⟨?_, ?_⟩⟩
    · intro storageClass hne hdefault
      have hnamed := Registry.named_eq_some_iff.mpr ⟨hdefault, hne⟩
      obtain ⟨hvalid, -⟩ := registry_eq_ok_iff.mp hregistry
      obtain ⟨names, hnames, -, hmem⟩ := validate_eq_ok_iff.mp hvalid
      obtain ⟨entry, hentry, hname⟩ := exists_of_mem_right hnames (hmem storageClass hnamed)
      have hclass := (ClassSettings.className_eq_ok_iff.mp hname).1
      rw [expressed.resolve_default hasked, hnamed]
      exact ⟨entry, hentry, hclass, expressed.resolve_some hne hentry hclass⟩
    · intro hdefault
      rw [expressed.resolve_default hasked, Registry.named_eq_none_iff.mpr hdefault]
      rfl

/-- A class with the annotations that it denies itself, one of them by its full key. -/
def fastEntry : ClassSettings where
  storageClass := some "fast"
  managementProvider := some "ssh"
  blockedAnnotations := ["atime", "zfs-pv-provisioner.io/exec"]
  backend := {
    exports := some { hostname := some "nas01", exportRoot := some "/mnt/tank/pv" }
    datasets := some { rootPath := some "tank/pv" } }

def keptEntry : ClassSettings where
  storageClass := some "kept"
  reclaimPolicy := some "retain"
  managementProvider := some "truenas"
  backend := {
    exports := some { hostname := some "nas02", exportRoot := some "/mnt/tank/pv" }
    datasets := some { rootPath := some "tank/pv" }
    management := some { endpoint := some "https://nas02/api/v2.0" } }

def twoClasses : Settings where
  defaultStorageClass := some "fast"
  blockedAnnotations := some []
  storageClasses := [fastEntry, keptEntry]

theorem fastEntry_buildable : fastEntry.Buildable where
  policy := nofun
  backend := exists_of_toBool (by decide +kernel)

theorem keptEntry_buildable : keptEntry.Buildable where
  policy := by
    intro text htext
    obtain rfl : "retain" = text := Option.some.inj htext
    exact ⟨.retain, by decide +kernel⟩
  backend := exists_of_toBool (by decide +kernel)

theorem buildable_of_twoClasses : ∀ entry ∈ twoClasses.storageClasses, entry.Buildable :=
  List.forall_mem_cons.mpr ⟨fastEntry_buildable, List.forall_mem_singleton.mpr keptEntry_buildable⟩

/-- Two classes give two providers in either order, and no class leads to the first of them. -/
theorem registry_twoClasses :
    ∃ registry, twoClasses.registry = .ok registry ∧ registry.size = 2 ∧
      { twoClasses with storageClasses := [keptEntry, fastEntry] }.registry = .ok registry ∧
      (∃ provider, registry.resolve none = some provider ∧
        fastEntry.BuiltAs twoClasses provider) ∧
      (∃ provider, registry.resolve (some "kept") = some provider ∧
        keptEntry.BuiltAs twoClasses provider) ∧
      registry.resolve (some "slow") = none := by
  have hvalid : twoClasses.validate = .ok () := by decide
  obtain ⟨registry, hregistry⟩ :=
    (registry_eq_configuration twoClasses).1.mpr ⟨hvalid, buildable_of_twoClasses⟩
  obtain ⟨hsize, horder, hclass, hdefault⟩ :=
    (registry_eq_configuration twoClasses).2.2.1 registry hregistry
  obtain ⟨entry, hentry, hname, hfast⟩ :=
    (hdefault none (.inl rfl)).1 "fast" (by decide) rfl
  obtain rfl : entry = fastEntry := by
    rcases List.mem_cons.mp hentry with rfl | hentry
    · rfl
    · rw [List.mem_singleton.mp hentry] at hname
      exact absurd hname (by decide)
  exact ⟨registry, hregistry, hsize, horder _ ⟨rfl, rfl, List.Perm.swap fastEntry keptEntry []⟩,
    hfast, (hclass "kept" (by decide)).1 keptEntry (by decide) rfl,
    (hclass "slow" (by decide)).2 (by decide)⟩

end Configuration

end DatasetProvisioner
