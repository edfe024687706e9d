import DatasetProvisioner.Registry

/-!
# Providers by class

A registry that was built from a list of providers keeps each of them under its own class, so that
the class alone leads back to the provider.
-/
namespace DatasetProvisioner.Registry

/-- Every provider stands under its class, and no class is blank. -/
def Keyed (map : Std.ExtTreeMap String Provider compare) : Prop :=
  ∀ storageClass provider, map[storageClass]? = some provider →
    provider.storageClass = storageClass ∧ Text.isBlankText storageClass = false

theorem keyed_insert {map : Std.ExtTreeMap String Provider compare} (keyed : Keyed map)
    {provider : Provider} (h : Text.isBlankText provider.storageClass = false) :
    Keyed (map.insert provider.storageClass provider) := by
  intro storageClass other hother
  rw [Std.ExtTreeMap.getElem?_insert] at hother
  split at hother
  · next heq =>
    rw [Option.some.injEq] at hother
    subst hother
    rw [Std.LawfulEqCmp.compare_eq_iff_eq] at heq
    exact ⟨heq, heq ▸ h⟩
  · exact keyed storageClass other hother

theorem keyed_of_addAll {providers : List Provider}
    {map result : Std.ExtTreeMap String Provider compare} (keyed : Keyed map)
    (h : addAll providers map = .ok result) : Keyed result := by
  induction providers generalizing map with
  | nil =>
    cases h
    exact keyed
  | cons provider providers ih =>
    unfold addAll at h
    cases hblank : Text.isBlankText provider.storageClass with
    | true => simp [hblank] at h
    | false =>
      by_cases hmem : provider.storageClass ∈ map
      · simp [hblank, hmem] at h
      · simp only [hblank, Bool.false_eq_true, hmem, if_false] at h
        exact ih (keyed_insert keyed hblank) h

theorem keyed_of_ofProviders {defaultClass : Option String} {providers : List Provider}
    {registry : Registry} (h : ofProviders defaultClass providers = .ok registry) :
    Keyed registry.providers := by
  unfold ofProviders at h
  cases hmap : addAll providers ∅ with
  | error fault => simp [hmap, bind, Except.bind] at h
  | ok map =>
    have keyed : Keyed map := keyed_of_addAll (by simp [Keyed]) hmap
    simp only [hmap, bind, Except.bind, pure, Except.pure] at h
    cases hdefault : named defaultClass with
    | none =>
      simp only [hdefault, Except.ok.injEq] at h
      exact h ▸ keyed
    | some storageClass =>
      by_cases hmem : storageClass ∈ map
      · simp only [hdefault, hmem, if_true, Except.ok.injEq] at h
        exact h ▸ keyed
      · simp [hdefault, hmem, throw, throwThe, MonadExceptOf.throw] at h

theorem resolve_named (registry : Registry) (asked : Option String) :
    registry.resolve (named asked) = registry.resolve asked := by
  have htwice : named (named asked) = named asked := by
    simp [named, Option.filter_filter]
  rw [resolve, htwice, resolve]

/-- The class of a provider that a registry gives, given as the class that is asked for, leads to
that provider. -/
theorem resolve_own {registry : Registry} (keyed : Keyed registry.providers)
    {asked : Option String} {provider : Provider} (h : registry.resolve asked = some provider) :
    registry.resolve (some provider.storageClass) = some provider := by
  have hfound : registry.providers[provider.storageClass]? = some provider := by
    unfold resolve at h
    cases hnamed : named asked with
    | some storageClass =>
      simp only [hnamed] at h
      rw [(keyed storageClass provider h).1, h]
    | none =>
      simp only [hnamed] at h
      obtain ⟨storageClass, -, hdefault⟩ := Option.bind_eq_some_iff.mp h
      rw [(keyed storageClass provider hdefault).1, hdefault]
  have hne : provider.storageClass ≠ "" := by
    intro hempty
    have hblank := (keyed provider.storageClass provider hfound).2
    rw [hempty] at hblank
    revert hblank
    decide
  rw [resolve, named, Option.filter_some, if_pos (by simpa using hne)]
  exact hfound

end DatasetProvisioner.Registry
