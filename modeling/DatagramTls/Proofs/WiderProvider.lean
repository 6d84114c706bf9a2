import Mathlib.Data.List.Basic
import DatagramTls.Proofs.AlgorithmLists

/-!
Providers that list more. Where the suites are chosen, what is built for a
provider is built as well for any other that lists the same and more. The rules
ask a provider only whether it lists an entry, and no rule objects to an entry
that joins a derived list.
-/

namespace DatagramTls

open Build

/-- The other provider lists whatever this one does. -/
structure Provider.Within (provider other : Provider) : Prop where
  suites : provider.suites ⊆ other.suites
  groups : provider.groups ⊆ other.groups
  schemes : provider.schemes ⊆ other.schemes

/-- A list that is derived may grow, in order, and one that is chosen stays. -/
structure Build.Grows {α : Type} (chosen : Option (List α))
    (entries grown : List α) : Prop where
  kept : entries.Sublist grown
  same : chosen.isSome = true → grown = entries

/-! Lists -/

namespace Build.Catalog

variable {α : Type} [DecidableEq α] {catalog : Catalog α}
  {chosen : Option (List α)} {required entries : List α}
  {recommendedOnly : Bool} {supported wider : α → Bool}

theorem exists_grows_of_resolve
    (widens : ∀ entry, supported entry = true → wider entry = true)
    (succeeded : (catalog.resolve chosen required recommendedOnly
      supported).result = .ok entries) :
    ∃ grown,
      (catalog.resolve chosen required recommendedOnly wider).result =
        .ok grown ∧
      Grows chosen entries grown := by
  cases chosen with
  | none =>
      obtain ⟨rfl, nonempty⟩ := resolve_unset_eq_ok_iff.mp succeeded
      have kept : (catalog.usable required recommendedOnly supported).Sublist
          (catalog.usable required recommendedOnly wider) := by
        apply List.monotone_filter_right
        intro entry usable
        obtain ⟨allowed, listed⟩ := Bool.and_eq_true_iff.mp usable
        exact Bool.and_eq_true_iff.mpr ⟨allowed, widens entry listed⟩
      refine ⟨_, resolve_unset_eq_ok_iff.mpr ⟨rfl, ?_⟩, kept, nofun⟩
      intro empty
      rw [empty] at kept
      exact nonempty (List.sublist_nil.mp kept)
  | some listed =>
      obtain ⟨rfl, nonempty, allowed⟩ := resolve_chosen_eq_ok_iff.mp succeeded
      obtain ⟨recommended, listed⟩ := checkChosen_eq_ok_iff.mp allowed
      refine ⟨_, resolve_chosen_eq_ok_iff.mpr ⟨rfl, nonempty, ?_⟩,
        List.Sublist.refl _, fun _ => rfl⟩
      exact checkChosen_eq_ok_iff.mpr
        ⟨recommended, fun entry member => widens entry (listed entry member)⟩

end Build.Catalog

namespace Options

variable {options : Options} {provider other : Provider}

theorem exists_grows_of_resolveLists (within : provider.Within other)
    {capabilities : Capabilities} {schemes : List Scheme} {groups : List Group}
    (resolved : (options.resolveLists capabilities
      options.credentials.requirements? provider).result =
        .ok (schemes, groups)) :
    ∃ moreSchemes moreGroups,
      (options.resolveLists capabilities options.credentials.requirements?
          other).result = .ok (moreSchemes, moreGroups) ∧
        Grows options.algorithms.schemes schemes moreSchemes ∧
        Grows options.algorithms.groups groups moreGroups := by
  cases curved : capabilities.ecc with
  | true =>
      obtain ⟨foundSchemes, foundGroups⟩ :=
        (resolveLists_eq_ok_iff_of_ecc curved).mp resolved
      have widerSchemes : ∀ scheme, provider.supportsScheme scheme = true →
          other.supportsScheme scheme = true := by
        intro scheme
        simp only [Provider.supportsScheme_iff]
        exact fun listed => within.schemes listed
      have widerGroups : ∀ group, provider.supportsGroup group = true →
          other.supportsGroup group = true := by
        intro group
        simp only [Provider.supportsGroup_iff]
        exact fun listed => within.groups listed
      obtain ⟨moreSchemes, resolvedSchemes, growsSchemes⟩ :=
        Catalog.exists_grows_of_resolve widerSchemes foundSchemes
      obtain ⟨moreGroups, resolvedGroups, growsGroups⟩ :=
        Catalog.exists_grows_of_resolve widerGroups foundGroups
      exact ⟨moreSchemes, moreGroups,
        (resolveLists_eq_ok_iff_of_ecc curved).mpr
          ⟨resolvedSchemes, resolvedGroups⟩, growsSchemes, growsGroups⟩
  | false =>
      obtain ⟨unset, rfl, rfl⟩ :=
        (resolveLists_eq_ok_iff_of_not_ecc curved).mp resolved
      exact ⟨[], [],
        (resolveLists_eq_ok_iff_of_not_ecc curved).mpr ⟨unset, rfl, rfl⟩,
        ⟨List.Sublist.refl _, fun _ => rfl⟩,
        ⟨List.Sublist.refl _, fun _ => rfl⟩⟩

theorem checkRequirements_of_subset {requirements : Option Requirements}
    {schemes moreSchemes : List Scheme} {groups moreGroups : List Group}
    (met : checkRequirements requirements schemes groups = .ok ())
    (subsetSchemes : schemes ⊆ moreSchemes)
    (subsetGroups : groups ⊆ moreGroups) :
    checkRequirements requirements moreSchemes moreGroups = .ok () := by
  refine checkRequirements_eq_ok_iff.mpr fun required stated => ?_
  obtain ⟨offered, covered⟩ :=
    checkRequirements_eq_ok_iff.mp met required stated
  exact ⟨Requirements.checkSchemes_of_subset subsetSchemes offered,
    Requirements.checkGroups_of_subset subsetGroups covered⟩

theorem resolveSuites_of_within (within : provider.Within other)
    (chosen : options.algorithms.suites.isSome = true)
    {suites : List CipherSuite}
    (resolved : (options.resolveSuites provider).result = .ok suites) :
    (options.resolveSuites other).result = .ok suites := by
  obtain ⟨listed, chosen⟩ := Option.isSome_iff_exists.mp chosen
  obtain ⟨rfl, allowed⟩ :=
    (resolveSuites_eq_ok_iff_of_chosen chosen).mp resolved
  obtain ⟨recommended, supported⟩ := checkChosenSuites_eq_ok_iff.mp allowed
  refine (resolveSuites_eq_ok_iff_of_chosen chosen).mpr ⟨rfl, ?_⟩
  refine checkChosenSuites_eq_ok_iff.mpr ⟨recommended, fun suite member => ?_⟩
  obtain ⟨listed, protecting⟩ :=
    Provider.supportsSuite_iff.mp (supported suite member)
  exact Provider.supportsSuite_iff.mpr ⟨within.suites listed, protecting⟩

end Options

/-! Configurations -/

/-- The configuration for a provider that lists more: derived lists may have
grown, and nothing else is different but the provider. -/
structure Config.Widened (options : Config.Algorithms.Options)
    (provider : Provider) (config widened : Config) : Prop where
  schemes : Grows options.schemes config.algorithms.schemes
    widened.algorithms.schemes
  groups : Grows options.groups config.algorithms.groups
    widened.algorithms.groups
  others : widened =
    { config with
      provider
      algorithms :=
        { config.algorithms with
          schemes := widened.algorithms.schemes
          groups := widened.algorithms.groups } }

theorem Options.Builds.exists_widened {options : Options} {platform : Platform}
    {config : Config} (builds : options.Builds platform config)
    (chosen : options.algorithms.suites.isSome = true) {provider : Provider}
    (within : platform.provider.Within provider)
    (accepted : provider.fault? = none) :
    ∃ widened, options.Builds { platform with provider } widened ∧
      config.Widened options.algorithms provider widened := by
  obtain ⟨schemes, groups, lists, growsSchemes, growsGroups⟩ :=
    exists_grows_of_resolveLists within builds.lists
  refine ⟨{ config with
      provider
      algorithms := { config.algorithms with schemes, groups } },
    ?_, growsSchemes, growsGroups, rfl⟩
  -- Of the rules that passed before, four ask the provider or see the lists.
  exact {
    provider := accepted
    roles := builds.roles
    verifierUse := builds.verifierUse
    suites := resolveSuites_of_within within chosen builds.suites
    suites_ne_nil := builds.suites_ne_nil
    capabilities := builds.capabilities
    equipped := builds.equipped
    pskStoreUse := builds.pskStoreUse
    lists := lists
    certificateUse := builds.certificateUse
    requirements := checkRequirements_of_subset builds.requirements
      growsSchemes.kept.subset growsGroups.kept.subset
    keyUsage := builds.keyUsage
    helloVerify := builds.helloVerify
    replay := builds.replay
    resolved := by
      rw [builds.resolved]
      rfl }

/-- Whatever is built with chosen suites is also built for a provider that lists
more, on as many cores. Only derived lists may grow. -/
theorem Options.exists_widened_of_build {options : Options}
    {platform : Platform} {config : Config}
    (chosen : options.algorithms.suites.isSome = true)
    (built : (options.build platform).result = .ok config) (provider : Provider)
    (within : platform.provider.Within provider)
    (accepted : provider.fault? = none) :
    ∃ widened,
      (options.build { platform with provider }).result = .ok widened ∧
      config.Widened options.algorithms provider widened := by
  obtain ⟨widened, builds, widens⟩ :=
    (build_eq_ok_iff.mp built).exists_widened chosen within accepted
  exact ⟨widened, build_eq_ok_iff.mpr builds, widens⟩

/-- A provider with what one suite needs, and the one that lists everything. -/
theorem Options.exists_widened_of_build_standard :
    let options : Options :=
      { credentials := { identity := some (.ofKey ⟨0⟩ (.ec .secp256r1)) }
        algorithms := { suites := some [.ecdheEcdsaAes128Ccm8] } }
    let narrow : Platform := .ofCores 4
      ⟨[.ecdheEcdsaAes128Ccm8], [.secp256r1], [.sha256Ecdsa]⟩
    ∃ config widened,
      (options.build narrow).result = .ok config ∧
      (options.build { narrow with provider := .standard }).result =
        .ok widened ∧
      config.Widened options.algorithms .standard widened ∧
      config.algorithms.groups = [.secp256r1] ∧
      widened.algorithms.groups = Group.preferred := by
  intro options narrow
  have within : narrow.provider.Within .standard :=
    ⟨by decide, by decide, by decide⟩
  obtain ⟨widened, built, widens⟩ :=
    @Options.exists_widened_of_build options narrow _ rfl rfl .standard within
      rfl
  exact ⟨_, widened, rfl, built, widens, rfl,
    congrArg (·.algorithms.groups) (Except.ok.inj built).symm⟩

end DatagramTls
