import DatagramTls.Proofs.Consistency

/-!
The algorithm lists of a configuration. Every entry is one that the provider
lists and, while the gate is closed, one that is recommended; schemes and groups
are there exactly when a suite uses curves, and what is derived has no entry
twice.
-/

namespace DatagramTls

open Build

namespace Build.Catalog

variable {α : Type} [DecidableEq α] {catalog : Catalog α}
  {required resolved : List α} {recommendedOnly : Bool} {supported : α → Bool}

theorem nodup_of_resolve_unset (distinct : catalog.preferred.Nodup)
    (succeeded : (catalog.resolve none required recommendedOnly
      supported).result = .ok resolved) :
    resolved.Nodup := by
  obtain ⟨rfl, _⟩ := resolve_unset_eq_ok_iff.mp succeeded
  exact (Distinct.nodup_addAll distinct required).filter _

end Build.Catalog

/-- The provider is accepted and lists all that the configuration uses. -/
structure Config.ServedBy (config : Config) (provider : Provider) : Prop where
  accepted : provider.fault? = none
  suites : ∀ suite ∈ config.algorithms.suites, suite ∈ provider.suites
  schemes : ∀ scheme ∈ config.algorithms.schemes, scheme ∈ provider.schemes
  groups : ∀ group ∈ config.algorithms.groups, group ∈ provider.groups

/-- The lists of the configuration go with each other, with the gates, with the
provider and with the capabilities. -/
structure Config.SoundAlgorithms (config : Config) : Prop where
  suites_ne_nil : config.algorithms.suites ≠ []
  protecting : .null ∉ config.algorithms.suites
  served : config.ServedBy config.provider
  schemes_iff : config.algorithms.schemes ≠ [] ↔
    ∃ suite ∈ config.algorithms.suites, suite.usesEcc = true
  groups_iff : config.algorithms.groups ≠ [] ↔
    ∃ suite ∈ config.algorithms.suites, suite.usesEcc = true
  suites_recommended : config.algorithms.recommendedSuitesOnly = true →
    ∀ suite ∈ config.algorithms.suites, suite.isRecommended = true
  schemes_recommended : config.algorithms.recommendedSchemesOnly = true →
    ∀ scheme ∈ config.algorithms.schemes, scheme.isRecommended = true
  groups_recommended : config.algorithms.recommendedGroupsOnly = true →
    ∀ group ∈ config.algorithms.groups, group.isRecommended = true
  psk_iff : config.capabilities.psk = true ↔
    ∃ suite ∈ config.algorithms.suites, suite.usesPsk = true
  certificate_iff : config.capabilities.certificate = true ↔
    ∃ suite ∈ config.algorithms.suites, suite.usesCertificate = true
  ecc_iff : config.capabilities.ecc = true ↔
    ∃ suite ∈ config.algorithms.suites, suite.usesEcc = true

namespace Options.Builds

variable {options : Options} {platform : Platform} {config : Config}
  (builds : options.Builds platform config)
include builds

theorem servedBy : config.ServedBy platform.provider where
  accepted := builds.provider
  suites := fun _ member => (builds.listed member).1
  schemes := fun scheme member =>
    have supported :=
      (Catalog.checkChosen_eq_ok_iff.mp builds.schemes_allowed).2
    Provider.supportsScheme_iff.mp (supported scheme member)
  groups := fun group member =>
    have supported := (Catalog.checkChosen_eq_ok_iff.mp builds.groups_allowed).2
    Provider.supportsGroup_iff.mp (supported group member)

theorem lists_ne_nil_iff :
    (config.algorithms.schemes ≠ [] ↔
        ∃ suite ∈ config.algorithms.suites, suite.usesEcc = true) ∧
      (config.algorithms.groups ≠ [] ↔
        ∃ suite ∈ config.algorithms.suites, suite.usesEcc = true) := by
  rw [← List.any_eq_true]
  change (_ ↔ (Capabilities.ofSuites config.algorithms.suites).ecc = true) ∧
    (_ ↔ (Capabilities.ofSuites config.algorithms.suites).ecc = true)
  cases curved : (Capabilities.ofSuites config.algorithms.suites).ecc with
  | true =>
      obtain ⟨schemes, groups⟩ :=
        (resolveLists_eq_ok_iff_of_ecc curved).mp builds.lists
      have someScheme := (Catalog.checkChosen_of_resolve schemes).1
      have someGroup := (Catalog.checkChosen_of_resolve groups).1
      simp [someScheme, someGroup]
  | false =>
      obtain ⟨_, noScheme, noGroup⟩ :=
        (resolveLists_eq_ok_iff_of_not_ecc curved).mp builds.lists
      simp [noScheme, noGroup]

theorem lists_ne_nil_of_ecc
    (curved : (Capabilities.ofSuites config.algorithms.suites).ecc = true) :
    config.algorithms.schemes ≠ [] ∧ config.algorithms.groups ≠ [] := by
  have suite := List.any_eq_true.mp curved
  exact ⟨builds.lists_ne_nil_iff.1.mpr suite,
    builds.lists_ne_nil_iff.2.mpr suite⟩

theorem schemes_nodup (unset : options.algorithms.schemes = none) :
    config.algorithms.schemes.Nodup := by
  rcases builds.lists_found with ⟨resolved, _⟩ | ⟨empty, _⟩
  · unfold resolveSchemes at resolved
    rw [unset] at resolved
    exact Catalog.nodup_of_resolve_unset (by decide) resolved
  · rw [empty]
    exact List.nodup_nil

theorem groups_nodup (unset : options.algorithms.groups = none) :
    config.algorithms.groups.Nodup := by
  rcases builds.lists_found with ⟨_, resolved⟩ | ⟨_, empty⟩
  · unfold resolveGroups at resolved
    rw [unset] at resolved
    exact Catalog.nodup_of_resolve_unset (by decide) resolved
  · rw [empty]
    exact List.nodup_nil

theorem soundAlgorithms : config.SoundAlgorithms where
  suites_ne_nil := builds.suites_ne_nil
  protecting := builds.protecting
  served := by
    rw [builds.provider_eq]
    exact builds.servedBy
  schemes_iff := builds.lists_ne_nil_iff.1
  groups_iff := builds.lists_ne_nil_iff.2
  suites_recommended := builds.suites_recommended
  schemes_recommended := builds.schemes_recommended
  groups_recommended := builds.groups_recommended
  psk_iff := by
    rw [builds.capabilities_eq]
    exact List.any_eq_true
  certificate_iff := by
    rw [builds.capabilities_eq]
    exact List.any_eq_true
  ecc_iff := by
    rw [builds.capabilities_eq]
    exact List.any_eq_true

end Options.Builds

/-- Whatever the provider lists, the lists of what is built for it are sound. -/
theorem Options.soundAlgorithms_of_build {options : Options}
    {platform : Platform} {config : Config}
    (built : (options.build platform).result = .ok config) :
    config.provider = platform.provider ∧ config.SoundAlgorithms ∧
      (options.algorithms.schemes = none →
        config.algorithms.schemes.Nodup) ∧
      (options.algorithms.groups = none → config.algorithms.groups.Nodup) := by
  have builds := build_eq_ok_iff.mp built
  exact ⟨builds.provider_eq, builds.soundAlgorithms, builds.schemes_nodup,
    builds.groups_nodup⟩

/-- A provider that lists the suite without protection, and an identity with a
curve that is not recommended. -/
theorem Options.soundAlgorithms_of_build_brainpool :
    let options : Options :=
      { credentials :=
          { pskStore := some ⟨⟨0⟩, true⟩
            identity := some (.ofKey ⟨1⟩ (.ec .brainpoolP256r1)) }
        algorithms := { recommendedGroupsOnly := some false } }
    let platform : Platform := .ofCores 4
      { suites := [.null, .pskAes128Ccm8, .ecdheEcdsaAes128Ccm8]
        groups := [.brainpoolP256r1, .secp256r1]
        schemes := [.sha256Ecdsa] }
    ∃ config,
      (options.build platform).result = .ok config ∧
      config.algorithms.suites = [.ecdheEcdsaAes128Ccm8, .pskAes128Ccm8] ∧
      config.algorithms.groups = [.secp256r1, .brainpoolP256r1] ∧
      config.SoundAlgorithms ∧ config.algorithms.groups.Nodup := by
  intro options platform
  have listed : (options.build platform).result.toOption.any
      (fun config =>
        config.algorithms.suites == [.ecdheEcdsaAes128Ccm8, .pskAes128Ccm8] &&
          config.algorithms.groups == [.secp256r1, .brainpoolP256r1]) = true := by
    decide +kernel
  cases built : (options.build platform).result with
  | error error =>
      rw [built] at listed
      cases listed
  | ok config =>
      rw [built] at listed
      obtain ⟨suites, groups⟩ := Bool.and_eq_true_iff.mp listed
      obtain ⟨_, sound, _, distinct⟩ :=
        Options.soundAlgorithms_of_build built
      exact ⟨config, rfl, beq_iff_eq.mp suites, beq_iff_eq.mp groups, sound,
        distinct rfl⟩

end DatagramTls
