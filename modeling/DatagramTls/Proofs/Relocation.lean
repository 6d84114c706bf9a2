import DatagramTls.Proofs.RoundTrip

/-!
Moving a configuration: it is reopened and built for another platform. That
succeeds exactly where the provider serves the configuration, and an error says
what the provider lacks.
-/

namespace DatagramTls

open Build

namespace Config

/-- What the provider lacks for the configuration, and the error for it. -/
inductive Lacks (config : Config) (provider : Provider) : Error → Prop
  | anything {fault : Provider.Fault}
      (faulty : provider.fault? = some fault) :
      Lacks config provider (.provider fault)
  | suite {suite : CipherSuite} (used : suite ∈ config.algorithms.suites)
      (unlisted : suite ∉ provider.suites) :
      Lacks config provider (.consistency (.unsupportedSuite suite))
  | scheme {scheme : Scheme} (used : scheme ∈ config.algorithms.schemes)
      (unlisted : scheme ∉ provider.schemes) :
      Lacks config provider (.consistency (.unsupportedScheme scheme))
  | group {group : Group} (used : group ∈ config.algorithms.groups)
      (unlisted : group ∉ provider.groups) :
      Lacks config provider (.consistency (.unsupportedGroup group))

/-- What a configuration takes along to another platform. -/
structure KeptBy (config moved : Config) : Prop where
  algorithms : moved.algorithms = config.algorithms
  capabilities : moved.capabilities = config.capabilities
  requirements : moved.requirements = config.requirements
  credentials : moved.credentials = config.credentials
  role : moved.role = config.role
  connectionThreads :
    moved.resources.connectionThreads = config.resources.connectionThreads
  receiverThreads :
    moved.resources.receiverThreads = config.resources.receiverThreads

theorem keptBy_rebuilt (config : Config) (provider : Provider) :
    config.KeptBy { config.rebuilt with provider } := by
  constructor <;> rfl

theorem suites_of_reopen {config : Config} {provider : Provider}
    {suites : List CipherSuite}
    (resolved :
      (config.reopen.resolveSuites provider).result = .ok suites) :
    suites = config.algorithms.suites :=
  ((resolveSuites_eq_ok_iff_of_chosen rfl).mp resolved).1

end Config

namespace Options.Builds

variable {options : Options} {platform : Platform} {config : Config}
  (builds : options.Builds platform config)
include builds

theorem lists_of_reopen {provider : Provider} {schemes : List Scheme}
    {groups : List Group}
    (resolved : (config.reopen.resolveLists
        (Capabilities.ofSuites config.algorithms.suites)
        config.reopen.credentials.requirements? provider).result =
      .ok (schemes, groups)) :
    schemes = config.algorithms.schemes ∧
      groups = config.algorithms.groups := by
  cases curved : (Capabilities.ofSuites config.algorithms.suites).ecc with
  | true =>
      obtain ⟨someScheme, someGroup⟩ := builds.lists_ne_nil_of_ecc curved
      obtain ⟨foundSchemes, foundGroups⟩ :=
        (resolveLists_eq_ok_iff_of_ecc curved).mp resolved
      exact ⟨((Catalog.resolve_nonempty?_eq_ok_iff someScheme).mp
          foundSchemes).1,
        ((Catalog.resolve_nonempty?_eq_ok_iff someGroup).mp foundGroups).1⟩
  | false =>
      obtain ⟨_, noScheme, noGroup⟩ :=
        (resolveLists_eq_ok_iff_of_not_ecc curved).mp builds.lists
      obtain ⟨_, rfl, rfl⟩ :=
        (resolveLists_eq_ok_iff_of_not_ecc curved).mp resolved
      exact ⟨noScheme.symm, noGroup.symm⟩

theorem servedBy_of_reopen {other : Platform} {moved : Config}
    (reopened : config.reopen.Builds other moved) :
    config.ServedBy other.provider := by
  have suites := Config.suites_of_reopen reopened.suites
  have resolved := reopened.lists
  rw [suites] at resolved
  obtain ⟨schemes, groups⟩ := builds.lists_of_reopen resolved
  have served := reopened.servedBy
  exact {
    accepted := served.accepted
    suites := suites ▸ served.suites
    schemes := schemes ▸ served.schemes
    groups := groups ▸ served.groups }

/-! Errors -/

theorem lacks_of_resolveLists_reopen {provider : Provider} {error : Error}
    (failed : (config.reopen.resolveLists
        (Capabilities.ofSuites config.algorithms.suites)
        config.reopen.credentials.requirements? provider).result =
      .error error) :
    config.Lacks provider error := by
  cases curved : (Capabilities.ofSuites config.algorithms.suites).ecc with
  | true =>
      obtain ⟨someScheme, someGroup⟩ := builds.lists_ne_nil_of_ecc curved
      rcases error_of_resolveLists_of_ecc curved failed with schemes | groups
      · obtain ⟨scheme, used, missing, rfl⟩ :=
          Catalog.unsupported_of_resolve_nonempty? someScheme
            builds.schemes_recommended schemes
        exact .scheme used (by simpa [Provider.supportsScheme] using missing)
      · obtain ⟨group, used, missing, rfl⟩ :=
          Catalog.unsupported_of_resolve_nonempty? someGroup
            builds.groups_recommended groups
        exact .group used (by simpa [Provider.supportsGroup] using missing)
  | false =>
      -- Lists that are empty are not chosen, so there is nothing to refuse.
      obtain ⟨unset, _⟩ := (resolveLists_eq_ok_iff_of_not_ecc curved).mp
        (builds.resolveLists_reopen builds.servedBy)
      obtain ⟨cause, refused, _⟩ :=
        cause_of_resolveLists_of_not_ecc curved failed
      rw [checkListsUnset_eq_ok_iff.mpr unset] at refused
      cases refused

/-- Only the rules on the provider can refuse the reopened options, since the
others have let them pass on the platform of before. -/
theorem lacks_of_reopen_eq_error (consistent : options.Consistent)
    {other : Platform} {error : Error}
    (failed : (config.reopen.build other).result = .error error) :
    config.Lacks other.provider error := by
  have before := builds.reopen consistent
  cases failure_of_build_eq_error failed with
  | provider faulty => exact .anything faulty
  | chosenSuites explicit refused =>
      cases explicit
      obtain ⟨suite, used, missing, rfl⟩ :=
        unsupported_of_checkChosenSuites_eq_error builds.suites_recommended
          refused
      refine .suite used fun listed => ?_
      rw [Provider.supportsSuite_iff.mpr ⟨listed, builds.ne_null used⟩]
        at missing
      cases missing
  | lists resolved refused =>
      rw [Config.suites_of_reopen resolved] at refused
      exact builds.lacks_of_resolveLists_reopen refused
  | noSuite resolved =>
      exact absurd (Config.suites_of_reopen resolved).symm builds.suites_ne_nil
  | suite _ _ resolved member refused =>
      rw [Config.suites_of_reopen resolved] at member
      have equipped := before.equipped _ member
      cases (checkSuite_eq_ok_iff.mpr equipped).symm.trans refused
  | capabilities resolved refused =>
      rw [Config.suites_of_reopen resolved] at refused
      cases before.capabilities.symm.trans refused
  | pskStoreUse resolved refused =>
      rw [Config.suites_of_reopen resolved] at refused
      cases before.pskStoreUse.symm.trans refused
  | certificateUse resolved refused =>
      rw [Config.suites_of_reopen resolved] at refused
      cases before.certificateUse.symm.trans refused
  | requirements resolved lists refused =>
      rw [Config.suites_of_reopen resolved] at lists
      obtain ⟨rfl, rfl⟩ := builds.lists_of_reopen lists
      cases before.requirements.symm.trans refused
  | helloVerify resolved refused =>
      rw [Config.suites_of_reopen resolved] at refused
      cases before.helloVerify.symm.trans refused
  | roles refused => cases before.roles.symm.trans refused
  | verifierUse refused => cases before.verifierUse.symm.trans refused
  | keyUsage refused => cases before.keyUsage.symm.trans refused
  | replay refused => cases before.replay.symm.trans refused

theorem eq_of_reopen (consistent : options.Consistent) {other : Platform}
    {moved : Config}
    (built : (config.reopen.build other).result = .ok moved) :
    moved = { config.rebuilt with provider := other.provider } := by
  have served := builds.servedBy_of_reopen (build_eq_ok_iff.mp built)
  have again := build_eq_ok_iff.mpr (builds.reopen_on consistent served)
  exact Except.ok.inj (built.symm.trans again)

end Options.Builds

/-- Whatever a session has built moves exactly to the platforms whose provider
serves it. It stays what it is there, and elsewhere the error says what the
provider lacks. -/
theorem Session.relocation_of_mem_configs (hostCores : UInt64)
    (steps : List Session.Step) {config : Config}
    (built : config ∈ (Session.run { hostCores } steps).configs)
    (platform : Platform) :
    ((∃ moved, (config.reopen.build platform).result = .ok moved) ↔
      config.ServedBy platform.provider) ∧
    (∀ error, (config.reopen.build platform).result = .error error →
      config.Lacks platform.provider error) ∧
    (∀ moved, (config.reopen.build platform).result = .ok moved →
      config.KeptBy moved ∧ moved.provider = platform.provider) := by
  have session := (Session.consistent_fresh hostCores).run steps
  obtain ⟨options, former, consistent, builds⟩ :=
    session.configs config built
  refine ⟨⟨?_, ?_⟩, fun _ => builds.lacks_of_reopen_eq_error consistent, ?_⟩
  · intro ⟨moved, reopened⟩
    exact builds.servedBy_of_reopen (Options.build_eq_ok_iff.mp reopened)
  · intro served
    exact ⟨_, Options.build_eq_ok_iff.mpr
      (builds.reopen_on consistent served)⟩
  · intro moved reopened
    rw [builds.eq_of_reopen consistent reopened]
    exact ⟨config.keptBy_rebuilt platform.provider, rfl⟩

/-- What uses no curves moves to a provider without any, but not to one that
lists fewer suites. -/
theorem Session.relocation_of_mem_configs_psk :
    let steps : List Session.Step :=
      [.request (.byValue (.credentials (.pskStore ⟨⟨0⟩, false⟩))),
        .build .host]
    let other : Platform :=
      .ofCores 2 ⟨CipherSuite.select true (· == .psk), [], []⟩
    let narrow : Platform := .ofCores 2 ⟨[.pskAes128Ccm8], [], []⟩
    ∃ config ∈ (Session.run { hostCores := 4 } steps).configs,
      (∃ moved, (config.reopen.build other).result = .ok moved ∧
        config.KeptBy moved ∧ moved.provider = other.provider) ∧
      ∃ error, (config.reopen.build narrow).result = .error error ∧
        config.Lacks narrow.provider error := by
  intro steps other narrow
  have member := List.mem_of_getElem?
    (show (Session.run { hostCores := 4 } steps).configs[0]? = some _ from rfl)
  have there := Session.relocation_of_mem_configs 4 steps member other
  have elsewhere := Session.relocation_of_mem_configs 4 steps member narrow
  exact ⟨_, member, ⟨_, rfl, there.2.2 _ rfl⟩, _, rfl, elsewhere.2.1 _ rfl⟩

end DatagramTls
