import DatagramTls.Proofs.Build.Rules

/-!
Outcomes of a build. `Builds` lists the rules that the options and the finished
configuration meet, and a build succeeds exactly then; `Failure` lists where an
error can come from.
-/

namespace DatagramTls.Options

open Build

def resolveSuites (options : Options) (provider : Provider) :
    Attempt (List CipherSuite) :=
  Build.resolveSuites options.algorithms options.credentials
    options.role.resolve.clientOnly
    (options.algorithms.recommendedSuitesOnly.getD true) provider

/-- The rules that a configuration meets which is built from the options. -/
structure Builds (options : Options) (platform : Platform) (config : Config) :
    Prop where
  provider : platform.provider.fault? = none
  roles : options.checkRole = .ok ()
  verifierUse : options.checkVerifierUse = .ok ()
  suites : (options.resolveSuites platform.provider).result =
    .ok config.algorithms.suites
  suites_ne_nil : config.algorithms.suites ≠ []
  capabilities :
    checkCapabilities (Capabilities.ofSuites config.algorithms.suites)
      options.role.resolve.clientOnly = .ok ()
  equipped : ∀ suite ∈ config.algorithms.suites,
    Equipped options.credentials options.role.resolve.clientOnly
      options.verifierRequired suite
  pskStoreUse : options.checkPskStoreUse
    (Capabilities.ofSuites config.algorithms.suites) = .ok ()
  lists : (options.resolveLists
      (Capabilities.ofSuites config.algorithms.suites)
      options.credentials.requirements? platform.provider).result =
    .ok (config.algorithms.schemes, config.algorithms.groups)
  certificateUse : options.checkCertificateUse
    (Capabilities.ofSuites config.algorithms.suites) = .ok ()
  requirements : checkRequirements options.credentials.requirements?
    config.algorithms.schemes config.algorithms.groups = .ok ()
  keyUsage : options.checkKeyUsage options.credentials.requirements? = .ok ()
  helloVerify : options.checkHelloVerify
    (Capabilities.ofSuites config.algorithms.suites) = .ok ()
  replay : options.checkReplay = .ok ()
  resolved : config = options.resolve platform config.algorithms.suites
    config.algorithms.schemes config.algorithms.groups

variable {options : Options} {platform : Platform} {config : Config}

namespace Builds

variable (builds : options.Builds platform config)
include builds

theorem role_eq : config.role = options.role.resolve :=
  congrArg Config.role builds.resolved

theorem credentials_eq : config.credentials = options.credentials :=
  congrArg Config.credentials builds.resolved

theorem requirements_eq :
    config.requirements = options.credentials.requirements? :=
  congrArg Config.requirements builds.resolved

theorem preselected_eq : config.algorithms.preselected =
    options.algorithms.preselected :=
  congrArg (·.algorithms.preselected) builds.resolved

theorem suitesGate_eq : config.algorithms.recommendedSuitesOnly =
    options.algorithms.recommendedSuitesOnly.getD true :=
  congrArg (·.algorithms.recommendedSuitesOnly) builds.resolved

theorem schemesGate_eq : config.algorithms.recommendedSchemesOnly =
    options.algorithms.recommendedSchemesOnly.getD true :=
  congrArg (·.algorithms.recommendedSchemesOnly) builds.resolved

theorem groupsGate_eq : config.algorithms.recommendedGroupsOnly =
    options.algorithms.recommendedGroupsOnly.getD true :=
  congrArg (·.algorithms.recommendedGroupsOnly) builds.resolved

theorem retransmission_eq :
    config.retransmission = options.retransmission.resolve :=
  congrArg Config.retransmission builds.resolved

theorem framing_eq : config.framing = options.framing.resolve :=
  congrArg Config.framing builds.resolved

theorem helloVerify_eq : config.helloVerify = options.helloVerify.resolve :=
  congrArg Config.helloVerify builds.resolved

theorem resumption_eq : config.resumption =
    options.resumption.resolve config.helloVerify.enabled := by
  rw [builds.helloVerify_eq]
  exact congrArg Config.resumption builds.resolved

theorem replay_eq : config.replay = options.replay.resolve :=
  congrArg Config.replay builds.resolved

theorem capabilities_eq :
    config.capabilities = Capabilities.ofSuites config.algorithms.suites :=
  congrArg Config.capabilities builds.resolved

theorem provider_eq : config.provider = platform.provider :=
  congrArg Config.provider builds.resolved

/-! The lists, whether chosen or derived, pass the rules for chosen ones. -/

theorem suites_allowed :
    checkChosenSuites config.algorithms.suites
      config.algorithms.recommendedSuitesOnly platform.provider = .ok () := by
  rw [builds.suitesGate_eq]
  exact checkChosenSuites_of_resolveSuites builds.suites

theorem listed {suite : CipherSuite}
    (member : suite ∈ config.algorithms.suites) :
    suite ∈ platform.provider.suites ∧ suite ≠ .null := by
  have supported := (checkChosenSuites_eq_ok_iff.mp builds.suites_allowed).2
  exact Provider.supportsSuite_iff.mp (supported suite member)

theorem ne_null {suite : CipherSuite}
    (member : suite ∈ config.algorithms.suites) : suite ≠ .null :=
  (builds.listed member).2

theorem protecting : .null ∉ config.algorithms.suites :=
  fun member => builds.ne_null member rfl

theorem lists_found :
    ((options.resolveSchemes platform.provider).result =
          .ok config.algorithms.schemes ∧
        (options.resolveGroups platform.provider).result =
          .ok config.algorithms.groups) ∨
      (config.algorithms.schemes = [] ∧ config.algorithms.groups = []) := by
  cases curved : (Capabilities.ofSuites config.algorithms.suites).ecc with
  | true =>
      exact Or.inl ((resolveLists_eq_ok_iff_of_ecc curved).mp builds.lists)
  | false =>
      exact Or.inr ((resolveLists_eq_ok_iff_of_not_ecc curved).mp builds.lists).2

theorem schemes_allowed :
    schemeCatalog.checkChosen config.algorithms.schemes
      config.algorithms.recommendedSchemesOnly
      platform.provider.supportsScheme = .ok () := by
  rw [builds.schemesGate_eq]
  rcases builds.lists_found with ⟨resolved, _⟩ | ⟨empty, _⟩
  · exact (Catalog.checkChosen_of_resolve resolved).2
  · rw [empty]
    exact Catalog.checkChosen_nil

theorem groups_allowed :
    groupCatalog.checkChosen config.algorithms.groups
      config.algorithms.recommendedGroupsOnly
      platform.provider.supportsGroup = .ok () := by
  rw [builds.groupsGate_eq]
  rcases builds.lists_found with ⟨_, resolved⟩ | ⟨_, empty⟩
  · exact (Catalog.checkChosen_of_resolve resolved).2
  · rw [empty]
    exact Catalog.checkChosen_nil

end Builds

theorem build_eq_ok_iff :
    (options.build platform).result = .ok config ↔
      options.Builds platform config := by
  unfold build
  simp only [Attempt.result_then_eq_ok_iff, Attempt.result_check_eq_ok_iff,
    Attempt.result_checkProvider_eq_ok_iff]
  constructor
  · rintro ⟨provider, roles, verifierUse, built⟩
    obtain ⟨suites, found, built⟩ := Attempt.result_bind_eq_ok_iff.mp built
    simp only [Attempt.result_then_eq_ok_iff,
      Attempt.result_check_eq_ok_iff] at built
    obtain ⟨nonempty, capabilities, equipped, pskStoreUse, built⟩ := built
    obtain ⟨⟨schemes, groups⟩, lists, built⟩ :=
      Attempt.result_bind_eq_ok_iff.mp built
    simp only [Attempt.result_then_eq_ok_iff,
      Attempt.result_check_eq_ok_iff] at built
    obtain ⟨certificateUse, requirements, keyUsage, helloVerify, replay, _,
      same⟩ := built
    cases same
    have suites_ne_nil : suites ≠ [] := by
      rintro rfl
      cases nonempty
    exact {
      provider, roles, verifierUse, suites_ne_nil, capabilities, pskStoreUse,
      lists, certificateUse, requirements, keyUsage, helloVerify, replay
      suites := found
      equipped := checkSuites_eq_ok_iff.mp equipped
      resolved := rfl }
  · intro builds
    have nonempty :
        (if config.algorithms.suites.isEmpty then .error .noSuite else .ok () :
          Except ConsistencyError Unit) = .ok () := by
      simp [builds.suites_ne_nil]
    refine ⟨builds.provider, builds.roles, builds.verifierUse,
      Attempt.result_bind_eq_ok_iff.mpr ⟨_, builds.suites, ?_⟩⟩
    simp only [Attempt.result_then_eq_ok_iff, Attempt.result_check_eq_ok_iff]
    refine ⟨nonempty, builds.capabilities,
      checkSuites_eq_ok_iff.mpr builds.equipped, builds.pskStoreUse,
      Attempt.result_bind_eq_ok_iff.mpr ⟨_, builds.lists, ?_⟩⟩
    simp only [Attempt.result_then_eq_ok_iff, Attempt.result_check_eq_ok_iff]
    refine ⟨builds.certificateUse, builds.requirements, builds.keyUsage,
      builds.helloVerify, builds.replay, Attempt.result_noteAll _, ?_⟩
    rw [Attempt.result_pure, ← builds.resolved]

/-- What is noted while a configuration is built, in order. -/
theorem Builds.events_eq (builds : options.Builds platform config) :
    (options.build platform).events =
      (options.resolveSuites platform.provider).events ++
        (checkSuites options.credentials options.role.resolve.clientOnly
          options.verifierRequired false config.algorithms.suites).events ++
        (options.resolveLists
          (Capabilities.ofSuites config.algorithms.suites)
          options.credentials.requirements? platform.provider).events ++
        finalEvents config platform.cores := by
  have passed {outcome : Except ConsistencyError Unit}
      (accepted : outcome = .ok ()) :
      (Attempt.check outcome).result = .ok () :=
    Attempt.result_check_eq_ok_iff.mpr accepted
  have nonempty :
      (if config.algorithms.suites.isEmpty then .error .noSuite else .ok () :
        Except ConsistencyError Unit) = .ok () := by
    simp [builds.suites_ne_nil]
  have suites := builds.suites
  unfold resolveSuites at suites ⊢
  unfold build
  dsimp only
  rw [Attempt.events_bind_of_ok
      (Attempt.result_checkProvider_eq_ok_iff.mpr builds.provider),
    Attempt.events_bind_of_ok (passed builds.roles),
    Attempt.events_bind_of_ok (passed builds.verifierUse),
    Attempt.events_bind_of_ok suites,
    Attempt.events_bind_of_ok (passed nonempty),
    Attempt.events_bind_of_ok (passed builds.capabilities),
    Attempt.events_bind_of_ok (checkSuites_eq_ok_iff.mpr builds.equipped),
    Attempt.events_bind_of_ok (passed builds.pskStoreUse),
    Attempt.events_bind_of_ok builds.lists]
  dsimp only
  rw [Attempt.events_bind_of_ok (passed builds.certificateUse),
    Attempt.events_bind_of_ok (passed builds.requirements),
    Attempt.events_bind_of_ok (passed builds.keyUsage),
    Attempt.events_bind_of_ok (passed builds.helloVerify),
    Attempt.events_bind_of_ok (passed builds.replay),
    Attempt.events_bind_of_ok (Attempt.result_noteAll _)]
  simp only [Attempt.events_checkProvider, Attempt.events_check,
    Attempt.events_noteAll, Attempt.events_pure, List.nil_append,
    List.append_nil, List.append_assoc, ← builds.resolved]

/-! Failures -/

/-- Where an error of a build can come from. -/
inductive Failure (options : Options) (platform : Platform) : Error → Prop
  | provider {fault : Provider.Fault}
      (faulty : platform.provider.fault? = some fault) :
      Failure options platform (.provider fault)
  | roles {cause : ConsistencyError}
      (refused : options.checkRole = .error cause) :
      Failure options platform (.consistency cause)
  | verifierUse {cause : ConsistencyError}
      (refused : options.checkVerifierUse = .error cause) :
      Failure options platform (.consistency cause)
  | chosenSuites {chosen : List CipherSuite} {cause : ConsistencyError}
      (explicit : options.algorithms.suites = some chosen)
      (refused : checkChosenSuites chosen
        (options.algorithms.recommendedSuitesOnly.getD true)
        platform.provider = .error cause) :
      Failure options platform (.consistency cause)
  | noSuite
      (resolved : (options.resolveSuites platform.provider).result = .ok []) :
      Failure options platform (.consistency .noSuite)
  | capabilities {suites : List CipherSuite} {cause : ConsistencyError}
      (resolved :
        (options.resolveSuites platform.provider).result = .ok suites)
      (refused : checkCapabilities (Capabilities.ofSuites suites)
        options.role.resolve.clientOnly = .error cause) :
      Failure options platform (.consistency cause)
  | suite {suites : List CipherSuite} {suite : CipherSuite}
      {cause : ConsistencyError} (accepted : platform.provider.fault? = none)
      (verifierUse : options.checkVerifierUse = .ok ())
      (resolved :
        (options.resolveSuites platform.provider).result = .ok suites)
      (member : suite ∈ suites)
      (refused : checkSuite options.credentials options.role.resolve.clientOnly
        options.verifierRequired suite = .error cause) :
      Failure options platform (.consistency cause)
  | pskStoreUse {suites : List CipherSuite} {cause : ConsistencyError}
      (resolved :
        (options.resolveSuites platform.provider).result = .ok suites)
      (refused : options.checkPskStoreUse (Capabilities.ofSuites suites) =
        .error cause) :
      Failure options platform (.consistency cause)
  | lists {suites : List CipherSuite} {error : Error}
      (resolved :
        (options.resolveSuites platform.provider).result = .ok suites)
      (refused : (options.resolveLists (Capabilities.ofSuites suites)
        options.credentials.requirements? platform.provider).result =
          .error error) :
      Failure options platform error
  | certificateUse {suites : List CipherSuite} {cause : ConsistencyError}
      (resolved :
        (options.resolveSuites platform.provider).result = .ok suites)
      (refused : options.checkCertificateUse (Capabilities.ofSuites suites) =
        .error cause) :
      Failure options platform (.consistency cause)
  | requirements {suites : List CipherSuite} {schemes : List Scheme}
      {groups : List Group} {cause : ConsistencyError}
      (resolved :
        (options.resolveSuites platform.provider).result = .ok suites)
      (lists : (options.resolveLists (Capabilities.ofSuites suites)
        options.credentials.requirements? platform.provider).result =
          .ok (schemes, groups))
      (refused : checkRequirements options.credentials.requirements? schemes
        groups = .error cause)
      (certificateUse : options.checkCertificateUse
        (Capabilities.ofSuites suites) = .ok ()) :
      Failure options platform (.consistency cause)
  | keyUsage {cause : ConsistencyError}
      (refused : options.checkKeyUsage options.credentials.requirements? =
        .error cause) :
      Failure options platform (.consistency cause)
  | helloVerify {suites : List CipherSuite} {cause : ConsistencyError}
      (resolved :
        (options.resolveSuites platform.provider).result = .ok suites)
      (refused : options.checkHelloVerify (Capabilities.ofSuites suites) =
        .error cause) :
      Failure options platform (.consistency cause)
  | replay {cause : ConsistencyError}
      (refused : options.checkReplay = .error cause) :
      Failure options platform (.consistency cause)

theorem cause_of_resolveSuites_eq_error {provider : Provider} {error : Error}
    (failed : (options.resolveSuites provider).result = .error error) :
    ∃ chosen ∈ options.algorithms.suites, ∃ cause,
      checkChosenSuites chosen
          (options.algorithms.recommendedSuitesOnly.getD true) provider =
        .error cause ∧ error = .consistency cause := by
  unfold resolveSuites at failed
  cases explicit : options.algorithms.suites with
  | none =>
      rw [resolveSuites_of_unset explicit] at failed
      cases failed
  | some chosen =>
      unfold Build.resolveSuites at failed
      rw [explicit] at failed
      rcases Attempt.result_bind_eq_error_iff.mp failed with
        refused | ⟨_, _, impossible⟩
      · exact ⟨chosen, rfl, Attempt.result_check_eq_error_iff.mp refused⟩
      · cases impossible

theorem failure_of_build_eq_error {error : Error}
    (failed : (options.build platform).result = .error error) :
    options.Failure platform error := by
  unfold build at failed
  rcases Attempt.result_bind_eq_error_iff.mp failed with
    refused | ⟨_, accepted, failed⟩
  · obtain ⟨fault, faulty, rfl⟩ :=
      Attempt.result_checkProvider_eq_error_iff.mp refused
    exact .provider faulty
  rcases Attempt.result_check_then_eq_error_iff.mp failed with
    ⟨cause, refused, rfl⟩ | ⟨_, failed⟩
  · exact .roles refused
  rcases Attempt.result_check_then_eq_error_iff.mp failed with
    ⟨cause, refused, rfl⟩ | ⟨verifierUse, failed⟩
  · exact .verifierUse refused
  rcases Attempt.result_bind_eq_error_iff.mp failed with
    refused | ⟨suites, resolved, failed⟩
  · obtain ⟨chosen, explicit, cause, broken, rfl⟩ :=
      cause_of_resolveSuites_eq_error refused
    exact .chosenSuites explicit broken
  rcases Attempt.result_check_then_eq_error_iff.mp failed with
    ⟨cause, empty, rfl⟩ | ⟨_, failed⟩
  · cases suites with
    | nil =>
        cases empty
        exact .noSuite resolved
    | cons suite rest => cases empty
  rcases Attempt.result_check_then_eq_error_iff.mp failed with
    ⟨cause, refused, rfl⟩ | ⟨_, failed⟩
  · exact .capabilities resolved refused
  rcases Attempt.result_bind_eq_error_iff.mp failed with
    refused | ⟨_, _, failed⟩
  · obtain ⟨suite, member, cause, broken, rfl⟩ :=
      exists_of_checkSuites_eq_error refused
    exact .suite (Attempt.result_checkProvider_eq_ok_iff.mp accepted)
      verifierUse resolved member broken
  rcases Attempt.result_check_then_eq_error_iff.mp failed with
    ⟨cause, refused, rfl⟩ | ⟨_, failed⟩
  · exact .pskStoreUse resolved refused
  rcases Attempt.result_bind_eq_error_iff.mp failed with
    refused | ⟨⟨schemes, groups⟩, lists, failed⟩
  · exact .lists resolved refused
  rcases Attempt.result_check_then_eq_error_iff.mp failed with
    ⟨cause, refused, rfl⟩ | ⟨certificateUse, failed⟩
  · exact .certificateUse resolved refused
  rcases Attempt.result_check_then_eq_error_iff.mp failed with
    ⟨cause, refused, rfl⟩ | ⟨_, failed⟩
  · exact .requirements resolved lists refused certificateUse
  rcases Attempt.result_check_then_eq_error_iff.mp failed with
    ⟨cause, refused, rfl⟩ | ⟨_, failed⟩
  · exact .keyUsage refused
  rcases Attempt.result_check_then_eq_error_iff.mp failed with
    ⟨cause, refused, rfl⟩ | ⟨_, failed⟩
  · exact .helloVerify resolved refused
  rcases Attempt.result_check_then_eq_error_iff.mp failed with
    ⟨cause, refused, rfl⟩ | ⟨_, failed⟩
  · exact .replay refused
  · cases failed

theorem build_eq_error_of_checkSuites {suites : List CipherSuite}
    {error : Error} (provider : platform.provider.fault? = none)
    (roles : options.checkRole = .ok ())
    (verifierUse : options.checkVerifierUse = .ok ())
    (resolved : (options.resolveSuites platform.provider).result = .ok suites)
    (nonempty : suites ≠ [])
    (capabilities : checkCapabilities (Capabilities.ofSuites suites)
      options.role.resolve.clientOnly = .ok ())
    (refused : (checkSuites options.credentials options.role.resolve.clientOnly
      options.verifierRequired false suites).result = .error error) :
    (options.build platform).result = .error error := by
  have someSuite : (if suites.isEmpty then .error .noSuite else .ok () :
      Except ConsistencyError Unit) = .ok () := by
    simp [nonempty]
  unfold build
  refine Attempt.result_bind_eq_error_iff.mpr (Or.inr
    ⟨(), Attempt.result_checkProvider_eq_ok_iff.mpr provider, ?_⟩)
  refine Attempt.result_check_then_eq_error_iff.mpr (Or.inr ⟨roles, ?_⟩)
  refine Attempt.result_check_then_eq_error_iff.mpr (Or.inr ⟨verifierUse, ?_⟩)
  refine Attempt.result_bind_eq_error_iff.mpr (Or.inr ⟨_, resolved, ?_⟩)
  refine Attempt.result_check_then_eq_error_iff.mpr (Or.inr ⟨someSuite, ?_⟩)
  refine Attempt.result_check_then_eq_error_iff.mpr (Or.inr ⟨capabilities, ?_⟩)
  exact Attempt.result_bind_eq_error_iff.mpr (Or.inl refused)

end DatagramTls.Options
