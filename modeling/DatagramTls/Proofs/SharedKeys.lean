import DatagramTls.Proofs.Build.Outcome
import DatagramTls.Proofs.History
import DatagramTls.Proofs.Limits

/-!
Connectors that share keys with their peers and have no certificates. As long as
the lists of algorithms are left to be derived, nothing that the requests may
have set keeps a configuration from being built with the standard provider.
-/

namespace DatagramTls

open Build

/-! Credentials -/

structure Config.Credentials.SharedOnly (credentials : Config.Credentials)
    (store : PskStore) : Prop where
  pskStore : credentials.pskStore = some store
  identity : credentials.identity = none
  verifier : credentials.verifier = none

namespace Config.Credentials.SharedOnly

variable {credentials : Config.Credentials} {store : PskStore}
  {recommendedOnly : Bool} {suite : CipherSuite}

section
variable (shared : credentials.SharedOnly store)
include shared

theorem requirements?_eq : credentials.requirements? = none := by
  rw [requirements?, shared.identity, shared.verifier]
  rfl

theorem usesPsk (member : suite ∈ pskSuites credentials recommendedOnly) :
    suite.usesPsk = true := by
  unfold CipherSuite.usesPsk
  obtain ⟨plain | ⟨withEcdhe, _⟩, _⟩ :=
    (mem_pskSuites shared.pskStore).mp member
  · rw [plain]
    rfl
  · rw [withEcdhe]
    rfl

theorem equipped (clientOnly verifierRequired : Bool)
    (member : suite ∈ pskSuites credentials recommendedOnly) :
    Equipped credentials clientOnly verifierRequired suite := by
  obtain ⟨plain | ⟨withEcdhe, serving⟩, _⟩ :=
    (mem_pskSuites shared.pskStore).mp member
  · have uncertified : suite.certificateFamily? = none := by
      rw [CipherSuite.certificateFamily?, plain]
      rfl
    apply (equipped_iff_of_uncertified uncertified).mpr
    intro _
    refine ⟨store, shared.pskStore, fun curved => ?_⟩
    rw [CipherSuite.usesEcc, plain] at curved
    cases curved
  · have uncertified : suite.certificateFamily? = none := by
      rw [CipherSuite.certificateFamily?, withEcdhe]
      rfl
    apply (equipped_iff_of_uncertified uncertified).mpr
    intro _
    exact ⟨store, shared.pskStore, fun _ => serving⟩

theorem pskAes128Ccm8_mem :
    .pskAes128Ccm8 ∈ pskSuites credentials recommendedOnly := by
  apply (mem_pskSuites shared.pskStore).mpr
  exact ⟨Or.inl rfl, fun _ => rfl⟩

theorem derivedSuites_standard (clientOnly : Bool) :
    derivedSuites credentials clientOnly recommendedOnly none .standard =
      pskSuites credentials recommendedOnly := by
  have uncertified : certificateSuites credentials recommendedOnly = [] := by
    simp [certificateSuites, shared.identity, shared.verifier]
  have nonempty : pskSuites credentials recommendedOnly ≠ [] :=
    List.ne_nil_of_mem shared.pskAes128Ccm8_mem
  have served : servedSuites credentials clientOnly recommendedOnly =
      pskSuites credentials recommendedOnly := by
    simp [servedSuites, uncertified, nonempty]
  change (servedSuites credentials clientOnly recommendedOnly).filter _ = _
  rw [served]
  apply List.filter_eq_self.mpr
  intro suite member
  have protecting : suite ≠ .null := by
    rintro rfl
    cases shared.usesPsk member
  apply Provider.supportsSuite_iff.mpr
  refine ⟨List.mem_filter.mpr ⟨CipherSuite.mem_all suite, ?_⟩, protecting⟩
  exact decide_eq_true protecting

end

end Config.Credentials.SharedOnly

/-! Building -/

namespace Options

/-- Keys are all that is shared, and no list of algorithms is chosen. -/
structure SharesKeys (options : Options) (store : PskStore) : Prop where
  credentials : options.credentials.SharedOnly store
  suites : options.algorithms.suites = none
  preselected : options.algorithms.preselected = none
  schemes : options.algorithms.schemes = none
  groups : options.algorithms.groups = none

namespace SharesKeys

variable {options : Options} {store : PskStore}

section
variable (shares : options.SharesKeys store)
include shares

theorem resolveSchemes_standard :
    ∃ schemes, (options.resolveSchemes .standard).result = .ok schemes := by
  rw [resolveSchemes, shares.schemes, shares.credentials.requirements?_eq]
  refine ⟨_, Catalog.resolve_unset_eq_ok_iff.mpr ⟨rfl, ?_⟩⟩
  cases options.algorithms.recommendedSchemesOnly.getD true <;> decide

theorem resolveGroups_standard :
    ∃ groups, (options.resolveGroups .standard).result = .ok groups := by
  rw [resolveGroups, shares.groups, shares.credentials.requirements?_eq]
  refine ⟨_, Catalog.resolve_unset_eq_ok_iff.mpr ⟨rfl, ?_⟩⟩
  cases options.algorithms.recommendedGroupsOnly.getD true <;> decide

theorem resolveLists_standard (capabilities : Capabilities) :
    ∃ schemes groups, (options.resolveLists capabilities
      options.credentials.requirements? .standard).result =
        .ok (schemes, groups) := by
  cases curved : capabilities.ecc with
  | true =>
      obtain ⟨schemes, foundSchemes⟩ := shares.resolveSchemes_standard
      obtain ⟨groups, foundGroups⟩ := shares.resolveGroups_standard
      exact ⟨schemes, groups, (resolveLists_eq_ok_iff_of_ecc curved).mpr
        ⟨foundSchemes, foundGroups⟩⟩
  | false =>
      exact ⟨[], [], (resolveLists_eq_ok_iff_of_not_ecc curved).mpr
        ⟨⟨shares.schemes, shares.groups⟩, rfl, rfl⟩⟩

/-- Of all rules, those that the requests did not see to are on credentials and
algorithms, and shared keys meet them. -/
theorem exists_builds (consistent : options.Consistent) {platform : Platform}
    (standard : platform.provider = .standard) :
    ∃ config, options.Builds platform config := by
  let gate := options.algorithms.recommendedSuitesOnly.getD true
  let suites := pskSuites options.credentials gate
  have psk : (Capabilities.ofSuites suites).psk = true :=
    List.any_eq_true.mpr ⟨_, shares.credentials.pskAes128Ccm8_mem, rfl⟩
  have required := shares.credentials.requirements?_eq
  obtain ⟨schemes, groups, lists⟩ :=
    shares.resolveLists_standard (Capabilities.ofSuites suites)
  exact ⟨options.resolve platform suites schemes groups, {
    provider := by
      rw [standard]
      decide
    roles := checkRole_eq_ok_iff.mpr consistent.roles
    verifierUse := by
      apply checkVerifierUse_eq_ok_iff.mpr
      simp [shares.credentials.verifier]
    suites := by
      rw [standard, resolveSuites, resolveSuites_of_unset shares.suites,
        shares.preselected, shares.credentials.derivedSuites_standard]
      rfl
    suites_ne_nil := List.ne_nil_of_mem shares.credentials.pskAes128Ccm8_mem
    capabilities := checkCapabilities_eq_ok_iff.mpr (Or.inl psk)
    equipped := fun suite member =>
      shares.credentials.equipped _ _ member
    pskStoreUse := checkPskStoreUse_eq_ok_iff.mpr fun _ => psk
    lists := by
      rw [standard]
      exact lists
    certificateUse := by
      apply checkCertificateUse_eq_ok_iff.mpr
      simp [shares.credentials.identity, shares.credentials.verifier]
    requirements := by
      rw [required]
      rfl
    keyUsage := by
      apply checkKeyUsage_eq_ok_iff.mpr
      simp [shares.credentials.identity]
    helloVerify := checkHelloVerify_eq_ok_iff.mpr
      ⟨consistent.helloVerify, fun _ _ => psk⟩
    replay := checkReplay_eq_ok_iff.mpr consistent.replay
    resolved := rfl }⟩

end

end SharesKeys

end Options

/-! Requests -/

namespace History

theorem sharesKeys_run {requests : List Request} {store : PskStore}
    (stored : (run requests).latest? .pskStore =
      some (.credentials (.pskStore store)))
    (unset : ∀ slot ∈ [Slot.identity, .verifier, .suites, .preselected,
      .schemes, .groups], (run requests).latest? slot = none) :
    (run requests).options.SharesKeys store := by
  have none : ∀ slot ∈ [Slot.identity, .verifier, .suites, .preselected,
      .schemes, .groups], ¬(run requests).options.isSet slot = true :=
    fun slot member => not_isSet_of_latest? requests (unset slot member)
  simp only [List.forall_mem_cons, List.not_mem_nil, false_imp_iff,
    implies_true, and_true, Options.isSet,
    Option.not_isSome_iff_eq_none] at none
  obtain ⟨identity, verifier, suites, preselected, schemes, groups⟩ := none
  have held := (holds_latest?_run requests .pskStore _ stored).stored
  exact {
    credentials := {
      pskStore := by
        rw [← held]
        rfl
      identity, verifier }
    suites, preselected, schemes, groups }

/-- Whatever else was requested and in whatever order, with a store of keys, no
certificates and no chosen list a configuration is built, on any number of cores
whose threads can be counted; and the threads are counted right. -/
theorem exists_build_of_pskStore {requests : List Request} {store : PskStore}
    {cores : UInt64} (countable : 6 * cores.toNat < UInt64.size)
    (stored : (run requests).latest? .pskStore =
      some (.credentials (.pskStore store)))
    (unset : ∀ slot ∈ [Slot.identity, .verifier, .suites, .preselected,
      .schemes, .groups], (run requests).latest? slot = none) :
    ∃ config,
      ((run requests).options.build (.ofCores cores .standard)).result =
        .ok config ∧
      ((run requests).options.resources.connectionThreads = none →
        config.resources.connectionThreads.toNat = 6 * max 1 cores.toNat) ∧
      ((run requests).options.resources.receiverThreads = none →
        config.resources.receiverThreads.toNat =
          (max 1 cores.toNat + 1) / 2) := by
  obtain ⟨config, builds⟩ := (sharesKeys_run stored unset).exists_builds
    (consistent_run requests) (Platform.provider_ofCores cores .standard)
  have counted := Platform.toNat_cores_ofCores cores .standard
  have countable := Platform.countable_ofCores countable .standard
  refine ⟨config, Options.build_eq_ok_iff.mpr builds, ?_, ?_⟩
  · intro free
    rw [builds.resolved, ← counted,
      ← Config.Resources.toNat_connectionThreads countable]
    simp [Options.resolve, Config.Resources.Options.resolve, free]
  · intro free
    rw [builds.resolved, ← counted,
      ← Config.Resources.toNat_receiverThreads countable]
    simp [Options.resolve, Config.Resources.Options.resolve, free]

/-- A client that shares keys, asked for after options of all kinds. -/
theorem exists_build_of_pskStore_client :
    let requests : List Request :=
      [.byValue (.replay (.extendedWindow 64)),
        .byValue (.resumption (.verifyThreshold 10)),
        .byValue (.algorithms (.recommendedSuitesOnly false)),
        .byValue (.credentials (.pskStore ⟨⟨0⟩, true⟩)),
        .byName (.handshakeMode "auto"),
        .byValue (.helloVerify (.enabled true)),
        .byValue (.role (.clientOnly true)),
        .byValue (.role (.clientAuthWanted true))]
    ∃ config,
      ((run requests).options.build (.ofCores 16 .standard)).result =
        .ok config ∧
      config.resources.connectionThreads.toNat = 96 ∧
      config.resources.receiverThreads.toNat = 8 := by
  intro requests
  obtain ⟨config, built, connection, receiver⟩ :=
    @exists_build_of_pskStore requests ⟨⟨0⟩, true⟩ 16 (by decide) rfl
      (by decide)
  exact ⟨config, built, connection rfl, receiver rfl⟩

end History

end DatagramTls
