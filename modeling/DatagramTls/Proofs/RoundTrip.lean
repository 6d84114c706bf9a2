import DatagramTls.Proofs.AlgorithmLists
import DatagramTls.Proofs.History

/-!
Building a configuration again from the options it stands for. The rebuilt
configuration is the same but for one option: a client only forgets the use of
the connection store from which on it verifies peers.
-/

namespace DatagramTls

open Build

namespace Config

/-- What a configuration becomes when it is reopened and built again. -/
def rebuilt (config : Config) : Config :=
  { config with
    resumption :=
      { config.resumption with
        verifyThreshold :=
          if config.role.clientOnly then Resumption.defaultVerifyThreshold
          else config.resumption.verifyThreshold } }

theorem same_iff {left right : Config} :
    left.same right = true ↔
      left.endpoint = right.endpoint ∧ left.role = right.role ∧
        left.credentials.same right.credentials = true ∧
        left.requirements = right.requirements ∧
        left.algorithms = right.algorithms ∧
        left.retransmission = right.retransmission ∧
        left.framing = right.framing ∧ left.resources = right.resources ∧
        left.diagnostics = right.diagnostics ∧
        left.resumption = right.resumption ∧
        left.helloVerify = right.helloVerify ∧ left.replay = right.replay ∧
        left.extensions = right.extensions ∧
        left.capabilities = right.capabilities ∧
        left.provider = right.provider := by
  simp [same, and_assoc]

theorem same_rebuilt_iff (config : Config) :
    config.same config.rebuilt = true ↔
      ¬(config.role.clientOnly = true ∧
        config.resumption.verifyThreshold ≠
          Resumption.defaultVerifyThreshold) := by
  have alike : config.same config.rebuilt = true ↔
      config.resumption.verifyThreshold =
        config.rebuilt.resumption.verifyThreshold := by
    simp [same_iff, rebuilt, Credentials.same, Resumption.ext_iff]
  rw [alike]
  cases client : config.role.clientOnly with
  | true => simp [rebuilt, client]
  | false => simp [rebuilt, client]

end Config

namespace Options.Builds

variable {options : Options} {platform : Platform} {config : Config}
  (builds : options.Builds platform config)
include builds

/-! Topics that depend on the role -/

theorem withoutServerStances (client : config.role.clientOnly = true) :
    options.WithoutServerStances := by
  rw [builds.role_eq] at client
  exact (checkRole_eq_ok_iff.mp builds.roles).clientOnly
    (Config.Role.Options.clientOnly_resolve.mp client)

theorem clientAuth_of_clientOnly (client : config.role.clientOnly = true) :
    config.role.clientAuthWanted = false ∧
      config.role.clientAuthRequired = false := by
  have without := builds.withoutServerStances client
  rw [builds.role_eq] at client ⊢
  have chosen := Config.Role.Options.clientOnly_resolve.mp client
  simp [Config.Role.Options.resolve, without.clientAuthWanted,
    without.clientAuthRequired, chosen]

theorem helloVerify_of_clientOnly (client : config.role.clientOnly = true) :
    config.helloVerify.enabled = true ∧
      config.helloVerify.enabledForPsk = true := by
  have without := builds.withoutServerStances client
  rw [builds.helloVerify_eq]
  have enabled : options.helloVerify.resolve.enabled = true := by
    apply Bool.of_not_eq_false
    intro off
    exact without.helloVerify
      (Config.HelloVerify.Options.enabled_resolve_eq_false_iff.mp off)
  refine ⟨enabled, ?_⟩
  change options.helloVerify.enabledForPsk.getD
    options.helloVerify.resolve.enabled = true
  rw [enabled]
  rcases chosen : options.helloVerify.enabledForPsk with _ | _ | _
  · rfl
  · exact absurd chosen without.helloVerifyForPsk
  · rfl

theorem serverSessionId_of_clientOnly (client : config.role.clientOnly = true) :
    config.resumption.serverSessionId = true := by
  have on := (builds.withoutServerStances client).serverSessionId
  rw [builds.resumption_eq]
  change options.resumption.serverSessionId.getD true = true
  rcases chosen : options.resumption.serverSessionId with _ | _ | _
  · rfl
  · exact absurd chosen on
  · rfl

theorem resolve_reopenRole (consistent : options.Consistent) :
    config.reopenRole.resolve = config.role := by
  cases client : config.role.clientOnly with
  | true =>
      obtain ⟨unwanted, unrequired⟩ := builds.clientAuth_of_clientOnly client
      ext <;> simp [Config.reopenRole, Config.Role.Options.resolve,
        Config.whenever, client, unwanted, unrequired]
  | false =>
      have exclusive : config.role.clientAuthWanted = true →
          config.role.clientAuthRequired = false := by
        rw [builds.role_eq]
        exact consistent.clientAuth_resolve
      ext
      case clientAuthRequired =>
          cases required : config.role.clientAuthRequired with
          | false => simp [Config.reopenRole, Config.Role.Options.resolve,
              Config.whenever, client, required]
          | true =>
              have unwanted : config.role.clientAuthWanted = false := by
                apply Bool.eq_false_iff.mpr
                intro wanted
                rw [exclusive wanted] at required
                cases required
              cases verified : config.credentials.verifier.isSome <;>
                simp [Config.reopenRole, Config.Role.Options.resolve,
                  Config.whenever, client, required, unwanted, verified]
      all_goals
        simp [Config.reopenRole, Config.Role.Options.resolve, Config.whenever,
          client]

theorem resolve_reopenHelloVerify :
    config.reopenHelloVerify.resolve = config.helloVerify := by
  cases client : config.role.clientOnly with
  | true =>
      obtain ⟨enabled, forPsk⟩ := builds.helloVerify_of_clientOnly client
      ext <;> simp [Config.reopenHelloVerify,
        Config.HelloVerify.Options.resolve, Config.whenever, client, enabled,
        forPsk]
  | false =>
      ext <;> simp [Config.reopenHelloVerify,
        Config.HelloVerify.Options.resolve, Config.whenever, client]

theorem resolve_reopenResumption :
    config.reopenResumption.resolve config.helloVerify.enabled =
      config.rebuilt.resumption := by
  cases client : config.role.clientOnly with
  | true =>
      have sessionId := builds.serverSessionId_of_clientOnly client
      have enabled := (builds.helloVerify_of_clientOnly client).1
      ext <;> simp [Config.reopenResumption,
        Config.Resumption.Options.resolve, Config.rebuilt, Config.whenever,
        client, sessionId, enabled]
  | false =>
      cases enabled : config.helloVerify.enabled with
      | true =>
          ext <;> simp [Config.reopenResumption,
            Config.Resumption.Options.resolve, Config.rebuilt, Config.whenever,
            client, enabled]
      | false =>
          have zero := builds.verifyThreshold_of_disabled enabled
          ext <;> simp [Config.reopenResumption,
            Config.Resumption.Options.resolve, Config.rebuilt, Config.whenever,
            client, zero]

/-! Building again, for any platform whose provider has what is used -/

theorem resolveSuites_reopen {provider : Provider}
    (served : config.ServedBy provider) :
    (config.reopen.resolveSuites provider).result =
      .ok config.algorithms.suites := by
  refine (resolveSuites_eq_ok_iff_of_chosen rfl).mpr ⟨rfl, ?_⟩
  refine checkChosenSuites_eq_ok_iff.mpr ⟨builds.suites_recommended, ?_⟩
  intro suite member
  exact Provider.supportsSuite_iff.mpr
    ⟨served.suites suite member, builds.ne_null member⟩

theorem resolveLists_reopen {provider : Provider}
    (served : config.ServedBy provider) :
    (config.reopen.resolveLists
        (Capabilities.ofSuites config.algorithms.suites)
        config.reopen.credentials.requirements? provider).result =
      .ok (config.algorithms.schemes, config.algorithms.groups) := by
  cases curved : (Capabilities.ofSuites config.algorithms.suites).ecc with
  | true =>
      obtain ⟨someScheme, someGroup⟩ := builds.lists_ne_nil_of_ecc curved
      refine (resolveLists_eq_ok_iff_of_ecc curved).mpr
        ⟨(Catalog.resolve_nonempty?_eq_ok_iff someScheme).mpr ⟨rfl, ?_⟩,
          (Catalog.resolve_nonempty?_eq_ok_iff someGroup).mpr ⟨rfl, ?_⟩⟩
      · refine Catalog.checkChosen_eq_ok_iff.mpr
          ⟨builds.schemes_recommended, ?_⟩
        intro scheme member
        exact Provider.supportsScheme_iff.mpr (served.schemes scheme member)
      · refine Catalog.checkChosen_eq_ok_iff.mpr
          ⟨builds.groups_recommended, ?_⟩
        intro group member
        exact Provider.supportsGroup_iff.mpr (served.groups group member)
  | false =>
      obtain ⟨_, noScheme, noGroup⟩ :=
        (resolveLists_eq_ok_iff_of_not_ecc curved).mp builds.lists
      refine (resolveLists_eq_ok_iff_of_not_ecc curved).mpr
        ⟨?_, noScheme, noGroup⟩
      simp [Config.reopen, Config.Algorithms.reopen,
        Config.Algorithms.nonempty?, noScheme, noGroup]

theorem verifierRequired_reopen
    (unverified : config.credentials.verifier = none)
    (consistent : options.Consistent)
    (unrequired : options.verifierRequired = false) :
    config.reopen.verifierRequired = false := by
  have unwanted : config.role.clientAuthWanted = false := by
    rw [builds.role_eq]
    exact (Bool.or_eq_false_iff.mp unrequired).1
  change (config.reopenRole.resolve.clientAuthWanted ||
    (config.reopenRole.resolve.clientAuthRequired &&
      config.reopenRole.clientAuthRequired.isSome)) = false
  rw [builds.resolve_reopenRole consistent, unwanted]
  -- Without a verifier, a requirement is only ever a default.
  cases required : config.role.clientAuthRequired with
  | false => rfl
  | true => simp [Config.reopenRole, Config.whenever, required, unverified]

theorem equipped_reopen (consistent : options.Consistent)
    {suite : CipherSuite} (member : suite ∈ config.algorithms.suites) :
    Equipped config.credentials config.role.clientOnly
      config.reopen.verifierRequired suite := by
  have equipped := builds.equipped suite member
  rw [← builds.credentials_eq, ← builds.role_eq] at equipped
  exact { equipped with
    verifier := by
      intro certified
      rcases equipped.verifier certified with verified | ⟨server, unrequired⟩
      · exact Or.inl verified
      · cases verified : config.credentials.verifier with
        | some verifier => exact Or.inl rfl
        | none =>
            exact Or.inr ⟨server,
              builds.verifierRequired_reopen verified consistent unrequired⟩ }

theorem resolve_reopen (consistent : options.Consistent) (other : Platform) :
    config.reopen.resolve other config.algorithms.suites
        config.algorithms.schemes config.algorithms.groups =
      { config.rebuilt with provider := other.provider } := by
  have endpoint : config.reopen.endpoint.resolve = config.endpoint := by
    have resolved : config.endpoint = options.endpoint.resolve :=
      congrArg Config.endpoint builds.resolved
    change config.endpoint.reopen.resolve = config.endpoint
    rw [resolved]
    exact Config.Endpoint.resolve_reopen_resolve options.endpoint
  have framing : config.reopen.framing.resolve = config.framing := by
    change config.framing.reopen.resolve = config.framing
    rw [builds.framing_eq]
    exact Config.Framing.resolve_reopen_resolve options.framing
  have role : config.reopen.role.resolve = config.role :=
    builds.resolve_reopenRole consistent
  have helloVerify : config.reopen.helloVerify.resolve = config.helloVerify :=
    builds.resolve_reopenHelloVerify
  have resumption :
      config.reopen.resumption.resolve config.helloVerify.enabled =
        config.rebuilt.resumption :=
    builds.resolve_reopenResumption
  have requirements :
      config.reopen.credentials.requirements? = config.requirements := by
    rw [builds.requirements_eq, ← builds.credentials_eq]
    rfl
  unfold Options.resolve
  rw [endpoint, framing, role, helloVerify, resumption, requirements,
    ← builds.capabilities_eq]
  rfl

theorem checkHelloVerify_reopen (consistent : options.Consistent) :
    config.reopen.checkHelloVerify
      (Capabilities.ofSuites config.algorithms.suites) = .ok () := by
  refine checkHelloVerify_eq_ok_iff.mpr
    ⟨(consistent.reopen builds).helloVerify, ?_⟩
  intro notOff offForPsk
  obtain ⟨server, forPsk⟩ := Config.whenever_eq_some_iff.mp offForPsk
  have enabled : config.helloVerify.enabled = true := by
    apply Bool.of_not_eq_false
    intro disabled
    exact notOff (Config.whenever_eq_some_iff.mpr ⟨server, disabled⟩)
  exact builds.psk_of_disabledForPsk enabled forPsk

theorem reopen_on (consistent : options.Consistent) {other : Platform}
    (served : config.ServedBy other.provider) :
    config.reopen.Builds other
      { config.rebuilt with provider := other.provider } := by
  have role : config.reopen.role.resolve = options.role.resolve := by
    rw [← builds.role_eq]
    exact builds.resolve_reopenRole consistent
  have credentials : config.reopen.credentials = options.credentials :=
    builds.credentials_eq
  have stillConsistent := consistent.reopen builds
  exact {
    provider := served.accepted
    roles := checkRole_eq_ok_iff.mpr stillConsistent.roles
    verifierUse := by
      have verifierUse := builds.verifierUse
      unfold checkVerifierUse at verifierUse ⊢
      rwa [role, credentials]
    suites := builds.resolveSuites_reopen served
    suites_ne_nil := builds.suites_ne_nil
    capabilities := by
      rw [role]
      exact builds.capabilities
    equipped := by
      intro suite member
      rw [role, ← builds.role_eq]
      exact builds.equipped_reopen consistent member
    pskStoreUse := by
      have pskStoreUse := builds.pskStoreUse
      unfold checkPskStoreUse at pskStoreUse ⊢
      rwa [credentials]
    lists := builds.resolveLists_reopen served
    certificateUse := by
      have certificateUse := builds.certificateUse
      unfold checkCertificateUse at certificateUse ⊢
      rwa [credentials]
    requirements := by
      rw [credentials]
      exact builds.requirements
    keyUsage := by
      have keyUsage := builds.keyUsage
      unfold checkKeyUsage at keyUsage ⊢
      rwa [role, credentials]
    helloVerify := builds.checkHelloVerify_reopen consistent
    replay := checkReplay_eq_ok_iff.mpr stillConsistent.replay
    resolved := (builds.resolve_reopen consistent other).symm }

theorem reopen (consistent : options.Consistent) :
    config.reopen.Builds platform config.rebuilt := by
  have rebuilt := builds.reopen_on consistent builds.servedBy
  rwa [← builds.provider_eq] at rebuilt

end Options.Builds

namespace History

/-- Whatever was requested, what was built is built again, and is the same
unless it is a client only with a threshold of its own. -/
theorem rebuilt_same_iff (requests : List Request) {platform : Platform}
    {config : Config}
    (built : ((run requests).options.build platform).result = .ok config) :
    (config.reopen.build platform).result = .ok config.rebuilt ∧
      (config.same config.rebuilt = true ↔
        ¬(config.role.clientOnly = true ∧
          config.resumption.verifyThreshold ≠
            Config.Resumption.defaultVerifyThreshold)) := by
  have builds := Options.build_eq_ok_iff.mp built
  have reopened := builds.reopen (consistent_run requests)
  exact ⟨Options.build_eq_ok_iff.mpr reopened, config.same_rebuilt_iff⟩

/-- A server with a threshold of its own is the same when it is rebuilt. -/
theorem rebuilt_same_iff_server :
    let requests : List Request :=
      [.byValue (.credentials (.pskStore ⟨⟨0⟩, false⟩)),
        .byValue (.resumption (.verifyThreshold 50))]
    ∃ config,
      ((run requests).options.build (.ofCores 4 .standard)).result =
        .ok config ∧
      (config.reopen.build (.ofCores 4 .standard)).result =
        .ok config.rebuilt ∧
      config.same config.rebuilt = true := by
  intro requests
  have rebuilt := @rebuilt_same_iff requests (.ofCores 4 .standard) _ rfl
  exact ⟨_, rfl, rebuilt.1, rebuilt.2.mpr (by decide)⟩

/-- A client only with a threshold of its own is not. -/
theorem client_forgets_threshold :
    let requests : List Request :=
      [.byValue (.credentials (.pskStore ⟨⟨0⟩, false⟩)),
        .byValue (.role (.clientOnly true)),
        .byValue (.resumption (.verifyThreshold 50))]
    ∃ config rebuilt,
      ((run requests).options.build (.ofCores 4 .standard)).result =
        .ok config ∧
      (config.reopen.build (.ofCores 4 .standard)).result = .ok rebuilt ∧
      config.same rebuilt = false := by
  intro requests
  exact ⟨_, _, rfl, rfl, by decide⟩

end History

end DatagramTls
