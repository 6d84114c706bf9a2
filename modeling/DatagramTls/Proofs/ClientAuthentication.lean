import DatagramTls.Proofs.RoundTrip

/-!
Roles and the authentication of clients. Whatever was requested, in whatever
order, the role of what is built does not contradict itself; and a connector
with a server side asks its clients for certificates unless a request told it
not to, which is then the only way to go without a verifier.
-/

namespace DatagramTls

open Build

structure Config.RoleAgrees (config : Config) : Prop where
  oneSide : config.role.clientOnly = true → config.role.serverOnly = false
  clientOnly : config.role.clientOnly = true →
    config.role.clientAuthWanted = false ∧
      config.role.clientAuthRequired = false
  exclusive : config.role.clientAuthWanted = true →
    config.role.clientAuthRequired = false
  serverOnly : config.role.serverOnly = true →
    config.role.handshakeMode = .none
  verified : config.role.serverOnly = true →
    config.credentials.verifier.isSome = true →
      config.role.clientAuthWanted = true ∨
        config.role.clientAuthRequired = true

/-- Clients are asked for certificates by default, and whoever asked for that
by a request has a verifier. -/
structure History.AsksClients (history : History) (config : Config) :
    Prop where
  byDefault : config.role.clientOnly = false →
    history.latest? .clientAuthWanted = none →
    history.latest? .clientAuthRequired = none →
      config.role.clientAuthRequired = true
  unverified : ∀ suite ∈ config.algorithms.suites,
    suite.usesCertificate = true → config.credentials.verifier = none →
      config.role.clientOnly = false ∧
        config.role.clientAuthWanted = false ∧
        history.latest? .clientAuthRequired ≠
          some (.role (.clientAuthRequired true))

namespace Options

variable {options : Options} {platform : Platform} {config : Config}

/-- A server that needs no verifier neither wants clients to authenticate nor
was told to require it. -/
theorem verifierRequired_eq_false_iff :
    options.verifierRequired = false ↔
      options.role.resolve.clientAuthWanted = false ∧
        options.role.clientAuthRequired ≠ some true := by
  have byChoice :
      (options.role.resolve.clientAuthRequired &&
          options.role.clientAuthRequired.isSome) = true ↔
        options.role.clientAuthRequired = some true := by
    rcases chosen : options.role.clientAuthRequired with _ | _ | _ <;>
      simp [Config.Role.Options.resolve, chosen]
  rw [verifierRequired, Bool.or_eq_false_iff, Ne, ← byChoice,
    Bool.not_eq_true]

namespace Builds

variable (builds : options.Builds platform config)
include builds

theorem serverOnly_of_clientOnly (client : config.role.clientOnly = true) :
    config.role.serverOnly = false := by
  rw [builds.role_eq] at client ⊢
  apply Bool.eq_false_iff.mpr
  intro server
  exact (checkRole_eq_ok_iff.mp builds.roles).oneSide
    (Config.Role.Options.clientOnly_resolve.mp client)
    (Config.Role.Options.serverOnly_resolve.mp server)

theorem handshakeMode_of_serverOnly (server : config.role.serverOnly = true) :
    config.role.handshakeMode = .none := by
  rw [builds.role_eq] at server ⊢
  have chosen := Config.Role.Options.serverOnly_resolve.mp server
  have manual := (checkRole_eq_ok_iff.mp builds.roles).serverOnly chosen
  rcases mode : options.role.handshakeMode with _ | _ | _
  · simp [Config.Role.Options.resolve, mode, chosen]
  · exact absurd mode manual
  · simp [Config.Role.Options.resolve, mode]

theorem clientAuth_of_verifier (server : config.role.serverOnly = true)
    (verified : config.credentials.verifier.isSome = true) :
    config.role.clientAuthWanted = true ∨
      config.role.clientAuthRequired = true := by
  rw [builds.role_eq] at server ⊢
  rw [builds.credentials_eq] at verified
  exact checkVerifierUse_eq_ok_iff.mp builds.verifierUse
    (Config.Role.Options.serverOnly_resolve.mp server) verified

theorem roleAgrees (consistent : options.Consistent) : config.RoleAgrees where
  oneSide := builds.serverOnly_of_clientOnly
  clientOnly := builds.clientAuth_of_clientOnly
  exclusive := by
    rw [builds.role_eq]
    exact consistent.clientAuth_resolve
  serverOnly := builds.handshakeMode_of_serverOnly
  verified := builds.clientAuth_of_verifier

theorem clientAuthRequired_of_unset (server : config.role.clientOnly = false)
    (unwanted : options.role.clientAuthWanted = none)
    (unrequired : options.role.clientAuthRequired = none) :
    config.role.clientAuthRequired = true := by
  rw [builds.role_eq] at server ⊢
  have server : options.role.clientOnly.getD false = false := server
  simp [Config.Role.Options.resolve, server, unwanted, unrequired]

theorem verifierRequired_of_unverified {suite : CipherSuite}
    (member : suite ∈ config.algorithms.suites)
    (certified : suite.usesCertificate = true)
    (unverified : config.credentials.verifier = none) :
    config.role.clientOnly = false ∧ options.verifierRequired = false := by
  rw [builds.credentials_eq] at unverified
  rw [builds.role_eq]
  rcases (builds.equipped suite member).verifier certified with
    verified | without
  · rw [unverified] at verified
    cases verified
  · exact without

end Builds

end Options

namespace History

/-- The role that is built agrees with itself, and with what was requested of
the authentication of clients. -/
theorem asksClients_of_build (requests : List Request) {platform : Platform}
    {config : Config}
    (built : ((run requests).options.build platform).result = .ok config) :
    config.RoleAgrees ∧ (run requests).AsksClients config := by
  have builds := Options.build_eq_ok_iff.mp built
  refine ⟨builds.roleAgrees (consistent_run requests), ?_⟩
  exact {
    byDefault := by
      intro server unwanted unrequired
      apply builds.clientAuthRequired_of_unset server
      · exact Option.not_isSome_iff_eq_none.mp
          (not_isSet_of_latest? requests unwanted)
      · exact Option.not_isSome_iff_eq_none.mp
          (not_isSet_of_latest? requests unrequired)
    unverified := by
      intro suite member certified unverified
      obtain ⟨server, unneeded⟩ := builds.verifierRequired_of_unverified member
        certified unverified
      obtain ⟨unwanted, notRequired⟩ :=
        Options.verifierRequired_eq_false_iff.mp unneeded
      rw [← builds.role_eq] at unwanted
      refine ⟨server, unwanted, fun latest => notRequired ?_⟩
      have held := (holds_latest?_run requests _ _ latest).stored
      exact congrArg (·.role.clientAuthRequired) held.symm }

/-- A server without a verifier, which only came to be by a request that took
another one back. -/
theorem asksClients_of_build_server :
    let requests : List Request :=
      [.byValue (.role (.clientOnly true)),
        .byValue (.role (.serverOnly true)),
        .byValue (.role (.clientOnly false)),
        .byValue (.role (.serverOnly true)),
        .byValue (.role (.clientAuthRequired true)),
        .byValue (.role (.clientAuthWanted true)),
        .byValue (.role (.clientAuthRequired false)),
        .byValue (.credentials (.identity (.ofKey ⟨0⟩ (.ec .secp256r1))))]
    ∃ config,
      ((run requests).options.build (.ofCores 4 .standard)).result =
        .ok config ∧
      config.role = ⟨false, true, .none, false, false⟩ ∧
      config.credentials.verifier = none ∧
      (∃ suite ∈ config.algorithms.suites, suite.usesCertificate = true) ∧
      config.RoleAgrees ∧ (run requests).AsksClients config := by
  intro requests
  obtain ⟨config, built, found⟩ := exists_of_any_toOption
    (show ((run requests).options.build
        (.ofCores 4 .standard)).result.toOption.any
      (fun config =>
        config.role = ⟨false, true, .none, false, false⟩ ∧
        config.credentials.verifier = none ∧
        ∃ suite ∈ config.algorithms.suites,
          suite.usesCertificate = true) = true by decide +kernel)
  obtain ⟨role, unverified, certified⟩ := of_decide_eq_true found
  exact ⟨config, built, role, unverified, certified,
    asksClients_of_build requests built⟩

end History

end DatagramTls
