import DatagramTls.Proofs.Build.Outcome
import DatagramTls.Proofs.Registrations

/-!
The credentials of a configuration and its cipher suites. Each credential is of
use to a suite, each suite finds the credentials it needs, and only a client
only goes without any authentication.
-/

namespace DatagramTls

open Build

namespace CipherSuite

theorem keyExchange_eq_null_iff {suite : CipherSuite} :
    suite.keyExchange = .null ↔ suite = .null := by
  cases suite <;> decide

theorem anonymous_of_unauthenticated {suite : CipherSuite}
    (unshared : suite.usesPsk = false)
    (uncertified : suite.usesCertificate = false) (protecting : suite ≠ .null) :
    suite.keyExchange = .ecdhAnonymous := by
  unfold usesPsk at unshared
  unfold usesCertificate certificateFamily? at uncertified
  cases exchange : suite.keyExchange with
  | null => exact absurd (keyExchange_eq_null_iff.mp exchange) protecting
  | psk | ecdhePsk =>
      rw [exchange] at unshared
      cases unshared
  | ecdhe family =>
      rw [exchange] at uncertified
      cases uncertified
  | ecdhAnonymous => rfl

end CipherSuite

/-- The credentials of the configuration are those that its suites use. -/
structure Config.ServesSuites (config : Config) : Prop where
  store_iff : config.credentials.pskStore.isSome = true ↔
    ∃ suite ∈ config.algorithms.suites, suite.usesPsk = true
  ecdhe : ∀ suite ∈ config.algorithms.suites, suite.keyExchange = .ecdhePsk →
    ∃ store ∈ config.credentials.pskStore, store.servesEcdhe = true
  certificate : config.credentials.identity.isSome = true ∨
      config.credentials.verifier.isSome = true →
    ∃ suite ∈ config.algorithms.suites, suite.usesCertificate = true
  identity : ∀ suite ∈ config.algorithms.suites, suite.usesCertificate = true →
    config.role.clientOnly = false →
      config.credentials.identity.isSome = true
  verifier : ∀ suite ∈ config.algorithms.suites, suite.usesCertificate = true →
    config.role.clientOnly = true → config.credentials.verifier.isSome = true
  family : ∀ suite ∈ config.algorithms.suites,
    ∀ family ∈ suite.certificateFamily?,
      ∀ identity ∈ config.credentials.identity,
        identity.registrations.isSome = true →
          ∃ requirements ∈ config.requirements,
            family ∈ requirements.keyFamilies
  authenticated : config.role.clientOnly = false →
    ∃ suite ∈ config.algorithms.suites,
      suite.usesPsk = true ∨ suite.usesCertificate = true
  anonymous : config.credentials.pskStore = none →
    config.credentials.identity = none → config.credentials.verifier = none →
      config.role.clientOnly = true ∧
        ∀ suite ∈ config.algorithms.suites,
          suite.keyExchange = .ecdhAnonymous

namespace Options.Builds

variable {options : Options} {platform : Platform} {config : Config}
  (builds : options.Builds platform config)
include builds

theorem store_iff : config.credentials.pskStore.isSome = true ↔
    ∃ suite ∈ config.algorithms.suites, suite.usesPsk = true := by
  rw [builds.credentials_eq]
  constructor
  · intro stored
    have used := checkPskStoreUse_eq_ok_iff.mp builds.pskStoreUse stored
    exact List.any_eq_true.mp used
  · intro ⟨suite, member, shared⟩
    obtain ⟨store, stored, _⟩ := (builds.equipped suite member).store shared
    rw [stored]
    rfl

theorem ecdhe {suite : CipherSuite}
    (member : suite ∈ config.algorithms.suites)
    (exchange : suite.keyExchange = .ecdhePsk) :
    ∃ store ∈ config.credentials.pskStore, store.servesEcdhe = true := by
  have shared : suite.usesPsk = true := by
    rw [CipherSuite.usesPsk, exchange]
    rfl
  have curved : suite.usesEcc = true := by
    rw [CipherSuite.usesEcc, exchange]
    rfl
  obtain ⟨store, stored, serving⟩ :=
    (builds.equipped suite member).store shared
  rw [builds.credentials_eq]
  exact ⟨store, stored, serving curved⟩

theorem certificate
    (presented : config.credentials.identity.isSome = true ∨
      config.credentials.verifier.isSome = true) :
    ∃ suite ∈ config.algorithms.suites, suite.usesCertificate = true := by
  rw [builds.credentials_eq] at presented
  have used :=
    checkCertificateUse_eq_ok_iff.mp builds.certificateUse presented
  exact List.any_eq_true.mp used

theorem identity {suite : CipherSuite}
    (member : suite ∈ config.algorithms.suites)
    (certified : suite.usesCertificate = true)
    (server : config.role.clientOnly = false) :
    config.credentials.identity.isSome = true := by
  rw [builds.role_eq] at server
  rw [builds.credentials_eq]
  rcases (builds.equipped suite member).identity certified with
    identified | client
  · exact identified
  · rw [server] at client
    cases client

theorem verifier {suite : CipherSuite}
    (member : suite ∈ config.algorithms.suites)
    (certified : suite.usesCertificate = true)
    (client : config.role.clientOnly = true) :
    config.credentials.verifier.isSome = true := by
  rw [builds.role_eq] at client
  rw [builds.credentials_eq]
  rcases (builds.equipped suite member).verifier certified with
    verified | ⟨server, _⟩
  · exact verified
  · rw [client] at server
    cases server

theorem family {suite : CipherSuite}
    (member : suite ∈ config.algorithms.suites) {family : KeyFamily}
    (certified : suite.certificateFamily? = some family) {identity : Identity}
    (identified : config.credentials.identity = some identity)
    (registered : identity.registrations.isSome = true) :
    ∃ requirements ∈ config.requirements,
      family ∈ requirements.keyFamilies := by
  rw [builds.credentials_eq] at identified
  have stated : (options.credentials.identity.bind
      (·.registrations)).isSome = true := by
    rwa [identified]
  have families := Config.Credentials.keyFamilies?_of_stated stated
  rw [builds.requirements_eq]
  exact ⟨_, Config.Credentials.requirements?_of_stated stated,
    (builds.equipped suite member).family family certified _ families⟩

theorem authenticated (server : config.role.clientOnly = false) :
    ∃ suite ∈ config.algorithms.suites,
      suite.usesPsk = true ∨ suite.usesCertificate = true := by
  rw [builds.role_eq] at server
  rcases checkCapabilities_eq_ok_iff.mp builds.capabilities with
    shared | certified | client
  · obtain ⟨suite, member, shared⟩ := List.any_eq_true.mp shared
    exact ⟨suite, member, Or.inl shared⟩
  · obtain ⟨suite, member, certified⟩ := List.any_eq_true.mp certified
    exact ⟨suite, member, Or.inr certified⟩
  · rw [server] at client
    cases client

theorem anonymous (unstored : config.credentials.pskStore = none)
    (unidentified : config.credentials.identity = none)
    (unverified : config.credentials.verifier = none) :
    config.role.clientOnly = true ∧
      ∀ suite ∈ config.algorithms.suites,
        suite.keyExchange = .ecdhAnonymous := by
  have unshared : ∀ suite ∈ config.algorithms.suites,
      suite.usesPsk = false := by
    intro suite member
    apply Bool.eq_false_iff.mpr
    intro shared
    have stored := builds.store_iff.mpr ⟨suite, member, shared⟩
    rw [unstored] at stored
    cases stored
  -- Certificates need an identity on a server and a verifier on a client only.
  have uncertified : ∀ suite ∈ config.algorithms.suites,
      suite.usesCertificate = false := by
    intro suite member
    apply Bool.eq_false_iff.mpr
    intro certified
    cases role : config.role.clientOnly with
    | true =>
        have verified := builds.verifier member certified role
        rw [unverified] at verified
        cases verified
    | false =>
        have identified := builds.identity member certified role
        rw [unidentified] at identified
        cases identified
  constructor
  · apply Bool.of_not_eq_false
    intro server
    obtain ⟨suite, member, shared | certified⟩ := builds.authenticated server
    · rw [unshared suite member] at shared
      cases shared
    · rw [uncertified suite member] at certified
      cases certified
  · intro suite member
    exact CipherSuite.anonymous_of_unauthenticated (unshared suite member)
      (uncertified suite member) (builds.ne_null member)

end Options.Builds

/-- A build keeps the credentials, and they go with the suites it found. -/
theorem Options.servesSuites_of_build {options : Options} {platform : Platform}
    {config : Config} (built : (options.build platform).result = .ok config) :
    config.credentials = options.credentials ∧ config.ServesSuites := by
  have builds := build_eq_ok_iff.mp built
  refine ⟨builds.credentials_eq, ?_⟩
  exact {
    store_iff := builds.store_iff
    ecdhe := fun _ => builds.ecdhe
    certificate := builds.certificate
    identity := fun _ => builds.identity
    verifier := fun _ => builds.verifier
    family := fun _ member _ certified _ => builds.family member certified
    authenticated := builds.authenticated
    anonymous := builds.anonymous }

/-- A connector for both sides with every kind of credentials. -/
theorem Options.servesSuites_of_build_both :
    let identity := Identity.ofKey ⟨1⟩ (.ec .secp256r1)
    let verifier : Verifier :=
      ⟨⟨2⟩, [.rawPublicKey], some [.trustedKey (.ec .secp384r1)]⟩
    let options : Options :=
      { credentials := ⟨some ⟨⟨0⟩, true⟩, some identity, some verifier⟩ }
    ∃ config,
      (options.build (.ofCores 4 .standard)).result = .ok config ∧
      config.credentials = options.credentials ∧ config.ServesSuites := by
  intro identity verifier options
  have succeeds :
      (options.build (.ofCores 4 .standard)).result.isOk = true := by
    decide +kernel
  cases built : (options.build (.ofCores 4 .standard)).result with
  | error error =>
      rw [built] at succeeds
      cases succeeds
  | ok config => exact ⟨config, rfl, Options.servesSuites_of_build built⟩

end DatagramTls
