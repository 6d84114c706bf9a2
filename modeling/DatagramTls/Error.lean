import DatagramTls.Protocol
import DatagramTls.Provider

/-!
What can go wrong, by cause: setting one option, reading a certificate, or putting the options
together. Every cause has one message.
-/

namespace DatagramTls

/-! Causes that name an option -/

inductive Limit where
  | maxRetransmissions
  | maxFragmentLengthCode
  | recordSizeLimit
  | reassemblyLength
  | outboundBuffer
  | maxConnections
  | staleThreshold
  | connectionThreads
  | receiverThreads
  | receiveBuffer
  | sendBuffer
  | healthInterval
  | autoResumption
  | resumptionThreshold
  deriving DecidableEq

namespace Limit

def label : Limit → String
  | .maxRetransmissions => "max retransmissions"
  | .maxFragmentLengthCode => "max fragment length code"
  | .recordSizeLimit => "record size limit"
  | .reassemblyLength => "max fragmented handshake message length"
  | .outboundBuffer => "outbound message buffer size"
  | .maxConnections => "max connections"
  | .staleThreshold => "stale connection threshold"
  | .connectionThreads => "connection thread count"
  | .receiverThreads => "receiver thread count"
  | .receiveBuffer => "socket receive buffer size"
  | .sendBuffer => "socket send buffer size"
  | .healthInterval => "health status interval"
  | .autoResumption => "auto resumption timeout"
  | .resumptionThreshold => "verify peers on resumption threshold"

def range : Limit → String
  | .maxFragmentLengthCode => "\x7b1, 2, 3, 4\x7d"
  | .recordSizeLimit => "[64, 65535]"
  | .resumptionThreshold => "[0, 100]"
  | .staleThreshold | .healthInterval => ">= 1s"
  | .autoResumption => ">= 1ms"
  | _ => ">= 1"

end Limit

inductive Stance where
  | clientOnly
  | serverOnly
  | autoHandshake
  | clientAuth
  | clientAuthWanted
  | clientAuthRequired
  | sessionIdOff
  | helloVerify
  | helloVerifyOff
  | helloVerifyForPsk
  | helloVerifyForPskOn
  | helloVerifyForPskOff
  | resumptionThreshold
  | mtu
  | mtuLimit
  | antiReplay
  | extendedWindow
  deriving DecidableEq

def Stance.label : Stance → String
  | .clientOnly => "client only"
  | .serverOnly => "server only"
  | .autoHandshake => "default handshake mode 'auto'"
  | .clientAuth => "client authentication"
  | .clientAuthWanted => "client authentication wanted"
  | .clientAuthRequired => "client authentication required"
  | .sessionIdOff => "disabled server session id"
  | .helloVerify => "HELLO_VERIFY_REQUEST"
  | .helloVerifyOff => "disabled HELLO_VERIFY_REQUEST"
  | .helloVerifyForPsk => "HELLO_VERIFY_REQUEST for PSK"
  | .helloVerifyForPskOn => "enabled HELLO_VERIFY_REQUEST for PSK"
  | .helloVerifyForPskOff => "disabled HELLO_VERIFY_REQUEST for PSK"
  | .resumptionThreshold => "verify peers on resumption threshold"
  | .mtu => "MTU"
  | .mtuLimit => "MTU limit"
  | .antiReplay => "anti replay filter"
  | .extendedWindow => "extended window filter"

inductive Listing where
  | suites
  | preselected
  | schemes
  | groups
  deriving DecidableEq

def Listing.label : Listing → String
  | .suites => "cipher suites"
  | .preselected => "preselected cipher suites"
  | .schemes => "signature and hash algorithms"
  | .groups => "supported groups (curves)"

inductive Named where
  | suite
  | scheme
  | group
  | handshakeMode
  deriving DecidableEq

def Named.label : Named → String
  | .suite => "cipher suite"
  | .scheme => "signature and hash algorithm"
  | .group => "group (curve)"
  | .handshakeMode => "default handshake mode"

def commaSeparated (names : List String) : String :=
  ", ".intercalate names

def notRecommendedMessage (listing : Listing) (names : List String) : String :=
  s!"not recommended {listing.label} {commaSeparated names} used " ++
    "(requires relaxing the recommended-only gate)"

/-! Setting an option -/

inductive OptionError where
  | outOfRange (limit : Limit) (value : Nat)
  | emptyList (listing : Listing)
  | nullSuite
  | unknownName (named : Named) (name : String)
  | notRecommended (listing : Listing) (names : List String)
  | unsupportedVersion (version : Version)
  | conflict (stance opposed : Stance)
  | noPskSuite
  deriving DecidableEq

def OptionError.message : OptionError → String
  | .outOfRange limit value => s!"{limit.label} must be within {limit.range}, not {value}"
  | .emptyList listing => s!"{listing.label} must contain at least one entry"
  | .nullSuite => "NULL cipher suite is not supported by the connector"
  | .unknownName named name => s!"{named.label} '{name}' is not supported"
  | .notRecommended listing names => notRecommendedMessage listing names
  | .unsupportedVersion version =>
      s!"protocol version {version.label} can not be used for HELLO_VERIFY_REQUEST"
  | .conflict stance opposed => s!"{stance.label} is in contradiction to {opposed.label}"
  | .noPskSuite => "HELLO_VERIFY_REQUEST disabled for PSK requires at least one PSK cipher suite"

namespace Limit

def outside? (limit : Limit) (least greatest value : Nat) : Option OptionError :=
  if least ≤ value ∧ value ≤ greatest then none else some (.outOfRange limit value)

def below? (limit : Limit) (least value : Nat) : Option OptionError :=
  if least ≤ value then none else some (.outOfRange limit value)

def shorterThan? (limit : Limit) (least value : Duration) : Option OptionError :=
  if least.inNanoseconds ≤ value.inNanoseconds then none
  else some (.outOfRange limit value.inMilliseconds)

end Limit

/-! Reading a certificate -/

inductive CertificateError where
  | malformed (detail : String)
  | unsupportedKey (identifier : String)
  | unsupportedCurve (identifier : String)
  | unsupportedSignature (identifier : String)
  | emptyChain
  deriving DecidableEq

def CertificateError.message : CertificateError → String
  | .malformed detail => s!"invalid certificate format: {detail}"
  | .unsupportedKey identifier => s!"unsupported public key algorithm {identifier}"
  | .unsupportedCurve identifier => s!"unsupported EC curve {identifier}"
  | .unsupportedSignature identifier =>
      s!"unsupported certificate signature algorithm {identifier}"
  | .emptyChain => "certificate chain must contain at least one certificate"

/-! Putting the options together -/

inductive Side where
  | client
  | server
  deriving DecidableEq

def Side.label : Side → String
  | .client => "Client"
  | .server => "Server"

inductive ConsistencyError where
  | clientAndServerOnly
  | notApplicable (stance : Stance) (side : Side)
  | autoHandshakeForServerOnly
  | noSuite
  | unsupportedSuite (suite : CipherSuite)
  | unsupportedGroup (group : Group)
  | unsupportedScheme (scheme : Scheme)
  | notRecommended (listing : Listing) (names : List String)
  | noCredentials
  | missingPskStore (suite : CipherSuite)
  | pskStoreWithoutEcdhe (suite : CipherSuite)
  | missingIdentity (suite : CipherSuite)
  | missingVerifier (suite : CipherSuite)
  | incompatibleKey (suite : CipherSuite) (family : KeyFamily)
  | unusedPskStore
  | unusedIdentity
  | unusedVerifier
  | verifierWithoutClientAuth
  | schemesWithoutEcc
  | groupsWithoutEcc
  | noScheme
  | noGroup
  | keyWithoutScheme (key : Key)
  | curveNotOffered (curve : Group)
  | chainSchemeNotOffered (scheme : Scheme)
  | helloVerifyForPskEnabled
  | thresholdWithoutHelloVerify
  | helloVerifyForPskWithoutSuite
  | antiReplayWithExtendedWindow
  | keyUsage (side : Side)
  deriving DecidableEq

def ConsistencyError.message : ConsistencyError → String
  | .clientAndServerOnly => "client only is in contradiction to server only"
  | .notApplicable stance side =>
      s!"{stance.label} is not applicable to a {side.label}-only connector"
  | .autoHandshakeForServerOnly =>
      "default handshake mode 'auto' is not supported for server only"
  | .noSuite =>
      "no usable cipher suite, set them explicitly or implicitly by configuring " ++
        "a certificate identity, certificate verifier or PSK store"
  | .unsupportedSuite suite =>
      s!"cipher suite {suite.name} is not supported by the crypto provider"
  | .unsupportedGroup group =>
      s!"supported group {group.name} is not supported by the crypto provider"
  | .unsupportedScheme scheme =>
      s!"signature algorithm {scheme.name} is not supported by the crypto provider"
  | .notRecommended listing names => notRecommendedMessage listing names
  | .noCredentials =>
      "neither PSK nor certificate based cipher suites, only legal for client only"
  | .missingPskStore suite => s!"PSK store must be set for {suite.name}"
  | .pskStoreWithoutEcdhe suite => s!"PSK store doesn't support ECDHE, required by {suite.name}"
  | .missingIdentity suite => s!"certificate identity must be set for {suite.name}"
  | .missingVerifier suite => s!"certificate verifier must be set for {suite.name}"
  | .incompatibleKey suite family =>
      s!"keys must be {family.label} capable for {suite.name}"
  | .unusedPskStore => "PSK store set, but no PSK cipher suite"
  | .unusedIdentity => "certificate identity set, but no certificate based cipher suite"
  | .unusedVerifier => "certificate verifier set, but no certificate based cipher suite"
  | .verifierWithoutClientAuth =>
      "certificate verifier is not used for disabled client authentication"
  | .schemesWithoutEcc => "supported signature algorithms set, but no ECC based cipher suite"
  | .groupsWithoutEcc => "supported groups set, but no ECC based cipher suite"
  | .noScheme => "ECC based cipher suites, but no usable signature algorithm"
  | .noGroup => "ECC based cipher suites, but no usable supported group"
  | .keyWithoutScheme key => s!"no supported signature algorithm for {key.label} keys"
  | .curveNotOffered curve => s!"curve {curve.name} of a certificate key is not a supported group"
  | .chainSchemeNotOffered scheme =>
      s!"certificate chain is signed with {scheme.name}, " ++
        "which is not a supported signature algorithm"
  | .helloVerifyForPskEnabled =>
      "HELLO_VERIFY_REQUEST is generally disabled, but enabled for PSK"
  | .thresholdWithoutHelloVerify =>
      "verify peers on resumption threshold set, but HELLO_VERIFY_REQUEST is disabled"
  | .helloVerifyForPskWithoutSuite =>
      "HELLO_VERIFY_REQUEST disabled for PSK, requires at least one PSK cipher suite"
  | .antiReplayWithExtendedWindow =>
      "anti replay filter and extended window filter are mutually exclusive"
  | .keyUsage side => s!"certificate has no proper key usage for {side.label} authentication"

/-! Any of these -/

inductive Error where
  | option (cause : OptionError)
  | certificate (cause : CertificateError)
  | consistency (cause : ConsistencyError)
  | provider (fault : Provider.Fault)
  deriving DecidableEq

def Error.message : Error → String
  | .option cause => cause.message
  | .certificate cause => cause.message
  | .consistency cause => cause.message
  | .provider fault => "invalid crypto provider: " ++ fault.message

/-! Outcomes -/

section Outcomes

variable {ε δ α β : Type} {outcome : Except ε α}

-- Whether an outcome is an error can be decided, whatever else it could be.
instance decidableEqError [DecidableEq ε] (outcome : Except ε α) (error : ε) :
    Decidable (outcome = .error error) :=
  match outcome with
  | .ok _ => isFalse nofun
  | .error found => decidable_of_iff (found = error) (by simp)

theorem exists_of_any_toOption {test : α → Bool} (passed : outcome.toOption.any test = true) :
    ∃ value, outcome = .ok value ∧ test value = true := by
  cases outcome with
  | error => cases passed
  | ok value => exact ⟨value, rfl, passed⟩

theorem map_eq_ok_iff {change : α → β} {result : β} :
    outcome.map change = .ok result ↔ ∃ value, outcome = .ok value ∧ change value = result := by
  cases outcome <;> simp [Except.map]

theorem map_eq_error_iff {change : α → β} {error : ε} :
    outcome.map change = .error error ↔ outcome = .error error := by
  cases outcome <;> simp [Except.map]

theorem mapError_eq_ok_iff {change : ε → δ} {result : α} :
    outcome.mapError change = .ok result ↔ outcome = .ok result := by
  cases outcome with
  | error => exact ⟨nofun, nofun⟩
  | ok value =>
      constructor
      · rintro ⟨⟩
        rfl
      · rintro ⟨⟩
        rfl

theorem mapError_eq_error_iff {change : ε → δ} {error : δ} :
    outcome.mapError change = .error error ↔
      ∃ cause, outcome = .error cause ∧ error = change cause := by
  cases outcome with
  | ok => exact ⟨nofun, nofun⟩
  | error cause =>
      constructor
      · rintro ⟨⟩
        exact ⟨cause, rfl, rfl⟩
      · rintro ⟨_, ⟨⟩, rfl⟩
        rfl

theorem bind_eq_ok_iff {next : α → Except ε β} {result : β} :
    (outcome >>= next) = .ok result ↔
      ∃ value, outcome = .ok value ∧ next value = .ok result := by
  cases outcome <;> simp [bind, Except.bind]

theorem bind_eq_error_iff {next : α → Except ε β} {error : ε} :
    (outcome >>= next) = .error error ↔
      outcome = .error error ∨ ∃ value, outcome = .ok value ∧ next value = .error error := by
  cases outcome <;> simp [bind, Except.bind]

end Outcomes

end DatagramTls
