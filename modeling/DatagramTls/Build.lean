import DatagramTls.Build.Lists
import DatagramTls.Build.Suites

/-!
Building a configuration. `Options.build` fills in what is unset, derives the algorithms from the
credentials, and fails at the first rule that the options break together; a configuration it
returns has every option resolved.
-/

namespace DatagramTls

open Build (Attempt)

namespace Options

/-! Roles -/

def serverStances (options : Options) : List (Stance × Bool) :=
  [(.clientAuthWanted, options.role.clientAuthWanted.isSome),
    (.clientAuthRequired, options.role.clientAuthRequired.isSome),
    (.sessionIdOff, options.resumption.serverSessionId == some false),
    (.helloVerifyOff, options.helloVerify.enabled == some false),
    (.helloVerifyForPskOff, options.helloVerify.enabledForPsk == some false)]

def checkRole (options : Options) : Except ConsistencyError Unit :=
  let role := options.role.resolve
  if role.clientOnly && role.serverOnly then .error .clientAndServerOnly
  else
    match if role.clientOnly then options.serverStances.find? (·.2) else none with
    | some (stance, _) => .error (.notApplicable stance .server)
    | none =>
        if role.serverOnly && options.role.handshakeMode = some .auto then
          .error .autoHandshakeForServerOnly
        else .ok ()

/-- A server only that never asks clients to authenticate has no use for a verifier. -/
def checkVerifierUse (options : Options) : Except ConsistencyError Unit :=
  let role := options.role.resolve
  if role.serverOnly && !role.clientAuthWanted && !role.clientAuthRequired &&
      options.credentials.verifier.isSome then
    .error .verifierWithoutClientAuth
  else .ok ()

/-- Whether a server needs a verifier: where clients are asked to authenticate by choice. -/
def verifierRequired (options : Options) : Bool :=
  let role := options.role.resolve
  role.clientAuthWanted || (role.clientAuthRequired && options.role.clientAuthRequired.isSome)

/-! Credentials -/

def checkCapabilities (capabilities : Capabilities) (clientOnly : Bool) :
    Except ConsistencyError Unit :=
  if !capabilities.psk && !capabilities.certificate && !clientOnly then .error .noCredentials
  else .ok ()

def checkPskStoreUse (options : Options) (capabilities : Capabilities) :
    Except ConsistencyError Unit :=
  if options.credentials.pskStore.isSome && !capabilities.psk then .error .unusedPskStore
  else .ok ()

def checkCertificateUse (options : Options) (capabilities : Capabilities) :
    Except ConsistencyError Unit :=
  if capabilities.certificate then .ok ()
  else if options.credentials.identity.isSome then .error .unusedIdentity
  else if options.credentials.verifier.isSome then .error .unusedVerifier
  else .ok ()

def checkKeyUsage (options : Options) (requirements : Option Requirements) :
    Except ConsistencyError Unit :=
  let role := options.role.resolve
  let presented := options.credentials.identity.any (·.kinds.contains .x509)
  let refuses (side : Side) := presented && requirements.any (!·.permits side)
  if !role.serverOnly && refuses .client then .error (.keyUsage .client)
  else if !role.clientOnly && refuses .server then .error (.keyUsage .server)
  else .ok ()

def checkRequirements (requirements : Option Requirements) (schemes : List Scheme)
    (groups : List Group) : Except ConsistencyError Unit :=
  match requirements with
  | none => .ok ()
  | some requirements => do
      requirements.checkSchemes schemes
      requirements.checkGroups groups

/-! Schemes and groups -/

/-- Without suites on curves neither schemes nor groups are of use. -/
def checkListsUnset (options : Options) : Except ConsistencyError Unit :=
  if options.algorithms.schemes.isSome then .error .schemesWithoutEcc
  else if options.algorithms.groups.isSome then .error .groupsWithoutEcc
  else .ok ()

def resolveLists (options : Options) (capabilities : Capabilities)
    (requirements : Option Requirements) (provider : Provider) :
    Attempt (List Scheme × List Group) :=
  if capabilities.ecc then do
    let schemes ← Build.schemeCatalog.resolve options.algorithms.schemes
      ((requirements.map (·.defaultSchemes)).getD [])
      (options.algorithms.recommendedSchemesOnly.getD true) provider.supportsScheme
    let groups ← Build.groupCatalog.resolve options.algorithms.groups
      ((requirements.map (·.defaultGroups)).getD [])
      (options.algorithms.recommendedGroupsOnly.getD true) provider.supportsGroup
    pure (schemes, groups)
  else do
    Attempt.check options.checkListsUnset
    pure ([], [])

/-! Addresses and replays -/

def checkHelloVerify (options : Options) (capabilities : Capabilities) :
    Except ConsistencyError Unit :=
  let helloVerify := options.helloVerify.resolve
  if !helloVerify.enabled && options.helloVerify.enabledForPsk = some true then
    .error .helloVerifyForPskEnabled
  else if !helloVerify.enabled && options.resumption.verifyThreshold.isSome then
    .error .thresholdWithoutHelloVerify
  else if helloVerify.enabled && !helloVerify.enabledForPsk && !capabilities.psk then
    .error .helloVerifyForPskWithoutSuite
  else .ok ()

def checkReplay (options : Options) : Except ConsistencyError Unit :=
  let replay := options.replay.resolve
  if replay.antiReplay && replay.extendedWindow ≠ 0 then .error .antiReplayWithExtendedWindow
  else .ok ()

/-! Building -/

def resolve (options : Options) (platform : Platform) (suites : List CipherSuite)
    (schemes : List Scheme) (groups : List Group) : Config where
  endpoint := options.endpoint.resolve
  role := options.role.resolve
  credentials := options.credentials
  requirements := options.credentials.requirements?
  algorithms :=
    { suites
      preselected := options.algorithms.preselected
      recommendedSuitesOnly := options.algorithms.recommendedSuitesOnly.getD true
      schemes
      recommendedSchemesOnly := options.algorithms.recommendedSchemesOnly.getD true
      groups
      recommendedGroupsOnly := options.algorithms.recommendedGroupsOnly.getD true }
  retransmission := options.retransmission.resolve
  framing := options.framing.resolve
  resources := options.resources.resolve platform.cores
  diagnostics := options.diagnostics
  resumption := options.resumption.resolve options.helloVerify.resolve.enabled
  helloVerify := options.helloVerify.resolve
  replay := options.replay.resolve
  extensions := options.extensions.resolve
  capabilities := Capabilities.ofSuites suites
  provider := platform.provider

def finalEvents (config : Config) (cores : UInt64) : List Build.Event :=
  [.suitesChosen config.algorithms.suites config.capabilities] ++
    (config.requirements.bind (·.leaf)).toList.map .identity ++
    (if config.capabilities.ecc then
      [.listsChosen config.algorithms.schemes config.algorithms.groups]
    else []) ++
    [.threads config.resources.connectionThreads config.resources.receiverThreads cores]

def build (options : Options) (platform : Platform) : Attempt Config := do
  let role := options.role.resolve
  let requirements := options.credentials.requirements?
  Attempt.checkProvider platform.provider
  Attempt.check options.checkRole
  Attempt.check options.checkVerifierUse
  let suites ← Build.resolveSuites options.algorithms options.credentials role.clientOnly
    (options.algorithms.recommendedSuitesOnly.getD true) platform.provider
  Attempt.check (if suites.isEmpty then .error .noSuite else .ok ())
  let capabilities := Capabilities.ofSuites suites
  Attempt.check (checkCapabilities capabilities role.clientOnly)
  Build.checkSuites options.credentials role.clientOnly options.verifierRequired false suites
  Attempt.check (options.checkPskStoreUse capabilities)
  let (schemes, groups) ← options.resolveLists capabilities requirements platform.provider
  Attempt.check (options.checkCertificateUse capabilities)
  Attempt.check (checkRequirements requirements schemes groups)
  Attempt.check (options.checkKeyUsage requirements)
  Attempt.check (options.checkHelloVerify capabilities)
  Attempt.check options.checkReplay
  let config := options.resolve platform suites schemes groups
  Attempt.noteAll (finalEvents config platform.cores)
  pure config

def log (options : Options) (digest : List UInt8 → List UInt8) (platform : Platform) :
    List Build.Record :=
  (options.build platform).log digest options.endpoint.resolve.loggingTag

end Options

end DatagramTls
