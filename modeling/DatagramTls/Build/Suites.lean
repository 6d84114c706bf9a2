import DatagramTls.Build.Attempt
import DatagramTls.Options.Objection

/-!
Cipher suites of a configuration. They are either chosen, and then each has to be allowed and
supported, or derived from the credentials. Every suite has to find the credentials it needs.
-/

namespace DatagramTls.Build

open Config (Algorithms Credentials Role)

/-! Chosen suites -/

def checkChosenSuites (suites : List CipherSuite) (recommendedOnly : Bool) (provider : Provider) :
    Except ConsistencyError Unit :=
  let names := Options.notRecommended CipherSuite.name CipherSuite.isRecommended suites
  if recommendedOnly && !names.isEmpty then .error (.notRecommended .suites names)
  else
    match suites.find? (!provider.supportsSuite ·) with
    | some suite => .error (.unsupportedSuite suite)
    | none => .ok ()

/-! Derived suites -/

def derivedFamilies (credentials : Credentials) : List KeyFamily :=
  match credentials.keyFamilies? with
  | none | some [] => [.ec]
  | some families => families

def certificateSuites (credentials : Credentials) (recommendedOnly : Bool) : List CipherSuite :=
  if credentials.identity.isSome || credentials.verifier.isSome then
    ([.ec, .rsa].filter (derivedFamilies credentials).contains).flatMap fun family =>
      CipherSuite.select recommendedOnly (· == .ecdhe family)
  else []

def pskSuites (credentials : Credentials) (recommendedOnly : Bool) : List CipherSuite :=
  match credentials.pskStore with
  | none => []
  | some store =>
      (if store.servesEcdhe then CipherSuite.select recommendedOnly (· == .ecdhePsk) else []) ++
        CipherSuite.select recommendedOnly (· == .psk)

/-- The suites that the credentials serve. Without any, a client only may go without
authentication if it allows suites that are not recommended. -/
def servedSuites (credentials : Credentials) (clientOnly recommendedOnly : Bool) :
    List CipherSuite :=
  let suites := certificateSuites credentials recommendedOnly ++
    pskSuites credentials recommendedOnly
  if suites.isEmpty && clientOnly && !recommendedOnly then
    CipherSuite.select false (· == .ecdhAnonymous)
  else suites

/-- The served suites, or the preselected ones among them in their own order. -/
def candidateSuites (credentials : Credentials) (clientOnly recommendedOnly : Bool)
    (preselected : Option (List CipherSuite)) : List CipherSuite :=
  let served := servedSuites credentials clientOnly recommendedOnly
  match preselected with
  | none => served
  | some suites => suites.filter served.contains

def derivedSuites (credentials : Credentials) (clientOnly recommendedOnly : Bool)
    (preselected : Option (List CipherSuite)) (provider : Provider) : List CipherSuite :=
  (candidateSuites credentials clientOnly recommendedOnly preselected).filter provider.supportsSuite

def deriveSuites (credentials : Credentials) (clientOnly recommendedOnly : Bool)
    (preselected : Option (List CipherSuite)) (provider : Provider) :
    Attempt (List CipherSuite) := do
  let unsupported :=
    (candidateSuites credentials clientOnly recommendedOnly preselected).filter
      (!provider.supportsSuite ·)
  if !unsupported.isEmpty then Attempt.note (.suitesUnsupported unsupported)
  let suites := derivedSuites credentials clientOnly recommendedOnly preselected provider
  Attempt.note (.suitesDerived suites)
  pure suites

def resolveSuites (options : Algorithms.Options) (credentials : Credentials)
    (clientOnly recommendedOnly : Bool) (provider : Provider) : Attempt (List CipherSuite) :=
  match options.suites with
  | some suites => do
      Attempt.check (checkChosenSuites suites recommendedOnly provider)
      pure suites
  | none => deriveSuites credentials clientOnly recommendedOnly options.preselected provider

/-! Suites and credentials -/

/-- A suite needs the store, or the identity and the verifier, that its key exchange works with. A
client only needs no identity, and a server no verifier unless clients are asked to
authenticate. -/
def checkSuite (credentials : Credentials) (clientOnly verifierRequired : Bool)
    (suite : CipherSuite) : Except ConsistencyError Unit :=
  if suite.usesPsk then
    match credentials.pskStore with
    | none => .error (.missingPskStore suite)
    | some store =>
        if suite.usesEcc && !store.servesEcdhe then .error (.pskStoreWithoutEcdhe suite)
        else .ok ()
  else
    match suite.certificateFamily? with
    | none => .ok ()
    | some family =>
        if credentials.identity.isNone && !clientOnly then .error (.missingIdentity suite)
        else if credentials.keyFamilies?.any (!·.contains family) then
          .error (.incompatibleKey suite family)
        else if credentials.verifier.isNone && (clientOnly || verifierRequired) then
          .error (.missingVerifier suite)
        else .ok ()

/-- Check suite by suite, and warn at the first that goes without a verifier. -/
def checkSuites (credentials : Credentials) (clientOnly verifierRequired : Bool) :
    Bool → List CipherSuite → Attempt Unit
  | _, [] => pure ()
  | warned, suite :: rest => do
      Attempt.check (checkSuite credentials clientOnly verifierRequired suite)
      let unverified := suite.usesCertificate && credentials.verifier.isNone
      if unverified && !warned then Attempt.note .verifierMissing
      checkSuites credentials clientOnly verifierRequired (warned || unverified) rest

end DatagramTls.Build
