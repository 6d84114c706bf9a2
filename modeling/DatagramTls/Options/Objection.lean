import DatagramTls.Options

/-!
Objections: why an option is not set to a value. A value may be impossible by itself, or it may
contradict an option that is set. Where nothing speaks against it, `set` stores the value.
-/

namespace DatagramTls

namespace Options

def notRecommended {α : Type} (name : α → String) (recommended : α → Bool) (entries : List α) :
    List String :=
  (entries.filter (!recommended ·)).map name

def unlessRecommended {α : Type} (listing : Listing) (name : α → String) (recommended : α → Bool)
    (entries : List α) : Option OptionError :=
  match notRecommended name recommended entries with
  | [] => none
  | names => some (.notRecommended listing names)

def suitesUnlessRecommended (suites : List CipherSuite) : Option OptionError :=
  unlessRecommended .suites CipherSuite.name CipherSuite.isRecommended suites

def schemesUnlessRecommended (schemes : List Scheme) : Option OptionError :=
  unlessRecommended .schemes Scheme.name Scheme.isRecommended schemes

def groupsUnlessRecommended (groups : List Group) : Option OptionError :=
  unlessRecommended .groups Group.name Group.isRecommended groups

/-! Roles -/

def roleObjection? (options : Options) : Config.Role.Setting → Option OptionError
  | .clientOnly true =>
      if options.role.serverOnly = some true then some (.conflict .clientOnly .serverOnly)
      else if options.role.clientAuthWanted.isSome || options.role.clientAuthRequired.isSome then
        some (.conflict .clientOnly .clientAuth)
      else if options.resumption.serverSessionId = some false then
        some (.conflict .clientOnly .sessionIdOff)
      else if options.helloVerify.enabledForPsk = some false then
        some (.conflict .clientOnly .helloVerifyForPskOff)
      else if options.helloVerify.enabled = some false then
        some (.conflict .clientOnly .helloVerifyOff)
      else none
  | .serverOnly true =>
      if options.role.clientOnly = some true then some (.conflict .serverOnly .clientOnly)
      else if options.role.handshakeMode = some .auto then
        some (.conflict .serverOnly .autoHandshake)
      else none
  | .handshakeMode .auto =>
      if options.role.serverOnly = some true then some (.conflict .autoHandshake .serverOnly)
      else none
  | .clientAuthWanted wanted =>
      if options.role.clientOnly = some true then some (.conflict .clientAuth .clientOnly)
      else if wanted && options.role.clientAuthRequired = some true then
        some (.conflict .clientAuthWanted .clientAuthRequired)
      else none
  | .clientAuthRequired required =>
      if options.role.clientOnly = some true then some (.conflict .clientAuth .clientOnly)
      else if required && options.role.clientAuthWanted = some true then
        some (.conflict .clientAuthRequired .clientAuthWanted)
      else none
  | .clientOnly false | .serverOnly false | .handshakeMode .none => none

/-! Algorithms -/

/-- Objects to a list of suites that is empty, names the suite without protection, or leaves
nothing for the handshakes that were singled out. -/
def suiteListObjection? (options : Options) (listing : Listing) (suites : List CipherSuite) :
    Option OptionError :=
  if suites.isEmpty then some (.emptyList listing)
  else if suites.contains .null then some .nullSuite
  else if options.helloVerify.enabledForPsk = some false ∧ !suites.any (·.usesPsk) then
    some .noPskSuite
  else none

def algorithmsObjection? (options : Options) : Config.Algorithms.Setting → Option OptionError
  | .suites suites =>
      (options.suiteListObjection? .suites suites).or
        (if options.algorithms.recommendedSuitesOnly = some false then none
        else suitesUnlessRecommended suites)
  | .preselected suites => options.suiteListObjection? .preselected suites
  | .schemes schemes =>
      if schemes.isEmpty then some (.emptyList .schemes)
      else if options.algorithms.recommendedSchemesOnly = some false then none
      else schemesUnlessRecommended schemes
  | .groups groups =>
      if groups.isEmpty then some (.emptyList .groups)
      else if options.algorithms.recommendedGroupsOnly = some false then none
      else groupsUnlessRecommended groups
  | .recommendedSuitesOnly true => options.algorithms.suites.bind suitesUnlessRecommended
  | .recommendedSchemesOnly true => options.algorithms.schemes.bind schemesUnlessRecommended
  | .recommendedGroupsOnly true => options.algorithms.groups.bind groupsUnlessRecommended
  | .recommendedSuitesOnly false | .recommendedSchemesOnly false | .recommendedGroupsOnly false =>
      none

/-! Resumption and the verification of addresses -/

def resumptionObjection? (options : Options) : Config.Resumption.Setting → Option OptionError
  | .autoTimeout timeout => Limit.autoResumption.shorterThan? .oneMillisecond timeout
  | .serverSessionId enabled =>
      if !enabled && options.role.clientOnly = some true then
        some (.conflict .sessionIdOff .clientOnly)
      else none
  | .verifier _ => none
  | .verifyThreshold percent =>
      if options.helloVerify.enabled = some false then
        some (.conflict .resumptionThreshold .helloVerifyOff)
      else Limit.resumptionThreshold.outside? 0 100 percent.toNat

def helloVerifyObjection? (options : Options) : Config.HelloVerify.Setting → Option OptionError
  | .enabled enabled =>
      if options.role.clientOnly = some true then some (.conflict .helloVerify .clientOnly)
      else if !enabled && options.helloVerify.enabledForPsk = some true then
        some (.conflict .helloVerifyOff .helloVerifyForPskOn)
      else if !enabled && options.resumption.verifyThreshold.isSome then
        some (.conflict .helloVerifyOff .resumptionThreshold)
      else none
  | .enabledForPsk enabled =>
      if options.role.clientOnly = some true then some (.conflict .helloVerifyForPsk .clientOnly)
      else if enabled && options.helloVerify.enabled = some false then
        some (.conflict .helloVerifyForPskOn .helloVerifyOff)
      else if !enabled && options.algorithms.suites.any (!·.any (·.usesPsk)) then
        some .noPskSuite
      else none
  | .version version =>
      match version with
      | .dtls10 | .dtls12 => none
      | .dtls13 | .unknown _ => some (.unsupportedVersion version)

/-! All topics -/

def objection? (options : Options) : Setting → Option OptionError
  | .endpoint _ | .credentials _ | .extensions _ => none
  | .role setting => options.roleObjection? setting
  | .algorithms setting => options.algorithmsObjection? setting
  | .retransmission setting => Config.Retransmission.Options.objection? setting
  | .framing setting => options.framing.objection? setting
  | .resources setting => Config.Resources.Options.objection? setting
  | .diagnostics setting => Config.Diagnostics.objection? setting
  | .resumption setting => options.resumptionObjection? setting
  | .helloVerify setting => options.helloVerifyObjection? setting
  | .replay setting => options.replay.objection? setting

/-- Store the value unless something speaks against it. -/
def set (options : Options) (setting : Setting) : Except OptionError Options :=
  match options.objection? setting with
  | some error => .error error
  | none => .ok (options.store setting)

theorem set_eq_ok_iff {options result : Options} {setting : Setting} :
    options.set setting = .ok result ↔
      options.objection? setting = none ∧ result = options.store setting := by
  unfold set
  cases options.objection? setting <;> simp [eq_comm]

theorem set_eq_error_iff {options : Options} {setting : Setting} {error : OptionError} :
    options.set setting = .error error ↔ options.objection? setting = some error := by
  unfold set
  cases options.objection? setting <;> simp

end Options

end DatagramTls
