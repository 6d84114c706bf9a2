import DatagramTls.Proofs.History

/-!
Explicit options. A configuration holds for each option the value that was
accepted last, and only what was never chosen is filled in.
-/

namespace DatagramTls

open Build

namespace Config

/-! Holding a setting, topic by topic -/

/-- A logging tag may have got a space at its end. -/
def Endpoint.Holds (endpoint : Endpoint) : Endpoint.Setting → Prop
  | .loggingTag tag =>
      endpoint.loggingTag = tag ∨ endpoint.loggingTag = tag ++ " "
  | .address address => endpoint.address = address
  | .addressReuse enabled => endpoint.addressReuse = enabled

def Role.Holds (role : Role) : Role.Setting → Prop
  | .clientOnly enabled => role.clientOnly = enabled
  | .serverOnly enabled => role.serverOnly = enabled
  | .handshakeMode mode => role.handshakeMode = mode
  | .clientAuthWanted wanted => role.clientAuthWanted = wanted
  | .clientAuthRequired required => role.clientAuthRequired = required

def Credentials.Holds (credentials : Credentials) : Credentials.Setting → Prop
  | .pskStore store => credentials.pskStore = some store
  | .identity identity => credentials.identity = some identity
  | .verifier verifier => credentials.verifier = some verifier

def Algorithms.Holds (algorithms : Algorithms) : Algorithms.Setting → Prop
  | .suites suites => algorithms.suites = suites
  | .preselected suites => algorithms.preselected = some suites
  | .recommendedSuitesOnly enabled => algorithms.recommendedSuitesOnly = enabled
  | .schemes schemes => algorithms.schemes = schemes
  | .recommendedSchemesOnly enabled =>
      algorithms.recommendedSchemesOnly = enabled
  | .groups groups => algorithms.groups = groups
  | .recommendedGroupsOnly enabled => algorithms.recommendedGroupsOnly = enabled

def Retransmission.Holds (retransmission : Retransmission) :
    Retransmission.Setting → Prop
  | .timeout timeout => retransmission.timeout = timeout
  | .extraForEcc timeout => retransmission.extraForEcc = timeout
  | .maxRetransmissions count => retransmission.maxRetransmissions = count
  | .backoff count => retransmission.backoff = count
  | .earlyStop enabled => retransmission.earlyStop = enabled

/-- A record size limit is held as the same number in fewer bits. -/
def Framing.Holds (framing : Framing) : Framing.Setting → Prop
  | .mtu size => framing.mtu = some size
  | .mtuLimit size => framing.mtuLimit = some size
  | .maxFragmentLengthCode code => framing.maxFragmentLengthCode = some code
  | .recordSizeLimit limit =>
      ∃ kept, framing.recordSizeLimit = some kept ∧ kept.toNat = limit.toNat
  | .reassemblyLength length => framing.reassemblyLength = length
  | .multiRecordMessages enabled => framing.multiRecordMessages = enabled
  | .multiHandshakeRecords enabled => framing.multiHandshakeRecords = enabled

def Resources.Holds (resources : Resources) : Resources.Setting → Prop
  | .outboundBuffer capacity => resources.outboundBuffer = capacity
  | .deferredOutgoingMessages count =>
      resources.deferredOutgoingMessages = count
  | .deferredIncomingBytes size => resources.deferredIncomingBytes = size
  | .maxConnections count => resources.maxConnections = count
  | .staleThreshold threshold => resources.staleThreshold = threshold
  | .connectionThreads count => resources.connectionThreads = count
  | .receiverThreads count => resources.receiverThreads = count
  | .receiveBuffer size => resources.receiveBuffer = some size
  | .sendBuffer size => resources.sendBuffer = some size

def Diagnostics.Holds (diagnostics : Diagnostics) : Diagnostics.Setting → Prop
  | .healthInterval interval => diagnostics.healthInterval = some interval
  | .healthHandler handler => diagnostics.healthHandler = some handler
  | .connectionListener listener =>
      diagnostics.connectionListener = some listener

def Resumption.Holds (resumption : Resumption) : Resumption.Setting → Prop
  | .autoTimeout timeout => resumption.autoTimeout = some timeout
  | .serverSessionId enabled => resumption.serverSessionId = enabled
  | .verifier verifier => resumption.verifier = some verifier
  | .verifyThreshold percent => resumption.verifyThreshold = percent

def HelloVerify.Holds (helloVerify : HelloVerify) : HelloVerify.Setting → Prop
  | .enabled enabled => helloVerify.enabled = enabled
  | .enabledForPsk enabled => helloVerify.enabledForPsk = enabled
  | .version version => helloVerify.version = some version

def Replay.Holds (replay : Replay) : Replay.Setting → Prop
  | .antiReplay enabled => replay.antiReplay = enabled
  | .extendedWindow level => replay.extendedWindow = level
  | .cidGenerator generator => replay.cidGenerator = some generator
  | .cidNewerOnly enabled => replay.cidNewerOnly = enabled

def Extensions.Holds (extensions : Extensions) : Extensions.Setting → Prop
  | .serverName enabled => extensions.serverName = enabled
  | .masterSecret mode => extensions.masterSecret = mode
  | .truncateClientPath enabled => extensions.truncateClientPath = enabled
  | .truncateValidatedPath enabled => extensions.truncateValidatedPath = enabled

/-- The configuration gives the value of the setting for its option. -/
def Holds (config : Config) : Setting → Prop
  | .endpoint setting => config.endpoint.Holds setting
  | .role setting => config.role.Holds setting
  | .credentials setting => config.credentials.Holds setting
  | .algorithms setting => config.algorithms.Holds setting
  | .retransmission setting => config.retransmission.Holds setting
  | .framing setting => config.framing.Holds setting
  | .resources setting => config.resources.Holds setting
  | .diagnostics setting => config.diagnostics.Holds setting
  | .resumption setting => config.resumption.Holds setting
  | .helloVerify setting => config.helloVerify.Holds setting
  | .replay setting => config.replay.Holds setting
  | .extensions setting => config.extensions.Holds setting

/-! Resolving stored settings -/

theorem Endpoint.holds_resolve_store (options : Endpoint.Options)
    (setting : Endpoint.Setting) :
    (options.store setting).resolve.Holds setting := by
  cases setting with
  | loggingTag tag =>
      change spacedTag tag = tag ∨ spacedTag tag = tag ++ " "
      unfold spacedTag
      cases tag.toList.getLast? with
      | none => exact Or.inl rfl
      | some last => by_cases space : last = ' ' <;> simp [space]
  | address _ | addressReuse _ => rfl

theorem Role.holds_resolve_store (options : Role.Options)
    (setting : Role.Setting) :
    (options.store setting).resolve.Holds setting := by
  cases setting <;> rfl

theorem Credentials.holds_store (credentials : Credentials)
    (setting : Credentials.Setting) :
    (credentials.store setting).Holds setting := by
  cases setting <;> rfl

theorem Retransmission.holds_resolve_store (options : Retransmission.Options)
    (setting : Retransmission.Setting) :
    (options.store setting).resolve.Holds setting := by
  cases setting <;> rfl

theorem Resources.holds_resolve_store (options : Resources.Options)
    (setting : Resources.Setting) (cores : UInt64) :
    ((options.store setting).resolve cores).Holds setting := by
  cases setting <;> rfl

theorem Diagnostics.holds_store (diagnostics : Diagnostics)
    (setting : Diagnostics.Setting) :
    (diagnostics.store setting).Holds setting := by
  cases setting <;> rfl

theorem HelloVerify.holds_resolve_store (options : HelloVerify.Options)
    (setting : HelloVerify.Setting) :
    (options.store setting).resolve.Holds setting := by
  cases setting <;> rfl

theorem Replay.holds_resolve_store (options : Replay.Options)
    (setting : Replay.Setting) :
    (options.store setting).resolve.Holds setting := by
  cases setting <;> rfl

theorem Extensions.holds_resolve_store (options : Extensions.Options)
    (setting : Extensions.Setting) :
    (options.store setting).resolve.Holds setting := by
  cases setting <;> rfl

theorem Framing.holds_resolve_store {options : Framing.Options}
    {setting : Framing.Setting}
    (unlimited : options.mtu.isSome = true → options.mtuLimit = none)
    (stored : options.store setting = options)
    (unopposed : ∃ earlier : Framing.Options,
      earlier.objection? setting = none) :
    options.resolve.Holds setting := by
  cases setting with
  | mtuLimit size =>
      have limited : options.mtuLimit = some size :=
        congrArg (·.mtuLimit) stored.symm
      have detected : options.mtu = none := by
        rcases fixed : options.mtu with _ | size
        · rfl
        · have none := unlimited (by rw [fixed]; rfl)
          rw [limited] at none
          cases none
      change options.resolve.mtuLimit = some size
      unfold Options.resolve
      rw [detected, limited]
      rfl
  | recordSizeLimit limit =>
      have kept : options.recordSizeLimit = some limit.toUInt16 :=
        congrArg (·.recordSizeLimit) stored.symm
      refine ⟨limit.toUInt16, kept, ?_⟩
      obtain ⟨_, within⟩ := unopposed
      have small : 64 ≤ limit.toNat ∧ limit.toNat ≤ 65535 := by
        simpa [Options.objection?, Limit.outside?] using within
      rw [UInt32.toNat_toUInt16]
      omega
  | mtu _ | maxFragmentLengthCode _ | reassemblyLength _
  | multiRecordMessages _ | multiHandshakeRecords _ =>
      rw [← stored]
      rfl

theorem Resumption.holds_resolve_store {options : Resumption.Options}
    {setting : Resumption.Setting} {helloVerify : Bool}
    (disabled : helloVerify = false → options.verifyThreshold = none)
    (stored : options.store setting = options) :
    (options.resolve helloVerify).Holds setting := by
  cases setting with
  | verifyThreshold percent =>
      have chosen : options.verifyThreshold = some percent :=
        congrArg (·.verifyThreshold) stored.symm
      have enabled : helloVerify = true := by
        cases helloVerify with
        | true => rfl
        | false =>
            have none := disabled rfl
            rw [chosen] at none
            cases none
      change (options.resolve helloVerify).verifyThreshold = percent
      unfold Options.resolve
      rw [enabled, chosen]
      rfl
  | autoTimeout _ | serverSessionId _ | verifier _ =>
      rw [← stored]
      rfl

end Config

/-! Building with stored settings -/

namespace Options

variable {options : Options} {platform : Platform} {config : Config}

namespace Builds

variable (builds : options.Builds platform config)
include builds

theorem lists_of_chosen
    (chosen : options.algorithms.schemes.isSome = true ∨
      options.algorithms.groups.isSome = true) :
    (options.resolveSchemes platform.provider).result =
        .ok config.algorithms.schemes ∧
      (options.resolveGroups platform.provider).result =
        .ok config.algorithms.groups := by
  cases curved : (Capabilities.ofSuites config.algorithms.suites).ecc with
  | true => exact (resolveLists_eq_ok_iff_of_ecc curved).mp builds.lists
  | false =>
      obtain ⟨⟨schemes, groups⟩, _⟩ :=
        (resolveLists_eq_ok_iff_of_not_ecc curved).mp builds.lists
      simp [schemes, groups] at chosen

theorem holds_algorithms {setting : Config.Algorithms.Setting}
    (stored : options.algorithms.store setting = options.algorithms) :
    config.algorithms.Holds setting := by
  cases setting with
  | suites suites =>
      have chosen : options.algorithms.suites = some suites :=
        congrArg (·.suites) stored.symm
      exact ((resolveSuites_eq_ok_iff_of_chosen chosen).mp builds.suites).1
  | schemes schemes =>
      have chosen : options.algorithms.schemes = some schemes :=
        congrArg (·.schemes) stored.symm
      have resolved := (builds.lists_of_chosen (by simp [chosen])).1
      unfold resolveSchemes at resolved
      rw [chosen] at resolved
      exact (Catalog.resolve_chosen_eq_ok_iff.mp resolved).1
  | groups groups =>
      have chosen : options.algorithms.groups = some groups :=
        congrArg (·.groups) stored.symm
      have resolved := (builds.lists_of_chosen (by simp [chosen])).2
      unfold resolveGroups at resolved
      rw [chosen] at resolved
      exact (Catalog.resolve_chosen_eq_ok_iff.mp resolved).1
  | preselected _ | recommendedSuitesOnly _ | recommendedSchemesOnly _
  | recommendedGroupsOnly _ =>
      rw [builds.resolved]
      unfold resolve
      rw [← stored]
      rfl

theorem holds {setting : Setting} (consistent : options.Consistent)
    (stored : options.store setting = options)
    (unopposed : ∃ earlier : Options, earlier.objection? setting = none) :
    config.Holds setting := by
  cases setting with
  | endpoint setting =>
      rw [builds.resolved, ← stored]
      exact Config.Endpoint.holds_resolve_store _ setting
  | role setting =>
      rw [builds.resolved, ← stored]
      exact Config.Role.holds_resolve_store _ setting
  | credentials setting =>
      rw [builds.resolved, ← stored]
      exact Config.Credentials.holds_store _ setting
  | algorithms setting =>
      exact builds.holds_algorithms (congrArg Options.algorithms stored)
  | retransmission setting =>
      rw [builds.resolved, ← stored]
      exact Config.Retransmission.holds_resolve_store _ setting
  | framing setting =>
      obtain ⟨earlier, unopposed⟩ := unopposed
      rw [builds.resolved]
      exact Config.Framing.holds_resolve_store consistent.framing
        (congrArg Options.framing stored) ⟨earlier.framing, unopposed⟩
  | resources setting =>
      rw [builds.resolved, ← stored]
      exact Config.Resources.holds_resolve_store _ setting _
  | diagnostics setting =>
      rw [builds.resolved, ← stored]
      exact Config.Diagnostics.holds_store _ setting
  | resumption setting =>
      have disabled : options.helloVerify.resolve.enabled = false →
          options.resumption.verifyThreshold = none := by
        intro off
        exact (consistent.helloVerify
          (Config.HelloVerify.Options.enabled_resolve_eq_false_iff.mp off)).2
      rw [builds.resolved]
      exact Config.Resumption.holds_resolve_store disabled
        (congrArg Options.resumption stored)
  | helloVerify setting =>
      rw [builds.resolved, ← stored]
      exact Config.HelloVerify.holds_resolve_store _ setting
  | replay setting =>
      rw [builds.resolved, ← stored]
      exact Config.Replay.holds_resolve_store _ setting
  | extensions setting =>
      rw [builds.resolved, ← stored]
      exact Config.Extensions.holds_resolve_store _ setting

end Builds

end Options

/-- What was accepted last for an option is what a configuration holds. -/
theorem History.holds_latest_accepted (requests : List Request)
    {platform : Platform} {config : Config}
    (built : ((History.run requests).options.build platform).result =
      .ok config)
    {slot : Slot} {setting : Setting}
    (latest : (History.run requests).latest? slot = some setting) :
    config.Holds setting := by
  have builds := Options.build_eq_ok_iff.mp built
  have held := holds_latest?_run requests slot setting latest
  exact builds.holds (consistent_run requests) held.stored held.unopposed

/-- A threshold that is chosen twice, with a contradicting request refused in
between. -/
theorem History.holds_latest_accepted_threshold :
    let requests : List Request :=
      [.byValue (.credentials (.pskStore ⟨⟨0⟩, false⟩)),
        .byValue (.resumption (.verifyThreshold 10)),
        .byValue (.helloVerify (.enabled false)),
        .byValue (.resumption (.verifyThreshold 50))]
    ∃ config,
      ((History.run requests).options.build
        (.ofCores 4 .standard)).result = .ok config ∧
      (History.run requests).latest? .resumptionThreshold =
        some (.resumption (.verifyThreshold 50)) ∧
      config.Holds (.resumption (.verifyThreshold 50)) := by
  intro requests
  exact ⟨_, rfl, rfl, @History.holds_latest_accepted requests
    (.ofCores 4 .standard) _ rfl .resumptionThreshold _ rfl⟩

end DatagramTls
