import DatagramTls.Options

/-!
Slots: the places that options have. `slots` lists the places that are taken; setting an option
takes its place.
-/

namespace DatagramTls

inductive Slot where
  | loggingTag
  | address
  | addressReuse
  | clientOnly
  | serverOnly
  | handshakeMode
  | clientAuthWanted
  | clientAuthRequired
  | pskStore
  | identity
  | verifier
  | suites
  | preselected
  | recommendedSuitesOnly
  | schemes
  | recommendedSchemesOnly
  | groups
  | recommendedGroupsOnly
  | timeout
  | extraForEcc
  | maxRetransmissions
  | backoff
  | earlyStop
  | mtu
  | mtuLimit
  | maxFragmentLengthCode
  | recordSizeLimit
  | reassemblyLength
  | multiRecordMessages
  | multiHandshakeRecords
  | outboundBuffer
  | deferredOutgoingMessages
  | deferredIncomingBytes
  | maxConnections
  | staleThreshold
  | connectionThreads
  | receiverThreads
  | receiveBuffer
  | sendBuffer
  | healthInterval
  | healthHandler
  | connectionListener
  | autoResumption
  | serverSessionId
  | resumptionVerifier
  | resumptionThreshold
  | helloVerify
  | helloVerifyForPsk
  | helloVerifyVersion
  | antiReplay
  | extendedWindow
  | cidGenerator
  | cidNewerOnly
  | serverName
  | masterSecret
  | truncateClientPath
  | truncateValidatedPath
  deriving DecidableEq

namespace Slot

def all : List Slot :=
  [.loggingTag, .address, .addressReuse, .clientOnly, .serverOnly, .handshakeMode,
    .clientAuthWanted, .clientAuthRequired, .pskStore, .identity, .verifier, .suites, .preselected,
    .recommendedSuitesOnly, .schemes, .recommendedSchemesOnly, .groups, .recommendedGroupsOnly,
    .timeout, .extraForEcc, .maxRetransmissions, .backoff, .earlyStop, .mtu, .mtuLimit,
    .maxFragmentLengthCode, .recordSizeLimit, .reassemblyLength, .multiRecordMessages,
    .multiHandshakeRecords, .outboundBuffer, .deferredOutgoingMessages, .deferredIncomingBytes,
    .maxConnections, .staleThreshold, .connectionThreads, .receiverThreads, .receiveBuffer,
    .sendBuffer, .healthInterval, .healthHandler, .connectionListener, .autoResumption,
    .serverSessionId, .resumptionVerifier, .resumptionThreshold, .helloVerify, .helloVerifyForPsk,
    .helloVerifyVersion, .antiReplay, .extendedWindow, .cidGenerator, .cidNewerOnly, .serverName,
    .masterSecret, .truncateClientPath, .truncateValidatedPath]

theorem mem_all (slot : Slot) : slot ∈ all := by
  cases slot <;> decide

end Slot

def Setting.slot : Setting → Slot
  | .endpoint (.loggingTag _) => .loggingTag
  | .endpoint (.address _) => .address
  | .endpoint (.addressReuse _) => .addressReuse
  | .role (.clientOnly _) => .clientOnly
  | .role (.serverOnly _) => .serverOnly
  | .role (.handshakeMode _) => .handshakeMode
  | .role (.clientAuthWanted _) => .clientAuthWanted
  | .role (.clientAuthRequired _) => .clientAuthRequired
  | .credentials (.pskStore _) => .pskStore
  | .credentials (.identity _) => .identity
  | .credentials (.verifier _) => .verifier
  | .algorithms (.suites _) => .suites
  | .algorithms (.preselected _) => .preselected
  | .algorithms (.recommendedSuitesOnly _) => .recommendedSuitesOnly
  | .algorithms (.schemes _) => .schemes
  | .algorithms (.recommendedSchemesOnly _) => .recommendedSchemesOnly
  | .algorithms (.groups _) => .groups
  | .algorithms (.recommendedGroupsOnly _) => .recommendedGroupsOnly
  | .retransmission (.timeout _) => .timeout
  | .retransmission (.extraForEcc _) => .extraForEcc
  | .retransmission (.maxRetransmissions _) => .maxRetransmissions
  | .retransmission (.backoff _) => .backoff
  | .retransmission (.earlyStop _) => .earlyStop
  | .framing (.mtu _) => .mtu
  | .framing (.mtuLimit _) => .mtuLimit
  | .framing (.maxFragmentLengthCode _) => .maxFragmentLengthCode
  | .framing (.recordSizeLimit _) => .recordSizeLimit
  | .framing (.reassemblyLength _) => .reassemblyLength
  | .framing (.multiRecordMessages _) => .multiRecordMessages
  | .framing (.multiHandshakeRecords _) => .multiHandshakeRecords
  | .resources (.outboundBuffer _) => .outboundBuffer
  | .resources (.deferredOutgoingMessages _) => .deferredOutgoingMessages
  | .resources (.deferredIncomingBytes _) => .deferredIncomingBytes
  | .resources (.maxConnections _) => .maxConnections
  | .resources (.staleThreshold _) => .staleThreshold
  | .resources (.connectionThreads _) => .connectionThreads
  | .resources (.receiverThreads _) => .receiverThreads
  | .resources (.receiveBuffer _) => .receiveBuffer
  | .resources (.sendBuffer _) => .sendBuffer
  | .diagnostics (.healthInterval _) => .healthInterval
  | .diagnostics (.healthHandler _) => .healthHandler
  | .diagnostics (.connectionListener _) => .connectionListener
  | .resumption (.autoTimeout _) => .autoResumption
  | .resumption (.serverSessionId _) => .serverSessionId
  | .resumption (.verifier _) => .resumptionVerifier
  | .resumption (.verifyThreshold _) => .resumptionThreshold
  | .helloVerify (.enabled _) => .helloVerify
  | .helloVerify (.enabledForPsk _) => .helloVerifyForPsk
  | .helloVerify (.version _) => .helloVerifyVersion
  | .replay (.antiReplay _) => .antiReplay
  | .replay (.extendedWindow _) => .extendedWindow
  | .replay (.cidGenerator _) => .cidGenerator
  | .replay (.cidNewerOnly _) => .cidNewerOnly
  | .extensions (.serverName _) => .serverName
  | .extensions (.masterSecret _) => .masterSecret
  | .extensions (.truncateClientPath _) => .truncateClientPath
  | .extensions (.truncateValidatedPath _) => .truncateValidatedPath

namespace Options

def isSet (options : Options) : Slot → Bool
  | .loggingTag => options.endpoint.loggingTag.isSome
  | .address => options.endpoint.address.isSome
  | .addressReuse => options.endpoint.addressReuse.isSome
  | .clientOnly => options.role.clientOnly.isSome
  | .serverOnly => options.role.serverOnly.isSome
  | .handshakeMode => options.role.handshakeMode.isSome
  | .clientAuthWanted => options.role.clientAuthWanted.isSome
  | .clientAuthRequired => options.role.clientAuthRequired.isSome
  | .pskStore => options.credentials.pskStore.isSome
  | .identity => options.credentials.identity.isSome
  | .verifier => options.credentials.verifier.isSome
  | .suites => options.algorithms.suites.isSome
  | .preselected => options.algorithms.preselected.isSome
  | .recommendedSuitesOnly => options.algorithms.recommendedSuitesOnly.isSome
  | .schemes => options.algorithms.schemes.isSome
  | .recommendedSchemesOnly => options.algorithms.recommendedSchemesOnly.isSome
  | .groups => options.algorithms.groups.isSome
  | .recommendedGroupsOnly => options.algorithms.recommendedGroupsOnly.isSome
  | .timeout => options.retransmission.timeout.isSome
  | .extraForEcc => options.retransmission.extraForEcc.isSome
  | .maxRetransmissions => options.retransmission.maxRetransmissions.isSome
  | .backoff => options.retransmission.backoff.isSome
  | .earlyStop => options.retransmission.earlyStop.isSome
  | .mtu => options.framing.mtu.isSome
  | .mtuLimit => options.framing.mtuLimit.isSome
  | .maxFragmentLengthCode => options.framing.maxFragmentLengthCode.isSome
  | .recordSizeLimit => options.framing.recordSizeLimit.isSome
  | .reassemblyLength => options.framing.reassemblyLength.isSome
  | .multiRecordMessages => options.framing.multiRecordMessages.isSome
  | .multiHandshakeRecords => options.framing.multiHandshakeRecords.isSome
  | .outboundBuffer => options.resources.outboundBuffer.isSome
  | .deferredOutgoingMessages => options.resources.deferredOutgoingMessages.isSome
  | .deferredIncomingBytes => options.resources.deferredIncomingBytes.isSome
  | .maxConnections => options.resources.maxConnections.isSome
  | .staleThreshold => options.resources.staleThreshold.isSome
  | .connectionThreads => options.resources.connectionThreads.isSome
  | .receiverThreads => options.resources.receiverThreads.isSome
  | .receiveBuffer => options.resources.receiveBuffer.isSome
  | .sendBuffer => options.resources.sendBuffer.isSome
  | .healthInterval => options.diagnostics.healthInterval.isSome
  | .healthHandler => options.diagnostics.healthHandler.isSome
  | .connectionListener => options.diagnostics.connectionListener.isSome
  | .autoResumption => options.resumption.autoTimeout.isSome
  | .serverSessionId => options.resumption.serverSessionId.isSome
  | .resumptionVerifier => options.resumption.verifier.isSome
  | .resumptionThreshold => options.resumption.verifyThreshold.isSome
  | .helloVerify => options.helloVerify.enabled.isSome
  | .helloVerifyForPsk => options.helloVerify.enabledForPsk.isSome
  | .helloVerifyVersion => options.helloVerify.version.isSome
  | .antiReplay => options.replay.antiReplay.isSome
  | .extendedWindow => options.replay.extendedWindow.isSome
  | .cidGenerator => options.replay.cidGenerator.isSome
  | .cidNewerOnly => options.replay.cidNewerOnly.isSome
  | .serverName => options.extensions.serverName.isSome
  | .masterSecret => options.extensions.masterSecret.isSome
  | .truncateClientPath => options.extensions.truncateClientPath.isSome
  | .truncateValidatedPath => options.extensions.truncateValidatedPath.isSome

def slots (options : Options) : List Slot :=
  Slot.all.filter options.isSet

end Options

end DatagramTls
