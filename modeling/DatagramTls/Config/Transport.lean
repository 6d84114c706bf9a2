import DatagramTls.Error

/-!
How flights are repeated, how large datagrams, records and messages may be, and the buffers,
connections, threads and sockets at hand. The size of a datagram is either fixed or detected and
then limited.
-/

namespace DatagramTls.Config

structure Retransmission where
  timeout : Duration
  extraForEcc : Duration
  maxRetransmissions : UInt32
  /-- The repetition from which on each record has its own datagram; 0 for none. -/
  backoff : UInt32
  earlyStop : Bool
  deriving DecidableEq

namespace Retransmission

def defaultTimeout : Duration := .ofSeconds 2

def defaultExtraForEcc : Duration := .ofSeconds 0

def defaultMaxRetransmissions : UInt32 := 4

structure Options where
  timeout : Option Duration := none
  extraForEcc : Option Duration := none
  maxRetransmissions : Option UInt32 := none
  backoff : Option UInt32 := none
  earlyStop : Option Bool := none

inductive Setting where
  | timeout (timeout : Duration)
  | extraForEcc (timeout : Duration)
  | maxRetransmissions (count : UInt32)
  | backoff (count : UInt32)
  | earlyStop (enabled : Bool)

namespace Options

def objection? : Setting → Option OptionError
  | .maxRetransmissions count => Limit.maxRetransmissions.below? 1 count.toNat
  | _ => none

def store (options : Options) : Setting → Options
  | .timeout timeout => { options with timeout := some timeout }
  | .extraForEcc timeout => { options with extraForEcc := some timeout }
  | .maxRetransmissions count => { options with maxRetransmissions := some count }
  | .backoff count => { options with backoff := some count }
  | .earlyStop enabled => { options with earlyStop := some enabled }

/-- The datagrams shrink after half of the repetitions, unless chosen otherwise. -/
def resolve (options : Options) : Retransmission :=
  let maxRetransmissions := options.maxRetransmissions.getD defaultMaxRetransmissions
  { timeout := options.timeout.getD defaultTimeout
    extraForEcc := options.extraForEcc.getD defaultExtraForEcc
    maxRetransmissions
    backoff := options.backoff.getD (maxRetransmissions / 2)
    earlyStop := options.earlyStop.getD true }

end Options

def reopen (retransmission : Retransmission) : Options where
  timeout := some retransmission.timeout
  extraForEcc := some retransmission.extraForEcc
  maxRetransmissions := some retransmission.maxRetransmissions
  backoff := some retransmission.backoff
  earlyStop := some retransmission.earlyStop

end Retransmission

structure Framing where
  mtu : Option UInt64
  mtuLimit : Option UInt64
  maxFragmentLengthCode : Option UInt8
  recordSizeLimit : Option UInt16
  reassemblyLength : UInt64
  multiRecordMessages : Bool
  multiHandshakeRecords : Bool
  deriving DecidableEq

namespace Framing

def defaultMtuLimit : UInt64 := 1500

def defaultReassemblyLength : UInt64 := 8192

structure Options where
  mtu : Option UInt64 := none
  mtuLimit : Option UInt64 := none
  maxFragmentLengthCode : Option UInt8 := none
  recordSizeLimit : Option UInt16 := none
  reassemblyLength : Option UInt64 := none
  multiRecordMessages : Option Bool := none
  multiHandshakeRecords : Option Bool := none

inductive Setting where
  | mtu (size : UInt64)
  | mtuLimit (size : UInt64)
  | maxFragmentLengthCode (code : UInt8)
  | recordSizeLimit (limit : UInt32)
  | reassemblyLength (length : UInt64)
  | multiRecordMessages (enabled : Bool)
  | multiHandshakeRecords (enabled : Bool)

namespace Options

def objection? (options : Options) : Setting → Option OptionError
  | .mtu _ => if options.mtuLimit.isSome then some (.conflict .mtu .mtuLimit) else none
  | .mtuLimit _ => if options.mtu.isSome then some (.conflict .mtuLimit .mtu) else none
  | .maxFragmentLengthCode code => Limit.maxFragmentLengthCode.outside? 1 4 code.toNat
  | .recordSizeLimit limit => Limit.recordSizeLimit.outside? 64 65535 limit.toNat
  | .reassemblyLength length => Limit.reassemblyLength.below? 1 length.toNat
  | .multiRecordMessages _ | .multiHandshakeRecords _ => none

def store (options : Options) : Setting → Options
  | .mtu size => { options with mtu := some size }
  | .mtuLimit size => { options with mtuLimit := some size }
  | .maxFragmentLengthCode code => { options with maxFragmentLengthCode := some code }
  | .recordSizeLimit limit => { options with recordSizeLimit := some limit.toUInt16 }
  | .reassemblyLength length => { options with reassemblyLength := some length }
  | .multiRecordMessages enabled => { options with multiRecordMessages := some enabled }
  | .multiHandshakeRecords enabled => { options with multiHandshakeRecords := some enabled }

def resolve (options : Options) : Framing where
  mtu := options.mtu
  mtuLimit :=
    if options.mtu.isSome then none else some (options.mtuLimit.getD defaultMtuLimit)
  maxFragmentLengthCode := options.maxFragmentLengthCode
  recordSizeLimit := options.recordSizeLimit
  reassemblyLength := options.reassemblyLength.getD defaultReassemblyLength
  multiRecordMessages := options.multiRecordMessages.getD true
  multiHandshakeRecords := options.multiHandshakeRecords.getD false

end Options

def reopen (framing : Framing) : Options where
  mtu := framing.mtu
  mtuLimit := framing.mtuLimit
  maxFragmentLengthCode := framing.maxFragmentLengthCode
  recordSizeLimit := framing.recordSizeLimit
  reassemblyLength := some framing.reassemblyLength
  multiRecordMessages := some framing.multiRecordMessages
  multiHandshakeRecords := some framing.multiHandshakeRecords

theorem resolve_reopen_resolve (options : Options) :
    options.resolve.reopen.resolve = options.resolve := by
  cases fixed : options.mtu <;> simp [Options.resolve, reopen, fixed]

end Framing

structure Resources where
  outboundBuffer : UInt64
  deferredOutgoingMessages : UInt64
  deferredIncomingBytes : UInt64
  maxConnections : UInt64
  staleThreshold : Duration
  connectionThreads : UInt64
  receiverThreads : UInt64
  receiveBuffer : Option UInt64
  sendBuffer : Option UInt64
  deriving DecidableEq

namespace Resources

def defaultOutboundBuffer : UInt64 := 100000

def defaultDeferredOutgoingMessages : UInt64 := 10

def defaultDeferredIncomingBytes : UInt64 := 8192

def defaultMaxConnections : UInt64 := 150000

def defaultStaleThreshold : Duration := .ofSeconds 1800

def connectionThreadsPerCore : UInt64 := 6

structure Options where
  outboundBuffer : Option UInt64 := none
  deferredOutgoingMessages : Option UInt64 := none
  deferredIncomingBytes : Option UInt64 := none
  maxConnections : Option UInt64 := none
  staleThreshold : Option Duration := none
  connectionThreads : Option UInt64 := none
  receiverThreads : Option UInt64 := none
  receiveBuffer : Option UInt64 := none
  sendBuffer : Option UInt64 := none

inductive Setting where
  | outboundBuffer (capacity : UInt64)
  | deferredOutgoingMessages (count : UInt64)
  | deferredIncomingBytes (size : UInt64)
  | maxConnections (count : UInt64)
  | staleThreshold (threshold : Duration)
  | connectionThreads (count : UInt64)
  | receiverThreads (count : UInt64)
  | receiveBuffer (size : UInt64)
  | sendBuffer (size : UInt64)

namespace Options

def objection? : Setting → Option OptionError
  | .outboundBuffer capacity => Limit.outboundBuffer.below? 1 capacity.toNat
  | .deferredOutgoingMessages _ | .deferredIncomingBytes _ => none
  | .maxConnections count => Limit.maxConnections.below? 1 count.toNat
  | .staleThreshold threshold => Limit.staleThreshold.shorterThan? (.ofSeconds 1) threshold
  | .connectionThreads count => Limit.connectionThreads.below? 1 count.toNat
  | .receiverThreads count => Limit.receiverThreads.below? 1 count.toNat
  | .receiveBuffer size => Limit.receiveBuffer.below? 1 size.toNat
  | .sendBuffer size => Limit.sendBuffer.below? 1 size.toNat

def store (options : Options) : Setting → Options
  | .outboundBuffer capacity => { options with outboundBuffer := some capacity }
  | .deferredOutgoingMessages count => { options with deferredOutgoingMessages := some count }
  | .deferredIncomingBytes size => { options with deferredIncomingBytes := some size }
  | .maxConnections count => { options with maxConnections := some count }
  | .staleThreshold threshold => { options with staleThreshold := some threshold }
  | .connectionThreads count => { options with connectionThreads := some count }
  | .receiverThreads count => { options with receiverThreads := some count }
  | .receiveBuffer size => { options with receiveBuffer := some size }
  | .sendBuffer size => { options with sendBuffer := some size }

-- The product is taken even where a number of threads is chosen. It wraps: arithmetic that stops on
-- overflow, as in a build with checks, ends here from `6 * cores ≥ 2 ^ 64` on.
def resolve (options : Options) (cores : UInt64) : Resources where
  outboundBuffer := options.outboundBuffer.getD defaultOutboundBuffer
  deferredOutgoingMessages :=
    options.deferredOutgoingMessages.getD defaultDeferredOutgoingMessages
  deferredIncomingBytes := options.deferredIncomingBytes.getD defaultDeferredIncomingBytes
  maxConnections := options.maxConnections.getD defaultMaxConnections
  staleThreshold := options.staleThreshold.getD defaultStaleThreshold
  connectionThreads := options.connectionThreads.getD (connectionThreadsPerCore * cores)
  receiverThreads := options.receiverThreads.getD ((cores + 1) / 2)
  receiveBuffer := options.receiveBuffer
  sendBuffer := options.sendBuffer

end Options

def reopen (resources : Resources) : Options where
  outboundBuffer := some resources.outboundBuffer
  deferredOutgoingMessages := some resources.deferredOutgoingMessages
  deferredIncomingBytes := some resources.deferredIncomingBytes
  maxConnections := some resources.maxConnections
  staleThreshold := some resources.staleThreshold
  connectionThreads := some resources.connectionThreads
  receiverThreads := some resources.receiverThreads
  receiveBuffer := resources.receiveBuffer
  sendBuffer := resources.sendBuffer

end Resources

end DatagramTls.Config
