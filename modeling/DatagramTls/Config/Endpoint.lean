import DatagramTls.Credential

/-!
The local endpoint and its diagnostics: the tag in front of log messages, the address to bind to,
regular statistics on the connector's health, and who listens to its connections. A tag that is not
empty ends in a space.
-/

namespace DatagramTls

inductive Address where
  | ipv4 (octets : Vector UInt8 4) (port : UInt16)
  | ipv6 (octets : Vector UInt8 16) (port : UInt16) (flow scope : UInt32)
  deriving DecidableEq

def Address.unspecified : Address := .ipv4 (.replicate 4 0) 0

namespace Config

structure Endpoint where
  loggingTag : String
  address : Address
  addressReuse : Bool
  deriving DecidableEq

namespace Endpoint

structure Options where
  loggingTag : Option String := none
  address : Option Address := none
  addressReuse : Option Bool := none

inductive Setting where
  | loggingTag (tag : String)
  | address (address : Address)
  | addressReuse (enabled : Bool)

def Options.store (options : Options) : Setting → Options
  | .loggingTag tag => { options with loggingTag := some tag }
  | .address address => { options with address := some address }
  | .addressReuse enabled => { options with addressReuse := some enabled }

/-- The tag with a space at the end, unless it is empty or has one. -/
def spacedTag (tag : String) : String :=
  match tag.toList.getLast? with
  | none => tag
  | some last => if last = ' ' then tag else tag ++ " "

theorem spacedTag_spacedTag (tag : String) : spacedTag (spacedTag tag) = spacedTag tag := by
  cases ending : tag.toList.getLast? with
  | none => simp [spacedTag, ending]
  | some last => by_cases space : last = ' ' <;> simp [spacedTag, ending, space]

def Options.resolve (options : Options) : Endpoint where
  loggingTag := spacedTag (options.loggingTag.getD "")
  address := options.address.getD .unspecified
  addressReuse := options.addressReuse.getD false

def reopen (endpoint : Endpoint) : Options where
  loggingTag := some endpoint.loggingTag
  address := some endpoint.address
  addressReuse := some endpoint.addressReuse

theorem resolve_reopen_resolve (options : Options) :
    options.resolve.reopen.resolve = options.resolve := by
  simp [Options.resolve, reopen, spacedTag_spacedTag]

end Endpoint

structure Diagnostics where
  healthInterval : Option Duration := none
  healthHandler : Option Handle := none
  connectionListener : Option Handle := none
  deriving DecidableEq

namespace Diagnostics

inductive Setting where
  | healthInterval (interval : Duration)
  | healthHandler (handler : Handle)
  | connectionListener (listener : Handle)

def objection? : Setting → Option OptionError
  | .healthInterval interval => Limit.healthInterval.shorterThan? (.ofSeconds 1) interval
  | .healthHandler _ | .connectionListener _ => none

def store (diagnostics : Diagnostics) : Setting → Diagnostics
  | .healthInterval interval => { diagnostics with healthInterval := some interval }
  | .healthHandler handler => { diagnostics with healthHandler := some handler }
  | .connectionListener listener => { diagnostics with connectionListener := some listener }

end Diagnostics

end Config

end DatagramTls
