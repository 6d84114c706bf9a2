import DatagramTls.Credential

/-!
Roles and credentials: which side of a connection the connector takes, whether it starts handshakes
on its own and asks clients for certificates, and what it authenticates and verifies with. Two sets
of credentials are the same when their objects are, whatever the objects would answer.
-/

namespace DatagramTls.Config

@[ext]
structure Role where
  clientOnly : Bool
  serverOnly : Bool
  handshakeMode : HandshakeMode
  clientAuthWanted : Bool
  clientAuthRequired : Bool
  deriving DecidableEq

namespace Role

structure Options where
  clientOnly : Option Bool := none
  serverOnly : Option Bool := none
  handshakeMode : Option HandshakeMode := none
  clientAuthWanted : Option Bool := none
  clientAuthRequired : Option Bool := none

inductive Setting where
  | clientOnly (enabled : Bool)
  | serverOnly (enabled : Bool)
  | handshakeMode (mode : HandshakeMode)
  | clientAuthWanted (wanted : Bool)
  | clientAuthRequired (required : Bool)

namespace Options

def store (options : Options) : Setting → Options
  | .clientOnly enabled => { options with clientOnly := some enabled }
  | .serverOnly enabled => { options with serverOnly := some enabled }
  | .handshakeMode mode => { options with handshakeMode := some mode }
  | .clientAuthWanted wanted => { options with clientAuthWanted := some wanted }
  | .clientAuthRequired required => { options with clientAuthRequired := some required }

/-- A connector takes both sides, starts handshakes unless it is a server only, and requires
clients to authenticate unless it is a client only or merely wants them to. -/
def resolve (options : Options) : Role :=
  let clientOnly := options.clientOnly.getD false
  let serverOnly := options.serverOnly.getD false
  let wanted := options.clientAuthWanted.getD false
  { clientOnly
    serverOnly
    handshakeMode := options.handshakeMode.getD (if serverOnly then .none else .auto)
    clientAuthWanted := wanted
    clientAuthRequired := options.clientAuthRequired.getD (!clientOnly && !wanted) }

end Options

end Role

structure Credentials where
  pskStore : Option PskStore := none
  identity : Option Identity := none
  verifier : Option Verifier := none
  deriving DecidableEq

namespace Credentials

inductive Setting where
  | pskStore (store : PskStore)
  | identity (identity : Identity)
  | verifier (verifier : Verifier)

def store (credentials : Credentials) : Setting → Credentials
  | .pskStore pskStore => { credentials with pskStore := some pskStore }
  | .identity identity => { credentials with identity := some identity }
  | .verifier verifier => { credentials with verifier := some verifier }

def same (left right : Credentials) : Bool :=
  left.pskStore.map (·.handle) == right.pskStore.map (·.handle) &&
    left.identity.map (·.handle) == right.identity.map (·.handle) &&
    left.verifier.map (·.handle) == right.verifier.map (·.handle)

def requirements? (credentials : Credentials) : Option Requirements :=
  Requirements.ofCredentials? credentials.identity credentials.verifier

def keyFamilies? (credentials : Credentials) : Option (List KeyFamily) :=
  if (credentials.identity.bind (·.registrations)).isSome then
    credentials.requirements?.map (·.keyFamilies)
  else none

end Credentials

end DatagramTls.Config
