import DatagramTls.Config.Endpoint
import DatagramTls.Config.Negotiation
import DatagramTls.Config.Protection
import DatagramTls.Config.Role
import DatagramTls.Config.Transport

/-!
Options: what has been chosen so far for a configuration, topic by topic. Nothing is filled in here;
an option that was not chosen is unset.
-/

namespace DatagramTls

structure Options where
  endpoint : Config.Endpoint.Options := {}
  role : Config.Role.Options := {}
  credentials : Config.Credentials := {}
  algorithms : Config.Algorithms.Options := {}
  retransmission : Config.Retransmission.Options := {}
  framing : Config.Framing.Options := {}
  resources : Config.Resources.Options := {}
  diagnostics : Config.Diagnostics := {}
  resumption : Config.Resumption.Options := {}
  helloVerify : Config.HelloVerify.Options := {}
  replay : Config.Replay.Options := {}
  extensions : Config.Extensions.Options := {}

inductive Setting where
  | endpoint (setting : Config.Endpoint.Setting)
  | role (setting : Config.Role.Setting)
  | credentials (setting : Config.Credentials.Setting)
  | algorithms (setting : Config.Algorithms.Setting)
  | retransmission (setting : Config.Retransmission.Setting)
  | framing (setting : Config.Framing.Setting)
  | resources (setting : Config.Resources.Setting)
  | diagnostics (setting : Config.Diagnostics.Setting)
  | resumption (setting : Config.Resumption.Setting)
  | helloVerify (setting : Config.HelloVerify.Setting)
  | replay (setting : Config.Replay.Setting)
  | extensions (setting : Config.Extensions.Setting)

namespace Options

def unset : Options := {}

def store (options : Options) : Setting → Options
  | .endpoint setting => { options with endpoint := options.endpoint.store setting }
  | .role setting => { options with role := options.role.store setting }
  | .credentials setting => { options with credentials := options.credentials.store setting }
  | .algorithms setting => { options with algorithms := options.algorithms.store setting }
  | .retransmission setting =>
      { options with retransmission := options.retransmission.store setting }
  | .framing setting => { options with framing := options.framing.store setting }
  | .resources setting => { options with resources := options.resources.store setting }
  | .diagnostics setting => { options with diagnostics := options.diagnostics.store setting }
  | .resumption setting => { options with resumption := options.resumption.store setting }
  | .helloVerify setting => { options with helloVerify := options.helloVerify.store setting }
  | .replay setting => { options with replay := options.replay.store setting }
  | .extensions setting => { options with extensions := options.extensions.store setting }

end Options

end DatagramTls
