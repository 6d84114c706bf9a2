import DatagramTls.Options

/-!
Configurations: every option resolved, together with what was found out on the way. `reopen` goes
back to options; a default that stands in for a choice the connector could not make stays unset.
-/

namespace DatagramTls

structure Capabilities where
  psk : Bool
  certificate : Bool
  ecc : Bool
  deriving DecidableEq

def Capabilities.ofSuites (suites : List CipherSuite) : Capabilities :=
  ⟨suites.any (·.usesPsk), suites.any (·.usesCertificate), suites.any (·.usesEcc)⟩

structure Config where
  endpoint : Config.Endpoint
  role : Config.Role
  credentials : Config.Credentials
  requirements : Option Requirements
  algorithms : Config.Algorithms
  retransmission : Config.Retransmission
  framing : Config.Framing
  resources : Config.Resources
  diagnostics : Config.Diagnostics
  resumption : Config.Resumption
  helloVerify : Config.HelloVerify
  replay : Config.Replay
  extensions : Config.Extensions
  capabilities : Capabilities
  provider : Provider

namespace Config

/-- Configurations are the same when all their parts are; objects count by their identity. -/
def same (left right : Config) : Bool :=
  left.endpoint == right.endpoint && left.role == right.role &&
    left.credentials.same right.credentials && left.requirements == right.requirements &&
    left.algorithms == right.algorithms && left.retransmission == right.retransmission &&
    left.framing == right.framing && left.resources == right.resources &&
    left.diagnostics == right.diagnostics && left.resumption == right.resumption &&
    left.helloVerify == right.helloVerify && left.replay == right.replay &&
    left.extensions == right.extensions && left.capabilities == right.capabilities &&
    left.provider == right.provider

/-! Reopening -/

def whenever {α : Type} (condition : Bool) (value : α) : Option α :=
  if condition then some value else none

@[simp] theorem whenever_eq_some_iff {α : Type} {condition : Bool} {value result : α} :
    whenever condition value = some result ↔ condition = true ∧ value = result := by
  simp [whenever]

@[simp] theorem whenever_eq_none_iff {α : Type} {condition : Bool} {value : α} :
    whenever condition value = none ↔ condition = false := by
  simp [whenever]

/-- Client authentication is no option of a client only, and a requirement without a verifier is
only ever a default. -/
def reopenRole (config : Config) : Role.Options :=
  let server := !config.role.clientOnly
  { clientOnly := some config.role.clientOnly
    serverOnly := some config.role.serverOnly
    handshakeMode := some config.role.handshakeMode
    clientAuthWanted := whenever server config.role.clientAuthWanted
    clientAuthRequired :=
      whenever (server && (!config.role.clientAuthRequired || config.credentials.verifier.isSome))
        config.role.clientAuthRequired }

/-- The threshold is an option only where addresses are verified. -/
def reopenResumption (config : Config) : Resumption.Options :=
  let server := !config.role.clientOnly
  { autoTimeout := config.resumption.autoTimeout
    serverSessionId := whenever server config.resumption.serverSessionId
    verifier := config.resumption.verifier
    verifyThreshold :=
      whenever (server && config.helloVerify.enabled) config.resumption.verifyThreshold }

def reopenHelloVerify (config : Config) : HelloVerify.Options :=
  let server := !config.role.clientOnly
  { enabled := whenever server config.helloVerify.enabled
    enabledForPsk := whenever server config.helloVerify.enabledForPsk
    version := config.helloVerify.version }

/-- The options that a configuration stands for, to be changed and built again. -/
def reopen (config : Config) : Options where
  endpoint := config.endpoint.reopen
  role := config.reopenRole
  credentials := config.credentials
  algorithms := config.algorithms.reopen
  retransmission := config.retransmission.reopen
  framing := config.framing.reopen
  resources := config.resources.reopen
  diagnostics := config.diagnostics
  resumption := config.reopenResumption
  helloVerify := config.reopenHelloVerify
  replay := config.replay.reopen
  extensions := config.extensions.reopen

end Config

end DatagramTls
