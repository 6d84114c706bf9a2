import DatagramTls.Config

/-!
Events: what is worth a record while a configuration is built. A record has the event's level and
message, with the logging tag in front; a certificate is shown by a digest.
-/

namespace DatagramTls.Build

inductive Level where
  | warn
  | debug
  | trace
  deriving DecidableEq

structure Record where
  level : Level
  text : String
  deriving DecidableEq

inductive Derived where
  | schemes
  | groups
  deriving DecidableEq

def Derived.label : Derived → String
  | .schemes => "signature algorithms"
  | .groups => "supported groups"

inductive Event where
  | suitesUnsupported (suites : List CipherSuite)
  | suitesDerived (suites : List CipherSuite)
  | verifierMissing
  | leftOut (derived : Derived) (name : String)
  | unusable (derived : Derived) (dropped considered : Nat)
  | suitesChosen (suites : List CipherSuite) (capabilities : Capabilities)
  | identity (leaf : Certificate)
  | listsChosen (schemes : List Scheme) (groups : List Group)
  | threads (connection receiver cores : UInt64)
  deriving DecidableEq

namespace Event

def level : Event → Level
  | .suitesUnsupported _ | .verifierMissing | .unusable _ _ _ => .warn
  | .leftOut _ _ | .suitesChosen _ _ | .identity _ | .listsChosen _ _ => .debug
  | .suitesDerived _ | .threads _ _ _ => .trace

def suiteNames (suites : List CipherSuite) : String :=
  commaSeparated (suites.map (·.name))

def schemeNames (schemes : List Scheme) : String :=
  commaSeparated (schemes.map (·.name))

def groupNames (groups : List Group) : String :=
  commaSeparated (groups.map (·.name))

def message (digest : List UInt8 → List UInt8) : Event → String
  | .suitesUnsupported suites =>
      s!"cipher suites not supported by the crypto provider: {suiteNames suites}"
  | .suitesDerived suites => s!"derived cipher suites: {suiteNames suites}"
  | .verifierMissing => "no certificate verifier, clients can't authenticate with certificates"
  | .leftOut derived name => s!"{derived.label} {name} left out"
  | .unusable derived dropped considered =>
      s!"{dropped} of {considered} default {derived.label} are not usable"
  | .suitesChosen suites capabilities =>
      s!"cipher suites: {suiteNames suites} (psk: {capabilities.psk}, " ++
        s!"certificate: {capabilities.certificate}, ecc: {capabilities.ecc})"
  | .identity leaf => s!"identity certificate {leaf.fingerprint digest}"
  | .listsChosen schemes groups =>
      s!"signature algorithms: {schemeNames schemes}, groups: {groupNames groups}"
  | .threads connection receiver cores =>
      s!"{connection.toNat} connection threads, {receiver.toNat} receiver threads " ++
        s!"for {cores.toNat} cores"

def record (digest : List UInt8 → List UInt8) (tag : String) (event : Event) : Record :=
  ⟨event.level, tag ++ event.message digest⟩

end Event

end DatagramTls.Build
