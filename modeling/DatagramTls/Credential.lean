import DatagramTls.Certificate
import DatagramTls.Distinct

/-!
What certificate material requires of a configuration, and the credentials it comes from. Identities
and verifiers register their keys and certificates; the requirements then know which key families can
authenticate, which schemes and groups belong among the defaults, and what an explicit choice of
schemes and groups must cover. Objects have an identity of their own, their handle, by which
configurations are compared.
-/

namespace DatagramTls

/-- Material that an identity or a verifier registers. Chains start with the leaf. -/
inductive Registration where
  | identityKey (key : Key)
  | identityChain (chain : List Certificate)
  | trustedKey (key : Key)
  | trustedCertificates (trusted : List Certificate)
  deriving DecidableEq

structure Requirements where
  identityKeys : List Key
  leaf : Option Certificate
  chainSchemes : List Scheme
  defaultSchemes : List Scheme
  defaultGroups : List Group
  deriving DecidableEq

namespace Requirements

def empty : Requirements := ⟨[], none, [], [], []⟩

/-! Registering -/

def addDefaultScheme (requirements : Requirements) (scheme : Scheme) : Requirements :=
  { requirements with defaultSchemes := Distinct.add requirements.defaultSchemes scheme }

def addKeyDefaults (requirements : Requirements) (key : Key) : Requirements :=
  { requirements.addDefaultScheme key.preferredScheme with
    defaultGroups := Distinct.addAll requirements.defaultGroups key.curve?.toList }

def addIdentityKey (requirements : Requirements) (key : Key) : Requirements :=
  { requirements.addKeyDefaults key with
    identityKeys := Distinct.add requirements.identityKeys key }

def addChainScheme (requirements : Requirements) (scheme : Scheme) : Requirements :=
  { requirements.addDefaultScheme scheme with
    chainSchemes := Distinct.add requirements.chainSchemes scheme }

def addTrusted (requirements : Requirements) (certificate : Certificate) : Requirements :=
  (requirements.addKeyDefaults certificate.key).addDefaultScheme certificate.scheme

/-- The certificates whose signatures peers check: all but a self-signed root at the end of a chain
of more than one. -/
def signedPart (chain : List Certificate) : List Certificate :=
  match chain.getLast? with
  | some root => if 1 < chain.length ∧ root.selfSigned then chain.dropLast else chain
  | none => chain

def register (requirements : Requirements) : Registration → Requirements
  | .identityKey key => requirements.addIdentityKey key
  | .identityChain [] => requirements
  | .identityChain (leaf :: issuers) =>
      let withLeaf :=
        { requirements.addIdentityKey leaf.key with leaf := requirements.leaf.or (some leaf) }
      ((signedPart (leaf :: issuers)).map (·.scheme)).foldl addChainScheme withLeaf
  | .trustedKey key => requirements.addKeyDefaults key
  | .trustedCertificates trusted => trusted.foldl addTrusted requirements

def registerAll (requirements : Requirements) (registrations : List Registration) : Requirements :=
  registrations.foldl register requirements

/-! Asking -/

def keyFamilies (requirements : Requirements) : List KeyFamily :=
  Distinct.addAll [] (requirements.identityKeys.map (·.family))

/-- Every identity key needs a scheme it can sign with, and every chain signature needs to be among
the schemes. -/
def checkSchemes (requirements : Requirements) (schemes : List Scheme) :
    Except ConsistencyError Unit :=
  match requirements.identityKeys.find? fun key => !schemes.any (key.signs ·.signature) with
  | some key => .error (.keyWithoutScheme key)
  | none =>
      match requirements.chainSchemes.find? (!schemes.contains ·) with
      | some scheme => .error (.chainSchemeNotOffered scheme)
      | none => .ok ()

def checkGroups (requirements : Requirements) (groups : List Group) :
    Except ConsistencyError Unit :=
  match (requirements.identityKeys.filterMap (·.curve?)).find? (!groups.contains ·) with
  | some curve => .error (.curveNotOffered curve)
  | none => .ok ()

/-- Whether the leaf may authenticate the side; public keys without a certificate may always. -/
def permits (requirements : Requirements) (side : Side) : Bool :=
  requirements.leaf.all (·.permits side)

end Requirements

/-! Credentials -/

structure Handle where
  number : Nat
  deriving DecidableEq

structure PskStore where
  handle : Handle
  servesEcdhe : Bool
  deriving DecidableEq

/-- The connector's own identity. Without registrations it does not say what it requires. -/
structure Identity where
  handle : Handle
  kinds : List CertificateKind
  registrations : Option (List Registration)
  deriving DecidableEq

namespace Identity

def ofChain (handle : Handle) (chain : List Certificate) : Identity :=
  ⟨handle, [.x509, .rawPublicKey], some [.identityChain chain]⟩

def ofKey (handle : Handle) (key : Key) : Identity :=
  ⟨handle, [.rawPublicKey], some [.identityKey key]⟩

end Identity

structure Verifier where
  handle : Handle
  kinds : List CertificateKind
  registrations : Option (List Registration)
  deriving DecidableEq

namespace Verifier

def ofTrusted (handle : Handle) (trusted : List Certificate) : Verifier :=
  ⟨handle, [.x509], some [.trustedCertificates trusted]⟩

end Verifier

/-- What the identity and then the verifier require; nothing is known if neither says. -/
def Requirements.ofCredentials? (identity : Option Identity) (verifier : Option Verifier) :
    Option Requirements :=
  match identity.bind (·.registrations), verifier.bind (·.registrations) with
  | none, none => none
  | first, second =>
      some ((empty.registerAll (first.getD [])).registerAll (second.getD []))

end DatagramTls
