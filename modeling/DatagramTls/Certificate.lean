import DatagramTls.Digest
import DatagramTls.Error

/-!
Certificates and public keys, as far as a configuration looks into them. How they are encoded is
left to `X509.Decoders`; which key and scheme the decoded parts name and what usage they permit is
said here.
-/

namespace DatagramTls

namespace X509

/-! Decoded parts -/

structure PublicKeyInfo (Identifier Parameters : Type) where
  algorithm : Identifier
  parameters : Option Parameters
  deriving DecidableEq

structure Extension (Identifier : Type) where
  identifier : Identifier
  value : List UInt8
  deriving DecidableEq

structure KeyUsage where
  digitalSignature : Bool
  deriving DecidableEq

structure Document (Identifier Parameters Name : Type) where
  issuer : Name
  subject : Name
  publicKey : PublicKeyInfo Identifier Parameters
  extensions : Option (List (Extension Identifier))
  signatureAlgorithm : Identifier

def Document.listed {Identifier Parameters Name : Type}
    (document : Document Identifier Parameters Name) : List (Extension Identifier) :=
  document.extensions.getD []

/-- How identifiers are made and shown, and how encodings are read. Each reader takes the bytes of
one part and nothing else; where it refuses them, it says why. -/
structure Decoders (Identifier Parameters Name : Type) where
  identifier : List Nat → Identifier
  text : Identifier → String
  document : List UInt8 → Except String (Document Identifier Parameters Name)
  publicKey : List UInt8 → Except String (PublicKeyInfo Identifier Parameters)
  parameter? : Parameters → Option Identifier
  keyUsage : List UInt8 → Except String KeyUsage
  extendedKeyUsage : List UInt8 → Except String (List Identifier)

/-! Arcs of the identifiers in use -/

def ecPublicKey : List Nat := [1, 2, 840, 10045, 2, 1]

def rsaEncryption : List Nat := [1, 2, 840, 113549, 1, 1, 1]

def ed25519 : List Nat := [1, 3, 101, 112]

def ed448 : List Nat := [1, 3, 101, 113]

def keyUsage : List Nat := [2, 5, 29, 15]

def extendedKeyUsage : List Nat := [2, 5, 29, 37]

def anyPurpose : List Nat := [2, 5, 29, 37, 0]

def serverAuth : List Nat := [1, 3, 6, 1, 5, 5, 7, 3, 1]

def clientAuth : List Nat := [1, 3, 6, 1, 5, 5, 7, 3, 2]

def curves : List (List Nat × Group) :=
  [([1, 2, 840, 10045, 3, 1, 7], .secp256r1),
    ([1, 3, 132, 0, 34], .secp384r1),
    ([1, 3, 132, 0, 35], .secp521r1),
    ([1, 3, 132, 0, 10], .secp256k1),
    ([1, 3, 36, 3, 3, 2, 8, 1, 1, 7], .brainpoolP256r1),
    ([1, 3, 36, 3, 3, 2, 8, 1, 1, 11], .brainpoolP384r1),
    ([1, 3, 36, 3, 3, 2, 8, 1, 1, 13], .brainpoolP512r1)]

def schemes : List (List Nat × Scheme) :=
  [([1, 2, 840, 10045, 4, 3, 2], .sha256Ecdsa),
    ([1, 2, 840, 10045, 4, 3, 3], .sha384Ecdsa),
    ([1, 2, 840, 10045, 4, 3, 4], .sha512Ecdsa),
    ([1, 2, 840, 10045, 4, 1], .sha1Ecdsa),
    ([1, 2, 840, 113549, 1, 1, 11], .sha256Rsa),
    ([1, 2, 840, 113549, 1, 1, 12], .sha384Rsa),
    ([1, 2, 840, 113549, 1, 1, 13], .sha512Rsa),
    ([1, 2, 840, 113549, 1, 1, 5], .sha1Rsa),
    (ed25519, .ed25519),
    (ed448, .ed448)]

/-! Usage -/

structure Purposes where
  server : Bool := false
  client : Bool := false
  any : Bool := false
  deriving DecidableEq

def Purposes.permits (purposes : Purposes) : Side → Bool
  | .client => purposes.any || purposes.client
  | .server => purposes.any || purposes.server

/-- What the extensions say, where there are any of the kind. -/
structure Usage where
  signing : Option Bool
  purposes : Option Purposes
  deriving DecidableEq

def Usage.unrestricted : Usage := ⟨none, none⟩

/-- A side may authenticate unless signing is ruled out or the purposes leave the side out. -/
def Usage.permits (usage : Usage) (side : Side) : Bool :=
  usage.signing.getD true &&
    match usage.purposes with
    | none => true
    | some purposes => purposes.permits side

namespace Decoders

variable {Identifier Parameters Name α : Type} [DecidableEq Identifier]
  (decoders : Decoders Identifier Parameters Name)

def lookUp? (identifier : Identifier) (table : List (List Nat × α)) : Option α :=
  (table.find? fun entry => identifier = decoders.identifier entry.1).map (·.2)

/-! Keys and signatures -/

def curveOf (parameters : Option Parameters) : Except CertificateError Group :=
  match parameters with
  | none => .error (.malformed "missing EC curve")
  | some parameters =>
      match decoders.parameter? parameters with
      | none => .error (.malformed "invalid EC curve")
      | some identifier =>
          match decoders.lookUp? identifier curves with
          | some curve => .ok curve
          | none => .error (.unsupportedCurve (decoders.text identifier))

def keyOf (info : PublicKeyInfo Identifier Parameters) : Except CertificateError Key :=
  if info.algorithm = decoders.identifier ecPublicKey then
    (decoders.curveOf info.parameters).map .ec
  else if info.algorithm = decoders.identifier rsaEncryption then .ok .rsa
  else if info.algorithm = decoders.identifier ed25519 then .ok .ed25519
  else if info.algorithm = decoders.identifier ed448 then .ok .ed448
  else .error (.unsupportedKey (decoders.text info.algorithm))

def keyOfBytes (bytes : List UInt8) : Except CertificateError Key := do
  let info ← (decoders.publicKey bytes).mapError .malformed
  decoders.keyOf info

def schemeOf (algorithm : Identifier) : Except CertificateError Scheme :=
  match decoders.lookUp? algorithm schemes with
  | some scheme => .ok scheme
  | none => .error (.unsupportedSignature (decoders.text algorithm))

/-! Extensions on usage -/

def addPurpose (purposes : Purposes) (identifier : Identifier) : Purposes :=
  if identifier = decoders.identifier serverAuth then { purposes with server := true }
  else if identifier = decoders.identifier clientAuth then { purposes with client := true }
  else if identifier = decoders.identifier anyPurpose then { purposes with any := true }
  else purposes

def purposesOf (identifiers : List Identifier) : Purposes :=
  identifiers.foldl decoders.addPurpose {}

/-- The usage after one more extension, which replaces what an earlier one of its kind said. -/
def extend (usage : Usage) (extension : Extension Identifier) :
    Except CertificateError Usage :=
  if extension.identifier = decoders.identifier X509.keyUsage then do
    let decoded ← (decoders.keyUsage extension.value).mapError .malformed
    pure { usage with signing := some decoded.digitalSignature }
  else if extension.identifier = decoders.identifier X509.extendedKeyUsage then do
    let identifiers ← (decoders.extendedKeyUsage extension.value).mapError .malformed
    pure { usage with purposes := some (decoders.purposesOf identifiers) }
  else pure usage

def usageOf (extensions : List (Extension Identifier)) : Except CertificateError Usage :=
  extensions.foldlM decoders.extend .unrestricted

end Decoders

end X509

/-! Certificates -/

open X509 (Decoders Document)

structure Certificate where
  encoding : List UInt8
  key : Key
  scheme : Scheme
  selfSigned : Bool
  usage : X509.Usage
  deriving DecidableEq

namespace Certificate

section Reading

variable {Identifier Parameters Name : Type} [DecidableEq Identifier] [BEq Name]
  (decoders : Decoders Identifier Parameters Name)

/-- Look into a document: first at its key, then at its signature, then at its extensions. -/
def ofDocument (encoding : List UInt8) (document : Document Identifier Parameters Name) :
    Except CertificateError Certificate := do
  let key ← decoders.keyOf document.publicKey
  let scheme ← decoders.schemeOf document.signatureAlgorithm
  let usage ← decoders.usageOf document.listed
  pure { encoding, key, scheme, selfSigned := document.issuer == document.subject, usage }

def ofBytes (encoding : List UInt8) : Except CertificateError Certificate := do
  let document ← (decoders.document encoding).mapError .malformed
  ofDocument decoders encoding document

def ofEncodings (encodings : List (List UInt8)) : Except CertificateError (List Certificate) :=
  encodings.mapM (ofBytes decoders)

def chainOfEncodings (encodings : List (List UInt8)) :
    Except CertificateError (List Certificate) := do
  let chain ← ofEncodings decoders encodings
  if chain.isEmpty then .error .emptyChain else pure chain

end Reading

def permits (certificate : Certificate) (side : Side) : Bool :=
  certificate.usage.permits side

variable (digest : List UInt8 → List UInt8)

def fingerprint (certificate : Certificate) : String :=
  Digest.Fingerprint.text (digest certificate.encoding)

def description (certificate : Certificate) : String :=
  "CertificateInfo \x7b fingerprint: \"" ++ certificate.fingerprint digest ++
    "\", key_algorithm: " ++ certificate.key.label ++
    ", signature_algorithm: SignatureAndHashAlgorithm \x7b hash: " ++
    certificate.scheme.hash.label ++ ", signature: " ++ certificate.scheme.signature.name ++
    " \x7d \x7d"

end Certificate

end DatagramTls
