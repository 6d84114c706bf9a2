/-!
Names, groups, signature schemes and keys. Groups are also the curves of EC keys. A scheme pairs a
hash with a kind of signature; both have numbers of one byte, which together make the number of the
scheme. Names are looked up without regard to the case of the letters `A` to `Z`; a character is
blank when it has the Unicode property White_Space.
-/

namespace DatagramTls

/-! Names -/

namespace Text

/-- The code points with the property White_Space, as ranges with both ends included. -/
def blankRanges : List (Nat × Nat) :=
  [(0x9, 0xD), (0x20, 0x20), (0x85, 0x85), (0xA0, 0xA0), (0x1680, 0x1680), (0x2000, 0x200A),
    (0x2028, 0x2029), (0x202F, 0x202F), (0x205F, 0x205F), (0x3000, 0x3000)]

def isBlank (character : Char) : Bool :=
  blankRanges.any fun (first, last) => first ≤ character.toNat && character.toNat ≤ last

def trimmed (characters : List Char) : List Char :=
  ((characters.dropWhile isBlank).reverse.dropWhile isBlank).reverse

def trim (text : String) : String :=
  String.ofList (trimmed text.toList)

def sameIgnoringCase (left right : String) : Bool :=
  left.toList.map Char.toLower == right.toList.map Char.toLower

end Text

/-! Groups -/

inductive Group where
  | secp256k1
  | secp256r1
  | secp384r1
  | secp521r1
  | brainpoolP256r1
  | brainpoolP384r1
  | brainpoolP512r1
  | x25519
  | x448
  deriving DecidableEq

namespace Group

def all : List Group :=
  [.secp256k1, .secp256r1, .secp384r1, .secp521r1, .brainpoolP256r1, .brainpoolP384r1,
    .brainpoolP512r1, .x25519, .x448]

theorem mem_all (group : Group) : group ∈ all := by
  cases group <;> decide

def code : Group → UInt16
  | .secp256k1 => 22
  | .secp256r1 => 23
  | .secp384r1 => 24
  | .secp521r1 => 25
  | .brainpoolP256r1 => 26
  | .brainpoolP384r1 => 27
  | .brainpoolP512r1 => 28
  | .x25519 => 29
  | .x448 => 30

def name : Group → String
  | .secp256k1 => "secp256k1"
  | .secp256r1 => "secp256r1"
  | .secp384r1 => "secp384r1"
  | .secp521r1 => "secp521r1"
  | .brainpoolP256r1 => "brainpoolP256r1"
  | .brainpoolP384r1 => "brainpoolP384r1"
  | .brainpoolP512r1 => "brainpoolP512r1"
  | .x25519 => "X25519"
  | .x448 => "X448"

def label (group : Group) : String :=
  group.name.capitalize

def isRecommended : Group → Bool
  | .secp256r1 | .secp384r1 | .secp521r1 | .x25519 | .x448 => true
  | .secp256k1 | .brainpoolP256r1 | .brainpoolP384r1 | .brainpoolP512r1 => false

def preferred : List Group :=
  [.x25519, .secp256r1, .secp384r1]

def ofName? (name : String) : Option Group :=
  all.find? fun group => Text.sameIgnoringCase group.name name

end Group

/-! Schemes -/

inductive Hash where
  | none
  | md5
  | sha1
  | sha224
  | sha256
  | sha384
  | sha512
  | intrinsic
  deriving DecidableEq

namespace Hash

def code : Hash → UInt8
  | .none => 0
  | .md5 => 1
  | .sha1 => 2
  | .sha224 => 3
  | .sha256 => 4
  | .sha384 => 5
  | .sha512 => 6
  | .intrinsic => 8

def name : Hash → String
  | .none => "NONE"
  | .md5 => "MD5"
  | .sha1 => "SHA1"
  | .sha224 => "SHA224"
  | .sha256 => "SHA256"
  | .sha384 => "SHA384"
  | .sha512 => "SHA512"
  | .intrinsic => "INTRINSIC"

def label : Hash → String
  | .none => "None"
  | .intrinsic => "Intrinsic"
  | hash => hash.name

end Hash

inductive Signature where
  | anonymous
  | rsa
  | dsa
  | ecdsa
  | ed25519
  | ed448
  deriving DecidableEq

namespace Signature

def code : Signature → UInt8
  | .anonymous => 0
  | .rsa => 1
  | .dsa => 2
  | .ecdsa => 3
  | .ed25519 => 7
  | .ed448 => 8

def name : Signature → String
  | .anonymous => "Anonymous"
  | .rsa => "RSA"
  | .dsa => "DSA"
  | .ecdsa => "ECDSA"
  | .ed25519 => "ED25519"
  | .ed448 => "ED448"

end Signature

structure Scheme where
  hash : Hash
  signature : Signature
  deriving DecidableEq

namespace Scheme

def sha256Ecdsa : Scheme := ⟨.sha256, .ecdsa⟩

def sha384Ecdsa : Scheme := ⟨.sha384, .ecdsa⟩

def sha512Ecdsa : Scheme := ⟨.sha512, .ecdsa⟩

def sha256Rsa : Scheme := ⟨.sha256, .rsa⟩

def sha384Rsa : Scheme := ⟨.sha384, .rsa⟩

def sha512Rsa : Scheme := ⟨.sha512, .rsa⟩

def ed25519 : Scheme := ⟨.intrinsic, .ed25519⟩

def ed448 : Scheme := ⟨.intrinsic, .ed448⟩

def sha1Ecdsa : Scheme := ⟨.sha1, .ecdsa⟩

def sha1Rsa : Scheme := ⟨.sha1, .rsa⟩

def all : List Scheme :=
  [sha256Ecdsa, sha384Ecdsa, sha512Ecdsa, sha256Rsa, sha384Rsa, sha512Rsa, ed25519, ed448,
    sha1Ecdsa, sha1Rsa]

def preferred : List Scheme :=
  [sha256Ecdsa, sha256Rsa]

/-- The byte of the hash followed by the byte of the signature. -/
def code (scheme : Scheme) : UInt16 :=
  scheme.hash.code.toUInt16 <<< 8 ||| scheme.signature.code.toUInt16

/-- Only the three long hashes are recommended with ECDSA and RSA, and the Edwards curve signatures
only where they do the hashing. -/
def isRecommended (scheme : Scheme) : Bool :=
  match scheme.signature, scheme.hash with
  | .ecdsa, .sha256 | .ecdsa, .sha384 | .ecdsa, .sha512 => true
  | .rsa, .sha256 | .rsa, .sha384 | .rsa, .sha512 => true
  | .ed25519, .intrinsic | .ed448, .intrinsic => true
  | _, _ => false

def name (scheme : Scheme) : String :=
  match scheme.signature, scheme.hash with
  | .ed25519, .intrinsic => Signature.ed25519.name
  | .ed448, .intrinsic => Signature.ed448.name
  | signature, hash => hash.name ++ "with" ++ signature.name

def ofName? (name : String) : Option Scheme :=
  all.find? fun scheme => Text.sameIgnoringCase scheme.name name

end Scheme

/-! Keys -/

inductive KeyFamily where
  | ec
  | rsa
  deriving DecidableEq

def KeyFamily.label : KeyFamily → String
  | .ec => "Ec"
  | .rsa => "Rsa"

inductive Key where
  | ec (curve : Group)
  | rsa
  | ed25519
  | ed448
  deriving DecidableEq

namespace Key

def label : Key → String
  | .ec curve => "Ec(" ++ curve.label ++ ")"
  | .rsa => "Rsa"
  | .ed25519 => "Ed25519"
  | .ed448 => "Ed448"

def family : Key → KeyFamily
  | .rsa => .rsa
  | .ec _ | .ed25519 | .ed448 => .ec

def curve? : Key → Option Group
  | .ec curve => some curve
  | .rsa | .ed25519 | .ed448 => none

/-- The scheme that a key signs with unless others are chosen: the longer curves take the longer
hashes. -/
def preferredScheme : Key → Scheme
  | .ec .secp384r1 => .sha384Ecdsa
  | .ec .secp521r1 => .sha512Ecdsa
  | .ec _ => .sha256Ecdsa
  | .rsa => .sha256Rsa
  | .ed25519 => .ed25519
  | .ed448 => .ed448

def signs : Key → Signature → Bool
  | .ec _, .ecdsa | .rsa, .rsa | .ed25519, .ed25519 | .ed448, .ed448 => true
  | _, _ => false

theorem signs_preferredScheme (key : Key) : key.signs key.preferredScheme.signature = true := by
  cases key with
  | ec curve => cases curve <;> rfl
  | rsa => rfl
  | ed25519 => rfl
  | ed448 => rfl

end Key

inductive CertificateKind where
  | x509
  | rawPublicKey
  deriving DecidableEq

end DatagramTls
