import DatagramTls.Certificate
import DatagramTls.Der

/-!
Certificates in the distinguished encoding. `Layout` finds the elements of a certificate by their
places, and the readers here make a document of them; `Decoders.der` puts the readers together.
Nothing is compared with the clock, and signatures are not checked.
-/

namespace DatagramTls.X509

open Der

/-! Names -/

structure Attribute where
  kind : ObjectIdentifier
  value : Element
  deriving DecidableEq

def Attribute.ofElement? (element : Element) : Option Attribute :=
  match element.elements? Tag.sequence with
  | some [kind, value] => (ObjectIdentifier.ofElement? kind).map (⟨·, value⟩)
  | _ => none

structure RelativeName where
  attributes : List Attribute
  nodup_attributes : attributes.Nodup

namespace RelativeName

def ofElement? (element : Element) : Option RelativeName := do
  let attributes ← (← element.elements? Tag.set).mapM Attribute.ofElement?
  if distinct : attributes.Nodup then some ⟨attributes, distinct⟩ else none

-- Without repetition, sets are the same when they have as many members and one holds the other's.
def same (left right : RelativeName) : Bool :=
  left.attributes.length == right.attributes.length &&
    left.attributes.all right.attributes.contains

end RelativeName

structure DistinguishedName where
  parts : List RelativeName

namespace DistinguishedName

def ofElement? (element : Element) : Option DistinguishedName := do
  let parts ← (← element.elements? Tag.sequence).mapM RelativeName.ofElement?
  some ⟨parts⟩

def same (left right : DistinguishedName) : Bool :=
  left.parts.length == right.parts.length &&
    (left.parts.zip right.parts).all fun (first, second) => first.same second

instance : BEq DistinguishedName := ⟨same⟩

end DistinguishedName

/-! Public keys -/

structure AlgorithmIdentifier where
  algorithm : ObjectIdentifier
  parameters : Option Element
  deriving DecidableEq

def AlgorithmIdentifier.ofElement? (element : Element) : Option AlgorithmIdentifier :=
  match element.elements? Tag.sequence with
  | some [algorithm] => (ObjectIdentifier.ofElement? algorithm).map (⟨·, none⟩)
  | some [algorithm, parameters] =>
      (ObjectIdentifier.ofElement? algorithm).map (⟨·, some parameters⟩)
  | _ => none

def PublicKeyInfo.ofElement? (element : Element) :
    Option (PublicKeyInfo ObjectIdentifier Element) :=
  match element.elements? Tag.sequence with
  | some [algorithm, bits] => do
      let ⟨algorithm, parameters⟩ ← AlgorithmIdentifier.ofElement? algorithm
      let _ ← BitString.ofElement? bits
      some ⟨algorithm, parameters⟩
  | _ => none

def PublicKeyInfo.ofBytes? (bytes : List UInt8) :
    Option (PublicKeyInfo ObjectIdentifier Element) := do
  ofElement? (← Element.ofBytes? bytes)

/-! Extensions -/

def Extension.ofElement? (element : Element) : Option (Extension ObjectIdentifier) :=
  match element.elements? Tag.sequence with
  | some [identifier, value] => do
      let identifier ← ObjectIdentifier.ofElement? identifier
      let value ← value.content? Tag.octetString
      some ⟨identifier, value⟩
  | some [identifier, critical, value] => do
      let identifier ← ObjectIdentifier.ofElement? identifier
      let _ ← boolean? (← critical.content? Tag.boolean)
      let value ← value.content? Tag.octetString
      some ⟨identifier, value⟩
  | _ => none

/-- A key usage has at most sixteen bits, of which the first is for signing. -/
def KeyUsage.ofBytes? (bytes : List UInt8) : Option KeyUsage := do
  let bits ← BitString.ofElement? (← Element.ofBytes? bytes)
  if bits.bitCount ≤ 16 then some ⟨bits.firstBit⟩ else none

def purposesOfBytes? (bytes : List UInt8) : Option (List ObjectIdentifier) := do
  let elements ← (← Element.ofBytes? bytes).elements? Tag.sequence
  elements.mapM ObjectIdentifier.ofElement?

/-! Layouts -/

structure Layout where
  serial : Element
  innerAlgorithm : Element
  issuer : Element
  validity : Element
  subject : Element
  publicKey : Element
  optional : List Element
  algorithm : Element
  signature : Element

namespace Layout

def isVersion (element : Element) : Bool :=
  element.tag == Tag.context 0 true &&
    match Element.ofBytes? element.content with
    | some ⟨tag, [version]⟩ => tag == Tag.integer && version ≤ 2
    | _ => false

def withoutVersion? : List Element → Option (List Element)
  | [] => some []
  | first :: rest =>
      if Tag.contextNumber? first.tag = some 0 then
        if isVersion first then some rest else none
      else some (first :: rest)

def ofBytes? (bytes : List UInt8) : Option Layout :=
  match (Element.ofBytes? bytes).bind (·.elements? Tag.sequence) with
  | some [body, algorithm, signature] =>
      match (body.elements? Tag.sequence).bind withoutVersion? with
      | some (serial :: innerAlgorithm :: issuer :: validity :: subject :: publicKey :: optional) =>
          some { serial, innerAlgorithm, issuer, validity, subject, publicKey, optional, algorithm,
                 signature }
      | _ => none
  | _ => none

end Layout

/-! Optional parts -/

/-- The element with the tag number at the front, after passing over lower numbers, and what
follows. -/
def takeTagged (number : UInt8) (elements : List Element) : Option Element × List Element :=
  match elements.dropWhile fun element => (Tag.contextNumber? element.tag).any (· < number) with
  | [] => (none, [])
  | first :: rest =>
      if Tag.contextNumber? first.tag = some number then (some first, rest)
      else (none, first :: rest)

def isUniqueIdentifier (number : UInt8) (element : Element) : Bool :=
  ((element.content? (Tag.context number false)).bind BitString.ofContent?).isSome

def extensionsOf? (element : Element) : Option (List (Extension ObjectIdentifier)) := do
  let content ← element.content? (Tag.context 3 true)
  let elements ← (← Element.ofBytes? content).elements? Tag.sequence
  elements.mapM Extension.ofElement?

def optionalParts? (elements : List Element) :
    Option (Option (List (Extension ObjectIdentifier))) :=
  let (issuerIdentifier, afterIssuer) := takeTagged 1 elements
  let (subjectIdentifier, afterSubject) := takeTagged 2 afterIssuer
  let (extensions, rest) := takeTagged 3 afterSubject
  if issuerIdentifier.all (isUniqueIdentifier 1) && subjectIdentifier.all (isUniqueIdentifier 2) &&
      rest.isEmpty then
    match extensions with
    | none => some none
    | some element => (extensionsOf? element).map some
  else none

-- A serial number may have either sign.
def isSerial (element : Element) : Bool :=
  element.tag == Tag.integer && isInteger element.content && element.content.length ≤ 21

def isValidity (element : Element) : Bool :=
  match element.elements? Tag.sequence with
  | some [notBefore, notAfter] => isTime notBefore && isTime notAfter
  | _ => false

/-! Documents -/

namespace Document

def ofLayout? (layout : Layout) :
    Option (Document ObjectIdentifier Element DistinguishedName) :=
  if isSerial layout.serial && isValidity layout.validity &&
      (AlgorithmIdentifier.ofElement? layout.innerAlgorithm).isSome &&
      (BitString.ofElement? layout.signature).isSome then do
    let issuer ← DistinguishedName.ofElement? layout.issuer
    let subject ← DistinguishedName.ofElement? layout.subject
    let publicKey ← PublicKeyInfo.ofElement? layout.publicKey
    let extensions ← optionalParts? layout.optional
    let ⟨signatureAlgorithm, _⟩ ← AlgorithmIdentifier.ofElement? layout.algorithm
    some { issuer, subject, publicKey, extensions, signatureAlgorithm }
  else none

def ofBytes? (bytes : List UInt8) :
    Option (Document ObjectIdentifier Element DistinguishedName) :=
  (Layout.ofBytes? bytes).bind ofLayout?

end Document

namespace Decoders

def orRefuse {α : Type} : Option α → Except String α
  | some value => .ok value
  | none => .error "not in the distinguished encoding"

theorem orRefuse_eq_ok_iff {α : Type} {read : Option α} {value : α} :
    orRefuse read = .ok value ↔ read = some value := by
  cases read <;> simp [orRefuse]

def der : Decoders ObjectIdentifier Element DistinguishedName where
  identifier := .ofArcs
  text := ObjectIdentifier.text
  document bytes := orRefuse (Document.ofBytes? bytes)
  publicKey bytes := orRefuse (PublicKeyInfo.ofBytes? bytes)
  parameter? := ObjectIdentifier.ofElement?
  keyUsage bytes := orRefuse (KeyUsage.ofBytes? bytes)
  extendedKeyUsage bytes := orRefuse (purposesOfBytes? bytes)

end Decoders

end DatagramTls.X509
