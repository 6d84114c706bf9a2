import DatagramTls.Proofs.X509.Layout

/-!
The public key inside a certificate. As long as it is decoded as it would be on
its own, it has the same key there, and what is wrong with it is wrong with the
certificate before anything after it is.
-/

namespace DatagramTls

namespace X509

/-! Unusable keys -/

namespace Decoders

section Keys

variable {Identifier Parameters Name α : Type} [DecidableEq Identifier]
  (decoders : Decoders Identifier Parameters Name)

inductive CurveFault : Option Parameters → CertificateError → Prop
  | missing : CurveFault none (.malformed "missing EC curve")
  | invalid {parameters : Parameters}
      (unreadable : decoders.parameter? parameters = none) :
      CurveFault (some parameters) (.malformed "invalid EC curve")
  | unsupported {parameters : Parameters} {identifier : Identifier}
      (readable : decoders.parameter? parameters = some identifier)
      (unknown : ∀ entry ∈ curves, identifier ≠ decoders.identifier entry.1) :
      CurveFault (some parameters)
        (.unsupportedCurve (decoders.text identifier))

/-- What can be wrong with a public key that can be decoded. -/
inductive Unusable (info : PublicKeyInfo Identifier Parameters) :
    CertificateError → Prop
  | algorithm
      (unknown : info.algorithm ∉
        [ecPublicKey, rsaEncryption, ed25519, ed448].map decoders.identifier) :
      Unusable info (.unsupportedKey (decoders.text info.algorithm))
  | curve {error : CertificateError}
      (elliptic : info.algorithm = decoders.identifier ecPublicKey)
      (fault : decoders.CurveFault info.parameters error) :
      Unusable info error

/-- The bytes of the public key in each certificate are known, and it is decoded
in the certificate as it is on its own. -/
def Nested (publicKeyOf : List UInt8 → List UInt8) : Prop :=
  ∀ bytes document, decoders.document bytes = .ok document →
    decoders.publicKey (publicKeyOf bytes) = .ok document.publicKey

variable {decoders} {parameters : Option Parameters}
  {info : PublicKeyInfo Identifier Parameters} {error : CertificateError}

theorem lookUp?_eq_none_iff {identifier : Identifier}
    {table : List (List Nat × α)} :
    decoders.lookUp? identifier table = none ↔
      ∀ entry ∈ table, identifier ≠ decoders.identifier entry.1 := by
  simp [lookUp?]

theorem curveOf_eq_error_iff :
    decoders.curveOf parameters = .error error ↔
      decoders.CurveFault parameters error := by
  constructor
  · intro failed
    unfold curveOf at failed
    split at failed
    · cases failed
      exact .missing
    · split at failed
      next unreadable =>
        cases failed
        exact .invalid unreadable
      next readable =>
        split at failed
        · cases failed
        next unknown =>
          cases failed
          exact .unsupported readable (lookUp?_eq_none_iff.mp unknown)
  · intro fault
    cases fault with
    | missing => rfl
    | invalid unreadable => simp only [curveOf, unreadable]
    | unsupported readable unknown =>
        simp only [curveOf, readable, lookUp?_eq_none_iff.mpr unknown]

theorem keyOf_eq_error_iff :
    decoders.keyOf info = .error error ↔ decoders.Unusable info error := by
  constructor
  · intro failed
    unfold keyOf at failed
    split at failed
    case isTrue elliptic =>
        cases found : decoders.curveOf info.parameters with
        | error fault =>
            rw [found] at failed
            cases failed
            exact .curve elliptic (curveOf_eq_error_iff.mp found)
        | ok curve =>
            rw [found] at failed
            cases failed
    case isFalse notElliptic =>
        repeat' split at failed
        all_goals cases failed
        refine .algorithm ?_
        simp only [List.map_cons, List.map_nil, List.mem_cons,
          List.not_mem_nil, or_false, not_or]
        exact ⟨notElliptic, ‹_›, ‹_›, ‹_›⟩
  · intro unusable
    cases unusable with
    | algorithm unknown =>
        simp only [List.map_cons, List.map_nil, List.mem_cons,
          List.not_mem_nil, or_false, not_or] at unknown
        simp only [keyOf, unknown, if_false]
    | curve elliptic fault =>
        simp only [keyOf, if_pos elliptic, curveOf_eq_error_iff.mpr fault]
        rfl

theorem Nested.keyOfBytes {publicKeyOf : List UInt8 → List UInt8}
    (nested : decoders.Nested publicKeyOf) {bytes : List UInt8}
    {document : Document Identifier Parameters Name}
    (decoded : decoders.document bytes = .ok document) :
    decoders.keyOfBytes (publicKeyOf bytes) =
      decoders.keyOf document.publicKey := by
  rw [Decoders.keyOfBytes, nested bytes document decoded]
  rfl

end Keys

end Decoders

/-! Public keys in the distinguished encoding -/

namespace Layout

def publicKeyOf (bytes : List UInt8) : List UInt8 :=
  ((ofBytes? bytes).map (·.publicKey.encode)).getD []

theorem ofElement?_publicKey {layout : Layout}
    {document : Document Der.ObjectIdentifier Der.Element DistinguishedName}
    (read : Document.ofLayout? layout = some document) :
    PublicKeyInfo.ofElement? layout.publicKey = some document.publicKey := by
  unfold Document.ofLayout? at read
  split at read
  case isTrue =>
      simp only [Option.bind_eq_bind, Option.bind_eq_some_iff] at read
      obtain ⟨_, _, _, _, publicKey, decoded, _, _, _, _, made⟩ := read
      cases made
      exact decoded
  case isFalse => cases read

/-- An element has one encoding, so the public key reads as it does inside. -/
theorem nested_publicKeyOf : Decoders.der.Nested publicKeyOf := by
  intro bytes document decoded
  have read : Document.ofBytes? bytes = some document :=
    Decoders.orRefuse_eq_ok_iff.mp decoded
  obtain ⟨layout, located, found⟩ := Option.bind_eq_some_iff.mp read
  obtain ⟨version, written⟩ := ofBytes?_eq_some_iff.mp located
  have valid := written.inside layout.publicKey
    (by simp [unversionedElements])
  have alone := Der.Element.ofBytes?_eq_some_iff.mpr ⟨valid, rfl⟩
  refine Decoders.orRefuse_eq_ok_iff.mpr ?_
  rw [publicKeyOf, located, Option.map_some, Option.getD_some,
    PublicKeyInfo.ofBytes?, alone]
  exact ofElement?_publicKey found

end Layout

end X509

/-! Certificates -/

namespace Certificate

open X509 Der

section Keys

variable {Identifier Parameters Name : Type} [DecidableEq Identifier]
  [BEq Name] {decoders : Decoders Identifier Parameters Name}
  {bytes encoding : List UInt8}
  {document : Document Identifier Parameters Name}

theorem key_of_ofDocument {certificate : Certificate}
    (built : ofDocument decoders encoding document = .ok certificate) :
    decoders.keyOf document.publicKey = .ok certificate.key := by
  obtain ⟨key, keyed, rest⟩ := bind_eq_ok_iff.mp built
  obtain ⟨scheme, _, rest⟩ := bind_eq_ok_iff.mp rest
  obtain ⟨usage, _, made⟩ := bind_eq_ok_iff.mp rest
  cases made
  exact keyed

theorem ofDocument_of_unusable {error : CertificateError}
    (failed : decoders.keyOf document.publicKey = .error error) :
    ofDocument decoders encoding document = .error error := by
  rw [ofDocument, failed]
  rfl

/-- If a public key is decoded inside a certificate as on its own, it has the
key of the certificate, and if it is unusable, the certificate is refused for
the same reason. -/
theorem key_of_publicKey {publicKeyOf : List UInt8 → List UInt8}
    (nested : decoders.Nested publicKeyOf)
    (decoded : decoders.document bytes = .ok document) :
    (∀ certificate, ofBytes decoders bytes = .ok certificate →
        decoders.keyOfBytes (publicKeyOf bytes) = .ok certificate.key) ∧
      ∀ error, decoders.keyOfBytes (publicKeyOf bytes) = .error error →
        decoders.Unusable document.publicKey error ∧
          ofBytes decoders bytes = .error error := by
  have opened :
      ofBytes decoders bytes = ofDocument decoders bytes document := by
    rw [ofBytes, decoded]
    rfl
  rw [nested.keyOfBytes decoded, opened]
  constructor
  · intro certificate built
    exact key_of_ofDocument built
  · intro error failed
    exact ⟨Decoders.keyOf_eq_error_iff.mp failed,
      ofDocument_of_unusable failed⟩

end Keys

/-- A certificate on a known curve, and one on an unknown curve with a signature
of an unknown kind, which counts only after the key. -/
theorem key_of_publicKey_elliptic :
    let named (arcs : List Nat) : Element :=
      ⟨Tag.objectIdentifier, (ObjectIdentifier.ofArcs arcs).content⟩
    let elliptic (curve scheme : List Nat) : Layout :=
      Layout.short [named ecPublicKey, named curve] [named scheme] []
    let known := elliptic [1, 3, 132, 0, 34] ed25519
    let unknown := elliptic [1, 3, 132, 0, 33] ecPublicKey
    let written (layout : Layout) : List UInt8 :=
      (layout.toElement none).encode
    (Layout.publicKeyOf (written known) = known.publicKey.encode ∧
        Layout.publicKeyOf (written unknown) = unknown.publicKey.encode) ∧
      (∃ certificate, ofBytes .der (written known) = .ok certificate ∧
        certificate.key = .ec .secp384r1 ∧
        Decoders.der.keyOfBytes known.publicKey.encode =
          .ok (.ec .secp384r1)) ∧
      Decoders.der.keyOfBytes unknown.publicKey.encode =
          .error (.unsupportedCurve "1.3.132.0.33") ∧
        ofBytes .der (written unknown) =
          .error (.unsupportedCurve "1.3.132.0.33") := by
  intro named elliptic known unknown written
  have knownPlace :
      Layout.publicKeyOf (written known) = known.publicKey.encode := by
    decide +kernel
  have unknownPlace :
      Layout.publicKeyOf (written unknown) = unknown.publicKey.encode := by
    decide +kernel
  obtain ⟨_, knownDecoded, _⟩ := exists_of_any_toOption
    (show (Decoders.der.document (written known)).toOption.any
      (fun _ => true) = true by decide +kernel)
  obtain ⟨_, unknownDecoded, _⟩ := exists_of_any_toOption
    (show (Decoders.der.document (written unknown)).toOption.any
      (fun _ => true) = true by decide +kernel)
  obtain ⟨certificate, built, keyed⟩ := exists_of_any_toOption
    (show (ofBytes .der (written known)).toOption.any
      (fun certificate => certificate.key = .ec .secp384r1) = true by
        decide +kernel)
  have keyed : certificate.key = .ec .secp384r1 := of_decide_eq_true keyed
  have failed : Decoders.der.keyOfBytes unknown.publicKey.encode =
      .error (.unsupportedCurve "1.3.132.0.33") := by
    decide +kernel
  have agrees := key_of_publicKey Layout.nested_publicKeyOf knownDecoded
  have refuses := key_of_publicKey Layout.nested_publicKeyOf unknownDecoded
  rw [knownPlace] at agrees
  rw [unknownPlace] at refuses
  refine ⟨⟨knownPlace, unknownPlace⟩, ⟨certificate, built, keyed, ?_⟩, failed,
    (refuses.2 _ failed).2⟩
  rw [agrees.1 certificate built, keyed]

end Certificate

end DatagramTls
