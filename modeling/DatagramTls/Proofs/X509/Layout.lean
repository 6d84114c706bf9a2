import DatagramTls.X509.Encoding
import DatagramTls.Proofs.Der

/-!
Layouts as they are written. The elements of a certificate stand in its bytes in
the order of the layout, after a version if there is one, and each of them is
written as it would be on its own.
-/

namespace DatagramTls.X509.Layout

open Der

/-! Versions -/

def versionTagged (element : Element) : Prop :=
  Tag.contextNumber? element.tag = some 0

theorem versionTagged_of_isVersion {element : Element}
    (version : isVersion element = true) : versionTagged element := by
  unfold isVersion at version
  rw [Bool.and_eq_true, beq_iff_eq] at version
  rw [versionTagged, version.1]
  decide

theorem withoutVersion?_eq_some_iff {elements rest : List Element} :
    withoutVersion? elements = some rest ↔
      ∃ version : Option Element, version.all isVersion = true ∧
        (version = none → ∀ first ∈ rest.head?, ¬ versionTagged first) ∧
        elements = version.toList ++ rest := by
  constructor
  · intro dropped
    cases elements with
    | nil =>
        cases dropped
        exact ⟨none, rfl, by simp, rfl⟩
    | cons first others =>
        simp only [withoutVersion?] at dropped
        split at dropped
        case isTrue =>
            split at dropped
            case isTrue version =>
                cases dropped
                exact ⟨some first, version, by simp, rfl⟩
            case isFalse => cases dropped
        case isFalse untagged =>
            cases dropped
            exact ⟨none, rfl, by simpa [versionTagged] using untagged, rfl⟩
  · rintro ⟨version, versioned, unversioned, rfl⟩
    cases version with
    | some version =>
        have tagged : Tag.contextNumber? version.tag = some 0 :=
          versionTagged_of_isVersion versioned
        have isVersion : isVersion version = true := versioned
        simp [withoutVersion?, tagged, isVersion]
    | none =>
        cases rest with
        | nil => rfl
        | cons first others =>
            have untagged : ¬ Tag.contextNumber? first.tag = some 0 :=
              unversioned rfl first rfl
            simp [withoutVersion?, untagged]

/-! Layouts -/

def unversionedElements (layout : Layout) : List Element :=
  [layout.serial, layout.innerAlgorithm, layout.issuer, layout.validity,
    layout.subject, layout.publicKey] ++ layout.optional

def signedElement (layout : Layout) (version : Option Element) : Element :=
  .ofElements Tag.sequence (version.toList ++ layout.unversionedElements)

def toElement (layout : Layout) (version : Option Element) : Element :=
  .ofElements Tag.sequence
    [layout.signedElement version, layout.algorithm, layout.signature]

/-- The bytes are the certificate that the layout is of. -/
structure Writes (layout : Layout) (version : Option Element)
    (bytes : List UInt8) : Prop where
  versioned : version.all isVersion = true
  unversioned : version = none → ¬ versionTagged layout.serial
  inside : ∀ element ∈ version.toList ++ layout.unversionedElements,
    element.Valid
  parts : ∀ element ∈
    [layout.signedElement version, layout.algorithm, layout.signature],
    element.Valid
  whole : (layout.toElement version).Valid
  bytes_eq : bytes = (layout.toElement version).encode

theorem writes_of_ofBytes? {bytes : List UInt8} {layout : Layout}
    (located : ofBytes? bytes = some layout) :
    ∃ version, layout.Writes version bytes := by
  unfold ofBytes? at located
  split at located
  next body algorithm signature outer =>
    split at located
    next serial innerAlgorithm issuer validity subject publicKey optional
        inner =>
      obtain ⟨whole, read, consists⟩ := Option.bind_eq_some_iff.mp outer
      obtain ⟨elements, contains, dropped⟩ := Option.bind_eq_some_iff.mp inner
      obtain ⟨valid, rfl⟩ := Element.ofBytes?_eq_some_iff.mp read
      obtain ⟨parts, rfl⟩ := Element.elements?_eq_some_iff.mp consists
      obtain ⟨inside, rfl⟩ := Element.elements?_eq_some_iff.mp contains
      obtain ⟨version, versioned, unversioned, rfl⟩ :=
        withoutVersion?_eq_some_iff.mp dropped
      cases located
      exact ⟨version, versioned, fun none => unversioned none _ rfl, inside,
        parts, valid, rfl⟩
    next => cases located
  next => cases located

theorem Writes.ofBytes? {bytes : List UInt8} {layout : Layout}
    {version : Option Element} (written : layout.Writes version bytes) :
    ofBytes? bytes = some layout := by
  obtain ⟨versioned, unversioned, inside, parts, whole, rfl⟩ := written
  have read := Element.ofBytes?_eq_some_iff.mpr ⟨whole, rfl⟩
  have consists := Element.elements?_eq_some_iff.mpr
    ⟨parts, show layout.toElement version = _ from rfl⟩
  have contains := Element.elements?_eq_some_iff.mpr
    ⟨inside, show layout.signedElement version = _ from rfl⟩
  have dropped :
      withoutVersion? (version.toList ++ layout.unversionedElements) =
        some layout.unversionedElements := by
    refine withoutVersion?_eq_some_iff.mpr ⟨version, versioned, ?_, rfl⟩
    intro none first member
    cases member
    exact unversioned none
  simp only [Layout.ofBytes?, read, Option.bind_some, consists, contains,
    dropped]
  rfl

/-- A layout is found in exactly the bytes that it is written as. -/
theorem ofBytes?_eq_some_iff {bytes : List UInt8} {layout : Layout} :
    ofBytes? bytes = some layout ↔ ∃ version, layout.Writes version bytes :=
  ⟨writes_of_ofBytes?, fun ⟨_, written⟩ => written.ofBytes?⟩

def short (key scheme : List Element) (optional : List Element) : Layout :=
  let algorithm := Element.ofElements Tag.sequence scheme
  let time (text : String) : Element :=
    ⟨Tag.utcTime, text.toList.map fun digit => UInt8.ofNat digit.toNat⟩
  { serial := ⟨Tag.integer, [1]⟩
    innerAlgorithm := algorithm
    issuer := .ofElements Tag.sequence []
    validity :=
      .ofElements Tag.sequence [time "240101000000Z", time "491231235959Z"]
    subject := .ofElements Tag.sequence []
    publicKey := .ofElements Tag.sequence
      [.ofElements Tag.sequence key, ⟨Tag.bitString, [0]⟩]
    optional
    algorithm
    signature := ⟨Tag.bitString, [0]⟩ }

end DatagramTls.X509.Layout
