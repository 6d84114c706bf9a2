import DatagramTls.Proofs.X509.Layout

/-!
Extensions on usage. Each key usage and each extended key usage of a certificate
has to be decoded, but only the last one of each kind counts. So neither does it
matter what else a certificate is extended by, nor how the two kinds are mixed.
-/

namespace DatagramTls

namespace X509

variable {Identifier Parameters Name : Type} [DecidableEq Identifier]

/-! Extensions of a kind -/

namespace Extension

def ofKind (kind : Identifier) (extensions : List (Extension Identifier)) :
    List (Extension Identifier) :=
  extensions.filter (·.identifier = kind)

section Kind

variable {α β : Type} {read : List UInt8 → Except String α} {kind : Identifier}
  {extension : Extension Identifier} {extensions : List (Extension Identifier)}
  {before after : Option α}

def Readable (read : List UInt8 → Except String α) (kind : Identifier)
    (extensions : List (Extension Identifier)) : Prop :=
  ∀ extension ∈ ofKind kind extensions,
    ∃ value, read extension.value = .ok value

/-- What the last extension of the kind says. -/
def last? (read : List UInt8 → Except String α) (kind : Identifier)
    (extensions : List (Extension Identifier)) : Option α :=
  (ofKind kind extensions).getLast?.bind (read ·.value |>.toOption)

theorem ofKind_cons_of_eq (same : extension.identifier = kind) :
    ofKind kind (extension :: extensions) =
      extension :: ofKind kind extensions :=
  List.filter_cons_of_pos (by simpa using same)

theorem ofKind_cons_of_ne (different : extension.identifier ≠ kind) :
    ofKind kind (extension :: extensions) = ofKind kind extensions :=
  List.filter_cons_of_neg (by simpa using different)

theorem last?_cons_of_eq (same : extension.identifier = kind)
    (readable : Readable read kind extensions) :
    last? read kind (extension :: extensions) =
      (last? read kind extensions).or (read extension.value).toOption := by
  unfold last?
  rw [ofKind_cons_of_eq same, List.getLast?_cons]
  cases found : (ofKind kind extensions).getLast? with
  | none => simp
  | some last =>
      obtain ⟨value, reads⟩ := readable last (List.mem_of_getLast? found)
      simp [reads, Except.toOption]

/-- What is known of the kind before and after an extension. -/
inductive Updates (read : List UInt8 → Except String α) (kind : Identifier)
    (extension : Extension Identifier) (before : Option α) : Option α → Prop
  | said {value : α} (same : extension.identifier = kind)
      (reads : read extension.value = .ok value) :
      Updates read kind extension before (some value)
  | kept (different : extension.identifier ≠ kind) :
      Updates read kind extension before before

omit [DecidableEq Identifier] in
theorem updates_iff_of_eq (same : extension.identifier = kind) :
    Updates read kind extension before after ↔
      ∃ value, read extension.value = .ok value ∧ after = some value := by
  constructor
  · intro updates
    cases updates with
    | said _ reads => exact ⟨_, reads, rfl⟩
    | kept different => exact absurd same different
  · rintro ⟨value, reads, rfl⟩
    exact .said same reads

omit [DecidableEq Identifier] in
theorem updates_iff_of_ne (different : extension.identifier ≠ kind) :
    Updates read kind extension before after ↔ after = before := by
  constructor
  · intro updates
    cases updates with
    | said same => exact absurd same different
    | kept => rfl
  · rintro rfl
    exact .kept different

/-- What is known of the kind before and after all extensions. -/
structure Tracks (read : List UInt8 → Except String α) (kind : Identifier)
    (extensions : List (Extension Identifier)) (before after : Option α) :
    Prop where
  readable : Readable read kind extensions
  after_eq : after = (last? read kind extensions).or before

theorem tracks_nil_iff : Tracks read kind [] before after ↔ after = before := by
  constructor
  · rintro ⟨_, rfl⟩
    rfl
  · rintro rfl
    exact ⟨nofun, rfl⟩

theorem tracks_cons_iff :
    Tracks read kind (extension :: extensions) before after ↔
      ∃ between, Updates read kind extension before between ∧
        Tracks read kind extensions between after := by
  constructor
  · rintro ⟨readable, rfl⟩
    by_cases same : extension.identifier = kind
    · -- What it says only counts if nothing of the kind comes later.
      rw [Readable, ofKind_cons_of_eq same, List.forall_mem_cons] at readable
      obtain ⟨⟨value, reads⟩, rest⟩ := readable
      refine ⟨some value, .said same reads, rest, ?_⟩
      rw [last?_cons_of_eq same rest, reads, Option.or_assoc]
      rfl
    · rw [Readable, ofKind_cons_of_ne same] at readable
      refine ⟨before, .kept same, readable, ?_⟩
      rw [last?, ofKind_cons_of_ne same, last?]
  · rintro ⟨between, updates, rest, rfl⟩
    cases updates with
    | said same reads =>
        constructor
        · rw [Readable, ofKind_cons_of_eq same, List.forall_mem_cons]
          exact ⟨⟨_, reads⟩, rest⟩
        · rw [last?_cons_of_eq same rest, reads, Option.or_assoc]
          rfl
    | kept different =>
        constructor
        · rw [Readable, ofKind_cons_of_ne different]
          exact rest
        · rw [last?, last?, ofKind_cons_of_ne different]

theorem forall_mem_last?_iff {holds : α → Prop}
    (readable : Readable read kind extensions) :
    (∀ value ∈ last? read kind extensions, holds value) ↔
      ∀ extension ∈ (ofKind kind extensions).getLast?,
        ∃ value, read extension.value = .ok value ∧ holds value := by
  cases found : (ofKind kind extensions).getLast? with
  | none => simp [last?, found]
  | some last =>
      obtain ⟨value, reads⟩ := readable last (List.mem_of_getLast? found)
      simp [last?, found, reads, Except.toOption]

theorem readable_map_iff {change : α → β} :
    Readable (fun value => (read value).map change) kind extensions ↔
      Readable read kind extensions := by
  simp only [Readable, map_eq_ok_iff]
  simp only [exists_and_left, exists_comm, exists_eq', and_true]

end Kind

end Extension

namespace Decoders

open Extension

variable (decoders : Decoders Identifier Parameters Name)

/-- Key usages and extended key usages have different identifiers, and so have
the purposes. -/
structure TellsApart : Prop where
  kinds : decoders.identifier X509.keyUsage ≠
    decoders.identifier X509.extendedKeyUsage
  purposes :
    ([serverAuth, clientAuth, anyPurpose].map decoders.identifier).Nodup

/-- Every key usage and every extended key usage can be decoded. -/
structure UsageReadable (extensions : List (Extension Identifier)) : Prop where
  keyUsage :
    ∀ extension ∈ ofKind (decoders.identifier X509.keyUsage) extensions,
      ∃ usage, decoders.keyUsage extension.value = .ok usage
  extendedKeyUsage :
    ∀ extension ∈ ofKind (decoders.identifier X509.extendedKeyUsage) extensions,
      ∃ identifiers,
        decoders.extendedKeyUsage extension.value = .ok identifiers

/-- The extension is on usage and cannot be decoded. -/
inductive Refuses (extension : Extension Identifier) : String → Prop
  | keyUsage {detail : String}
      (same : extension.identifier = decoders.identifier X509.keyUsage)
      (refused : decoders.keyUsage extension.value = .error detail) :
      Refuses extension detail
  | extendedKeyUsage {detail : String}
      (same : extension.identifier = decoders.identifier X509.extendedKeyUsage)
      (refused : decoders.extendedKeyUsage extension.value = .error detail) :
      Refuses extension detail

/-- Why the first extension that is refused is. -/
inductive FirstRefuses : List (Extension Identifier) → String → Prop
  | here {extension : Extension Identifier} {detail : String}
      {rest : List (Extension Identifier)}
      (refused : decoders.Refuses extension detail) :
      FirstRefuses (extension :: rest) detail
  | later {extension : Extension Identifier} {detail : String}
      {rest : List (Extension Identifier)}
      (passed : ∀ other, ¬ decoders.Refuses extension other)
      (refused : FirstRefuses rest detail) :
      FirstRefuses (extension :: rest) detail

def purposeOf : Side → List Nat
  | .client => clientAuth
  | .server => serverAuth

/-- The last key usage asserts signing and the last extended key usage lists the
purpose of the side or any purpose, where there are such extensions. -/
structure UsageAllows (extensions : List (Extension Identifier)) (side : Side) :
    Prop where
  keyUsage :
    ∀ extension ∈
      (ofKind (decoders.identifier X509.keyUsage) extensions).getLast?,
      ∃ usage, decoders.keyUsage extension.value = .ok usage ∧
        usage.digitalSignature = true
  extendedKeyUsage :
    ∀ extension ∈
      (ofKind (decoders.identifier X509.extendedKeyUsage) extensions).getLast?,
      ∃ identifiers,
        decoders.extendedKeyUsage extension.value = .ok identifiers ∧
        (decoders.identifier (purposeOf side) ∈ identifiers ∨
          decoders.identifier anyPurpose ∈ identifiers)

/-- The key usages and the extended key usages are the same, in the same orders.
What else there is, and how the two kinds are mixed, may differ. -/
structure SameUsage (left right : List (Extension Identifier)) : Prop where
  keyUsage : ofKind (decoders.identifier X509.keyUsage) left =
    ofKind (decoders.identifier X509.keyUsage) right
  extendedKeyUsage : ofKind (decoders.identifier X509.extendedKeyUsage) left =
    ofKind (decoders.identifier X509.extendedKeyUsage) right

variable {decoders} {left right : List (Extension Identifier)}

instance : Decidable (decoders.SameUsage left right) :=
  decidable_of_iff (_ ∧ _)
    ⟨fun ⟨usages, purposes⟩ => ⟨usages, purposes⟩,
      fun ⟨usages, purposes⟩ => ⟨usages, purposes⟩⟩

theorem SameUsage.symm (same : decoders.SameUsage left right) :
    decoders.SameUsage right left :=
  ⟨same.keyUsage.symm, same.extendedKeyUsage.symm⟩

theorem SameUsage.readable (same : decoders.SameUsage left right)
    (readable : decoders.UsageReadable left) :
    decoders.UsageReadable right := by
  obtain ⟨keyUsage, extendedKeyUsage⟩ := readable
  rw [same.keyUsage] at keyUsage
  rw [same.extendedKeyUsage] at extendedKeyUsage
  exact ⟨keyUsage, extendedKeyUsage⟩

theorem SameUsage.readable_iff (same : decoders.SameUsage left right) :
    decoders.UsageReadable left ↔ decoders.UsageReadable right :=
  ⟨same.readable, same.symm.readable⟩

theorem SameUsage.allows_iff (same : decoders.SameUsage left right)
    {side : Side} :
    decoders.UsageAllows left side ↔ decoders.UsageAllows right side := by
  constructor
  · rintro ⟨keyUsage, extendedKeyUsage⟩
    exact ⟨same.keyUsage ▸ keyUsage, same.extendedKeyUsage ▸ extendedKeyUsage⟩
  · rintro ⟨keyUsage, extendedKeyUsage⟩
    exact ⟨same.symm.keyUsage ▸ keyUsage,
      same.symm.extendedKeyUsage ▸ extendedKeyUsage⟩

/-! Purposes -/

theorem addPurpose_eq (apart : decoders.TellsApart) (purposes : Purposes)
    (identifier : Identifier) :
    decoders.addPurpose purposes identifier =
      ⟨purposes.server || identifier = decoders.identifier serverAuth,
        purposes.client || identifier = decoders.identifier clientAuth,
        purposes.any || identifier = decoders.identifier anyPurpose⟩ := by
  have distinct := apart.purposes
  simp only [List.map_cons, List.map_nil, List.nodup_cons, List.mem_cons,
    List.not_mem_nil, or_false, not_or] at distinct
  obtain ⟨⟨serverClient, serverAny⟩, clientAny, _⟩ := distinct
  unfold addPurpose
  split
  case isTrue server =>
      subst server
      simp [serverClient, serverAny]
  case isFalse notServer =>
      split
      case isTrue client =>
          subst client
          simp [notServer, clientAny]
      case isFalse notClient =>
          split
          case isTrue any =>
              subst any
              simp [notServer, notClient]
          case isFalse notAny => simp [notServer, notClient, notAny]

theorem foldl_addPurpose_eq (apart : decoders.TellsApart)
    (identifiers : List Identifier) (purposes : Purposes) :
    identifiers.foldl decoders.addPurpose purposes =
      ⟨purposes.server || decoders.identifier serverAuth ∈ identifiers,
        purposes.client || decoders.identifier clientAuth ∈ identifiers,
        purposes.any || decoders.identifier anyPurpose ∈ identifiers⟩ := by
  induction identifiers generalizing purposes with
  | nil => simp
  | cons identifier rest induction =>
      rw [List.foldl_cons, induction, addPurpose_eq apart]
      simp [Bool.or_assoc, eq_comm]

theorem permits_purposesOf_iff (apart : decoders.TellsApart)
    {identifiers : List Identifier} {side : Side} :
    (decoders.purposesOf identifiers).permits side = true ↔
      decoders.identifier (purposeOf side) ∈ identifiers ∨
        decoders.identifier anyPurpose ∈ identifiers := by
  rw [purposesOf, foldl_addPurpose_eq apart]
  cases side <;> simp [Purposes.permits, purposeOf, or_comm]

/-! Usage -/

section Usage

variable {usage result : Usage} {extension : Extension Identifier}
  {extensions : List (Extension Identifier)} {side : Side}

variable (decoders) in
def signingOf (value : List UInt8) : Except String Bool :=
  (decoders.keyUsage value).map (·.digitalSignature)

variable (decoders) in
def purposesIn (value : List UInt8) : Except String Purposes :=
  (decoders.extendedKeyUsage value).map decoders.purposesOf

theorem usageReadable_iff :
    decoders.UsageReadable extensions ↔
      Readable decoders.signingOf (decoders.identifier X509.keyUsage)
          extensions ∧
        Readable decoders.purposesIn
          (decoders.identifier X509.extendedKeyUsage) extensions := by
  unfold signingOf purposesIn
  rw [readable_map_iff, readable_map_iff]
  exact ⟨fun ⟨signing, purposes⟩ => ⟨signing, purposes⟩,
    fun ⟨signing, purposes⟩ => ⟨signing, purposes⟩⟩

theorem extend_of_keyUsage
    (same : extension.identifier = decoders.identifier X509.keyUsage) :
    decoders.extend usage extension =
      ((decoders.signingOf extension.value).mapError .malformed).map
        fun signing => { usage with signing := some signing } := by
  rw [extend, if_pos same, signingOf]
  cases decoders.keyUsage extension.value <;> rfl

theorem extend_of_extendedKeyUsage (apart : decoders.TellsApart)
    (same : extension.identifier = decoders.identifier X509.extendedKeyUsage) :
    decoders.extend usage extension =
      ((decoders.purposesIn extension.value).mapError .malformed).map
        fun purposes => { usage with purposes := some purposes } := by
  rw [extend, if_neg (same ▸ apart.kinds.symm), if_pos same, purposesIn]
  cases decoders.extendedKeyUsage extension.value <;> rfl

theorem extend_of_unrelated
    (notKeyUsage : extension.identifier ≠ decoders.identifier X509.keyUsage)
    (notExtended :
      extension.identifier ≠ decoders.identifier X509.extendedKeyUsage) :
    decoders.extend usage extension = .ok usage := by
  rw [extend, if_neg notKeyUsage, if_neg notExtended]
  rfl

theorem extend_eq_ok_iff (apart : decoders.TellsApart) :
    decoders.extend usage extension = .ok result ↔
      Updates decoders.signingOf (decoders.identifier X509.keyUsage) extension
          usage.signing result.signing ∧
        Updates decoders.purposesIn (decoders.identifier X509.extendedKeyUsage)
          extension usage.purposes result.purposes := by
  obtain ⟨signing, purposes⟩ := result
  by_cases keyUsage :
      extension.identifier = decoders.identifier X509.keyUsage
  · rw [extend_of_keyUsage keyUsage, updates_iff_of_eq keyUsage,
      updates_iff_of_ne (keyUsage ▸ apart.kinds)]
    simp only [map_eq_ok_iff, mapError_eq_ok_iff]
    constructor
    · rintro ⟨value, reads, ⟨⟩⟩
      exact ⟨⟨value, reads, rfl⟩, rfl⟩
    · rintro ⟨⟨value, reads, rfl⟩, rfl⟩
      exact ⟨value, reads, rfl⟩
  · rw [updates_iff_of_ne keyUsage]
    by_cases extended :
        extension.identifier = decoders.identifier X509.extendedKeyUsage
    · rw [extend_of_extendedKeyUsage apart extended, updates_iff_of_eq extended]
      simp only [map_eq_ok_iff, mapError_eq_ok_iff]
      constructor
      · rintro ⟨value, reads, ⟨⟩⟩
        exact ⟨rfl, value, reads, rfl⟩
      · rintro ⟨rfl, value, reads, rfl⟩
        exact ⟨value, reads, rfl⟩
    · rw [extend_of_unrelated keyUsage extended, updates_iff_of_ne extended]
      constructor
      · rintro ⟨⟩
        exact ⟨rfl, rfl⟩
      · rintro ⟨rfl, rfl⟩
        rfl

theorem foldlM_extend_eq_ok_iff (apart : decoders.TellsApart) :
    extensions.foldlM decoders.extend usage = .ok result ↔
      Tracks decoders.signingOf (decoders.identifier X509.keyUsage) extensions
          usage.signing result.signing ∧
        Tracks decoders.purposesIn (decoders.identifier X509.extendedKeyUsage)
          extensions usage.purposes result.purposes := by
  induction extensions generalizing usage with
  | nil =>
      rw [tracks_nil_iff, tracks_nil_iff]
      cases usage
      cases result
      simp [pure, Except.pure, eq_comm]
  | cons extension rest induction =>
      rw [List.foldlM_cons, tracks_cons_iff, tracks_cons_iff]
      simp only [bind_eq_ok_iff, extend_eq_ok_iff apart, induction]
      constructor
      · rintro ⟨next, ⟨signing, purposes⟩, signings, allPurposes⟩
        exact ⟨⟨_, signing, signings⟩, ⟨_, purposes, allPurposes⟩⟩
      · rintro ⟨⟨_, signing, signings⟩, ⟨_, purposes, allPurposes⟩⟩
        exact ⟨⟨_, _⟩, ⟨signing, purposes⟩, signings, allPurposes⟩

/-- Extensions make up a usage exactly if those on usage can be read, and then
it is what the last ones of both kinds say. -/
theorem usageOf_eq_ok_iff (apart : decoders.TellsApart) :
    decoders.usageOf extensions = .ok result ↔
      decoders.UsageReadable extensions ∧
        result =
          ⟨last? decoders.signingOf (decoders.identifier X509.keyUsage)
              extensions,
            last? decoders.purposesIn
              (decoders.identifier X509.extendedKeyUsage) extensions⟩ := by
  rw [usageOf, foldlM_extend_eq_ok_iff apart, usageReadable_iff]
  constructor
  · obtain ⟨signing, purposes⟩ := result
    rintro ⟨⟨readable, signing_eq⟩, ⟨legible, purposes_eq⟩⟩
    refine ⟨⟨readable, legible⟩, ?_⟩
    simpa [Usage.unrestricted] using And.intro signing_eq purposes_eq
  · rintro ⟨⟨readable, legible⟩, rfl⟩
    exact ⟨⟨readable, Option.or_none.symm⟩, ⟨legible, Option.or_none.symm⟩⟩

theorem exists_usageOf_iff (apart : decoders.TellsApart) :
    (∃ usage, decoders.usageOf extensions = .ok usage) ↔
      decoders.UsageReadable extensions := by
  simp only [usageOf_eq_ok_iff apart, exists_and_left, exists_eq, and_true]

theorem permits_eq_true_iff :
    usage.permits side = true ↔
      (∀ signing ∈ usage.signing, signing = true) ∧
        ∀ purposes ∈ usage.purposes, purposes.permits side = true := by
  obtain ⟨signing, purposes⟩ := usage
  unfold Usage.permits
  rw [Bool.and_eq_true]
  cases signing <;> cases purposes <;> simp

theorem permits_iff_usageAllows (apart : decoders.TellsApart)
    (made : decoders.usageOf extensions = .ok usage) :
    usage.permits side = true ↔ decoders.UsageAllows extensions side := by
  obtain ⟨readable, rfl⟩ := (usageOf_eq_ok_iff apart).mp made
  obtain ⟨signings, allPurposes⟩ := usageReadable_iff.mp readable
  rw [permits_eq_true_iff, forall_mem_last?_iff signings,
    forall_mem_last?_iff allPurposes]
  simp only [signingOf, purposesIn, map_eq_ok_iff, exists_exists_and_eq_and,
    permits_purposesOf_iff apart]
  exact ⟨fun ⟨signing, purpose⟩ => ⟨signing, purpose⟩,
    fun ⟨signing, purpose⟩ => ⟨signing, purpose⟩⟩

/-! Refusals -/

omit [DecidableEq Identifier] in
theorem refuses_iff_of_keyUsage (apart : decoders.TellsApart)
    (same : extension.identifier = decoders.identifier X509.keyUsage)
    {detail : String} :
    decoders.Refuses extension detail ↔
      decoders.signingOf extension.value = .error detail := by
  rw [signingOf, map_eq_error_iff]
  constructor
  · intro refused
    cases refused with
    | keyUsage _ refused => exact refused
    | extendedKeyUsage other =>
        exact absurd (same.symm.trans other) apart.kinds
  · exact .keyUsage same

theorem refuses_iff_of_extendedKeyUsage (apart : decoders.TellsApart)
    (same : extension.identifier = decoders.identifier X509.extendedKeyUsage)
    {detail : String} :
    decoders.Refuses extension detail ↔
      decoders.purposesIn extension.value = .error detail := by
  rw [purposesIn, map_eq_error_iff]
  constructor
  · intro refused
    cases refused with
    | keyUsage other => exact absurd (other.symm.trans same) apart.kinds
    | extendedKeyUsage _ refused => exact refused
  · exact .extendedKeyUsage same

theorem extend_eq_error_iff (apart : decoders.TellsApart)
    {error : CertificateError} :
    decoders.extend usage extension = .error error ↔
      ∃ detail, decoders.Refuses extension detail ∧
        error = .malformed detail := by
  by_cases keyUsage :
      extension.identifier = decoders.identifier X509.keyUsage
  · simp only [extend_of_keyUsage keyUsage, map_eq_error_iff,
      mapError_eq_error_iff, refuses_iff_of_keyUsage apart keyUsage]
  · by_cases extended :
        extension.identifier = decoders.identifier X509.extendedKeyUsage
    · simp only [extend_of_extendedKeyUsage apart extended, map_eq_error_iff,
        mapError_eq_error_iff, refuses_iff_of_extendedKeyUsage apart extended]
    · rw [extend_of_unrelated keyUsage extended]
      constructor
      · nofun
      · rintro ⟨detail, refused, _⟩
        cases refused with
        | keyUsage same => exact absurd same keyUsage
        | extendedKeyUsage same => exact absurd same extended

theorem exists_extend_iff (apart : decoders.TellsApart) :
    (∃ next, decoders.extend usage extension = .ok next) ↔
      ∀ detail, ¬ decoders.Refuses extension detail := by
  constructor
  · rintro ⟨next, extended⟩ detail refused
    have failed : decoders.extend usage extension = .error _ :=
      (extend_eq_error_iff apart).mpr ⟨detail, refused, rfl⟩
    rw [extended] at failed
    cases failed
  · intro accepted
    cases extended : decoders.extend usage extension with
    | ok next => exact ⟨next, rfl⟩
    | error error =>
        obtain ⟨detail, refused, _⟩ := (extend_eq_error_iff apart).mp extended
        exact absurd refused (accepted detail)

omit [DecidableEq Identifier] in
theorem firstRefuses_cons_iff {detail : String} :
    decoders.FirstRefuses (extension :: extensions) detail ↔
      decoders.Refuses extension detail ∨
        (∀ other, ¬ decoders.Refuses extension other) ∧
          decoders.FirstRefuses extensions detail := by
  constructor
  · intro first
    cases first with
    | here refused => exact Or.inl refused
    | later passed refused => exact Or.inr ⟨passed, refused⟩
  · rintro (refused | ⟨passed, refused⟩)
    · exact .here refused
    · exact .later passed refused

theorem foldlM_extend_eq_error_iff (apart : decoders.TellsApart)
    {error : CertificateError} :
    extensions.foldlM decoders.extend usage = .error error ↔
      ∃ detail, decoders.FirstRefuses extensions detail ∧
        error = .malformed detail := by
  induction extensions generalizing usage with
  | nil =>
      constructor
      · nofun
      · rintro ⟨detail, ⟨⟩, _⟩
  | cons extension rest induction =>
      rw [List.foldlM_cons, bind_eq_error_iff, extend_eq_error_iff apart]
      simp only [induction, firstRefuses_cons_iff, or_and_right, exists_or,
        exists_and_right, exists_extend_iff apart, and_assoc, exists_and_left]

end Usage

end Decoders

end X509

/-! Certificates -/

namespace Certificate

open X509 Der

variable {Identifier Parameters Name : Type} [DecidableEq Identifier]
  {decoders : Decoders Identifier Parameters Name} {bytes : List UInt8}
  {document : Document Identifier Parameters Name}

/-- The certificate can be decoded, and its key and its signature are of known
kinds. -/
structure Supported (decoders : Decoders Identifier Parameters Name)
    (bytes : List UInt8) (document : Document Identifier Parameters Name) :
    Prop where
  decoded : decoders.document bytes = .ok document
  keyed : ∃ key, decoders.keyOf document.publicKey = .ok key
  signed : ∃ scheme,
    decoders.schemeOf document.signatureAlgorithm = .ok scheme

theorem exists_supported (decoders : Decoders Identifier Parameters Name)
    (bytes : List UInt8) (test : Document Identifier Parameters Name → Bool)
    (sound : (decoders.document bytes).toOption.any (fun document =>
      (decoders.keyOf document.publicKey).toOption.any (fun _ => true) &&
        (decoders.schemeOf document.signatureAlgorithm).toOption.any
          (fun _ => true) &&
        test document) = true) :
    ∃ document, Supported decoders bytes document ∧ test document = true := by
  obtain ⟨document, decoded, known⟩ := exists_of_any_toOption sound
  simp only [Bool.and_eq_true] at known
  obtain ⟨⟨keyed, signed⟩, passed⟩ := known
  obtain ⟨key, keyed, _⟩ := exists_of_any_toOption keyed
  obtain ⟨scheme, signed, _⟩ := exists_of_any_toOption signed
  exact ⟨document, ⟨decoded, ⟨key, keyed⟩, scheme, signed⟩, passed⟩

variable [BEq Name]

/-- Nothing but its extensions can make a supported certificate fail. -/
theorem ofBytes_cases (supported : Supported decoders bytes document) :
    (∃ error, decoders.usageOf document.listed = .error error ∧
        ofBytes decoders bytes = .error error) ∨
      ∃ certificate, ofBytes decoders bytes = .ok certificate ∧
        decoders.usageOf document.listed = .ok certificate.usage := by
  obtain ⟨decoded, ⟨key, keyed⟩, scheme, signed⟩ := supported
  rw [ofBytes, decoded]
  simp only [Except.mapError, ofDocument, keyed, signed, bind, Except.bind]
  cases decoders.usageOf document.listed with
  | error error => exact Or.inl ⟨error, rfl, rfl⟩
  | ok usage => exact Or.inr ⟨_, rfl, rfl⟩

theorem exists_ofBytes_iff (supported : Supported decoders bytes document) :
    (∃ certificate, ofBytes decoders bytes = .ok certificate) ↔
      ∃ usage, decoders.usageOf document.listed = .ok usage := by
  rcases ofBytes_cases supported with
    ⟨error, failed, refused⟩ | ⟨certificate, built, made⟩
  · simp [failed, refused]
  · simp [built, made]

theorem ofBytes_eq_error_iff (supported : Supported decoders bytes document)
    {error : CertificateError} :
    ofBytes decoders bytes = .error error ↔
      decoders.usageOf document.listed = .error error := by
  rcases ofBytes_cases supported with
    ⟨other, failed, refused⟩ | ⟨certificate, built, made⟩
  · simp [failed, refused]
  · simp [built, made]

theorem usageOf_of_ofBytes {certificate : Certificate}
    (supported : Supported decoders bytes document)
    (built : ofBytes decoders bytes = .ok certificate) :
    decoders.usageOf document.listed = .ok certificate.usage := by
  rcases ofBytes_cases supported with
    ⟨error, _, refused⟩ | ⟨other, same, made⟩
  · rw [refused] at built
    cases built
  · rw [same] at built
    cases built
    exact made

/-- A supported certificate is accepted exactly if each of its extensions on
usage can be decoded; otherwise the first that cannot is reported. What it
permits is up to the last key usage and the last extended key usage, so it is
the same wherever these stand. -/
theorem usage_of_latest (apart : decoders.TellsApart)
    (supported : Supported decoders bytes document) :
    ((∃ certificate, ofBytes decoders bytes = .ok certificate) ↔
        decoders.UsageReadable document.listed) ∧
      (∀ error, ofBytes decoders bytes = .error error ↔
        ∃ detail, decoders.FirstRefuses document.listed detail ∧
          error = .malformed detail) ∧
      (∀ certificate, ofBytes decoders bytes = .ok certificate → ∀ side,
        (certificate.permits side = true ↔
          decoders.UsageAllows document.listed side)) ∧
      ∀ other (otherDocument : Document Identifier Parameters Name),
        Supported decoders other otherDocument →
        decoders.SameUsage document.listed otherDocument.listed →
        ((∃ certificate, ofBytes decoders bytes = .ok certificate) ↔
            ∃ certificate, ofBytes decoders other = .ok certificate) ∧
          ∀ certificate otherCertificate,
            ofBytes decoders bytes = .ok certificate →
            ofBytes decoders other = .ok otherCertificate → ∀ side,
              certificate.permits side = otherCertificate.permits side := by
  have accepted := (exists_ofBytes_iff supported).trans
    (Decoders.exists_usageOf_iff apart)
  refine ⟨accepted, ?_, ?_, ?_⟩
  · intro error
    rw [ofBytes_eq_error_iff supported]
    exact Decoders.foldlM_extend_eq_error_iff apart
  · intro certificate built side
    exact Decoders.permits_iff_usageAllows apart
      (usageOf_of_ofBytes supported built)
  · intro other otherDocument otherSupported same
    constructor
    · rw [accepted, exists_ofBytes_iff otherSupported,
        Decoders.exists_usageOf_iff apart]
      exact same.readable_iff
    · intro certificate otherCertificate built otherBuilt side
      unfold permits
      rw [Bool.eq_iff_iff,
        Decoders.permits_iff_usageAllows apart
          (usageOf_of_ofBytes supported built),
        Decoders.permits_iff_usageAllows apart
          (usageOf_of_ofBytes otherSupported otherBuilt)]
      exact same.allows_iff

/-- Two certificates that list the same two key usages and the same two extended
key usages, mixed in different ways and the second time with another extension
between them. The first of each kind would keep a client out. In the third
certificate the last key usage keeps it out, and in the fourth one the first key
usage cannot be decoded. -/
theorem usage_of_latest_mixed :
    let named (arcs : List Nat) : Element :=
      ⟨Tag.objectIdentifier, (ObjectIdentifier.ofArcs arcs).content⟩
    let extension (arcs : List Nat) (value : Element) : Element :=
      .ofElements Tag.sequence [named arcs, ⟨Tag.octetString, value.encode⟩]
    let usage (unused bits : UInt8) :=
      extension keyUsage ⟨Tag.bitString, [unused, bits]⟩
    let purposes (listed : List (List Nat)) :=
      extension extendedKeyUsage (.ofElements Tag.sequence (listed.map named))
    let constraints :=
      extension [2, 5, 29, 19] (.ofElements Tag.sequence [])
    let written (extensions : List Element) : List UInt8 :=
      ((Layout.short [named ed25519] [named ed25519]
        [⟨Tag.context 3 true,
          (Element.ofElements Tag.sequence extensions).encode⟩]).toElement
            none).encode
    let bytes := written [purposes [serverAuth], usage 7 0x00,
      purposes [keyUsage, clientAuth], usage 7 0x80]
    let other := written [usage 7 0x00, usage 7 0x80, constraints,
      purposes [serverAuth], purposes [keyUsage, clientAuth]]
    let mute := written [usage 7 0x80, purposes [anyPurpose], usage 7 0x00]
    let broken := written [usage 8 0x80, usage 7 0x80]
    ∃ certificate otherCertificate muteCertificate,
      ofBytes .der bytes = .ok certificate ∧
        ofBytes .der other = .ok otherCertificate ∧
        ofBytes .der mute = .ok muteCertificate ∧
        certificate.permits .client = true ∧
        certificate.permits .server = false ∧
        otherCertificate.permits .client = true ∧
        muteCertificate.permits .client = false ∧
        ∃ detail, ofBytes .der broken = .error (.malformed detail) := by
  intro named extension usage purposes constraints written bytes other mute
    broken
  have apart : Decoders.der.TellsApart := ⟨by decide, by decide⟩
  obtain ⟨otherDocument, otherSupported, _⟩ :=
    exists_supported .der other (fun _ => true) (by decide +kernel)
  obtain ⟨document, supported, alike⟩ :=
    exists_supported .der bytes
      (fun document => (Decoders.der.document other).toOption.any
        fun found => Decoders.der.SameUsage document.listed found.listed)
      (by decide +kernel)
  obtain ⟨brokenDocument, brokenSupported, _⟩ :=
    exists_supported .der broken (fun _ => true) (by decide +kernel)
  rw [otherSupported.decoded] at alike
  have same : Decoders.der.SameUsage document.listed otherDocument.listed :=
    of_decide_eq_true alike
  obtain ⟨_, _, _, agree⟩ := usage_of_latest apart supported
  obtain ⟨alike, permits⟩ := agree other otherDocument otherSupported same
  obtain ⟨certificate, built, permitted⟩ := exists_of_any_toOption
    (show (ofBytes .der bytes).toOption.any (fun certificate =>
      certificate.permits .client && !certificate.permits .server) = true by
        decide +kernel)
  obtain ⟨muteCertificate, muteBuilt, muted⟩ := exists_of_any_toOption
    (show (ofBytes .der mute).toOption.any (fun certificate =>
      !certificate.permits .client) = true by decide +kernel)
  obtain ⟨client, server⟩ := Bool.and_eq_true_iff.mp permitted
  obtain ⟨otherCertificate, otherBuilt⟩ := alike.mp ⟨certificate, built⟩
  have otherClient :=
    permits certificate otherCertificate built otherBuilt .client
  rw [client] at otherClient
  refine ⟨certificate, otherCertificate, muteCertificate, built, otherBuilt,
    muteBuilt, client, by simpa using server, otherClient.symm,
    by simpa using muted, ?_⟩
  cases refused : ofBytes .der broken with
  | ok accepted =>
      have none : (ofBytes .der broken).toOption = none := by decide +kernel
      rw [refused] at none
      cases none
  | error error =>
      obtain ⟨_, refusal, _⟩ := usage_of_latest apart brokenSupported
      obtain ⟨detail, _, rfl⟩ := (refusal error).mp refused
      exact ⟨detail, rfl⟩

end Certificate

end DatagramTls
