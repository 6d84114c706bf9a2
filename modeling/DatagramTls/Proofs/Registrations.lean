import DatagramTls.Config.Role

/-!
Registrations: the keys that certificate material brings along, and what the
credentials know of them once everything is registered.
-/

namespace DatagramTls

namespace Registration

def identityKeys : Registration → List Key
  | .identityKey key => [key]
  | .identityChain (leaf :: _) => [leaf.key]
  | .identityChain [] | .trustedKey _ | .trustedCertificates _ => []

def leaf? : Registration → Option Certificate
  | .identityChain (leaf :: _) => some leaf
  | .identityChain [] | .identityKey _ | .trustedKey _
  | .trustedCertificates _ => none

def chainSchemes : Registration → List Scheme
  | .identityChain chain => (Requirements.signedPart chain).map (·.scheme)
  | .identityKey _ | .trustedKey _ | .trustedCertificates _ => []

def defaultSchemes : Registration → List Scheme
  | .identityKey key | .trustedKey key => [key.preferredScheme]
  | .identityChain [] => []
  | .identityChain (leaf :: issuers) =>
      leaf.key.preferredScheme ::
        (Requirements.signedPart (leaf :: issuers)).map (·.scheme)
  | .trustedCertificates trusted =>
      trusted.flatMap fun certificate =>
        [certificate.key.preferredScheme, certificate.scheme]

def defaultGroups : Registration → List Group
  | .identityKey key | .trustedKey key => key.curve?.toList
  | .identityChain chain => chain.head?.toList.flatMap (·.key.curve?.toList)
  | .trustedCertificates trusted => trusted.flatMap (·.key.curve?.toList)

def leaves (registrations : List Registration) : List Certificate :=
  registrations.filterMap (·.leaf?)

end Registration

namespace Requirements

variable {requirements : Requirements} {registrations : List Registration}

theorem addChainSchemes_eq (requirements : Requirements)
    (schemes : List Scheme) :
    schemes.foldl addChainScheme requirements =
      { requirements with
        chainSchemes := Distinct.addAll requirements.chainSchemes schemes
        defaultSchemes :=
          Distinct.addAll requirements.defaultSchemes schemes } := by
  induction schemes generalizing requirements with
  | nil => rfl
  | cons scheme rest induction =>
      exact induction (requirements.addChainScheme scheme)

theorem addAllTrusted_eq (requirements : Requirements)
    (trusted : List Certificate) :
    trusted.foldl addTrusted requirements =
      { requirements with
        defaultSchemes := Distinct.addAll requirements.defaultSchemes
          (trusted.flatMap fun certificate =>
            [certificate.key.preferredScheme, certificate.scheme])
        defaultGroups := Distinct.addAll requirements.defaultGroups
          (trusted.flatMap (·.key.curve?.toList)) } := by
  induction trusted generalizing requirements with
  | nil => rfl
  | cons certificate rest induction =>
      rw [List.foldl_cons, induction]
      simp only [List.flatMap_cons, Distinct.addAll, List.foldl_append]
      rfl

/-- Registering adds to each of the lists, and the first leaf stays. -/
theorem register_eq (requirements : Requirements)
    (registration : Registration) :
    requirements.register registration =
      { identityKeys := Distinct.addAll requirements.identityKeys
          registration.identityKeys
        leaf := requirements.leaf.or registration.leaf?
        chainSchemes := Distinct.addAll requirements.chainSchemes
          registration.chainSchemes
        defaultSchemes := Distinct.addAll requirements.defaultSchemes
          registration.defaultSchemes
        defaultGroups := Distinct.addAll requirements.defaultGroups
          registration.defaultGroups } := by
  cases registration with
  | identityKey key =>
      rw [Registration.leaf?, Option.or_none]
      rfl
  | identityChain chain =>
      cases chain with
      | nil =>
          rw [Registration.leaf?, Option.or_none]
          rfl
      | cons leaf issuers =>
          rw [register, addChainSchemes_eq]
          simp only [Registration.defaultGroups, List.head?_cons,
            Option.toList_some, List.flatMap_cons, List.flatMap_nil,
            List.append_nil]
          rfl
  | trustedKey key =>
      rw [Registration.leaf?, Option.or_none]
      rfl
  | trustedCertificates trusted =>
      rw [register, addAllTrusted_eq, Registration.leaf?, Option.or_none]
      rfl

theorem identityKeys_register (requirements : Requirements)
    (registration : Registration) :
    (requirements.register registration).identityKeys =
      Distinct.addAll requirements.identityKeys registration.identityKeys := by
  rw [register_eq]

theorem leaf_register (requirements : Requirements)
    (registration : Registration) :
    (requirements.register registration).leaf =
      requirements.leaf.or registration.leaf? := by
  rw [register_eq]

theorem chainSchemes_register (requirements : Requirements)
    (registration : Registration) :
    (requirements.register registration).chainSchemes =
      Distinct.addAll requirements.chainSchemes registration.chainSchemes := by
  rw [register_eq]

theorem defaultSchemes_register (requirements : Requirements)
    (registration : Registration) :
    (requirements.register registration).defaultSchemes =
      Distinct.addAll requirements.defaultSchemes
        registration.defaultSchemes := by
  rw [register_eq]

theorem defaultGroups_register (requirements : Requirements)
    (registration : Registration) :
    (requirements.register registration).defaultGroups =
      Distinct.addAll requirements.defaultGroups
        registration.defaultGroups := by
  rw [register_eq]

section Lists

/-! Lists of the requirements to which each registration adds its part. -/

variable {α : Type} [DecidableEq α] {list : Requirements → List α}
  {part : Registration → List α}
  (adds : ∀ requirements registration,
    list (register requirements registration) =
      Distinct.addAll (list requirements) (part registration))
include adds

private theorem list_registerAll :
    list (requirements.registerAll registrations) =
      Distinct.addAll (list requirements) (registrations.flatMap part) := by
  induction registrations generalizing requirements with
  | nil => rfl
  | cons first rest induction =>
      change list ((requirements.register first).registerAll rest) = _
      rw [induction, adds, List.flatMap_cons, Distinct.addAll_append]

private theorem mem_registerAll {entry : α} :
    entry ∈ list (requirements.registerAll registrations) ↔
      entry ∈ list requirements ∨
        ∃ registration ∈ registrations, entry ∈ part registration := by
  rw [list_registerAll adds, Distinct.mem_addAll, List.mem_flatMap]

private theorem nodup_registerAll (distinct : (list requirements).Nodup) :
    (list (requirements.registerAll registrations)).Nodup := by
  rw [list_registerAll adds]
  exact Distinct.nodup_addAll distinct _

end Lists

theorem mem_identityKeys_registerAll {key : Key} :
    key ∈ (requirements.registerAll registrations).identityKeys ↔
      key ∈ requirements.identityKeys ∨
        ∃ registration ∈ registrations, key ∈ registration.identityKeys :=
  mem_registerAll identityKeys_register

theorem mem_chainSchemes_registerAll {scheme : Scheme} :
    scheme ∈ (requirements.registerAll registrations).chainSchemes ↔
      scheme ∈ requirements.chainSchemes ∨
        ∃ registration ∈ registrations, scheme ∈ registration.chainSchemes :=
  mem_registerAll chainSchemes_register

theorem mem_defaultSchemes_registerAll {scheme : Scheme} :
    scheme ∈ (requirements.registerAll registrations).defaultSchemes ↔
      scheme ∈ requirements.defaultSchemes ∨
        ∃ registration ∈ registrations,
          scheme ∈ registration.defaultSchemes :=
  mem_registerAll defaultSchemes_register

theorem mem_defaultGroups_registerAll {group : Group} :
    group ∈ (requirements.registerAll registrations).defaultGroups ↔
      group ∈ requirements.defaultGroups ∨
        ∃ registration ∈ registrations, group ∈ registration.defaultGroups :=
  mem_registerAll defaultGroups_register

theorem nodup_defaultSchemes_registerAll
    (distinct : requirements.defaultSchemes.Nodup) :
    (requirements.registerAll registrations).defaultSchemes.Nodup :=
  nodup_registerAll defaultSchemes_register distinct

theorem nodup_defaultGroups_registerAll
    (distinct : requirements.defaultGroups.Nodup) :
    (requirements.registerAll registrations).defaultGroups.Nodup :=
  nodup_registerAll defaultGroups_register distinct

theorem leaf_registerAll (requirements : Requirements)
    (registrations : List Registration) :
    (requirements.registerAll registrations).leaf =
      requirements.leaf.or (Registration.leaves registrations).head? := by
  induction registrations generalizing requirements with
  | nil => exact (Option.or_none).symm
  | cons first rest induction =>
      change ((requirements.register first).registerAll rest).leaf = _
      rw [induction, leaf_register, Option.or_assoc]
      cases found : first.leaf? with
      | none => simp [Registration.leaves, found]
      | some leaf => simp [Registration.leaves, found]

theorem mem_keyFamilies {family : KeyFamily} :
    family ∈ requirements.keyFamilies ↔
      ∃ key ∈ requirements.identityKeys, key.family = family := by
  simp [keyFamilies]

theorem keyFamilies_registerAll_empty_eq_nil_iff :
    (empty.registerAll registrations).keyFamilies = [] ↔
      ∀ registration ∈ registrations, registration.identityKeys = [] := by
  simp only [List.eq_nil_iff_forall_not_mem, mem_keyFamilies,
    mem_identityKeys_registerAll]
  constructor
  · intro none registration member key registered
    exact none key.family
      ⟨key, Or.inr ⟨registration, member, registered⟩, rfl⟩
  · rintro silent family ⟨key, held | ⟨registration, member, registered⟩, _⟩
    · cases held
    · exact silent registration member key registered

end Requirements

namespace Config.Credentials

variable {credentials : Credentials}

def registrations (credentials : Credentials) : List Registration :=
  (credentials.identity.bind (·.registrations)).getD [] ++
    (credentials.verifier.bind (·.registrations)).getD []

/-- The identity says what it requires, but no key is registered. -/
structure Keyless (credentials : Credentials) : Prop where
  stated : (credentials.identity.bind (·.registrations)).isSome = true
  silent : ∀ registration ∈ credentials.registrations,
    registration.identityKeys = []

def defaultSchemes (credentials : Credentials) : List Scheme :=
  (credentials.requirements?.map (·.defaultSchemes)).getD []

def defaultGroups (credentials : Credentials) : List Group :=
  (credentials.requirements?.map (·.defaultGroups)).getD []

/-- Either neither credential says what it requires, or all is registered. -/
theorem requirements?_cases (credentials : Credentials) :
    (credentials.requirements? = none ∧ credentials.registrations = []) ∨
      credentials.requirements? =
        some (Requirements.empty.registerAll credentials.registrations) := by
  unfold requirements? Requirements.ofCredentials? registrations
  cases credentials.identity.bind (·.registrations) <;>
    cases credentials.verifier.bind (·.registrations) <;>
    simp [Requirements.registerAll]

private theorem list_requirements? {α : Type} [DecidableEq α]
    {list : Requirements → List α} {part : Registration → List α}
    (adds : ∀ requirements registration,
      list (Requirements.register requirements registration) =
        Distinct.addAll (list requirements) (part registration))
    (initial : list .empty = []) :
    (credentials.requirements?.map list).getD [] =
      Distinct.addAll [] (credentials.registrations.flatMap part) := by
  rcases credentials.requirements?_cases with ⟨silent, none⟩ | stated
  · rw [silent, none]
    rfl
  · rw [stated, ← initial]
    exact Requirements.list_registerAll adds

theorem defaultSchemes_eq (credentials : Credentials) :
    credentials.defaultSchemes =
      Distinct.addAll [] (credentials.registrations.flatMap
        (·.defaultSchemes)) :=
  list_requirements? Requirements.defaultSchemes_register rfl

theorem defaultGroups_eq (credentials : Credentials) :
    credentials.defaultGroups =
      Distinct.addAll [] (credentials.registrations.flatMap
        (·.defaultGroups)) :=
  list_requirements? Requirements.defaultGroups_register rfl

theorem requirements?_of_stated
    (stated : (credentials.identity.bind (·.registrations)).isSome = true) :
    credentials.requirements? =
      some (Requirements.empty.registerAll credentials.registrations) := by
  obtain ⟨registered, found⟩ := Option.isSome_iff_exists.mp stated
  simp [requirements?, Requirements.ofCredentials?, registrations, found,
    Requirements.registerAll]

theorem keyFamilies?_of_stated
    (stated : (credentials.identity.bind (·.registrations)).isSome = true) :
    credentials.keyFamilies? = some
      (Requirements.empty.registerAll
        credentials.registrations).keyFamilies := by
  rw [keyFamilies?, if_pos stated, requirements?_of_stated stated]
  rfl

theorem keyFamilies?_eq_some_nil_iff :
    credentials.keyFamilies? = some [] ↔ credentials.Keyless := by
  constructor
  · intro none
    have stated :
        (credentials.identity.bind (·.registrations)).isSome = true := by
      unfold keyFamilies? at none
      split at none
      case isTrue stated => exact stated
      case isFalse => cases none
    rw [keyFamilies?_of_stated stated] at none
    exact ⟨stated, Requirements.keyFamilies_registerAll_empty_eq_nil_iff.mp
      (Option.some.inj none)⟩
  · intro keyless
    rw [keyFamilies?_of_stated keyless.stated]
    exact congrArg some
      (Requirements.keyFamilies_registerAll_empty_eq_nil_iff.mpr
        keyless.silent)

end Config.Credentials

end DatagramTls
