import DatagramTls.Proofs.Build.Outcome
import DatagramTls.Proofs.Registrations

/-!
The connector's own certificate chain. Whatever else is set, a configuration
that is built with a chain offers what the chain needs: peers can check its
signatures, and the leaf can authenticate in every suite and on every side that
the connector takes.
-/

namespace DatagramTls

open Build

/-! What a chain requires -/

namespace Requirements

/-- Peers check every signature of a chain, but for that of a self-signed root
at the end of a chain of more than one. -/
theorem mem_signedPart_or {chain before after : List Certificate}
    {certificate : Certificate}
    (split : chain = before ++ certificate :: after) :
    certificate ∈ signedPart chain ∨
      (before ≠ [] ∧ after = [] ∧ certificate.selfSigned = true) := by
  subst split
  cases after with
  | nil =>
      have last : (before ++ [certificate]).getLast? = some certificate :=
        List.getLast?_concat
      simp only [signedPart, last]
      split
      case isTrue exempt =>
          refine Or.inr ⟨?_, trivial, exempt.2⟩
          rintro rfl
          exact absurd exempt.1 (by simp)
      case isFalse => exact Or.inl (by simp)
  | cons next rest =>
      have kept : certificate ∈
          (before ++ certificate :: next :: rest).dropLast := by
        simp [List.dropLast_append_of_ne_nil]
      left
      unfold signedPart
      repeat' split
      · exact kept
      · exact List.dropLast_subset _ kept
      · exact List.dropLast_subset _ kept

/-- The requirements are those of the chain and of what is trusted besides. -/
structure OfChain (requirements : Requirements) (leaf : Certificate)
    (issuers : List Certificate) : Prop where
  leaf_eq : requirements.leaf = some leaf
  mem_identityKeys_iff : ∀ key,
    key ∈ requirements.identityKeys ↔ key = leaf.key
  chainSchemes : ∀ certificate ∈ signedPart (leaf :: issuers),
    certificate.scheme ∈ requirements.chainSchemes

theorem ofChain_registerAll {leaf : Certificate} {issuers : List Certificate}
    {others : List Registration}
    (keyless : ∀ other ∈ others, other.identityKeys = []) :
    (empty.registerAll (.identityChain (leaf :: issuers) :: others)).OfChain
      leaf issuers where
  leaf_eq := by
    rw [leaf_registerAll]
    rfl
  mem_identityKeys_iff := by
    intro key
    rw [mem_identityKeys_registerAll]
    constructor
    · rintro (held | ⟨registration, member, registered⟩)
      · cases held
      rcases List.mem_cons.mp member with rfl | other
      · exact List.mem_singleton.mp registered
      · rw [keyless registration other] at registered
        cases registered
    · rintro rfl
      exact Or.inr ⟨_, List.mem_cons_self, List.mem_singleton.mpr rfl⟩
  chainSchemes := by
    intro certificate signed
    exact mem_chainSchemes_registerAll.mpr (Or.inr
      ⟨_, List.mem_cons_self, List.mem_map_of_mem signed⟩)

end Requirements

inductive Verifier.Plain : Verifier → Prop
  | silent {verifier : Verifier} (unstated : verifier.registrations = none) :
    verifier.Plain
  | trusting (handle : Handle) (trusted : List Certificate) :
    (ofTrusted handle trusted).Plain

namespace Config.Credentials

variable {credentials : Credentials} {handle : Handle} {leaf : Certificate}
  {issuers : List Certificate}

theorem requirements?_of_chain
    (identified :
      credentials.identity = some (.ofChain handle (leaf :: issuers)))
    (verified : ∀ verifier ∈ credentials.verifier, verifier.Plain) :
    ∃ requirements, credentials.requirements? = some requirements ∧
      requirements.OfChain leaf issuers := by
  have stated : (credentials.identity.bind (·.registrations)).isSome = true := by
    rw [identified]
    rfl
  rw [requirements?_of_stated stated]
  refine ⟨_, rfl, ?_⟩
  have registered : credentials.registrations =
      .identityChain (leaf :: issuers) ::
        (credentials.verifier.bind (·.registrations)).getD [] := by
    rw [registrations, identified]
    rfl
  rw [registered]
  apply Requirements.ofChain_registerAll
  intro other member
  cases verifies : credentials.verifier with
  | none =>
      rw [verifies] at member
      cases member
  | some verifier =>
      rw [verifies] at member
      cases verified verifier verifies with
      | silent unstated =>
          rw [Option.bind_some, unstated] at member
          cases member
      | trusting handle trusted =>
          cases List.mem_singleton.mp member
          rfl

end Config.Credentials

/-! What a configuration offers for it -/

structure Config.Presents (config : Config) (leaf : Certificate)
    (issuers : List Certificate) : Prop where
  signs : ∃ scheme ∈ config.algorithms.schemes,
    leaf.key.signs scheme.signature = true
  chain : ∀ before certificate after,
    leaf :: issuers = before ++ certificate :: after →
      certificate.scheme ∈ config.algorithms.schemes ∨
        (before ≠ [] ∧ after = [] ∧ certificate.selfSigned = true)
  curve : ∀ curve, leaf.key = .ec curve → curve ∈ config.algorithms.groups
  family : ∀ suite ∈ config.algorithms.suites,
    ∀ family ∈ suite.certificateFamily?, leaf.key.family = family
  client : config.role.serverOnly = false → leaf.permits .client = true
  server : config.role.clientOnly = false → leaf.permits .server = true

/-- A configuration that is built with a chain goes with it. -/
theorem Options.presents_of_build {options : Options} {platform : Platform}
    {config : Config} {handle : Handle} {leaf : Certificate}
    {issuers : List Certificate}
    (identified : options.credentials.identity =
      some (.ofChain handle (leaf :: issuers)))
    (verified : ∀ verifier ∈ options.credentials.verifier, verifier.Plain)
    (built : (options.build platform).result = .ok config) :
    config.Presents leaf issuers := by
  have builds := build_eq_ok_iff.mp built
  obtain ⟨requirements, required, ofChain⟩ :=
    Config.Credentials.requirements?_of_chain identified verified
  have registered := (ofChain.mem_identityKeys_iff leaf.key).mpr rfl
  obtain ⟨schemes, groups⟩ :=
    checkRequirements_eq_ok_iff.mp builds.requirements requirements required
  obtain ⟨signs, offered⟩ := Requirements.checkSchemes_eq_ok_iff.mp schemes
  have curves := Requirements.checkGroups_eq_ok_iff.mp groups
  have permits : ∀ side, requirements.permits side = leaf.permits side := by
    intro side
    rw [Requirements.permits, ofChain.leaf_eq]
    rfl
  have usage := checkKeyUsage_eq_ok_iff.mp builds.keyUsage _ identified
    List.mem_cons_self requirements required
  rw [permits, permits, ← builds.role_eq] at usage
  have stated : (options.credentials.identity.bind
      (·.registrations)).isSome = true := by
    rw [identified]
    rfl
  have families :
      options.credentials.keyFamilies? = some requirements.keyFamilies := by
    rw [Config.Credentials.keyFamilies?, if_pos stated, required]
    rfl
  exact {
    signs := signs leaf.key registered
    chain := by
      intro before certificate after split
      rcases Requirements.mem_signedPart_or split with signed | exempt
      · exact Or.inl (offered _ (ofChain.chainSchemes certificate signed))
      · exact Or.inr exempt
    curve := by
      intro curve key
      exact curves leaf.key registered curve (by rw [key]; rfl)
    family := by
      intro suite member family certified
      have known := (builds.equipped suite member).family family certified _
        families
      obtain ⟨key, held, fits⟩ := Requirements.mem_keyFamilies.mp known
      rwa [(ofChain.mem_identityKeys_iff key).mp held] at fits
    client := usage.1
    server := usage.2 }

/-- A chain that ends in a root whose scheme is not allowed. -/
theorem Options.presents_of_build_root :
    let leaf : Certificate :=
      ⟨[1], .ec .secp384r1, .sha384Ecdsa, false, .unrestricted⟩
    let issuer : Certificate :=
      ⟨[2], .ec .secp521r1, .sha256Rsa, false, .unrestricted⟩
    let root : Certificate :=
      ⟨[3], .rsa, .sha1Rsa, true, .unrestricted⟩
    let identity := Identity.ofChain ⟨1⟩ [leaf, issuer, root]
    let verifier := Verifier.ofTrusted ⟨2⟩ [root]
    let options : Options :=
      { credentials := ⟨none, some identity, some verifier⟩ }
    ∃ config,
      (options.build (.ofCores 4 .standard)).result = .ok config ∧
      config.Presents leaf [issuer, root] ∧
      root.scheme ∉ config.algorithms.schemes := by
  intro leaf issuer root identity verifier options
  obtain ⟨config, built, unlisted⟩ := exists_of_any_toOption
    (show (options.build (.ofCores 4 .standard)).result.toOption.any
      (root.scheme ∉ ·.algorithms.schemes) = true by decide +kernel)
  refine ⟨config, built, ?_, of_decide_eq_true unlisted⟩
  apply Options.presents_of_build rfl _ built
  intro other same
  obtain rfl : verifier = other := Option.some.inj same
  exact .trusting _ _

end DatagramTls
