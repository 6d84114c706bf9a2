import DatagramTls.Build
import DatagramTls.Proofs.Build.Suites
import DatagramTls.Proofs.Registrations

/-!
A root at the end of a chain. Peers hold the root themselves and no certificate
of the chain needs its signature, so the same is registered with it and without
it. A build asks the credentials nothing else, which makes it come out the same
too, down to the records that it writes.
-/

namespace DatagramTls

open Build

/-! What is registered -/

namespace Requirements

variable {chain : List Certificate} {root : Certificate}

theorem signedPart_concat_root (nonempty : chain ≠ [])
    (selfSigned : root.selfSigned = true) :
    signedPart (chain ++ [root]) = chain := by
  have longer : 1 < (chain ++ [root]).length := by
    have positive := List.length_pos_iff.mpr nonempty
    simpa using positive
  have last : (chain ++ [root]).getLast? = some root := List.getLast?_concat
  simp only [signedPart, last]
  rw [if_pos ⟨longer, selfSigned⟩, List.dropLast_concat]

theorem signedPart_of_rootless
    (rootless : chain.length = 1 ∨
      ∀ last ∈ chain.getLast?, last.selfSigned = false) :
    signedPart chain = chain := by
  unfold signedPart
  split
  case h_1 last found =>
      apply if_neg
      rintro ⟨longer, selfSigned⟩
      rcases rootless with single | unrooted
      · omega
      · rw [unrooted last found] at selfSigned
        cases selfSigned
  case h_2 => rfl

theorem register_concat_root (requirements : Requirements)
    (nonempty : chain ≠ [])
    (rootless : chain.length = 1 ∨
      ∀ last ∈ chain.getLast?, last.selfSigned = false)
    (selfSigned : root.selfSigned = true) :
    requirements.register (.identityChain (chain ++ [root])) =
      requirements.register (.identityChain chain) := by
  have signed : signedPart (chain ++ [root]) = signedPart chain :=
    (signedPart_concat_root nonempty selfSigned).trans
      (signedPart_of_rootless rootless).symm
  cases chain with
  | nil => exact absurd rfl nonempty
  | cons leaf issuers =>
      rw [List.cons_append] at signed ⊢
      simp only [register, signed]

end Requirements

/-! Identities that answer alike -/

/-- Whoever asks the identities gets the same answers. -/
structure Identity.Alike (left right : Identity) : Prop where
  kinds : left.kinds = right.kinds
  stated : left.registrations.isSome = right.registrations.isSome
  registered : Requirements.empty.registerAll (left.registrations.getD []) =
    Requirements.empty.registerAll (right.registrations.getD [])

def Config.Credentials.withIdentity (credentials : Config.Credentials)
    (identity : Identity) : Config.Credentials :=
  { credentials with identity := some identity }

def Options.withIdentity (options : Options) (identity : Identity) : Options :=
  { options with credentials := options.credentials.withIdentity identity }

def Config.withIdentity (config : Config) (identity : Identity) : Config :=
  { config with credentials := config.credentials.withIdentity identity }

section Alike

variable {left right : Identity} (alike : left.Alike right)
include alike

theorem Config.Credentials.requirements?_withIdentity
    (credentials : Config.Credentials) :
    (credentials.withIdentity right).requirements? =
      (credentials.withIdentity left).requirements? := by
  change Requirements.ofCredentials? (some right) credentials.verifier =
    Requirements.ofCredentials? (some left) credentials.verifier
  obtain ⟨_, stated, registered⟩ := alike
  unfold Requirements.ofCredentials?
  simp only [Option.bind_some]
  cases first : left.registrations with
  | none =>
      rw [first, Option.isSome_none, eq_comm, Option.isSome_eq_false_iff,
        Option.isNone_iff_eq_none] at stated
      rw [stated]
  | some registrations =>
      rw [first, Option.isSome_some, eq_comm, Option.isSome_iff_exists]
        at stated
      obtain ⟨others, second⟩ := stated
      rw [first, second] at registered
      rw [second]
      simp only [registered]

theorem Config.Credentials.keyFamilies?_withIdentity
    (credentials : Config.Credentials) :
    (credentials.withIdentity right).keyFamilies? =
      (credentials.withIdentity left).keyFamilies? := by
  unfold keyFamilies?
  rw [requirements?_withIdentity alike]
  change (if right.registrations.isSome then _ else _) =
    if left.registrations.isSome then _ else _
  rw [alike.stated]

theorem Build.resolveSuites_withIdentity (options : Config.Algorithms.Options)
    (credentials : Config.Credentials) (clientOnly recommendedOnly : Bool)
    (provider : Provider) :
    Build.resolveSuites options (credentials.withIdentity right) clientOnly
        recommendedOnly provider =
      Build.resolveSuites options (credentials.withIdentity left) clientOnly
        recommendedOnly provider := by
  have families : derivedFamilies (credentials.withIdentity right) =
      derivedFamilies (credentials.withIdentity left) := by
    unfold derivedFamilies
    rw [credentials.keyFamilies?_withIdentity alike]
  have certificates :
      certificateSuites (credentials.withIdentity right) recommendedOnly =
        certificateSuites (credentials.withIdentity left) recommendedOnly := by
    unfold certificateSuites
    rw [families]
    rfl
  have served :
      servedSuites (credentials.withIdentity right) clientOnly
          recommendedOnly =
        servedSuites (credentials.withIdentity left) clientOnly
          recommendedOnly := by
    unfold servedSuites
    rw [certificates]
    rfl
  have candidates :
      candidateSuites (credentials.withIdentity right) clientOnly
          recommendedOnly options.preselected =
        candidateSuites (credentials.withIdentity left) clientOnly
          recommendedOnly options.preselected := by
    unfold candidateSuites
    rw [served]
  unfold Build.resolveSuites deriveSuites derivedSuites
  rw [candidates]

theorem Build.checkSuites_withIdentity (credentials : Config.Credentials)
    (clientOnly verifierRequired warned : Bool) (suites : List CipherSuite) :
    checkSuites (credentials.withIdentity right) clientOnly verifierRequired
        warned suites =
      checkSuites (credentials.withIdentity left) clientOnly verifierRequired
        warned suites := by
  induction suites generalizing warned with
  | nil => rfl
  | cons suite rest induction =>
      have first :
          checkSuite (credentials.withIdentity right) clientOnly
              verifierRequired suite =
            checkSuite (credentials.withIdentity left) clientOnly
              verifierRequired suite := by
        unfold checkSuite
        rw [credentials.keyFamilies?_withIdentity alike]
        rfl
      simp only [checkSuites, first, induction]
      rfl

theorem Options.checkKeyUsage_withIdentity (options : Options)
    (requirements : Option Requirements) :
    (options.withIdentity right).checkKeyUsage requirements =
      (options.withIdentity left).checkKeyUsage requirements := by
  have presented :
      (options.withIdentity right).credentials.identity.any
          (·.kinds.contains .x509) =
        (options.withIdentity left).credentials.identity.any
          (·.kinds.contains .x509) :=
    congrArg (·.contains .x509) alike.kinds.symm
  unfold checkKeyUsage
  rw [presented]
  rfl

theorem Options.resolve_withIdentity (options : Options) (platform : Platform)
    (suites : List CipherSuite) (schemes : List Scheme) (groups : List Group) :
    (options.withIdentity right).resolve platform suites schemes groups =
      ((options.withIdentity left).resolve platform suites schemes
        groups).withIdentity right := by
  unfold resolve
  rw [show (options.withIdentity right).credentials.requirements? =
      (options.withIdentity left).credentials.requirements? from
    options.credentials.requirements?_withIdentity alike]
  rfl

theorem Options.build_withIdentity (options : Options) (platform : Platform) :
    (options.withIdentity right).build platform =
      (·.withIdentity right) <$>
        (options.withIdentity left).build platform := by
  have credentials (identity : Identity) :
      (options.withIdentity identity).credentials =
        options.credentials.withIdentity identity := rfl
  unfold build
  simp only [map_bind, map_pure, credentials,
    Build.resolveSuites_withIdentity alike,
    Build.checkSuites_withIdentity alike,
    Config.Credentials.requirements?_withIdentity alike,
    checkKeyUsage_withIdentity alike, resolve_withIdentity alike]
  rfl

end Alike

/-- Where a chain does not end in its root, appending the root changes nothing
that is registered. So a build with it writes the same records and comes to the
same error, or to the same configuration in everything but the identity. -/
theorem Registration.root_irrelevant {chain : List Certificate}
    {root : Certificate} (nonempty : chain ≠ [])
    (rootless : chain.length = 1 ∨
      ∀ last ∈ chain.getLast?, last.selfSigned = false)
    (selfSigned : root.selfSigned = true) :
    (∀ requirements : Requirements,
      requirements.register (.identityChain (chain ++ [root])) =
        requirements.register (.identityChain chain)) ∧
      ∀ (options : Options) (platform : Platform) (handle other : Handle),
        let plain := options.withIdentity (.ofChain handle chain)
        let rooted := Identity.ofChain other (chain ++ [root])
        ((options.withIdentity rooted).build platform).events =
            (plain.build platform).events ∧
          ((options.withIdentity rooted).build platform).result =
            (plain.build platform).result.map (·.withIdentity rooted) := by
  have registered (requirements : Requirements) :=
    requirements.register_concat_root nonempty rootless selfSigned
  refine ⟨registered, ?_⟩
  intro options platform handle other plain rooted
  have alike : (Identity.ofChain handle chain).Alike rooted :=
    ⟨rfl, rfl, (registered .empty).symm⟩
  rw [Options.build_withIdentity alike options platform]
  exact ⟨Attempt.events_map _ _, Attempt.result_map _ _⟩

/-- A lone certificate is not taken for a root, though it is self-signed, and
the scheme of the root that follows it is one that the build would refuse. -/
theorem Registration.root_irrelevant_lone :
    let leaf : Certificate :=
      ⟨[1], .ec .secp384r1, .sha384Ecdsa, true, .unrestricted⟩
    let root : Certificate := ⟨[2], .rsa, .sha1Rsa, true, .unrestricted⟩
    let plain := Options.unset.withIdentity (.ofChain ⟨1⟩ [leaf])
    let rooted := Identity.ofChain ⟨2⟩ [leaf, root]
    let extended := Options.unset.withIdentity rooted
    (∀ requirements : Requirements,
      requirements.register (.identityChain [leaf, root]) =
        requirements.register (.identityChain [leaf])) ∧
      ∃ config,
        (plain.build (.ofCores 4 .standard)).result = .ok config ∧
        (extended.build (.ofCores 4 .standard)).result =
          .ok (config.withIdentity rooted) ∧
        root.scheme ∉ config.algorithms.schemes := by
  intro leaf root plain rooted extended
  obtain ⟨registered, built⟩ := root_irrelevant (List.cons_ne_nil leaf [])
    (Or.inl rfl) (show root.selfSigned = true from rfl)
  obtain ⟨config, result, unlisted⟩ := exists_of_any_toOption
    (show (plain.build (.ofCores 4 .standard)).result.toOption.any
      (root.scheme ∉ ·.algorithms.schemes) = true by decide +kernel)
  obtain ⟨_, same⟩ := built .unset (.ofCores 4 .standard) ⟨1⟩ ⟨2⟩
  refine ⟨registered, config, result, ?_, of_decide_eq_true unlisted⟩
  rw [show (plain.build (.ofCores 4 .standard)).result = .ok config from
    result] at same
  exact same

end DatagramTls
