import DatagramTls.Proofs.AlgorithmLists
import DatagramTls.Proofs.Registrations

/-!
Derived schemes and groups. They are the preferred entries and then what the
certificates ask for besides. Registering a certificate asks for whatever a
build will look for on its behalf, so that no build misses it where the provider
and the gates admit all that is asked for.
-/

namespace DatagramTls

open Build

/-! What is registered -/

namespace Registration

variable {registration : Registration} {key : Key}

theorem preferredScheme_mem (registered : key ∈ registration.identityKeys) :
    key.preferredScheme ∈ registration.defaultSchemes := by
  cases registration with
  | identityKey single =>
      cases List.mem_singleton.mp registered
      exact List.mem_singleton.mpr rfl
  | identityChain chain =>
      cases chain with
      | nil => cases registered
      | cons leaf issuers =>
          cases List.mem_singleton.mp registered
          exact List.mem_cons_self
  | trustedKey _ | trustedCertificates _ => cases registered

theorem curve_mem (registered : key ∈ registration.identityKeys) {curve : Group}
    (curved : curve ∈ key.curve?) : curve ∈ registration.defaultGroups := by
  have listed : curve ∈ key.curve?.toList := Option.mem_toList.mpr curved
  cases registration with
  | identityKey single =>
      cases List.mem_singleton.mp registered
      exact listed
  | identityChain chain =>
      cases chain with
      | nil => cases registered
      | cons leaf issuers =>
          cases List.mem_singleton.mp registered
          exact List.mem_flatMap.mpr ⟨leaf, List.mem_singleton.mpr rfl, listed⟩
  | trustedKey _ | trustedCertificates _ => cases registered

theorem chainSchemes_subset (registration : Registration) :
    registration.chainSchemes ⊆ registration.defaultSchemes := by
  cases registration with
  | identityChain chain =>
      cases chain with
      | nil => exact List.nil_subset _
      | cons leaf issuers => exact List.subset_cons_self _ _
  | identityKey _ | trustedKey _ | trustedCertificates _ =>
      exact List.nil_subset _

end Registration

namespace Requirements

variable {requirements : Requirements}

/-- The defaults hold whatever has to be offered for the certificates. -/
structure DefaultsSuffice (requirements : Requirements) : Prop where
  keys : ∀ key ∈ requirements.identityKeys,
    key.preferredScheme ∈ requirements.defaultSchemes
  chains : requirements.chainSchemes ⊆ requirements.defaultSchemes
  curves : ∀ key ∈ requirements.identityKeys, ∀ curve ∈ key.curve?,
    curve ∈ requirements.defaultGroups

theorem defaultsSuffice_empty : empty.DefaultsSuffice :=
  ⟨nofun, List.nil_subset _, nofun⟩

theorem DefaultsSuffice.register (sufficient : requirements.DefaultsSuffice)
    (registration : Registration) :
    (requirements.register registration).DefaultsSuffice where
  keys := by
    intro key held
    rw [identityKeys_register, Distinct.mem_addAll] at held
    rw [defaultSchemes_register, Distinct.mem_addAll]
    exact held.imp (sufficient.keys key) Registration.preferredScheme_mem
  chains := by
    intro scheme needed
    rw [chainSchemes_register, Distinct.mem_addAll] at needed
    rw [defaultSchemes_register, Distinct.mem_addAll]
    exact needed.imp (fun held => sufficient.chains held)
      (fun added => registration.chainSchemes_subset added)
  curves := by
    intro key held curve curved
    rw [identityKeys_register, Distinct.mem_addAll] at held
    rw [defaultGroups_register, Distinct.mem_addAll]
    exact held.imp (fun known => sufficient.curves key known curve curved)
      (fun added => Registration.curve_mem added curved)

theorem DefaultsSuffice.registerAll (sufficient : requirements.DefaultsSuffice)
    (registrations : List Registration) :
    (requirements.registerAll registrations).DefaultsSuffice := by
  induction registrations generalizing requirements with
  | nil => exact sufficient
  | cons first rest induction => exact induction (sufficient.register first)

theorem DefaultsSuffice.checked (sufficient : requirements.DefaultsSuffice)
    {schemes : List Scheme} {groups : List Group}
    (offered : requirements.defaultSchemes ⊆ schemes)
    (covered : requirements.defaultGroups ⊆ groups) :
    requirements.checkSchemes schemes = .ok () ∧
      requirements.checkGroups groups = .ok () := by
  constructor
  · refine checkSchemes_eq_ok_iff.mpr ⟨fun key held => ?_,
      fun scheme needed => offered (sufficient.chains needed)⟩
    exact ⟨_, offered (sufficient.keys key held), key.signs_preferredScheme⟩
  · exact checkGroups_eq_ok_iff.mpr fun key held curve curved =>
      covered (sufficient.curves key held curve curved)

end Requirements

theorem Config.Credentials.defaultsSuffice {credentials : Config.Credentials}
    {requirements : Requirements}
    (stated : credentials.requirements? = some requirements) :
    requirements.DefaultsSuffice := by
  rcases credentials.requirements?_cases with ⟨silent, _⟩ | registered
  · rw [silent] at stated
    cases stated
  · obtain rfl := Option.some.inj (registered.symm.trans stated)
    exact Requirements.defaultsSuffice_empty.registerAll _

/-! Lists -/

namespace Build

variable {α : Type} [DecidableEq α]

/-- The admitted ones of the preferred entries come first and then what else is
required, both in their order. No entry is there twice, and none is missing. -/
structure DerivedFrom (admitted : α → Bool) (preferred required entries : List α) :
    Prop where
  split : entries =
    preferred.filter admitted ++ required.filter (· ∉ preferred)
  nodup : entries.Nodup
  covers : required ⊆ entries

def Catalog.admits (catalog : Catalog α) (gate : Option Bool) (listed : List α)
    (entry : α) : Bool :=
  listed.contains entry && (catalog.recommended entry || gate == some false)

theorem Catalog.derivedFrom_of_resolve_unset {catalog : Catalog α}
    {gate : Option Bool} {listed required entries : List α}
    (preferred : catalog.preferred.Nodup) (distinct : required.Nodup)
    (admitted : ∀ entry ∈ required, catalog.admits gate listed entry = true)
    (resolved : (catalog.resolve none required (gate.getD true)
      listed.contains).result = .ok entries) :
    DerivedFrom (catalog.admits gate listed) catalog.preferred required
      entries := by
  have nodup := nodup_of_resolve_unset preferred resolved
  obtain ⟨found, _⟩ := resolve_unset_eq_ok_iff.mp resolved
  have usable : entries =
      (catalog.candidates required).filter (catalog.admits gate listed) := by
    rw [found]
    apply List.filter_congr
    intro entry _
    rcases gate with _ | _ | _ <;> simp [admits, Bool.and_comm]
  have covers : required ⊆ entries := by
    intro entry needed
    rw [usable]
    exact List.mem_filter.mpr
      ⟨Distinct.mem_addAll.mpr (Or.inr needed), admitted entry needed⟩
  refine ⟨?_, nodup, covers⟩
  -- What is required is admitted, so that only preferred entries are left out.
  have kept : (required.filter (· ∉ catalog.preferred)).filter
      (catalog.admits gate listed) = required.filter (· ∉ catalog.preferred) :=
    List.filter_eq_self.mpr fun entry member =>
      admitted entry (List.mem_filter.mp member).1
  rw [usable, candidates, Distinct.addAll_eq_append_filter distinct,
    List.filter_append, kept]

end Build

/-! Builds -/

def ConsistencyError.isUncovered : ConsistencyError → Bool
  | .keyWithoutScheme _ | .chainSchemeNotOffered _ | .curveNotOffered _ => true
  | _ => false

namespace Options

variable {options : Options} {platform : Platform}

def admitsScheme (options : Options) (provider : Provider) : Scheme → Bool :=
  schemeCatalog.admits options.algorithms.recommendedSchemesOnly
    provider.schemes

def admitsGroup (options : Options) (provider : Provider) : Group → Bool :=
  groupCatalog.admits options.algorithms.recommendedGroupsOnly provider.groups

/-- Neither schemes nor groups are chosen, and all that the certificates would
have among the defaults is admitted. -/
structure DerivesLists (options : Options) (provider : Provider) : Prop where
  schemes_unset : options.algorithms.schemes = none
  groups_unset : options.algorithms.groups = none
  schemes_admitted : ∀ scheme ∈ options.credentials.defaultSchemes,
    options.admitsScheme provider scheme = true
  groups_admitted : ∀ group ∈ options.credentials.defaultGroups,
    options.admitsGroup provider group = true

namespace DerivesLists

variable {provider : Provider} (derives : options.DerivesLists provider)
include derives

theorem schemes {schemes : List Scheme}
    (resolved : (options.resolveSchemes provider).result = .ok schemes) :
    DerivedFrom (options.admitsScheme provider) Scheme.preferred
      options.credentials.defaultSchemes schemes := by
  have distinct : options.credentials.defaultSchemes.Nodup := by
    rw [Config.Credentials.defaultSchemes_eq]
    exact Distinct.nodup_addAll List.nodup_nil _
  unfold resolveSchemes at resolved
  rw [derives.schemes_unset] at resolved
  exact Catalog.derivedFrom_of_resolve_unset (by decide) distinct
    derives.schemes_admitted resolved

theorem groups {groups : List Group}
    (resolved : (options.resolveGroups provider).result = .ok groups) :
    DerivedFrom (options.admitsGroup provider) Group.preferred
      options.credentials.defaultGroups groups := by
  have distinct : options.credentials.defaultGroups.Nodup := by
    rw [Config.Credentials.defaultGroups_eq]
    exact Distinct.nodup_addAll List.nodup_nil _
  unfold resolveGroups at resolved
  rw [derives.groups_unset] at resolved
  exact Catalog.derivedFrom_of_resolve_unset (by decide) distinct
    derives.groups_admitted resolved

end DerivesLists

/-! What certificates need -/

theorem checkRequirements_of_covers {schemes : List Scheme}
    {groups : List Group}
    (offered : options.credentials.defaultSchemes ⊆ schemes)
    (covered : options.credentials.defaultGroups ⊆ groups) :
    checkRequirements options.credentials.requirements? schemes groups =
      .ok () := by
  refine checkRequirements_eq_ok_iff.mpr fun requirements stated => ?_
  have stated : options.credentials.requirements? = some requirements := stated
  have sufficient := Config.Credentials.defaultsSuffice stated
  rw [Config.Credentials.defaultSchemes, stated] at offered
  rw [Config.Credentials.defaultGroups, stated] at covered
  exact sufficient.checked offered covered

/-- Suites with certificates are on curves, so that without any there is no
credential that could require something. -/
theorem requirements?_of_not_ecc {suites : List CipherSuite}
    (certificateUse : options.checkCertificateUse
      (Capabilities.ofSuites suites) = .ok ())
    (straight : (Capabilities.ofSuites suites).ecc = false) :
    options.credentials.requirements? = none := by
  have uncertified : (Capabilities.ofSuites suites).certificate ≠ true := by
    intro certificate
    obtain ⟨suite, member, certified⟩ := List.any_eq_true.mp certificate
    have curved : (Capabilities.ofSuites suites).ecc = true :=
      List.any_eq_true.mpr
        ⟨suite, member, usesEcc_of_usesCertificate certified⟩
    rw [straight] at curved
    cases curved
  have neither :=
    mt (checkCertificateUse_eq_ok_iff.mp certificateUse) uncertified
  obtain ⟨noIdentity, noVerifier⟩ := not_or.mp neither
  rw [Option.not_isSome_iff_eq_none] at noIdentity noVerifier
  rw [Config.Credentials.requirements?, noIdentity, noVerifier]
  rfl

theorem DerivesLists.requirements_met {provider : Provider}
    (derives : options.DerivesLists provider) {suites : List CipherSuite}
    {schemes : List Scheme} {groups : List Group}
    (certificateUse : options.checkCertificateUse
      (Capabilities.ofSuites suites) = .ok ())
    (resolved : (options.resolveLists (Capabilities.ofSuites suites)
      options.credentials.requirements? provider).result =
        .ok (schemes, groups)) :
    checkRequirements options.credentials.requirements? schemes groups =
      .ok () := by
  cases curved : (Capabilities.ofSuites suites).ecc with
  | true =>
      obtain ⟨foundSchemes, foundGroups⟩ :=
        (resolveLists_eq_ok_iff_of_ecc curved).mp resolved
      exact checkRequirements_of_covers (derives.schemes foundSchemes).covers
        (derives.groups foundGroups).covers
  | false =>
      rw [requirements?_of_not_ecc certificateUse curved]
      rfl

theorem DerivesLists.isUncovered_eq_false
    (derives : options.DerivesLists platform.provider) {cause : ConsistencyError}
    (failed : (options.build platform).result =
      .error (.consistency cause)) :
    cause.isUncovered = false := by
  cases failure_of_build_eq_error failed with
  | requirements _ lists refused certificateUse =>
      rw [derives.requirements_met certificateUse lists] at refused
      cases refused
  | lists _ refused =>
      rcases cause_of_resolveLists_eq_error refused with
        ⟨found, unusable, same⟩ | ⟨_, chosen, _⟩ | ⟨_, chosen, _⟩
      · cases same
        simp only [List.mem_cons, List.not_mem_nil, or_false] at unusable
        rcases unusable with rfl | rfl | rfl | rfl <;> rfl
      · rw [derives.schemes_unset] at chosen
        cases chosen
      · rw [derives.groups_unset] at chosen
        cases chosen
  -- The other rules have causes of their own.
  | roles refused =>
      rcases cause_of_checkRole_eq_error refused with rfl | ⟨_, rfl⟩ | rfl <;>
        rfl
  | verifierUse refused =>
      rw [cause_of_checkVerifierUse_eq_error refused]
      rfl
  | chosenSuites _ refused =>
      rcases cause_of_checkChosenSuites_eq_error refused with
        ⟨_, rfl⟩ | ⟨_, rfl⟩ <;> rfl
  | noSuite _ => rfl
  | capabilities _ refused =>
      rw [cause_of_checkCapabilities_eq_error refused]
      rfl
  | suite _ _ _ _ refused =>
      rcases cause_of_checkSuite_eq_error refused with missing | ⟨_, rfl⟩
      · simp only [List.mem_cons, List.not_mem_nil, or_false] at missing
        rcases missing with rfl | rfl | rfl | rfl <;> rfl
      · rfl
  | pskStoreUse _ refused =>
      rw [cause_of_checkPskStoreUse_eq_error refused]
      rfl
  | certificateUse _ refused =>
      rcases cause_of_checkCertificateUse_eq_error refused with rfl | rfl <;>
        rfl
  | keyUsage refused =>
      obtain ⟨_, rfl⟩ := cause_of_checkKeyUsage_eq_error refused
      rfl
  | helloVerify _ refused =>
      rcases cause_of_checkHelloVerify_eq_error refused with
        ⟨rfl, _⟩ | ⟨rfl, _⟩ | rfl <;> rfl
  | replay refused =>
      rw [cause_of_checkReplay_eq_error refused]
      rfl

end Options

/-- Where the provider and the gates admit all that the certificates would have
among the defaults, no build misses what they need, and both derived lists are
the preferred entries followed by what was registered besides, in order. -/
theorem Options.derivedLists_of_build {options : Options} {platform : Platform}
    (derives : options.DerivesLists platform.provider) :
    (∀ cause, (options.build platform).result = .error (.consistency cause) →
      cause.isUncovered = false) ∧
    (∀ config, (options.build platform).result = .ok config →
      (∃ suite ∈ config.algorithms.suites, suite.usesEcc = true) →
      DerivedFrom (options.admitsScheme platform.provider) Scheme.preferred
          options.credentials.defaultSchemes config.algorithms.schemes ∧
        DerivedFrom (options.admitsGroup platform.provider) Group.preferred
          options.credentials.defaultGroups config.algorithms.groups) ∧
    options.credentials.defaultSchemes =
      Distinct.addAll [] (options.credentials.registrations.flatMap
        (·.defaultSchemes)) ∧
    options.credentials.defaultGroups =
      Distinct.addAll [] (options.credentials.registrations.flatMap
        (·.defaultGroups)) := by
  refine ⟨fun _ => derives.isUncovered_eq_false, ?_,
    options.credentials.defaultSchemes_eq, options.credentials.defaultGroups_eq⟩
  intro config built curved
  have builds := build_eq_ok_iff.mp built
  obtain ⟨schemes, groups⟩ := (resolveLists_eq_ok_iff_of_ecc
    (List.any_eq_true.mpr curved)).mp builds.lists
  exact ⟨derives.schemes schemes, derives.groups groups⟩

/-- A chain on a curve that is not recommended, and a root that is trusted. -/
theorem Options.derivedLists_of_build_brainpool :
    let leaf : Certificate :=
      ⟨[1], .ec .brainpoolP384r1, .sha384Ecdsa, false, .unrestricted⟩
    let issuer : Certificate := ⟨[2], .ed448, .ed25519, false, .unrestricted⟩
    let root : Certificate :=
      ⟨[3], .ec .secp521r1, .sha256Rsa, true, .unrestricted⟩
    let options : Options :=
      { credentials :=
          { identity := some (.ofChain ⟨0⟩ [leaf, issuer])
            verifier := some (.ofTrusted ⟨1⟩ [root]) }
        algorithms := { recommendedGroupsOnly := some false } }
    options.DerivesLists .standard ∧
      ∃ config,
        (options.build (.ofCores 4 .standard)).result = .ok config ∧
        config.algorithms.schemes = Scheme.preferred ++
          [.sha384Ecdsa, .ed25519, .sha512Ecdsa] ∧
        config.algorithms.groups = Group.preferred ++
          [.brainpoolP384r1, .secp521r1] := by
  intro leaf issuer root options
  have derives : options.DerivesLists .standard :=
    ⟨rfl, rfl, by decide, by decide⟩
  obtain ⟨config, built, curved⟩ := exists_of_any_toOption
    (show (options.build (.ofCores 4 .standard)).result.toOption.any
      (·.algorithms.suites.any (·.usesEcc)) = true by decide +kernel)
  obtain ⟨_, lists, _, _⟩ := @Options.derivedLists_of_build options
    (.ofCores 4 .standard) derives
  obtain ⟨schemes, groups⟩ := lists config built (List.any_eq_true.mp curved)
  refine ⟨derives, config, built, schemes.split.trans ?_,
    groups.split.trans ?_⟩
  · decide
  · decide

end DatagramTls
