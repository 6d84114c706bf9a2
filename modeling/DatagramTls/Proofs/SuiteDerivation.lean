import DatagramTls.Proofs.Contradictions
import DatagramTls.Proofs.Registrations

/-!
Derived suites, and the rule that suites find their credentials. A derived suite
finds the store it is derived from, and the key, unless the identity says what
it requires and no key is registered. Suites for EC keys are derived then, which
the rule refuses.
-/

namespace DatagramTls

open Build

/-- Whether the error says that a suite goes neither with the provider, nor with
the gate, nor with the credentials that are there. -/
def ConsistencyError.rejectsSuite : ConsistencyError → Bool
  | .unsupportedSuite _
  | .notRecommended _ _
  | .missingPskStore _
  | .pskStoreWithoutEcdhe _
  | .incompatibleKey _ _ => true
  | _ => false

/-! The rule on a derived suite -/

namespace Build

variable {credentials : Config.Credentials} {clientOnly verifierRequired : Bool}
  {suite : CipherSuite} {family : KeyFamily}

theorem checkSuite_of_uncertified (derivable : Derivable credentials suite)
    (uncertified : suite.certificateFamily? = none) :
    checkSuite credentials clientOnly verifierRequired suite = .ok () := by
  refine checkSuite_eq_ok_iff.mpr
    ((equipped_iff_of_uncertified uncertified).mpr fun usesPsk => ?_)
  cases derivable with
  | certificate certified _ =>
      simp [CipherSuite.certificateFamily?, certified,
        KeyExchange.certificateFamily?] at uncertified
  | ecdhePsk _ stored serving => exact ⟨_, stored, fun _ => serving⟩
  | psk shared stored =>
      refine ⟨_, stored, fun usesEcc => ?_⟩
      simp [CipherSuite.usesEcc, shared, KeyExchange.usesEcc] at usesEcc
  | anonymous unauthenticated =>
      simp [CipherSuite.usesPsk, unauthenticated,
        KeyExchange.usesPsk] at usesPsk

theorem known_of_derivable (derivable : Derivable credentials suite)
    (certified : suite.certificateFamily? = some family)
    {families : List KeyFamily}
    (said : credentials.keyFamilies? = some families)
    (nonempty : families ≠ []) : family ∈ families := by
  unfold CipherSuite.certificateFamily? at certified
  cases derivable with
  | certificate exchange known =>
      rw [exchange] at certified
      cases certified
      unfold derivedFamilies at known
      rw [said] at known
      cases families with
      | nil => exact absurd rfl nonempty
      | cons first rest => exact known
  | ecdhePsk exchange _ _ | psk exchange _ | anonymous exchange =>
      rw [exchange] at certified
      cases certified

theorem keyless_of_checkSuite_eq_error {cause : ConsistencyError}
    (derivable : Derivable credentials suite)
    (refused : checkSuite credentials clientOnly verifierRequired suite =
      .error cause)
    (rejects : cause.rejectsSuite = true) :
    credentials.Keyless ∧
      ∃ family ∈ suite.certificateFamily?,
        cause = .incompatibleKey suite family := by
  cases certified : suite.certificateFamily? with
  | none =>
      cases (checkSuite_of_uncertified derivable certified).symm.trans refused
  | some family =>
      rw [checkSuite_of_certified certified] at refused
      split at refused
      case isTrue =>
          cases refused
          cases rejects
      split at refused
      case isTrue incompatible =>
          cases refused
          obtain ⟨families, said, unknown⟩ :=
            (Option.any_eq_true _ _).mp incompatible
          refine ⟨Config.Credentials.keyFamilies?_eq_some_nil_iff.mp ?_,
            family, rfl, rfl⟩
          rcases families with _ | ⟨first, rest⟩
          · exact said
          · have known := known_of_derivable derivable certified said (by simp)
            simp [known] at unknown
      split at refused
      case isTrue =>
          cases refused
          cases rejects
      case isFalse => cases refused

theorem checkSuite_of_keyless (keyless : credentials.Keyless)
    (certified : suite.certificateFamily? = some family) :
    checkSuite credentials clientOnly verifierRequired suite =
      .error (.incompatibleKey suite family) := by
  have identified : credentials.identity.isNone = false := by
    cases found : credentials.identity with
    | none => simpa [found] using keyless.stated
    | some identity => rfl
  have said := Config.Credentials.keyFamilies?_eq_some_nil_iff.mpr keyless
  rw [checkSuite_of_certified certified]
  simp [identified, said]

theorem checkSuites_of_keyless {warned : Bool} {suites : List CipherSuite}
    (keyless : credentials.Keyless)
    (derivable : ∀ suite ∈ suites, Derivable credentials suite)
    (certified : ∃ suite ∈ suites, suite.usesCertificate = true) :
    ∃ suite family,
      (checkSuites credentials clientOnly verifierRequired warned
          suites).result =
        .error (.consistency (.incompatibleKey suite family)) := by
  cases outcome : (checkSuites credentials clientOnly verifierRequired warned
      suites).result with
  | ok =>
      obtain ⟨suite, member, usesCertificate⟩ := certified
      obtain ⟨family, certified⟩ := Option.isSome_iff_exists.mp usesCertificate
      have equipped := checkSuites_eq_ok_iff.mp outcome suite member
      cases (checkSuite_eq_ok_iff.mpr equipped).symm.trans
        (checkSuite_of_keyless keyless certified)
  | error error =>
      obtain ⟨suite, member, cause, refused, rfl⟩ :=
        exists_of_checkSuites_eq_error outcome
      cases certified : suite.certificateFamily? with
      | none =>
          cases (checkSuite_of_uncertified (derivable suite member)
            certified).symm.trans refused
      | some family =>
          cases (checkSuite_of_keyless keyless certified).symm.trans refused
          exact ⟨suite, family, rfl⟩

end Build

/-! Builds -/

/-- A build comes to a suite with a certificate where there is no key. -/
structure Options.LacksKey (options : Options) (platform : Platform) :
    Prop where
  provider : platform.provider.fault? = none
  verifierUse : options.checkVerifierUse = .ok ()
  keyless : options.credentials.Keyless
  certified : ∃ suites,
    (options.resolveSuites platform.provider).result = .ok suites ∧
      ∃ suite ∈ suites, suite.usesCertificate = true

namespace Options

variable {options : Options} {platform : Platform} {suites : List CipherSuite}
  {suite : CipherSuite}

theorem derivable_of_resolveSuites (unset : options.algorithms.suites = none)
    (resolved :
      (options.resolveSuites platform.provider).result = .ok suites)
    (member : suite ∈ suites) : Derivable options.credentials suite := by
  unfold resolveSuites at resolved
  rw [resolveSuites_of_unset unset] at resolved
  cases resolved
  exact (derivable_of_mem_derivedSuites member).1

theorem Consistent.lacksKey_of_rejectsSuite (consistent : options.Consistent)
    (unset : options.algorithms.suites = none) {cause : ConsistencyError}
    (failed : (options.build platform).result = .error (.consistency cause))
    (rejects : cause.rejectsSuite = true) :
    options.LacksKey platform ∧
      ∃ suite family, cause = .incompatibleKey suite family := by
  cases failure_of_build_eq_error failed with
  | suite accepted verifierUse resolved member refused =>
      obtain ⟨keyless, family, certified, same⟩ :=
        keyless_of_checkSuite_eq_error
          (derivable_of_resolveSuites unset resolved member) refused rejects
      have usesCertificate := Option.isSome_of_mem certified
      exact ⟨⟨accepted, verifierUse, keyless, _, resolved, _, member,
        usesCertificate⟩, _, family, same⟩
  | chosenSuites explicit _ =>
      rw [unset] at explicit
      cases explicit
  | roles refused =>
      cases (checkRole_eq_ok_iff.mpr consistent.roles).symm.trans refused
  | replay refused =>
      cases (checkReplay_eq_ok_iff.mpr consistent.replay).symm.trans refused
  -- The other rules have causes of their own.
  | verifierUse refused =>
      rw [cause_of_checkVerifierUse_eq_error refused] at rejects
      cases rejects
  | noSuite _ => cases rejects
  | capabilities _ refused =>
      rw [cause_of_checkCapabilities_eq_error refused] at rejects
      cases rejects
  | pskStoreUse _ refused =>
      rw [cause_of_checkPskStoreUse_eq_error refused] at rejects
      cases rejects
  | lists _ refused =>
      rcases consistent.cause_of_resolveLists_eq_error refused with
        unusable | ⟨_, rfl⟩ | ⟨_, rfl⟩
      · simp only [List.mem_cons, List.not_mem_nil, or_false] at unusable
        rcases unusable with rfl | rfl | rfl | rfl <;> cases rejects
      · cases rejects
      · cases rejects
  | certificateUse _ refused =>
      rcases cause_of_checkCertificateUse_eq_error refused with rfl | rfl <;>
        cases rejects
  | requirements _ _ refused =>
      rcases cause_of_checkRequirements_eq_error refused with
        ⟨_, rfl⟩ | ⟨_, rfl⟩ | ⟨_, rfl⟩ <;> cases rejects
  | keyUsage refused =>
      obtain ⟨_, rfl⟩ := cause_of_checkKeyUsage_eq_error refused
      cases rejects
  | helloVerify _ refused =>
      rcases cause_of_checkHelloVerify_eq_error refused with
        ⟨rfl, _⟩ | ⟨rfl, _⟩ | rfl <;> cases rejects

theorem exists_rejectsSuite_of_lacksKey (consistent : options.Consistent)
    (unset : options.algorithms.suites = none)
    (lacks : options.LacksKey platform) :
    ∃ cause, cause.rejectsSuite = true ∧
      (options.build platform).result = .error (.consistency cause) := by
  obtain ⟨suites, resolved, certified⟩ := lacks.certified
  obtain ⟨suite, family, refused⟩ := checkSuites_of_keyless lacks.keyless
    (fun _ => derivable_of_resolveSuites unset resolved) certified
  have nonempty : suites ≠ [] := by
    obtain ⟨_, member, _⟩ := certified
    exact List.ne_nil_of_mem member
  have capabilities : checkCapabilities (Capabilities.ofSuites suites)
      options.role.resolve.clientOnly = .ok () :=
    checkCapabilities_eq_ok_iff.mpr
      (Or.inr (Or.inl (List.any_eq_true.mpr certified)))
  exact ⟨.incompatibleKey suite family, rfl,
    build_eq_error_of_checkSuites lacks.provider
      (checkRole_eq_ok_iff.mpr consistent.roles) lacks.verifierUse resolved
      nonempty capabilities refused⟩

end Options

/-- Where a session has not chosen any suites, a build never rejects what it
derives instead, unless it derives suites with certificates without a key. -/
theorem Session.derived_suites_rejected_iff (hostCores : UInt64)
    (steps : List Session.Step) (platform : Platform) :
    let options := (Session.run { hostCores } steps).options
    options.algorithms.suites = none →
      ((∃ cause, cause.rejectsSuite = true ∧
          (options.build platform).result = .error (.consistency cause)) ↔
        options.LacksKey platform) ∧
      ∀ cause, cause.rejectsSuite = true →
        (options.build platform).result = .error (.consistency cause) →
          ∃ suite family, cause = .incompatibleKey suite family := by
  intro options unset
  have consistent : options.Consistent :=
    ((Session.consistent_fresh hostCores).run steps).options
  refine ⟨⟨?_, ?_⟩, ?_⟩
  · intro ⟨cause, rejects, failed⟩
    exact (consistent.lacksKey_of_rejectsSuite unset failed rejects).1
  · exact Options.exists_rejectsSuite_of_lacksKey consistent unset
  · intro cause rejects failed
    exact (consistent.lacksKey_of_rejectsSuite unset failed rejects).2

/-- A key that is registered is one to derive suites for. -/
theorem Session.derived_suites_rejected_iff_rsa :
    let steps : List Session.Step :=
      [.request (.byValue (.credentials (.identity (.ofKey ⟨1⟩ .rsa)))),
        .request (.byValue (.credentials (.pskStore ⟨⟨0⟩, true⟩)))]
    let options := (Session.run { hostCores := 4 } steps).options
    options.algorithms.suites = none ∧
      ¬∃ cause, cause.rejectsSuite = true ∧
        (options.build (.ofCores 4 .standard)).result =
          .error (.consistency cause) := by
  intro steps options
  refine ⟨rfl, ?_⟩
  rw [(Session.derived_suites_rejected_iff 4 steps (.ofCores 4 .standard)
    rfl).1]
  intro lacks
  have registered : .identityKey .rsa ∈ options.credentials.registrations :=
    List.mem_cons_self
  cases lacks.keyless.silent _ registered

/-- An identity with requirements of which none is a key. -/
theorem Session.derived_suite_of_keyless_rejected :
    let steps : List Session.Step :=
      [.request (.byValue (.credentials
        (.identity ⟨⟨0⟩, [.x509], some []⟩)))]
    let options := (Session.run { hostCores := 4 } steps).options
    options.algorithms.suites = none ∧
      ∃ cause, cause.rejectsSuite = true ∧
        (options.build (.ofCores 4 .standard)).result =
          .error (.consistency cause) := by
  intro steps options
  exact ⟨rfl, .incompatibleKey .ecdheEcdsaAes128GcmSha256 .ec, rfl,
    by decide +kernel⟩

end DatagramTls
