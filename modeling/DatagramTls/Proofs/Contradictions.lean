import DatagramTls.Proofs.Consistency

/-!
Contradictions between options. A build looks for them, but the options of a
session never give it one to find: what it can still complain about is how the
options go with the credentials, the certificates and the provider.
-/

namespace DatagramTls

open Build

/-- Whether the options contradict each other, whatever they are built for. -/
def ConsistencyError.isContradiction : ConsistencyError → Bool
  | .clientAndServerOnly
  | .notApplicable _ _
  | .autoHandshakeForServerOnly
  | .notRecommended _ _
  | .helloVerifyForPskEnabled
  | .thresholdWithoutHelloVerify
  | .antiReplayWithExtendedWindow => true
  | _ => false

namespace Options

variable {options : Options} {platform : Platform} {cause : ConsistencyError}

/-! Rules on the credentials and the certificates -/

private theorem suite_cause {credentials : Config.Credentials}
    {clientOnly verifierRequired : Bool} {suite : CipherSuite}
    (refused : checkSuite credentials clientOnly verifierRequired suite =
      .error cause) :
    cause.isContradiction = false := by
  rcases cause_of_checkSuite_eq_error refused with missing | ⟨_, rfl⟩
  · simp only [List.mem_cons, List.not_mem_nil, or_false] at missing
    rcases missing with rfl | rfl | rfl | rfl <;> rfl
  · rfl

private theorem requirements_cause {requirements : Option Requirements}
    {schemes : List Scheme} {groups : List Group}
    (refused : checkRequirements requirements schemes groups = .error cause) :
    cause.isContradiction = false := by
  rcases cause_of_checkRequirements_eq_error refused with
    ⟨_, rfl⟩ | ⟨_, rfl⟩ | ⟨_, rfl⟩ <;> rfl

/-! Rules on chosen lists -/

private theorem gate_of_getD {gate : Option Bool}
    (closed : gate.getD true = true) : gate ≠ some false := by
  rintro rfl
  cases closed

private theorem chosenSuites_cause {chosen : List CipherSuite}
    {provider : Provider} (consistent : options.Consistent)
    (explicit : options.algorithms.suites = some chosen)
    (refused : checkChosenSuites chosen
      (options.algorithms.recommendedSuitesOnly.getD true) provider =
        .error cause) :
    cause.isContradiction = false := by
  obtain ⟨_, _, _, rfl⟩ := unsupported_of_checkChosenSuites_eq_error
    (fun closed => consistent.suites (gate_of_getD closed) chosen explicit)
    refused
  rfl

/-- The lists that a session has chosen pass the gates, so that only an entry
which is not supported is refused. -/
theorem Consistent.cause_of_resolveLists_eq_error {capabilities : Capabilities}
    {provider : Provider} (consistent : options.Consistent)
    (failed : (options.resolveLists capabilities
      options.credentials.requirements? provider).result =
        .error (.consistency cause)) :
    cause ∈ [.noScheme, .noGroup, .schemesWithoutEcc, .groupsWithoutEcc] ∨
      (∃ scheme, cause = .unsupportedScheme scheme) ∨
      ∃ group, cause = .unsupportedGroup group := by
  rcases Options.cause_of_resolveLists_eq_error failed with
    ⟨found, member, same⟩ | ⟨chosen, explicit, found, refused, same⟩ |
      ⟨chosen, explicit, found, refused, same⟩
  all_goals cases same
  · exact Or.inl member
  · obtain ⟨scheme, _, _, unsupported⟩ :=
      Catalog.unsupported_of_checkChosen_eq_error
        (fun closed =>
          consistent.schemes (gate_of_getD closed) chosen explicit)
        refused
    exact Or.inr (Or.inl ⟨scheme, unsupported⟩)
  · obtain ⟨group, _, _, unsupported⟩ :=
      Catalog.unsupported_of_checkChosen_eq_error
        (fun closed => consistent.groups (gate_of_getD closed) chosen explicit)
        refused
    exact Or.inr (Or.inr ⟨group, unsupported⟩)

private theorem lists_cause {capabilities : Capabilities} {provider : Provider}
    (consistent : options.Consistent)
    (failed : (options.resolveLists capabilities
      options.credentials.requirements? provider).result =
        .error (.consistency cause)) :
    cause.isContradiction = false := by
  rcases consistent.cause_of_resolveLists_eq_error failed with
    unusable | ⟨_, rfl⟩ | ⟨_, rfl⟩
  · simp only [List.mem_cons, List.not_mem_nil, or_false] at unusable
    rcases unusable with rfl | rfl | rfl | rfl <;> rfl
  · rfl
  · rfl

/-! Rules on the options alone -/

private theorem helloVerify_cause {capabilities : Capabilities}
    (consistent : options.Consistent)
    (refused : options.checkHelloVerify capabilities = .error cause) :
    cause.isContradiction = false := by
  rcases cause_of_checkHelloVerify_eq_error refused with
    ⟨_, off, forPsk⟩ | ⟨_, off, threshold⟩ | rfl
  · exact absurd forPsk (consistent.helloVerify off).1
  · exact absurd (consistent.helloVerify off).2 threshold
  · rfl

theorem Consistent.cause_of_build_eq_error (consistent : options.Consistent)
    (failed : (options.build platform).result =
      .error (.consistency cause)) :
    cause.isContradiction = false := by
  cases failure_of_build_eq_error failed with
  | roles refused =>
      rw [checkRole_eq_ok_iff.mpr consistent.roles] at refused
      cases refused
  | verifierUse refused =>
      rw [cause_of_checkVerifierUse_eq_error refused]
      rfl
  | chosenSuites explicit refused =>
      exact chosenSuites_cause consistent explicit refused
  | noSuite _ => rfl
  | capabilities _ refused =>
      rw [cause_of_checkCapabilities_eq_error refused]
      rfl
  | suite _ _ _ _ refused => exact suite_cause refused
  | pskStoreUse _ refused =>
      rw [cause_of_checkPskStoreUse_eq_error refused]
      rfl
  | lists _ refused => exact lists_cause consistent refused
  | certificateUse _ refused =>
      rcases cause_of_checkCertificateUse_eq_error refused with rfl | rfl <;>
        rfl
  | requirements _ _ refused => exact requirements_cause refused
  | keyUsage refused =>
      obtain ⟨_, rfl⟩ := cause_of_checkKeyUsage_eq_error refused
      rfl
  | helloVerify _ refused => exact helloVerify_cause consistent refused
  | replay refused =>
      rw [checkReplay_eq_ok_iff.mpr consistent.replay] at refused
      cases refused

end Options

/-- Whatever a session has done, its options never contradict each other. -/
theorem Session.options_never_contradictory (hostCores : UInt64)
    (steps : List Session.Step) (platform : Platform) :
    let options := (Session.run { hostCores } steps).options
    (∀ cause, (options.build platform).result = .error (.consistency cause) →
      cause.isContradiction = false) ∧
    ¬(options.framing.mtu.isSome = true ∧
      options.framing.mtuLimit.isSome = true) ∧
    ¬(options.role.clientAuthWanted = some true ∧
      options.role.clientAuthRequired = some true) := by
  have consistent :=
    ((Session.consistent_fresh hostCores).run steps).options
  refine ⟨fun _ => consistent.cause_of_build_eq_error, ?_, ?_⟩
  · intro ⟨fixed, limited⟩
    rw [consistent.framing fixed] at limited
    cases limited
  · intro ⟨wanted, required⟩
    exact consistent.clientAuth wanted required

end DatagramTls
