import DatagramTls.Build
import DatagramTls.Proofs.Build.Lists

/-!
What the rules that span several options say, each as the condition under which
it lets a configuration pass and the causes for which it does not.
-/

namespace DatagramTls

open Build

namespace Config.Role.Options

variable {role : Config.Role.Options}

@[simp] theorem clientOnly_resolve :
    role.resolve.clientOnly = true ↔ role.clientOnly = some true := by
  simp [resolve, Option.getD_eq_iff]

@[simp] theorem serverOnly_resolve :
    role.resolve.serverOnly = true ↔ role.serverOnly = some true := by
  simp [resolve, Option.getD_eq_iff]

@[simp] theorem clientAuthWanted_resolve :
    role.resolve.clientAuthWanted = true ↔
      role.clientAuthWanted = some true := by
  simp [resolve, Option.getD_eq_iff]

end Config.Role.Options

theorem Config.HelloVerify.Options.enabled_resolve_eq_false_iff
    {helloVerify : Config.HelloVerify.Options} :
    helloVerify.resolve.enabled = false ↔ helloVerify.enabled = some false := by
  simp [resolve, Option.getD_eq_iff]

namespace Requirements

variable {requirements : Requirements}

theorem checkSchemes_eq_ok_iff {schemes : List Scheme} :
    requirements.checkSchemes schemes = .ok () ↔
      (∀ key ∈ requirements.identityKeys,
        ∃ scheme ∈ schemes, key.signs scheme.signature = true) ∧
      ∀ scheme ∈ requirements.chainSchemes, scheme ∈ schemes := by
  have signed :
      requirements.identityKeys.find?
          (fun key => !schemes.any (key.signs ·.signature)) = none ↔
        ∀ key ∈ requirements.identityKeys,
          ∃ scheme ∈ schemes, key.signs scheme.signature = true := by
    simp [List.find?_eq_none]
  have offered :
      requirements.chainSchemes.find? (!schemes.contains ·) = none ↔
        ∀ scheme ∈ requirements.chainSchemes, scheme ∈ schemes := by
    simp [List.find?_eq_none]
  rw [← signed, ← offered]
  unfold checkSchemes
  cases requirements.identityKeys.find?
      fun key => !schemes.any (key.signs ·.signature) <;>
    cases requirements.chainSchemes.find? (!schemes.contains ·) <;> simp

theorem checkGroups_eq_ok_iff {groups : List Group} :
    requirements.checkGroups groups = .ok () ↔
      ∀ key ∈ requirements.identityKeys, ∀ curve ∈ key.curve?,
        curve ∈ groups := by
  have offered :
      (requirements.identityKeys.filterMap (·.curve?)).find?
          (!groups.contains ·) = none ↔
        ∀ key ∈ requirements.identityKeys, ∀ curve ∈ key.curve?,
          curve ∈ groups := by
    simp only [List.find?_eq_none, List.mem_filterMap]
    constructor
    · intro offered key registered curve curved
      simpa using offered curve ⟨key, registered, curved⟩
    · rintro offered curve ⟨key, registered, curved⟩
      simpa using offered key registered curve curved
  rw [← offered]
  unfold checkGroups
  cases (requirements.identityKeys.filterMap (·.curve?)).find?
      (!groups.contains ·) <;> simp

theorem checkSchemes_of_subset {schemes wider : List Scheme}
    (subset : schemes ⊆ wider)
    (covered : requirements.checkSchemes schemes = .ok ()) :
    requirements.checkSchemes wider = .ok () := by
  obtain ⟨signed, offered⟩ := checkSchemes_eq_ok_iff.mp covered
  apply checkSchemes_eq_ok_iff.mpr
  constructor
  · intro key registered
    obtain ⟨scheme, member, signs⟩ := signed key registered
    exact ⟨scheme, subset member, signs⟩
  · intro scheme needed
    exact subset (offered scheme needed)

theorem checkGroups_of_subset {groups wider : List Group}
    (subset : groups ⊆ wider)
    (covered : requirements.checkGroups groups = .ok ()) :
    requirements.checkGroups wider = .ok () := by
  apply checkGroups_eq_ok_iff.mpr
  intro key registered curve curved
  exact subset (checkGroups_eq_ok_iff.mp covered key registered curve curved)

end Requirements

namespace Options

variable {options : Options} {cause : ConsistencyError}

/-! Roles -/

structure WithoutServerStances (options : Options) : Prop where
  clientAuthWanted : options.role.clientAuthWanted = none
  clientAuthRequired : options.role.clientAuthRequired = none
  serverSessionId : options.resumption.serverSessionId ≠ some false
  helloVerify : options.helloVerify.enabled ≠ some false
  helloVerifyForPsk : options.helloVerify.enabledForPsk ≠ some false

/-- The options take one side at most, and nothing is set that the side has no
use for. -/
structure RolesAgree (options : Options) : Prop where
  oneSide : options.role.clientOnly = some true →
    options.role.serverOnly ≠ some true
  clientOnly : options.role.clientOnly = some true →
    options.WithoutServerStances
  serverOnly : options.role.serverOnly = some true →
    options.role.handshakeMode ≠ some .auto

theorem RolesAgree.of_not_clientOnly
    (server : options.role.clientOnly ≠ some true)
    (serverOnly : options.role.serverOnly = some true →
      options.role.handshakeMode ≠ some .auto) :
    options.RolesAgree where
  oneSide := fun client => absurd client server
  clientOnly := fun client => absurd client server
  serverOnly := serverOnly

theorem RolesAgree.of_same {other : Options} (agree : options.RolesAgree)
    (role : other.role = options.role)
    (serverSessionId :
      other.resumption.serverSessionId = options.resumption.serverSessionId)
    (enabled : other.helloVerify.enabled = options.helloVerify.enabled)
    (enabledForPsk :
      other.helloVerify.enabledForPsk = options.helloVerify.enabledForPsk) :
    other.RolesAgree where
  oneSide := by
    rw [role]
    exact agree.oneSide
  clientOnly := by
    rw [role]
    intro client
    obtain ⟨wanted, required, sessionId, helloVerify, forPsk⟩ :=
      agree.clientOnly client
    exact {
      clientAuthWanted := by rw [role, wanted]
      clientAuthRequired := by rw [role, required]
      serverSessionId := by rwa [serverSessionId]
      helloVerify := by rwa [enabled]
      helloVerifyForPsk := by rwa [enabledForPsk] }
  serverOnly := by
    rw [role]
    exact agree.serverOnly

theorem find?_serverStances_eq_none_iff :
    options.serverStances.find? (·.2) = none ↔
      options.WithoutServerStances := by
  rw [List.find?_eq_none]
  constructor
  · intro unset
    simp [serverStances] at unset
    obtain ⟨wanted, required, sessionId, helloVerify, forPsk⟩ := unset
    exact ⟨wanted, required, sessionId, helloVerify, forPsk⟩
  · rintro ⟨wanted, required, sessionId, helloVerify, forPsk⟩
    simp [serverStances, wanted, required, sessionId, helloVerify, forPsk]

theorem checkRole_eq_ok_iff :
    options.checkRole = .ok () ↔ options.RolesAgree := by
  have split :
      options.checkRole = .ok () ↔
        ¬(options.role.clientOnly = some true ∧
            options.role.serverOnly = some true) ∧
          (options.role.clientOnly = some true →
            options.WithoutServerStances) ∧
          ¬(options.role.serverOnly = some true ∧
            options.role.handshakeMode = some .auto) := by
    unfold checkRole
    simp only [guard_eq_ok_iff, Bool.and_eq_true, decide_eq_true_eq,
      Config.Role.Options.clientOnly_resolve,
      Config.Role.Options.serverOnly_resolve,
      ← find?_serverStances_eq_none_iff]
    by_cases clientOnly : options.role.clientOnly = some true
    · simp only [clientOnly, true_and, if_true, forall_const]
      cases options.serverStances.find? (·.2) with
      | none => simp
      | some found => simp
    · simp [clientOnly]
  rw [split]
  constructor
  · rintro ⟨oneSide, clientOnly, serverOnly⟩
    exact {
      oneSide := fun client server => oneSide ⟨client, server⟩
      clientOnly := clientOnly
      serverOnly := fun server automatic => serverOnly ⟨server, automatic⟩ }
  · intro agree
    refine ⟨?_, agree.clientOnly, ?_⟩
    · rintro ⟨client, server⟩
      exact agree.oneSide client server
    · rintro ⟨server, automatic⟩
      exact agree.serverOnly server automatic

theorem cause_of_checkRole_eq_error
    (refused : options.checkRole = .error cause) :
    cause = .clientAndServerOnly ∨
      (∃ stance, cause = .notApplicable stance .server) ∨
      cause = .autoHandshakeForServerOnly := by
  unfold checkRole at refused
  dsimp only at refused
  split at refused
  · cases refused
    exact Or.inl rfl
  generalize (if options.role.resolve.clientOnly = true then
    options.serverStances.find? (·.2) else none) = found at refused
  rcases found with _ | ⟨stance, _⟩
  · dsimp only at refused
    split at refused <;> cases refused
    exact Or.inr (Or.inr rfl)
  · cases refused
    exact Or.inr (Or.inl ⟨stance, rfl⟩)

theorem checkVerifierUse_eq_ok_iff :
    options.checkVerifierUse = .ok () ↔
      (options.role.serverOnly = some true →
        options.credentials.verifier.isSome = true →
          options.role.resolve.clientAuthWanted = true ∨
            options.role.resolve.clientAuthRequired = true) := by
  unfold checkVerifierUse
  simp only [guard_eq_ok_iff, Bool.and_eq_true,
    Config.Role.Options.serverOnly_resolve, and_true]
  cases options.role.resolve.clientAuthWanted <;>
    cases options.role.resolve.clientAuthRequired <;> simp

theorem cause_of_checkVerifierUse_eq_error
    (refused : options.checkVerifierUse = .error cause) :
    cause = .verifierWithoutClientAuth := by
  unfold checkVerifierUse at refused
  dsimp only at refused
  split at refused <;> cases refused
  rfl

/-! Credentials -/

theorem checkCapabilities_eq_ok_iff {capabilities : Capabilities}
    {clientOnly : Bool} :
    checkCapabilities capabilities clientOnly = .ok () ↔
      capabilities.psk = true ∨ capabilities.certificate = true ∨
        clientOnly = true := by
  unfold checkCapabilities
  rw [guard_eq_ok_iff]
  cases capabilities.psk <;> cases capabilities.certificate <;>
    cases clientOnly <;> simp

theorem cause_of_checkCapabilities_eq_error {capabilities : Capabilities}
    {clientOnly : Bool}
    (refused : checkCapabilities capabilities clientOnly = .error cause) :
    cause = .noCredentials := by
  unfold checkCapabilities at refused
  split at refused <;> cases refused
  rfl

theorem checkPskStoreUse_eq_ok_iff {capabilities : Capabilities} :
    options.checkPskStoreUse capabilities = .ok () ↔
      (options.credentials.pskStore.isSome = true →
        capabilities.psk = true) := by
  unfold checkPskStoreUse
  rw [guard_eq_ok_iff]
  cases capabilities.psk <;> simp

theorem cause_of_checkPskStoreUse_eq_error {capabilities : Capabilities}
    (refused : options.checkPskStoreUse capabilities = .error cause) :
    cause = .unusedPskStore := by
  unfold checkPskStoreUse at refused
  split at refused <;> cases refused
  rfl

theorem checkCertificateUse_eq_ok_iff {capabilities : Capabilities} :
    options.checkCertificateUse capabilities = .ok () ↔
      (options.credentials.identity.isSome = true ∨
        options.credentials.verifier.isSome = true →
          capabilities.certificate = true) := by
  unfold checkCertificateUse
  cases capabilities.certificate with
  | true => simp
  | false =>
      simp only [Bool.false_eq_true, if_false, guard_eq_ok_iff, and_true]
      simp

theorem cause_of_checkCertificateUse_eq_error {capabilities : Capabilities}
    (refused : options.checkCertificateUse capabilities = .error cause) :
    cause = .unusedIdentity ∨ cause = .unusedVerifier := by
  unfold checkCertificateUse at refused
  repeat' split at refused
  all_goals cases refused
  · exact Or.inl rfl
  · exact Or.inr rfl

theorem checkKeyUsage_eq_ok_iff {requirements : Option Requirements} :
    options.checkKeyUsage requirements = .ok () ↔
      ∀ identity ∈ options.credentials.identity, .x509 ∈ identity.kinds →
        ∀ required ∈ requirements,
          (options.role.resolve.serverOnly = false →
            required.permits .client = true) ∧
          (options.role.resolve.clientOnly = false →
            required.permits .server = true) := by
  unfold checkKeyUsage
  simp only [guard_eq_ok_iff, and_true]
  cases options.credentials.identity with
  | none => simp
  | some identity =>
      cases requirements with
      | none => simp
      | some required =>
          by_cases presented : .x509 ∈ identity.kinds
          · cases options.role.resolve.serverOnly <;>
              cases options.role.resolve.clientOnly <;> simp [presented]
          · simp [presented]

theorem cause_of_checkKeyUsage_eq_error {requirements : Option Requirements}
    (refused : options.checkKeyUsage requirements = .error cause) :
    ∃ side, cause = .keyUsage side := by
  unfold checkKeyUsage at refused
  dsimp only at refused
  repeat' split at refused
  all_goals cases refused
  all_goals exact ⟨_, rfl⟩

theorem checkRequirements_eq_ok_iff {requirements : Option Requirements}
    {schemes : List Scheme} {groups : List Group} :
    checkRequirements requirements schemes groups = .ok () ↔
      ∀ required ∈ requirements, required.checkSchemes schemes = .ok () ∧
        required.checkGroups groups = .ok () := by
  unfold checkRequirements
  cases requirements with
  | none => simp
  | some required =>
      cases signed : required.checkSchemes schemes with
      | error found => simp [signed, bind, Except.bind]
      | ok => simp [signed, bind, Except.bind]

theorem cause_of_checkRequirements_eq_error
    {requirements : Option Requirements} {schemes : List Scheme}
    {groups : List Group}
    (refused : checkRequirements requirements schemes groups = .error cause) :
    (∃ key, cause = .keyWithoutScheme key) ∨
      (∃ scheme, cause = .chainSchemeNotOffered scheme) ∨
      ∃ curve, cause = .curveNotOffered curve := by
  unfold checkRequirements at refused
  cases requirements with
  | none => cases refused
  | some requirements =>
      cases signed : requirements.checkSchemes schemes with
      | error found =>
          simp only [signed] at refused
          cases refused
          unfold Requirements.checkSchemes at signed
          repeat' split at signed
          all_goals cases signed
          · exact Or.inl ⟨_, rfl⟩
          · exact Or.inr (Or.inl ⟨_, rfl⟩)
      | ok =>
          simp only [signed] at refused
          change requirements.checkGroups groups = .error cause at refused
          unfold Requirements.checkGroups at refused
          split at refused <;> cases refused
          exact Or.inr (Or.inr ⟨_, rfl⟩)

/-! Schemes and groups -/

theorem checkListsUnset_eq_ok_iff :
    options.checkListsUnset = .ok () ↔
      options.algorithms.schemes = none ∧ options.algorithms.groups = none := by
  unfold checkListsUnset
  simp [guard_eq_ok_iff]

def resolveSchemes (options : Options) (provider : Provider) :
    Attempt (List Scheme) :=
  schemeCatalog.resolve options.algorithms.schemes
    ((options.credentials.requirements?.map (·.defaultSchemes)).getD [])
    (options.algorithms.recommendedSchemesOnly.getD true)
    provider.supportsScheme

def resolveGroups (options : Options) (provider : Provider) :
    Attempt (List Group) :=
  groupCatalog.resolve options.algorithms.groups
    ((options.credentials.requirements?.map (·.defaultGroups)).getD [])
    (options.algorithms.recommendedGroupsOnly.getD true)
    provider.supportsGroup

section Lists

variable {capabilities : Capabilities} {provider : Provider}
  {schemes : List Scheme} {groups : List Group}

private theorem resolveLists_of_ecc (curved : capabilities.ecc = true) :
    options.resolveLists capabilities options.credentials.requirements?
        provider = (do
      let schemes ← options.resolveSchemes provider
      let groups ← options.resolveGroups provider
      pure (schemes, groups)) := by
  unfold resolveLists
  rw [if_pos curved]
  rfl

private theorem resolveLists_of_not_ecc (straight : capabilities.ecc = false) :
    options.resolveLists capabilities options.credentials.requirements?
        provider = (do
      Attempt.check options.checkListsUnset
      pure ([], [])) := by
  unfold resolveLists
  rw [if_neg (by simp [straight])]

theorem resolveLists_eq_ok_iff_of_ecc (curved : capabilities.ecc = true) :
    (options.resolveLists capabilities options.credentials.requirements?
        provider).result = .ok (schemes, groups) ↔
      (options.resolveSchemes provider).result = .ok schemes ∧
        (options.resolveGroups provider).result = .ok groups := by
  rw [resolveLists_of_ecc curved]
  constructor
  · intro resolved
    obtain ⟨_, foundSchemes, rest⟩ := Attempt.result_bind_eq_ok_iff.mp resolved
    obtain ⟨_, foundGroups, same⟩ := Attempt.result_bind_eq_ok_iff.mp rest
    cases same
    exact ⟨foundSchemes, foundGroups⟩
  · rintro ⟨foundSchemes, foundGroups⟩
    exact Attempt.result_bind_eq_ok_iff.mpr ⟨schemes, foundSchemes,
      Attempt.result_bind_eq_ok_iff.mpr ⟨groups, foundGroups, rfl⟩⟩

theorem resolveLists_eq_ok_iff_of_not_ecc
    (straight : capabilities.ecc = false) :
    (options.resolveLists capabilities options.credentials.requirements?
        provider).result = .ok (schemes, groups) ↔
      (options.algorithms.schemes = none ∧ options.algorithms.groups = none) ∧
        schemes = [] ∧ groups = [] := by
  rw [resolveLists_of_not_ecc straight, Attempt.result_then_eq_ok_iff,
    Attempt.result_check_eq_ok_iff, checkListsUnset_eq_ok_iff]
  refine and_congr_right' ?_
  simp only [Attempt.result_pure, Except.ok.injEq, Prod.mk.injEq]
  exact and_congr eq_comm eq_comm

theorem events_resolveLists_of_ecc (curved : capabilities.ecc = true)
    (resolved : (options.resolveLists capabilities
      options.credentials.requirements? provider).result =
        .ok (schemes, groups)) :
    (options.resolveLists capabilities options.credentials.requirements?
        provider).events =
      (options.resolveSchemes provider).events ++
        (options.resolveGroups provider).events := by
  obtain ⟨foundSchemes, foundGroups⟩ :=
    (resolveLists_eq_ok_iff_of_ecc curved).mp resolved
  rw [resolveLists_of_ecc curved, Attempt.events_bind_of_ok foundSchemes,
    Attempt.events_bind_of_ok foundGroups, Attempt.events_pure,
    List.append_nil]

theorem events_resolveLists_of_not_ecc (straight : capabilities.ecc = false)
    (resolved : (options.resolveLists capabilities
      options.credentials.requirements? provider).result =
        .ok (schemes, groups)) :
    (options.resolveLists capabilities options.credentials.requirements?
        provider).events = [] := by
  obtain ⟨unset, _⟩ := (resolveLists_eq_ok_iff_of_not_ecc straight).mp resolved
  rw [resolveLists_of_not_ecc straight, Attempt.events_bind_of_ok
    (Attempt.result_check_eq_ok_iff.mpr (checkListsUnset_eq_ok_iff.mpr unset))]
  rfl

theorem error_of_resolveLists_of_ecc (curved : capabilities.ecc = true)
    {error : Error}
    (failed : (options.resolveLists capabilities
      options.credentials.requirements? provider).result = .error error) :
    (options.resolveSchemes provider).result = .error error ∨
      (options.resolveGroups provider).result = .error error := by
  rw [resolveLists_of_ecc curved] at failed
  rcases Attempt.result_bind_eq_error_iff.mp failed with
    refused | ⟨_, _, failed⟩
  · exact Or.inl refused
  rcases Attempt.result_bind_eq_error_iff.mp failed with
    refused | ⟨_, _, impossible⟩
  · exact Or.inr refused
  · cases impossible

theorem cause_of_resolveLists_of_not_ecc (straight : capabilities.ecc = false)
    {error : Error}
    (failed : (options.resolveLists capabilities
      options.credentials.requirements? provider).result = .error error) :
    ∃ cause, options.checkListsUnset = .error cause ∧
      error = .consistency cause := by
  rw [resolveLists_of_not_ecc straight] at failed
  rcases Attempt.result_check_then_eq_error_iff.mp failed with
    refused | ⟨_, impossible⟩
  · exact refused
  · cases impossible

/-- The schemes and groups are refused because none is left, because they are
of no use, or because one that was chosen cannot be had. -/
theorem cause_of_resolveLists_eq_error {error : Error}
    (failed : (options.resolveLists capabilities
      options.credentials.requirements? provider).result = .error error) :
    (∃ cause ∈ [.noScheme, .noGroup, .schemesWithoutEcc, .groupsWithoutEcc],
      error = .consistency cause) ∨
    (∃ chosen ∈ options.algorithms.schemes, ∃ cause,
      schemeCatalog.checkChosen chosen
          (options.algorithms.recommendedSchemesOnly.getD true)
          provider.supportsScheme = .error cause ∧
        error = .consistency cause) ∨
    (∃ chosen ∈ options.algorithms.groups, ∃ cause,
      groupCatalog.checkChosen chosen
          (options.algorithms.recommendedGroupsOnly.getD true)
          provider.supportsGroup = .error cause ∧
        error = .consistency cause) := by
  cases curved : capabilities.ecc with
  | true =>
      rcases error_of_resolveLists_of_ecc curved failed with schemes | groups
      · rcases Catalog.cause_of_resolve_eq_error schemes with rfl | found
        · exact Or.inl ⟨.noScheme, by simp, rfl⟩
        · exact Or.inr (Or.inl found)
      · rcases Catalog.cause_of_resolve_eq_error groups with rfl | found
        · exact Or.inl ⟨.noGroup, by simp, rfl⟩
        · exact Or.inr (Or.inr found)
  | false =>
      obtain ⟨cause, refused, rfl⟩ :=
        cause_of_resolveLists_of_not_ecc curved failed
      refine Or.inl ⟨cause, ?_, rfl⟩
      unfold checkListsUnset at refused
      split at refused
      · cases refused
        simp
      · split at refused <;> cases refused
        simp

end Lists

/-! Addresses and replays -/

theorem checkHelloVerify_eq_ok_iff {capabilities : Capabilities} :
    options.checkHelloVerify capabilities = .ok () ↔
      (options.helloVerify.enabled = some false →
        options.helloVerify.enabledForPsk ≠ some true ∧
          options.resumption.verifyThreshold = none) ∧
        (options.helloVerify.enabled ≠ some false →
          options.helloVerify.enabledForPsk = some false →
            capabilities.psk = true) := by
  unfold checkHelloVerify
  simp only [guard_eq_ok_iff, and_true]
  simp only [Config.HelloVerify.Options.resolve]
  cases options.resumption.verifyThreshold <;> cases capabilities.psk <;>
    rcases options.helloVerify.enabled with _ | _ | _ <;>
    rcases options.helloVerify.enabledForPsk with _ | _ | _ <;> simp

theorem cause_of_checkHelloVerify_eq_error {capabilities : Capabilities}
    (refused : options.checkHelloVerify capabilities = .error cause) :
    (cause = .helloVerifyForPskEnabled ∧
        options.helloVerify.enabled = some false ∧
        options.helloVerify.enabledForPsk = some true) ∨
      (cause = .thresholdWithoutHelloVerify ∧
        options.helloVerify.enabled = some false ∧
        options.resumption.verifyThreshold ≠ none) ∨
      cause = .helloVerifyForPskWithoutSuite := by
  unfold checkHelloVerify at refused
  simp only [Bool.and_eq_true, Bool.not_eq_true',
    Config.HelloVerify.Options.enabled_resolve_eq_false_iff,
    decide_eq_true_eq, Option.isSome_iff_ne_none] at refused
  split at refused
  case isTrue forPsk =>
      cases refused
      exact Or.inl ⟨rfl, forPsk⟩
  split at refused
  case isTrue threshold =>
      cases refused
      exact Or.inr (Or.inl ⟨rfl, threshold⟩)
  split at refused <;> cases refused
  exact Or.inr (Or.inr rfl)

theorem checkReplay_eq_ok_iff :
    options.checkReplay = .ok () ↔
      (options.replay.antiReplay = some true →
        options.replay.extendedWindow.getD 0 = 0) := by
  unfold checkReplay
  simp only [guard_eq_ok_iff, and_true, Bool.and_eq_true, decide_eq_true_eq]
  simp only [Config.Replay.Options.resolve]
  generalize options.replay.extendedWindow.getD 0 = window
  rcases options.replay.antiReplay with _ | _ | _ <;> simp

theorem cause_of_checkReplay_eq_error
    (refused : options.checkReplay = .error cause) :
    cause = .antiReplayWithExtendedWindow := by
  unfold checkReplay at refused
  dsimp only at refused
  split at refused <;> cases refused
  rfl

end Options

end DatagramTls
