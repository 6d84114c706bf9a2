import DatagramTls.Proofs.RoundTrip

/-!
The suites of a configuration that is reopened, when they are chosen again.
Handshakes with pre-shared keys are only made an exception where a chosen suite
has such keys, whichever of the two is set first. Reopening writes defaults down
as if they had been set: where no handshake is verified, those with pre-shared
keys look like an exception, and then a list without such keys is refused
although the options hold it.
-/

namespace DatagramTls

namespace Options

/-- Handshakes with pre-shared keys are an exception only where a chosen suite
has such keys. -/
def ExceptionServed (options : Options) : Prop :=
  options.helloVerify.enabledForPsk = some false →
    ∀ suites ∈ options.algorithms.suites, ∃ suite ∈ suites, suite.usesPsk = true

/-! Setting options -/

theorem exceptionServed_unset : unset.ExceptionServed := nofun

theorem ExceptionServed.store {options : Options} {setting : Setting}
    (served : options.ExceptionServed)
    (unopposed : options.objection? setting = none) :
    (options.store setting).ExceptionServed := by
  cases setting with
  | algorithms setting =>
      cases setting with
      | suites suites =>
          rintro off _ ⟨⟩
          have listed := (Option.or_eq_none_iff.mp unopposed).1
          exact (suiteListObjection?_eq_none_iff.mp listed).2.2 off
      | preselected _ | recommendedSuitesOnly _ | schemes _
      | recommendedSchemesOnly _ | groups _ | recommendedGroupsOnly _ =>
          exact served
  | helloVerify setting =>
      cases setting with
      | enabledForPsk enabled =>
          rintro ⟨⟩ suites chosen
          have chosen : options.algorithms.suites = some suites := chosen
          simp only [objection?, helloVerifyObjection?,
            guard_eq_none_iff] at unopposed
          obtain ⟨_, _, shared, _⟩ := unopposed
          simpa [chosen] using shared
      | enabled _ | version _ => exact served
  | endpoint _ | role _ | credentials _ | retransmission _ | framing _
  | resources _ | diagnostics _ | resumption _ | replay _ | extensions _ =>
      exact served

end Options

theorem History.exceptionServed_run (requests : List Request) :
    (run requests).options.ExceptionServed := by
  apply run_induction (motive := fun history =>
    history.options.ExceptionServed)
  · exact Options.exceptionServed_unset
  · intro history request served
    cases outcome : history.options.request request with
    | error error =>
        rw [request_of_refused outcome]
        exact served
    | ok options =>
        obtain ⟨setting, unopposed, rfl, recorded⟩ :=
          request_of_accepted outcome
        rw [recorded]
        exact served.store unopposed

/-! Reopening configurations -/

/-- No handshake is verified, and no suite has pre-shared keys. -/
structure Config.Unshared (config : Config) : Prop where
  unverified : config.helloVerify.enabled = false
  unshared : ∀ suite ∈ config.algorithms.suites, suite.usesPsk = false

namespace Options.Builds

variable {options : Options} {platform : Platform} {config : Config}
  (builds : options.Builds platform config)
include builds

theorem enabledForPsk_reopen_of_unshared (unshared : config.Unshared) :
    config.reopen.helloVerify.enabledForPsk = some false := by
  have forPsk := builds.helloVerifyForPsk_of_disabled unshared.unverified
  apply Config.whenever_eq_some_iff.mpr
  refine ⟨?_, forPsk⟩
  rw [Bool.not_eq_true', Bool.eq_false_iff]
  intro client
  rw [(builds.helloVerify_of_clientOnly client).2] at forPsk
  cases forPsk

theorem exceptionServed_reopen_iff :
    config.reopen.ExceptionServed ↔ ¬config.Unshared := by
  constructor
  · intro served unshared
    obtain ⟨suite, member, shared⟩ :=
      served (builds.enabledForPsk_reopen_of_unshared unshared) _ rfl
    rw [unshared.unshared suite member] at shared
    cases shared
  · rintro shared off _ ⟨⟩
    have forPsk := (Config.whenever_eq_some_iff.mp off).2
    cases enabled : config.helloVerify.enabled with
    | true =>
        exact List.any_eq_true.mp (builds.psk_of_disabledForPsk enabled forPsk)
    | false =>
        apply Decidable.byContradiction
        intro none
        refine shared ⟨enabled, fun suite member => ?_⟩
        apply Bool.eq_false_iff.mpr
        intro usesPsk
        exact none ⟨suite, member, usesPsk⟩

/-- Of the rules on a list that is set, only the one on the exception can object
to what the configuration has. -/
theorem objection?_own_suites :
    config.reopen.objection? (.algorithms (.suites config.algorithms.suites)) =
      config.reopen.suiteListObjection? .suites config.algorithms.suites := by
  have unlessOpen :
      (if config.reopen.algorithms.recommendedSuitesOnly = some false then none
        else suitesUnlessRecommended config.algorithms.suites) = none := by
    split
    case isTrue => rfl
    case isFalse closed =>
        apply unlessRecommended_eq_none_iff.mpr
        apply builds.suites_recommended
        apply Bool.of_not_eq_false
        intro unlocked
        exact closed (congrArg some unlocked)
  change (config.reopen.suiteListObjection? .suites
    config.algorithms.suites).or _ = _
  rw [unlessOpen, Option.or_none]

theorem set_own_suites_eq_ok_iff :
    config.reopen.set (.algorithms (.suites config.algorithms.suites)) =
        .ok config.reopen ↔
      config.reopen.ExceptionServed := by
  rw [set_eq_ok_iff, builds.objection?_own_suites,
    suiteListObjection?_eq_none_iff]
  constructor
  · rintro ⟨⟨_, _, served⟩, _⟩ off _ ⟨⟩
    exact served off
  · intro served
    exact ⟨⟨builds.suites_ne_nil, builds.protecting,
      fun off => served off _ rfl⟩, rfl⟩

theorem set_own_suites_of_unshared (unshared : config.Unshared) :
    config.reopen.set (.algorithms (.suites config.algorithms.suites)) =
      .error .noPskSuite := by
  have off := builds.enabledForPsk_reopen_of_unshared unshared
  have nonempty := builds.suites_ne_nil
  have protecting := builds.protecting
  rw [set_eq_error_iff, builds.objection?_own_suites]
  unfold suiteListObjection?
  rw [if_neg (by simpa using nonempty), if_neg (by simpa using protecting),
    if_pos (by simpa [off] using unshared.unshared)]

theorem set_own_exception_of_unshared (unshared : config.Unshared) :
    config.reopen.set (.helloVerify (.enabledForPsk false)) =
      .error .noPskSuite := by
  have off := builds.enabledForPsk_reopen_of_unshared unshared
  have server := (Config.whenever_eq_some_iff.mp off).1
  have notClient : config.reopen.role.clientOnly ≠ some true := by
    intro client
    rw [Option.some.inj client] at server
    cases server
  have chosen : config.reopen.algorithms.suites =
    some config.algorithms.suites := rfl
  rw [set_eq_error_iff]
  simp only [objection?, helloVerifyObjection?]
  rw [if_neg notClient, if_neg (by simp), chosen,
    if_pos (by simpa using unshared.unshared)]

end Options.Builds

/-- Whatever was requested, the options leave no exception without a suite for
it. What is built can be reopened and given its own suites again, which changes
nothing, exactly unless no handshake is verified and no suite has pre-shared
keys; then both the suites and the exception are refused. -/
theorem History.own_suites_accepted_iff (requests : List Request)
    {platform : Platform} {config : Config}
    (built : ((run requests).options.build platform).result = .ok config) :
    (run requests).options.ExceptionServed ∧
      (config.reopen.set (.algorithms (.suites config.algorithms.suites)) =
          .ok config.reopen ↔ ¬config.Unshared) ∧
      (config.reopen.ExceptionServed ↔ ¬config.Unshared) ∧
      (config.Unshared →
        config.reopen.set (.algorithms (.suites config.algorithms.suites)) =
            .error .noPskSuite ∧
          config.reopen.set (.helloVerify (.enabledForPsk false)) =
            .error .noPskSuite) := by
  have builds := Options.build_eq_ok_iff.mp built
  have served := builds.exceptionServed_reopen_iff
  refine ⟨exceptionServed_run requests,
    builds.set_own_suites_eq_ok_iff.trans served, served, fun unshared => ?_⟩
  exact ⟨builds.set_own_suites_of_unshared unshared,
    builds.set_own_exception_of_unshared unshared⟩

/-- A server that verifies no handshake, with suites for pre-shared keys. -/
theorem History.own_suites_accepted_iff_psk :
    let requests : List Request :=
      [.byValue (.helloVerify (.enabled false)),
        .byValue (.credentials (.pskStore ⟨⟨0⟩, true⟩))]
    ∃ config,
      ((run requests).options.build (.ofCores 4 .standard)).result =
        .ok config ∧
      config.helloVerify = ⟨false, false, none⟩ ∧
      config.reopen.set (.algorithms (.suites config.algorithms.suites)) =
        .ok config.reopen := by
  intro requests
  have accepted :=
    @History.own_suites_accepted_iff requests (.ofCores 4 .standard) _ rfl
  refine ⟨_, rfl, rfl, accepted.2.1.mpr fun none => ?_⟩
  have shared := none.unshared .pskAes128Ccm8 (by decide)
  cases shared

/-- A server that verifies no handshake, with suites for its certificate. -/
theorem History.own_suites_refused :
    let requests : List Request :=
      [.byValue (.credentials (.identity ⟨⟨0⟩, [.x509], none⟩)),
        .byValue (.helloVerify (.enabled false))]
    ∃ config,
      ((run requests).options.build (.ofCores 4 .standard)).result =
        .ok config ∧
      config.reopen.set (.algorithms (.suites config.algorithms.suites)) =
        .error .noPskSuite := by
  intro requests
  exact ⟨_, rfl, rfl⟩

end DatagramTls
