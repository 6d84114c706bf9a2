import DatagramTls.Proofs.StepEffects

/-!
Consistency of options. Setting an option never makes options contradict each
other, and neither does reopening a configuration; hence the options of a
session are consistent after any steps.
-/

namespace DatagramTls

open Build

namespace Options

section Gates

variable {α : Type} {recommended : α → Bool} {gate : Option Bool}
  {listing : Listing} {name : α → String} {entries : List α}
  {chosen : Option (List α)}

def Gated (gate : Option Bool) (recommended : α → Bool)
    (chosen : Option (List α)) : Prop :=
  gate ≠ some false →
    ∀ entries ∈ chosen, ∀ entry ∈ entries, recommended entry = true

theorem gated_of_open : Gated (some false) recommended chosen :=
  fun gate => absurd rfl gate

theorem gated_of_choosing
    (accepted : (if gate = some false then none
      else unlessRecommended listing name recommended entries) = none) :
    Gated gate recommended (some entries) := by
  intro closed _ same
  cases same
  rw [if_neg closed] at accepted
  exact unlessRecommended_eq_none_iff.mp accepted

theorem gated_of_closing
    (accepted :
      chosen.bind (unlessRecommended listing name recommended) = none) :
    Gated (some true) recommended chosen := by
  intro _ entries explicit
  have none := Option.bind_eq_none_iff.mp accepted entries explicit
  exact unlessRecommended_eq_none_iff.mp none

end Gates

/-- No two options contradict each other. -/
structure Consistent (options : Options) : Prop where
  roles : options.RolesAgree
  clientAuth : options.role.clientAuthWanted = some true →
    options.role.clientAuthRequired ≠ some true
  suites : Gated options.algorithms.recommendedSuitesOnly
    CipherSuite.isRecommended options.algorithms.suites
  schemes : Gated options.algorithms.recommendedSchemesOnly
    Scheme.isRecommended options.algorithms.schemes
  groups : Gated options.algorithms.recommendedGroupsOnly
    Group.isRecommended options.algorithms.groups
  framing : options.framing.mtu.isSome = true → options.framing.mtuLimit = none
  helloVerify : options.helloVerify.enabled = some false →
    options.helloVerify.enabledForPsk ≠ some true ∧
      options.resumption.verifyThreshold = none
  replay : options.replay.antiReplay = some true →
    options.replay.extendedWindow.getD 0 = 0

theorem consistent_unset : unset.Consistent where
  roles := {
    oneSide := nofun
    clientOnly := nofun
    serverOnly := nofun }
  clientAuth := nofun
  suites := nofun
  schemes := nofun
  groups := nofun
  framing := nofun
  helloVerify := nofun
  replay := nofun

/-! Setting options -/

namespace Consistent

variable {options : Options}

theorem storeRole {setting : Config.Role.Setting}
    (consistent : options.Consistent)
    (accepted : options.roleObjection? setting = none) :
    (options.store (.role setting)).Consistent := by
  cases setting with
  | clientOnly enabled =>
      cases enabled with
      | false =>
          exact { consistent with
            roles := .of_not_clientOnly nofun consistent.roles.serverOnly }
      | true =>
          simp only [roleObjection?, guard_eq_none_iff, Bool.or_eq_true,
            not_or, Bool.not_eq_true, Option.isSome_eq_false_iff,
            Option.isNone_iff_eq_none] at accepted
          obtain ⟨server, ⟨wanted, required⟩, sessionId, forPsk, helloVerify,
            _⟩ := accepted
          exact { consistent with
            roles := {
              oneSide := fun _ => server
              clientOnly := fun _ => {
                clientAuthWanted := wanted
                clientAuthRequired := required
                serverSessionId := sessionId
                helloVerify := helloVerify
                helloVerifyForPsk := forPsk }
              serverOnly := consistent.roles.serverOnly } }
  | serverOnly enabled =>
      cases enabled with
      | false =>
          exact { consistent with
            roles := {
              oneSide := nofun
              clientOnly := fun client =>
                { consistent.roles.clientOnly client with }
              serverOnly := nofun } }
      | true =>
          simp only [roleObjection?, guard_eq_none_iff] at accepted
          obtain ⟨server, automatic, _⟩ := accepted
          exact { consistent with
            roles := .of_not_clientOnly server fun _ => automatic }
  | handshakeMode mode =>
      have automatic : mode = .auto →
          options.role.serverOnly ≠ some true := by
        intro same
        subst same
        simp only [roleObjection?, guard_eq_none_iff] at accepted
        exact accepted.1
      exact { consistent with
        roles := {
          oneSide := consistent.roles.oneSide
          clientOnly := fun client =>
            { consistent.roles.clientOnly client with }
          serverOnly := fun server chosen =>
            automatic (Option.some.inj chosen) server } }
  | clientAuthWanted wanted =>
      simp only [roleObjection?, guard_eq_none_iff] at accepted
      obtain ⟨server, required, _⟩ := accepted
      exact { consistent with
        roles := .of_not_clientOnly server consistent.roles.serverOnly
        clientAuth := by
          intro chosen both
          cases chosen
          exact required (decide_eq_true both) }
  | clientAuthRequired required =>
      simp only [roleObjection?, guard_eq_none_iff] at accepted
      obtain ⟨server, wanted, _⟩ := accepted
      exact { consistent with
        roles := .of_not_clientOnly server consistent.roles.serverOnly
        clientAuth := by
          intro both chosen
          cases chosen
          exact wanted (decide_eq_true both) }

theorem storeAlgorithms {setting : Config.Algorithms.Setting}
    (consistent : options.Consistent)
    (accepted : options.algorithmsObjection? setting = none) :
    (options.store (.algorithms setting)).Consistent := by
  have roles : (options.store (.algorithms setting)).RolesAgree :=
    consistent.roles.of_same rfl rfl rfl rfl
  cases setting with
  | suites suites =>
      have unlessOpen := (Option.or_eq_none_iff.mp accepted).2
      exact { consistent with roles, suites := gated_of_choosing unlessOpen }
  | preselected suites => exact { consistent with roles }
  | schemes schemes =>
      have unlessOpen := (guard_eq_none_iff.mp accepted).2
      exact { consistent with roles, schemes := gated_of_choosing unlessOpen }
  | groups groups =>
      have unlessOpen := (guard_eq_none_iff.mp accepted).2
      exact { consistent with roles, groups := gated_of_choosing unlessOpen }
  | recommendedSuitesOnly enabled =>
      cases enabled with
      | false => exact { consistent with roles, suites := gated_of_open }
      | true =>
          exact { consistent with roles, suites := gated_of_closing accepted }
  | recommendedSchemesOnly enabled =>
      cases enabled with
      | false => exact { consistent with roles, schemes := gated_of_open }
      | true =>
          exact { consistent with roles, schemes := gated_of_closing accepted }
  | recommendedGroupsOnly enabled =>
      cases enabled with
      | false => exact { consistent with roles, groups := gated_of_open }
      | true =>
          exact { consistent with roles, groups := gated_of_closing accepted }

theorem storeFraming {setting : Config.Framing.Setting}
    (consistent : options.Consistent)
    (accepted : options.framing.objection? setting = none) :
    (options.store (.framing setting)).Consistent := by
  have roles : (options.store (.framing setting)).RolesAgree :=
    consistent.roles.of_same rfl rfl rfl rfl
  cases setting with
  | mtu size =>
      simp only [Config.Framing.Options.objection?, guard_eq_none_iff,
        Option.not_isSome_iff_eq_none] at accepted
      exact { consistent with roles, framing := fun _ => accepted.1 }
  | mtuLimit size =>
      simp only [Config.Framing.Options.objection?,
        guard_eq_none_iff] at accepted
      exact { consistent with
        roles
        framing := fun fixed => absurd fixed accepted.1 }
  | maxFragmentLengthCode _ | recordSizeLimit _ | reassemblyLength _
  | multiRecordMessages _ | multiHandshakeRecords _ =>
      exact { consistent with roles }

theorem storeResumption {setting : Config.Resumption.Setting}
    (consistent : options.Consistent)
    (accepted : options.resumptionObjection? setting = none) :
    (options.store (.resumption setting)).Consistent := by
  cases setting with
  | autoTimeout _ | verifier _ =>
      exact { consistent with
        roles := consistent.roles.of_same rfl rfl rfl rfl }
  | serverSessionId enabled =>
      simp only [resumptionObjection?, guard_eq_none_iff] at accepted
      exact { consistent with
        roles := { consistent.roles with
          clientOnly := fun client =>
            { consistent.roles.clientOnly client with
              serverSessionId := by
                intro off
                cases off
                exact accepted.1 (decide_eq_true client) } } }
  | verifyThreshold percent =>
      simp only [resumptionObjection?, guard_eq_none_iff] at accepted
      exact { consistent with
        roles := consistent.roles.of_same rfl rfl rfl rfl
        helloVerify := fun off => absurd off accepted.1 }

theorem storeHelloVerify {setting : Config.HelloVerify.Setting}
    (consistent : options.Consistent)
    (accepted : options.helloVerifyObjection? setting = none) :
    (options.store (.helloVerify setting)).Consistent := by
  cases setting with
  | enabled enabled =>
      simp only [helloVerifyObjection?, guard_eq_none_iff] at accepted
      obtain ⟨server, forPsk, threshold, _⟩ := accepted
      exact { consistent with
        roles := .of_not_clientOnly server consistent.roles.serverOnly
        helloVerify := by
          intro off
          cases off
          exact ⟨fun on => forPsk (decide_eq_true on),
            Option.not_isSome_iff_eq_none.mp threshold⟩ }
  | enabledForPsk enabled =>
      simp only [helloVerifyObjection?, guard_eq_none_iff] at accepted
      obtain ⟨server, disabled, _⟩ := accepted
      exact { consistent with
        roles := .of_not_clientOnly server consistent.roles.serverOnly
        helloVerify := by
          intro off
          refine ⟨?_, (consistent.helloVerify off).2⟩
          intro on
          cases on
          exact disabled (decide_eq_true off) }
  | version version =>
      exact { consistent with
        roles := consistent.roles.of_same rfl rfl rfl rfl }

theorem storeReplay {setting : Config.Replay.Setting}
    (consistent : options.Consistent)
    (accepted : options.replay.objection? setting = none) :
    (options.store (.replay setting)).Consistent := by
  have roles : (options.store (.replay setting)).RolesAgree :=
    consistent.roles.of_same rfl rfl rfl rfl
  cases setting with
  | antiReplay enabled =>
      simp only [Config.Replay.Options.objection?,
        guard_eq_none_iff] at accepted
      exact { consistent with
        roles
        replay := by
          intro on
          cases on
          change options.replay.extendedWindow.getD 0 = 0
          cases window : options.replay.extendedWindow with
          | none => rfl
          | some level => simpa [window] using accepted }
  | extendedWindow level =>
      simp only [Config.Replay.Options.objection?,
        guard_eq_none_iff] at accepted
      exact { consistent with
        roles
        replay := fun filtered =>
          Decidable.not_not.mp fun extended =>
            accepted.1 ⟨extended, filtered⟩ }
  | cidGenerator _ | cidNewerOnly _ => exact { consistent with roles }

/-- Setting an option leaves options consistent. -/
theorem set {setting : Setting} {result : Options}
    (consistent : options.Consistent)
    (stored : options.set setting = .ok result) : result.Consistent := by
  obtain ⟨accepted, rfl⟩ := set_eq_ok_iff.mp stored
  cases setting with
  | role setting => exact consistent.storeRole accepted
  | algorithms setting => exact consistent.storeAlgorithms accepted
  | framing setting => exact consistent.storeFraming accepted
  | resumption setting => exact consistent.storeResumption accepted
  | helloVerify setting => exact consistent.storeHelloVerify accepted
  | replay setting => exact consistent.storeReplay accepted
  | endpoint _ | credentials _ | retransmission _ | resources _
  | diagnostics _ | extensions _ =>
      exact { consistent with
        roles := consistent.roles.of_same rfl rfl rfl rfl }

end Consistent

/-! Reopening configurations -/

variable {options : Options} {platform : Platform} {config : Config}

theorem Builds.reopen_rolesAgree (builds : options.Builds platform config) :
    config.reopen.RolesAgree where
  oneSide := by
    intro client server
    have clientOnly := Option.some.inj client
    have serverOnly := Option.some.inj server
    rw [builds.role_eq] at clientOnly serverOnly
    exact (checkRole_eq_ok_iff.mp builds.roles).oneSide
      (Config.Role.Options.clientOnly_resolve.mp clientOnly)
      (Config.Role.Options.serverOnly_resolve.mp serverOnly)
  clientOnly := by
    intro client
    have clientOnly : config.role.clientOnly = true := Option.some.inj client
    constructor <;> simp [Config.reopen, Config.reopenRole,
      Config.reopenResumption, Config.reopenHelloVerify, Config.whenever,
      clientOnly]
  serverOnly := by
    intro server automatic
    have serverOnly := Option.some.inj server
    have mode := Option.some.inj automatic
    rw [builds.role_eq] at serverOnly mode
    have chosen := Config.Role.Options.serverOnly_resolve.mp serverOnly
    have mode : options.role.handshakeMode.getD .none = .auto := by
      simpa [Config.Role.Options.resolve, chosen] using mode
    rcases Option.getD_eq_iff.mp mode with found | ⟨_, impossible⟩
    · exact (checkRole_eq_ok_iff.mp builds.roles).serverOnly chosen found
    · cases impossible

namespace Builds

variable (builds : options.Builds platform config)
include builds

theorem suites_recommended
    (gate : config.algorithms.recommendedSuitesOnly = true) :
    ∀ suite ∈ config.algorithms.suites, suite.isRecommended = true :=
  (checkChosenSuites_eq_ok_iff.mp builds.suites_allowed).1 gate

theorem schemes_recommended
    (gate : config.algorithms.recommendedSchemesOnly = true) :
    ∀ scheme ∈ config.algorithms.schemes, scheme.isRecommended = true :=
  (Catalog.checkChosen_eq_ok_iff.mp builds.schemes_allowed).1 gate

theorem groups_recommended
    (gate : config.algorithms.recommendedGroupsOnly = true) :
    ∀ group ∈ config.algorithms.groups, group.isRecommended = true :=
  (Catalog.checkChosen_eq_ok_iff.mp builds.groups_allowed).1 gate

theorem helloVerifyForPsk_of_disabled
    (disabled : config.helloVerify.enabled = false) :
    config.helloVerify.enabledForPsk = false := by
  rw [builds.helloVerify_eq] at disabled ⊢
  have chosen :=
    Config.HelloVerify.Options.enabled_resolve_eq_false_iff.mp disabled
  have notOn := ((checkHelloVerify_eq_ok_iff.mp builds.helloVerify).1 chosen).1
  apply Bool.eq_false_iff.mpr
  intro on
  rcases Option.getD_eq_iff.mp on with found | ⟨_, enabled⟩
  · exact notOn found
  · simp [chosen] at enabled

theorem verifyThreshold_of_disabled
    (disabled : config.helloVerify.enabled = false) :
    config.resumption.verifyThreshold = 0 := by
  rw [builds.resumption_eq, disabled]
  rfl

theorem psk_of_disabledForPsk (enabled : config.helloVerify.enabled = true)
    (forPsk : config.helloVerify.enabledForPsk = false) :
    (Capabilities.ofSuites config.algorithms.suites).psk = true := by
  have passed := builds.helloVerify
  unfold checkHelloVerify at passed
  rw [← builds.helloVerify_eq] at passed
  simpa [guard_eq_ok_iff, enabled, forPsk] using passed

theorem extendedWindow_of_antiReplay
    (filtered : config.replay.antiReplay = true) :
    config.replay.extendedWindow = 0 := by
  rw [builds.replay_eq] at filtered ⊢
  rcases Option.getD_eq_iff.mp filtered with found | ⟨_, unextended⟩
  · exact checkReplay_eq_ok_iff.mp builds.replay found
  · exact beq_iff_eq.mp unextended

end Builds

section Gates

variable {α : Type} {recommended : α → Bool} {gate : Bool} {entries : List α}

private theorem gated_reopen
    (allowed : gate = true → ∀ entry ∈ entries, recommended entry = true) :
    Gated (some gate) recommended (some entries) := by
  intro closed _ same
  cases same
  apply allowed
  apply Bool.of_not_eq_false
  intro unlocked
  exact closed (congrArg some unlocked)

private theorem gated_reopen_nonempty?
    (allowed : gate = true → ∀ entry ∈ entries, recommended entry = true) :
    Gated (some gate) recommended (Config.Algorithms.nonempty? entries) := by
  unfold Config.Algorithms.nonempty?
  split
  · exact nofun
  · exact gated_reopen allowed

end Gates

theorem Consistent.clientAuth_resolve (consistent : options.Consistent)
    (wanted : options.role.resolve.clientAuthWanted = true) :
    options.role.resolve.clientAuthRequired = false := by
  have chosen := Config.Role.Options.clientAuthWanted_resolve.mp wanted
  have unrequired := consistent.clientAuth chosen
  rcases required : options.role.clientAuthRequired with _ | _ | _
  · simp [Config.Role.Options.resolve, required, chosen]
  · simp [Config.Role.Options.resolve, required]
  · exact absurd required unrequired

theorem Consistent.reopen (consistent : options.Consistent)
    (builds : options.Builds platform config) :
    config.reopen.Consistent where
  roles := builds.reopen_rolesAgree
  clientAuth := by
    -- By default only what is not wanted is required.
    intro wanted required
    have wanted := (Config.whenever_eq_some_iff.mp wanted).2
    have required := (Config.whenever_eq_some_iff.mp required).2
    rw [builds.role_eq] at wanted required
    rw [consistent.clientAuth_resolve wanted] at required
    cases required
  suites := gated_reopen builds.suites_recommended
  schemes := gated_reopen_nonempty? builds.schemes_recommended
  groups := gated_reopen_nonempty? builds.groups_recommended
  framing := by
    intro fixed
    have fixed : config.framing.mtu.isSome = true := fixed
    change config.framing.mtuLimit = none
    rw [builds.framing_eq] at fixed ⊢
    exact if_pos fixed
  helloVerify := by
    intro off
    have disabled := (Config.whenever_eq_some_iff.mp off).2
    constructor
    · intro on
      have forPsk := (Config.whenever_eq_some_iff.mp on).2
      rw [builds.helloVerifyForPsk_of_disabled disabled] at forPsk
      cases forPsk
    · simp [Config.reopen, Config.reopenResumption, disabled]
  replay := by
    intro filtered
    exact builds.extendedWindow_of_antiReplay (Option.some.inj filtered)

end Options

/-! Sessions -/

namespace Session

structure Consistent (session : Session) : Prop where
  options : session.options.Consistent
  configs : ∀ config ∈ session.configs, ∃ options platform,
    Options.Consistent options ∧ Options.Builds options platform config

theorem consistent_fresh (hostCores : UInt64) :
    ({ hostCores } : Session).Consistent where
  options := Options.consistent_unset
  configs := by
    intro config member
    cases member

namespace Consistent

variable {session : Session}

/-- Every step leaves a session consistent. -/
theorem step (consistent : session.Consistent) (step : Step) :
    (session.step step).1.Consistent := by
  have kept : ∀ options configs, session.Effect step options configs →
      ({ session with options, configs } : Session).Consistent := by
    intro options configs effect
    cases effect with
    | kept => exact consistent
    | stored _ unopposed =>
        exact { consistent with
          options := consistent.options.set
            (Options.set_eq_ok_iff.mpr ⟨unopposed, rfl⟩) }
    | renewed => exact { consistent with options := Options.consistent_unset }
    | built builds =>
        exact { consistent with
          configs := by
            intro config member
            rcases List.mem_append.mp member with former | latest
            · exact consistent.configs config former
            · rw [List.mem_singleton.mp latest]
              exact ⟨_, _, consistent.options, builds⟩ }
    | reopened member =>
        obtain ⟨_, _, former, builds⟩ := consistent.configs _ member
        exact { consistent with options := former.reopen builds }
  have after := kept _ _ (session.effect_step step)
  exact ⟨after.options, after.configs⟩

theorem run (consistent : session.Consistent) (steps : List Step) :
    (session.run steps).Consistent := by
  induction steps generalizing session with
  | nil => exact consistent
  | cons step rest induction => exact induction (consistent.step step)

end Consistent

end Session

end DatagramTls
