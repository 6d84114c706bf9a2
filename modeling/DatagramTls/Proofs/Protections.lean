import DatagramTls.Proofs.RoundTrip

/-!
Protections: the verification of addresses, the filter against replays, and the
gates for algorithms that are not recommended. The settings that depend on each
other agree in what is built, and a protection is only missing where a request
switched it off.
-/

namespace DatagramTls

open Build

/-- What guards a connector unless it is switched off. -/
inductive Protection where
  | helloVerify
  | helloVerifyForPsk
  | antiReplay
  | recommendedSuites
  | recommendedSchemes
  | recommendedGroups

namespace Protection

def slot : Protection → Slot
  | .helloVerify => .helloVerify
  | .helloVerifyForPsk => .helloVerifyForPsk
  | .antiReplay => .antiReplay
  | .recommendedSuites => .recommendedSuitesOnly
  | .recommendedSchemes => .recommendedSchemesOnly
  | .recommendedGroups => .recommendedGroupsOnly

def setting (enabled : Bool) : Protection → Setting
  | .helloVerify => .helloVerify (.enabled enabled)
  | .helloVerifyForPsk => .helloVerify (.enabledForPsk enabled)
  | .antiReplay => .replay (.antiReplay enabled)
  | .recommendedSuites => .algorithms (.recommendedSuitesOnly enabled)
  | .recommendedSchemes => .algorithms (.recommendedSchemesOnly enabled)
  | .recommendedGroups => .algorithms (.recommendedGroupsOnly enabled)

def chosen? (options : Options) : Protection → Option Bool
  | .helloVerify => options.helloVerify.enabled
  | .helloVerifyForPsk => options.helloVerify.enabledForPsk
  | .antiReplay => options.replay.antiReplay
  | .recommendedSuites => options.algorithms.recommendedSuitesOnly
  | .recommendedSchemes => options.algorithms.recommendedSchemesOnly
  | .recommendedGroups => options.algorithms.recommendedGroupsOnly

variable {protection : Protection} {options : Options}

theorem isSet_slot :
    options.isSet protection.slot = (protection.chosen? options).isSome := by
  cases protection <;> rfl

theorem chosen?_store {enabled : Bool} :
    protection.chosen? (options.store (protection.setting enabled)) =
      some enabled := by
  cases protection <;> rfl

theorem exists_setting_of_slot {accepted : Setting}
    (takes : accepted.slot = protection.slot) :
    ∃ enabled, accepted = protection.setting enabled := by
  cases protection <;>
    rcases accepted with s | s | s | s | s | s | s | s | s | s | s | s <;>
    cases s <;> first | exact ⟨_, rfl⟩ | cases takes

end Protection

namespace History

/-- The latest accepted request for the protection switched it off. -/
def SwitchedOff (history : History) (protection : Protection) : Prop :=
  history.latest? protection.slot = some (protection.setting false)

theorem switchedOff_of_chosen (requests : List Request)
    {protection : Protection}
    (off : protection.chosen? (run requests).options = some false) :
    (run requests).SwitchedOff protection := by
  have taken : (run requests).options.isSet protection.slot = true := by
    rw [Protection.isSet_slot, off]
    rfl
  obtain ⟨accepted, latest⟩ := latest?_of_isSet requests _ taken
  obtain ⟨enabled, rfl⟩ :=
    Protection.exists_setting_of_slot (slot_of_latest? latest)
  have held := (holds_latest?_run requests _ _ latest).stored
  have chosen : protection.chosen? (run requests).options = some enabled := by
    rw [← held]
    exact Protection.chosen?_store
  rw [off] at chosen
  cases chosen
  exact latest

/-- Nothing but a request takes a protection away; a window that is extended
stands in for the request not to filter replays. -/
structure OnlySwitchedOff (history : History) (config : Config) : Prop where
  helloVerify : config.helloVerify.enabled = false →
    history.SwitchedOff .helloVerify
  helloVerifyForPsk : config.helloVerify.enabledForPsk = false →
    history.SwitchedOff .helloVerify ∨ history.SwitchedOff .helloVerifyForPsk
  antiReplay : config.replay.antiReplay = false →
    history.SwitchedOff .antiReplay ∨ config.replay.extendedWindow ≠ 0
  recommendedSuites : config.algorithms.recommendedSuitesOnly = false →
    history.SwitchedOff .recommendedSuites
  recommendedSchemes : config.algorithms.recommendedSchemesOnly = false →
    history.SwitchedOff .recommendedSchemes
  recommendedGroups : config.algorithms.recommendedGroupsOnly = false →
    history.SwitchedOff .recommendedGroups

end History

/-- The settings against flooding and replays go with each other, with the role
and with the suites. -/
structure Config.ProtectionsAgree (config : Config) : Prop where
  helloVerify_off : config.helloVerify.enabled = false →
    config.helloVerify.enabledForPsk = false ∧
      config.resumption.verifyThreshold = 0
  helloVerifyForPsk_off : config.helloVerify.enabled = true →
    config.helloVerify.enabledForPsk = false →
      ∃ suite ∈ config.algorithms.suites, suite.usesPsk = true
  clientOnly : config.role.clientOnly = true →
    config.helloVerify.enabled = true ∧
      config.helloVerify.enabledForPsk = true ∧
      config.resumption.serverSessionId = true
  antiReplay : config.replay.antiReplay = true →
    config.replay.extendedWindow = 0

namespace Options.Builds

variable {options : Options} {platform : Platform} {config : Config}
  (builds : options.Builds platform config)
include builds

theorem protectionsAgree : config.ProtectionsAgree where
  helloVerify_off := fun off =>
    ⟨builds.helloVerifyForPsk_of_disabled off,
      builds.verifyThreshold_of_disabled off⟩
  helloVerifyForPsk_off := fun on off =>
    List.any_eq_true.mp (builds.psk_of_disabledForPsk on off)
  clientOnly := fun client =>
    have ⟨enabled, forPsk⟩ := builds.helloVerify_of_clientOnly client
    ⟨enabled, forPsk, builds.serverSessionId_of_clientOnly client⟩
  antiReplay := builds.extendedWindow_of_antiReplay

theorem helloVerify_of_off (off : config.helloVerify.enabled = false) :
    options.helloVerify.enabled = some false := by
  rw [builds.helloVerify_eq] at off
  exact Config.HelloVerify.Options.enabled_resolve_eq_false_iff.mp off

theorem helloVerifyForPsk_of_off
    (off : config.helloVerify.enabledForPsk = false) :
    options.helloVerify.enabled = some false ∨
      options.helloVerify.enabledForPsk = some false := by
  rw [builds.helloVerify_eq] at off
  rcases Option.getD_eq_iff.mp off with chosen | ⟨_, disabled⟩
  · exact Or.inr chosen
  · exact Or.inl
      (Config.HelloVerify.Options.enabled_resolve_eq_false_iff.mp disabled)

theorem antiReplay_of_off (off : config.replay.antiReplay = false) :
    options.replay.antiReplay = some false ∨
      config.replay.extendedWindow ≠ 0 := by
  rw [builds.replay_eq] at off ⊢
  rcases Option.getD_eq_iff.mp off with chosen | ⟨_, extended⟩
  · exact Or.inl chosen
  · exact Or.inr (beq_eq_false_iff_ne.mp extended)

theorem gate_of_off :
    (config.algorithms.recommendedSuitesOnly = false →
        options.algorithms.recommendedSuitesOnly = some false) ∧
      (config.algorithms.recommendedSchemesOnly = false →
        options.algorithms.recommendedSchemesOnly = some false) ∧
      (config.algorithms.recommendedGroupsOnly = false →
        options.algorithms.recommendedGroupsOnly = some false) := by
  rw [builds.suitesGate_eq, builds.schemesGate_eq, builds.groupsGate_eq]
  simp [Option.getD_eq_iff]

end Options.Builds

/-- Whatever was requested, the protections of what is built agree, and none is
missing that was not switched off. -/
theorem History.protections_of_build (requests : List Request)
    {platform : Platform} {config : Config}
    (built : ((run requests).options.build platform).result = .ok config) :
    config.ProtectionsAgree ∧ (run requests).OnlySwitchedOff config := by
  have builds := Options.build_eq_ok_iff.mp built
  obtain ⟨suites, schemes, groups⟩ := builds.gate_of_off
  refine ⟨builds.protectionsAgree, ?_⟩
  exact {
    helloVerify := fun off =>
      switchedOff_of_chosen requests (builds.helloVerify_of_off off)
    helloVerifyForPsk := fun off =>
      (builds.helloVerifyForPsk_of_off off).imp
        (switchedOff_of_chosen requests) (switchedOff_of_chosen requests)
    antiReplay := fun off =>
      (builds.antiReplay_of_off off).imp_left (switchedOff_of_chosen requests)
    recommendedSuites := fun off =>
      switchedOff_of_chosen requests (suites off)
    recommendedSchemes := fun off =>
      switchedOff_of_chosen requests (schemes off)
    recommendedGroups := fun off =>
      switchedOff_of_chosen requests (groups off) }

/-- A server that skips the verification for pre-shared keys and extends its
window; it could not switch the verification off and the filter on. -/
theorem History.protections_of_build_server :
    let requests : List Request :=
      [.byValue (.credentials (.pskStore ⟨⟨0⟩, false⟩)),
        .byValue (.resumption (.verifyThreshold 10)),
        .byValue (.helloVerify (.enabled false)),
        .byValue (.helloVerify (.enabledForPsk false)),
        .byValue (.replay (.extendedWindow 5)),
        .byValue (.replay (.antiReplay true)),
        .byValue (.algorithms (.recommendedSuitesOnly false)),
        .byValue (.algorithms (.recommendedSuitesOnly true))]
    ∃ config,
      ((run requests).options.build (.ofCores 4 .standard)).result =
        .ok config ∧
      config.helloVerify = ⟨true, false, none⟩ ∧
      config.replay = ⟨false, 5, none, true⟩ ∧
      config.ProtectionsAgree ∧ (run requests).OnlySwitchedOff config := by
  intro requests
  have protections :=
    @History.protections_of_build requests (.ofCores 4 .standard) _ rfl
  exact ⟨_, rfl, rfl, rfl, protections.1, protections.2⟩

end DatagramTls
