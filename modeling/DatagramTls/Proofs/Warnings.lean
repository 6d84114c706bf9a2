import DatagramTls.Proofs.Build.Outcome
import DatagramTls.Proofs.Registrations
import Mathlib.Data.List.Basic

/-!
Warnings. Nothing is left out of a derived list without a word: the log of a
build that succeeds warns of each list that is not what it could have been and
of a missing verifier, once each and in a fixed order, and has a record of every
entry left out.
-/

namespace DatagramTls

open Build

namespace Build

def joined {α : Type} (name : α → String) (entries : List α) : String :=
  ", ".intercalate (entries.map name)

/-! Records of derived lists -/

/-- A record for debugging that starts with the kind of list it is about. -/
def Record.isNoteOn (tag kind : String) (record : Record) : Bool :=
  record.level = .debug &&
    (tag ++ kind ++ " ").toList.isPrefixOf record.text.toList

/-- A list of a configuration: its kind, the names of its entries, and whether
and from which candidates it was derived. -/
structure Selection (α : Type) where
  kind : String
  name : α → String
  derived : Bool
  considered : List α
  entries : List α

namespace Selection

variable {α : Type} [DecidableEq α] (selection : Selection α)

def dropped : List α :=
  selection.considered.filter (· ∉ selection.entries)

def notes (tag : String) : List Record :=
  if selection.derived then
    selection.dropped.map fun entry =>
      ⟨.debug, tag ++ s!"{selection.kind} {selection.name entry} left out"⟩
  else []

def warning (tag : String) : List Record :=
  if selection.derived ∧ selection.dropped ≠ [] then
    let lost := selection.dropped.length
    let candidates := selection.considered.length
    [⟨.warn, tag ++
      s!"{lost} of {candidates} default {selection.kind} are not usable"⟩]
  else []

def records (tag : String) : List Record :=
  selection.notes tag ++ selection.warning tag

/-- The log accounts for the candidates that are not in the list: they stand
together, in order and before the warning, and there is no other such record. -/
structure Accounts (tag : String) (log : List Record) : Prop where
  noted : log.filter (·.isNoteOn tag selection.kind) = selection.notes tag
  together : selection.records tag <:+: log
  counted : selection.derived = true → selection.considered.length =
    selection.dropped.length + selection.entries.length

variable {selection} {tag : String} {record : Record}
  {before after : List Record}

theorem isNoteOn_of_mem_notes (member : record ∈ selection.notes tag) :
    record.isNoteOn tag selection.kind = true := by
  unfold notes at member
  split at member
  · obtain ⟨entry, _, rfl⟩ := List.mem_map.mp member
    simp [Record.isNoteOn, toString]
  · cases member

theorem level_of_mem_notes (member : record ∈ selection.notes tag) :
    record.level = .debug := by
  unfold notes at member
  split at member
  · obtain ⟨entry, _, rfl⟩ := List.mem_map.mp member
    rfl
  · cases member

theorem level_of_mem_warning (member : record ∈ selection.warning tag) :
    record.level = .warn := by
  unfold warning at member
  split at member
  · cases List.mem_singleton.mp member
    rfl
  · cases member

theorem warnings_records :
    (selection.records tag).filter (·.level = .warn) =
      selection.warning tag := by
  have silent : (selection.notes tag).filter (·.level = .warn) = [] :=
    List.filter_eq_nil_iff.mpr fun record member => by
      simp [level_of_mem_notes member]
  have loud : (selection.warning tag).filter (·.level = .warn) =
      selection.warning tag :=
    List.filter_eq_self.mpr fun record member => by
      simpa using level_of_mem_warning member
  rw [records, List.filter_append, silent, loud, List.nil_append]

theorem notes_records :
    (selection.records tag).filter (·.isNoteOn tag selection.kind) =
      selection.notes tag := by
  have notes : (selection.notes tag).filter (·.isNoteOn tag selection.kind) =
      selection.notes tag :=
    List.filter_eq_self.mpr fun record member => isNoteOn_of_mem_notes member
  have none :
      (selection.warning tag).filter (·.isNoteOn tag selection.kind) = [] :=
    List.filter_eq_nil_iff.mpr fun record member => by
      simp [Record.isNoteOn, level_of_mem_warning member]
  rw [records, List.filter_append, notes, none, List.append_nil]

theorem accounts_of_append
    (before_silent : ∀ record ∈ before,
      record.isNoteOn tag selection.kind = false)
    (after_silent : ∀ record ∈ after,
      record.isNoteOn tag selection.kind = false)
    (counted : selection.derived = true → selection.considered.length =
      selection.dropped.length + selection.entries.length) :
    selection.Accounts tag (before ++ selection.records tag ++ after) := by
  refine ⟨?_, ⟨before, after, rfl⟩, counted⟩
  have none_before :
      before.filter (·.isNoteOn tag selection.kind) = [] :=
    List.filter_eq_nil_iff.mpr (by simpa using before_silent)
  have none_after : after.filter (·.isNoteOn tag selection.kind) = [] :=
    List.filter_eq_nil_iff.mpr (by simpa using after_silent)
  rw [List.filter_append, List.filter_append, none_before, notes_records,
    none_after, List.nil_append, List.append_nil]

end Selection

theorem Record.isNoteOn_eq_false (start : String) {tag kind message : String}
    {level : Level} (begins : start.toList <+: message.toList)
    (apart : ¬ (kind ++ " ").toList <+: start.toList ∧
      ¬ start.toList <+: (kind ++ " ").toList) :
    isNoteOn tag kind ⟨level, tag ++ message⟩ = false := by
  unfold isNoteOn
  dsimp only
  rw [Bool.and_eq_false_iff, ← Bool.not_eq_true, ← Bool.not_eq_true,
    List.isPrefixOf_iff_prefix, String.append_assoc, String.toList_append,
    @String.toList_append tag message, List.prefix_append_right_inj]
  refine Or.inr fun starts => ?_
  rcases List.prefix_or_prefix_of_prefix starts begins with first | second
  · exact apart.1 first
  · exact apart.2 second

theorem Selection.not_isNoteOn_of_mem_records {α : Type} [DecidableEq α]
    {selection : Selection α} {tag kind : String} {record : Record}
    (apart : ¬ (kind ++ " ").toList <+: (selection.kind ++ " ").toList ∧
      ¬ (selection.kind ++ " ").toList <+: (kind ++ " ").toList)
    (member : record ∈ selection.records tag) :
    record.isNoteOn tag kind = false := by
  rcases List.mem_append.mp member with noted | warned
  · unfold notes at noted
    split at noted
    · obtain ⟨entry, _, rfl⟩ := List.mem_map.mp noted
      exact Record.isNoteOn_eq_false _ (by simp [toString]) apart
    · cases noted
  · simp [Record.isNoteOn, level_of_mem_warning warned]

/-! Events of derived lists -/

namespace Catalog

variable {α : Type} {catalog : Catalog α} [DecidableEq α]
  {considered entries : List α} {derives : Bool}

def derivation (catalog : Catalog α) (derives : Bool)
    (considered entries : List α) : List Event :=
  if derives then
    catalog.omissions (dropped considered entries) considered.length
  else []

def selection (catalog : Catalog α) (derives : Bool)
    (considered entries : List α) : Selection α where
  kind := catalog.derived.label
  name := catalog.name
  derived := derives
  considered
  entries

theorem records_derivation (digest : List UInt8 → List UInt8) (tag : String) :
    (catalog.derivation derives considered entries).map
        (·.record digest tag) =
      (catalog.selection derives considered entries).records tag := by
  cases derives with
  | false => rfl
  | true =>
      unfold derivation omissions Selection.records Selection.notes
        Selection.warning
      change (if dropped considered entries = [] then _ else _ : List Event).map
        _ = List.map _ (dropped considered entries) ++
          if true = true ∧ dropped considered entries ≠ [] then _ else _
      by_cases complete : dropped considered entries = []
      · simp [complete]
      · rw [if_neg complete, if_pos ⟨rfl, complete⟩, List.map_append,
          List.map_map]
        rfl

variable {chosen : Option (List α)} {required : List α}
  {recommendedOnly : Bool} {supported : α → Bool}

theorem events_resolve
    (resolved : (catalog.resolve chosen required recommendedOnly
      supported).result = .ok entries) :
    (catalog.resolve chosen required recommendedOnly supported).events =
      catalog.derivation chosen.isNone (catalog.candidates required)
        entries := by
  cases chosen with
  | none =>
      obtain ⟨rfl, _⟩ := resolve_unset_eq_ok_iff.mp resolved
      exact events_resolve_unset
  | some selected =>
      obtain ⟨_, _, allowed⟩ := resolve_chosen_eq_ok_iff.mp resolved
      exact events_resolve_chosen allowed

theorem counted_of_resolve
    (resolved : (catalog.resolve none required recommendedOnly
      supported).result = .ok entries) :
    (catalog.candidates required).length =
      (dropped (catalog.candidates required) entries).length +
        entries.length := by
  obtain ⟨rfl, _⟩ := resolve_unset_eq_ok_iff.mp resolved
  rw [usable, dropped_filter, Nat.add_comm]
  exact List.length_eq_length_filter_add _

end Catalog

end Build

/-! What is recorded while a configuration is built -/

namespace Config

variable (config : Config)

def unsupportedSuites : List CipherSuite :=
  unsupportedCandidates config.credentials config.role.clientOnly
    config.algorithms.recommendedSuitesOnly config.algorithms.preselected
    config.provider

def verifierEvents : List Event :=
  if config.algorithms.suites.any (·.usesCertificate) ∧
      config.credentials.verifier = none then
    [.verifierMissing]
  else []

def verifierWarning (tag : String) : List Record :=
  if config.algorithms.suites.any (·.usesCertificate) ∧
      config.credentials.verifier = none then
    [⟨.warn, tag ++
      "no certificate verifier, clients can't authenticate with certificates"⟩]
  else []

def finalRecords (digest : List UInt8 → List UInt8) (tag : String)
    (cores : UInt64) : List Record :=
  let suites := joined CipherSuite.name config.algorithms.suites
  let uses := config.capabilities
  let leaf := config.requirements.bind (·.leaf)
  let schemes := joined Scheme.name config.algorithms.schemes
  let groups := joined Group.name config.algorithms.groups
  let connection := config.resources.connectionThreads.toNat
  let receiver := config.resources.receiverThreads.toNat
  [⟨.debug, tag ++ (s!"cipher suites: {suites} (psk: {uses.psk}, " ++
      s!"certificate: {uses.certificate}, ecc: {uses.ecc})")⟩] ++
    leaf.toList.map (fun leaf =>
      ⟨.debug, tag ++ s!"identity certificate {leaf.fingerprint digest}"⟩) ++
    (if uses.ecc then
      [⟨.debug, tag ++ s!"signature algorithms: {schemes}, groups: {groups}"⟩]
    else []) ++
    [⟨.trace, tag ++
      (s!"{connection} connection threads, {receiver} receiver threads " ++
        s!"for {cores.toNat} cores")⟩]

end Config

namespace Options

variable (options : Options) (config : Config)

def suitesEvents : List Event :=
  (if options.algorithms.suites = none ∧ config.unsupportedSuites ≠ [] then
    [.suitesUnsupported config.unsupportedSuites]
  else []) ++
    if options.algorithms.suites = none then
      [.suitesDerived config.algorithms.suites]
    else []

def suitesWarning (tag : String) : List Record :=
  if options.algorithms.suites = none ∧ config.unsupportedSuites ≠ [] then
    let suites := joined CipherSuite.name config.unsupportedSuites
    [⟨.warn, tag ++
      s!"cipher suites not supported by the crypto provider: {suites}"⟩]
  else []

def suitesRecords (tag : String) : List Record :=
  options.suitesWarning config tag ++
    if options.algorithms.suites = none then
      let suites := joined CipherSuite.name config.algorithms.suites
      [⟨.trace, tag ++ s!"derived cipher suites: {suites}"⟩]
    else []

def schemeSelection : Selection Scheme where
  kind := "signature algorithms"
  name := Scheme.name
  derived := config.algorithms.suites.any (·.usesEcc) &&
    options.algorithms.schemes.isNone
  considered :=
    Distinct.addAll Scheme.preferred config.credentials.defaultSchemes
  entries := config.algorithms.schemes

def groupSelection : Selection Group where
  kind := "supported groups"
  name := Group.name
  derived := config.algorithms.suites.any (·.usesEcc) &&
    options.algorithms.groups.isNone
  considered := Distinct.addAll Group.preferred config.credentials.defaultGroups
  entries := config.algorithms.groups

def warnings : List Record :=
  let tag := config.endpoint.loggingTag
  options.suitesWarning config tag ++ config.verifierWarning tag ++
    (options.schemeSelection config).warning tag ++
    (options.groupSelection config).warning tag

variable {options config} {platform : Platform} {record : Record}
  {digest : List UInt8 → List UInt8} {tag : String}

theorem records_suitesEvents :
    (options.suitesEvents config).map (·.record digest tag) =
      options.suitesRecords config tag := by
  unfold suitesEvents suitesRecords suitesWarning
  split <;> split <;> rfl

theorem records_verifierEvents :
    config.verifierEvents.map (·.record digest tag) =
      config.verifierWarning tag := by
  unfold Config.verifierEvents Config.verifierWarning
  split <;> rfl

theorem records_finalEvents {cores : UInt64} :
    (finalEvents config cores).map (·.record digest tag) =
      config.finalRecords digest tag cores := by
  simp only [finalEvents, List.map_append, List.map_map,
    apply_ite (List.map (Event.record digest tag))]
  rfl

namespace Builds

variable (builds : options.Builds platform config)
include builds

theorem events_resolveSuites :
    (options.resolveSuites platform.provider).events =
      options.suitesEvents config := by
  have found := builds.suites
  unfold resolveSuites at found ⊢
  unfold suitesEvents Config.unsupportedSuites
  rw [builds.credentials_eq, builds.role_eq, builds.suitesGate_eq,
    builds.preselected_eq, builds.provider_eq]
  cases explicit : options.algorithms.suites with
  | some chosen =>
      rw [Build.events_resolveSuites_of_chosen explicit found]
      simp
  | none =>
      rw [resolveSuites_of_unset explicit] at found
      rw [← Except.ok.inj found, Build.resolveSuites, explicit]
      dsimp only
      rw [events_deriveSuites]
      simp only [true_and, if_true, ne_eq, ite_not]

theorem events_checkSuites :
    (checkSuites options.credentials options.role.resolve.clientOnly
        options.verifierRequired false config.algorithms.suites).events =
      config.verifierEvents := by
  rw [Build.events_checkSuites builds.equipped, Config.verifierEvents,
    builds.credentials_eq]
  simp

theorem events_resolveLists :
    (options.resolveLists (Capabilities.ofSuites config.algorithms.suites)
        options.credentials.requirements? platform.provider).events =
      schemeCatalog.derivation (options.schemeSelection config).derived
          (options.schemeSelection config).considered
          config.algorithms.schemes ++
        groupCatalog.derivation (options.groupSelection config).derived
          (options.groupSelection config).considered
          config.algorithms.groups := by
  unfold schemeSelection groupSelection
  rw [builds.credentials_eq]
  cases curved : config.algorithms.suites.any (·.usesEcc) with
  | false => exact events_resolveLists_of_not_ecc curved builds.lists
  | true =>
      obtain ⟨schemes, groups⟩ :=
        (resolveLists_eq_ok_iff_of_ecc curved).mp builds.lists
      rw [events_resolveLists_of_ecc curved builds.lists]
      exact congrArg₂ (· ++ ·) (Catalog.events_resolve schemes)
        (Catalog.events_resolve groups)

/-- The log of a build is known from its configuration and from what was set. -/
theorem log_eq :
    options.log digest platform =
      let tag := config.endpoint.loggingTag
      options.suitesRecords config tag ++ config.verifierWarning tag ++
        (options.schemeSelection config).records tag ++
        (options.groupSelection config).records tag ++
        config.finalRecords digest tag platform.cores := by
  have tagged : options.endpoint.resolve = config.endpoint :=
    (congrArg Config.endpoint builds.resolved).symm
  rw [log, Attempt.log, builds.events_eq, builds.events_resolveSuites,
    builds.events_checkSuites, builds.events_resolveLists, tagged]
  simp only [List.map_append, records_suitesEvents, records_verifierEvents,
    records_finalEvents, Catalog.records_derivation, List.append_assoc]
  rfl

theorem counted_schemes
    (derived : (options.schemeSelection config).derived = true) :
    (options.schemeSelection config).considered.length =
      (options.schemeSelection config).dropped.length +
        (options.schemeSelection config).entries.length := by
  obtain ⟨curved, unset⟩ := Bool.and_eq_true_iff.mp derived
  obtain ⟨schemes, _⟩ := (resolveLists_eq_ok_iff_of_ecc curved).mp builds.lists
  unfold resolveSchemes at schemes
  rw [Option.isNone_iff_eq_none.mp unset] at schemes
  unfold Selection.dropped schemeSelection
  rw [builds.credentials_eq]
  exact Catalog.counted_of_resolve schemes

theorem counted_groups
    (derived : (options.groupSelection config).derived = true) :
    (options.groupSelection config).considered.length =
      (options.groupSelection config).dropped.length +
        (options.groupSelection config).entries.length := by
  obtain ⟨curved, unset⟩ := Bool.and_eq_true_iff.mp derived
  obtain ⟨_, groups⟩ := (resolveLists_eq_ok_iff_of_ecc curved).mp builds.lists
  unfold resolveGroups at groups
  rw [Option.isNone_iff_eq_none.mp unset] at groups
  unfold Selection.dropped groupSelection
  rw [builds.credentials_eq]
  exact Catalog.counted_of_resolve groups

end Builds

/-! Records that are no notes on a list -/

theorem not_isNoteOn_of_mem_suitesRecords {kind : String}
    (member : record ∈ options.suitesRecords config tag) :
    record.isNoteOn tag kind = false := by
  unfold suitesRecords suitesWarning at member
  rcases List.mem_append.mp member with warned | derived
  · split at warned
    · cases List.mem_singleton.mp warned
      rfl
    · cases warned
  · split at derived
    · cases List.mem_singleton.mp derived
      rfl
    · cases derived

theorem not_isNoteOn_of_mem_verifierWarning {kind : String}
    (member : record ∈ config.verifierWarning tag) :
    record.isNoteOn tag kind = false := by
  unfold Config.verifierWarning at member
  split at member
  · cases List.mem_singleton.mp member
    rfl
  · cases member

theorem not_isNoteOn_of_mem_finalRecords {kind : String} {cores : UInt64}
    (listed : kind = "signature algorithms" ∨ kind = "supported groups")
    (member : record ∈ config.finalRecords digest tag cores) :
    record.isNoteOn tag kind = false := by
  simp only [Config.finalRecords, List.mem_append, List.mem_singleton,
    List.mem_map, List.mem_ite_nil_right] at member
  rcases member with ((rfl | ⟨leaf, _, rfl⟩) | ⟨_, rfl⟩) | rfl
  · refine Record.isNoteOn_eq_false "cipher suites: " ?_ ?_
    · simp [toString]
    · rcases listed with rfl | rfl <;> decide
  · refine Record.isNoteOn_eq_false "identity certificate " ?_ ?_
    · simp [toString]
    · rcases listed with rfl | rfl <;> decide
  · refine Record.isNoteOn_eq_false "signature algorithms: " ?_ ?_
    · simp [toString]
    · rcases listed with rfl | rfl <;> decide
  · rfl

/-! The log of a build -/

theorem warnings_log (builds : options.Builds platform config) :
    (options.log digest platform).filter (·.level = .warn) =
      options.warnings config := by
  have suites : (options.suitesRecords config config.endpoint.loggingTag).filter
        (·.level = .warn) =
      options.suitesWarning config config.endpoint.loggingTag := by
    unfold suitesRecords suitesWarning
    split <;> split <;> rfl
  have verifier : (config.verifierWarning config.endpoint.loggingTag).filter
        (·.level = .warn) =
      config.verifierWarning config.endpoint.loggingTag := by
    unfold Config.verifierWarning
    split <;> rfl
  have final : (config.finalRecords digest config.endpoint.loggingTag
      platform.cores).filter (·.level = .warn) = [] := by
    refine List.filter_eq_nil_iff.mpr fun record member => ?_
    simp only [Config.finalRecords, List.mem_append, List.mem_singleton,
      List.mem_map, List.mem_ite_nil_right] at member
    rcases member with ((rfl | ⟨leaf, _, rfl⟩) | ⟨_, rfl⟩) | rfl <;> simp
  rw [builds.log_eq]
  simp only [List.filter_append, suites, verifier, final,
    Selection.warnings_records, List.append_nil]
  rfl

/-- The warnings in the log of a build that succeeds are known from its
configuration and from what was set. Of the schemes, and of the groups, the log
has exactly one note for each candidate that was left out, before the warning
that counts them. -/
theorem warnings_of_build (digest : List UInt8 → List UInt8)
    (built : (options.build platform).result = .ok config) :
    (options.log digest platform).filter (·.level = .warn) =
        options.warnings config ∧
      (options.schemeSelection config).Accounts config.endpoint.loggingTag
        (options.log digest platform) ∧
      (options.groupSelection config).Accounts config.endpoint.loggingTag
        (options.log digest platform) := by
  have builds := build_eq_ok_iff.mp built
  -- Neither kind's name starts the other's, so no note is one on both.
  have apart : ¬ ("signature algorithms" ++ " ").toList <+:
        ("supported groups" ++ " ").toList ∧
      ¬ ("supported groups" ++ " ").toList <+:
        ("signature algorithms" ++ " ").toList := by
    decide
  refine ⟨warnings_log builds, ?_, ?_⟩
  · rw [builds.log_eq]
    dsimp only
    rw [List.append_assoc _ ((options.groupSelection config).records _)]
    refine Selection.accounts_of_append ?_ ?_ builds.counted_schemes
    · intro record member
      rcases List.mem_append.mp member with suites | verifier
      · exact not_isNoteOn_of_mem_suitesRecords suites
      · exact not_isNoteOn_of_mem_verifierWarning verifier
    · intro record member
      rcases List.mem_append.mp member with groups | final
      · refine Selection.not_isNoteOn_of_mem_records ?_ groups
        exact apart
      · exact not_isNoteOn_of_mem_finalRecords (Or.inl rfl) final
  · rw [builds.log_eq]
    dsimp only
    refine Selection.accounts_of_append ?_ ?_ builds.counted_groups
    · intro record member
      rcases List.mem_append.mp member with earlier | schemes
      · rcases List.mem_append.mp earlier with suites | verifier
        · exact not_isNoteOn_of_mem_suitesRecords suites
        · exact not_isNoteOn_of_mem_verifierWarning verifier
      · refine Selection.not_isNoteOn_of_mem_records ?_ schemes
        exact apart.symm
    · intro record final
      exact not_isNoteOn_of_mem_finalRecords (Or.inr rfl) final

/-- A server and client without a verifier, on a provider that lacks something
of each list. -/
theorem warnings_of_build_narrow :
    let options : Options :=
      { endpoint := { loggingTag := some "edge" }
        credentials := { identity := some (.ofKey ⟨0⟩ (.ec .secp256r1)) }
        algorithms :=
          { preselected := some [.ecdheEcdsaAes256Ccm, .ecdheEcdsaAes128Ccm8,
              .ecdheEcdsaAes256Ccm8] } }
    let narrow : Platform := .ofCores 4
      ⟨[.ecdheEcdsaAes128Ccm8], [.secp256r1], [.sha256Ecdsa]⟩
    let log := options.log Digest.Sha256.digest narrow
    let warnings : List Record :=
      [⟨.warn, "edge cipher suites not supported by the crypto provider: " ++
          "TLS_ECDHE_ECDSA_WITH_AES_256_CCM, " ++
          "TLS_ECDHE_ECDSA_WITH_AES_256_CCM_8"⟩,
        ⟨.warn, "edge no certificate verifier, " ++
          "clients can't authenticate with certificates"⟩,
        ⟨.warn, "edge 1 of 2 default signature algorithms are not usable"⟩,
        ⟨.warn, "edge 2 of 3 default supported groups are not usable"⟩]
    let notes : List Record :=
      [⟨.debug, "edge supported groups X25519 left out"⟩,
        ⟨.debug, "edge supported groups secp384r1 left out"⟩]
    (∃ config, (options.build narrow).result = .ok config) ∧
      log.filter (·.level = .warn) = warnings ∧
      log.filter (·.isNoteOn "edge " "supported groups") = notes := by
  intro options narrow log warnings notes
  obtain ⟨config, built, computed⟩ := exists_of_any_toOption
    (show (options.build narrow).result.toOption.any (fun config =>
      config.endpoint.loggingTag = "edge " ∧
        options.warnings config = warnings ∧
        (options.groupSelection config).notes "edge " = notes) = true by
      decide +kernel)
  obtain ⟨tagged, warned, noted⟩ := of_decide_eq_true computed
  obtain ⟨warning, _, groups⟩ := warnings_of_build Digest.Sha256.digest built
  rw [tagged] at groups
  exact ⟨⟨config, built⟩, warning.trans warned, groups.noted.trans noted⟩

end Options

end DatagramTls
