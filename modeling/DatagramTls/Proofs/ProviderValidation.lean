import DatagramTls.Proofs.AlgorithmLists

/-!
Validation of providers. A provider is complete when it protects something and
has what its suites on curves work with. Validation asks for schemes where a
suite uses certificates, and so it also lets a provider pass that lists suites
on curves without certificates and no scheme. Nothing on curves can be built
for such a provider.
-/

namespace DatagramTls

open Build

namespace Provider

variable {provider : Provider}

/-- Some suite protects, and suites on curves have groups and schemes. -/
structure Complete (provider : Provider) : Prop where
  protecting : ∃ suite ∈ provider.suites, suite ≠ .null
  groups : (∃ suite ∈ provider.suites, suite.usesEcc = true) →
    provider.groups ≠ []
  schemes : (∃ suite ∈ provider.suites, suite.usesEcc = true) →
    provider.schemes ≠ []

/-- Suites on curves have groups but no scheme, and none uses certificates. -/
structure Schemeless (provider : Provider) : Prop where
  curved : ∃ suite ∈ provider.suites, suite.usesEcc = true
  uncertified : ∀ suite ∈ provider.suites, suite.usesCertificate = false
  groups : provider.groups ≠ []
  schemes : provider.schemes = []

theorem Schemeless.not_complete (schemeless : provider.Schemeless) :
    ¬provider.Complete := by
  intro complete
  exact complete.schemes schemeless.curved schemeless.schemes

/-! Listed suites -/

theorem usableSuites_ne_nil_iff :
    provider.usableSuites ≠ [] ↔ ∃ suite ∈ provider.suites, suite ≠ .null := by
  simp [usableSuites, List.filter_eq_nil_iff]

private theorem any_usableSuites_iff {uses : CipherSuite → Bool}
    (unused : uses .null = false) :
    provider.usableSuites.any uses = true ↔
      ∃ suite ∈ provider.suites, uses suite = true := by
  rw [List.any_eq_true]
  constructor
  · rintro ⟨suite, usable, used⟩
    exact ⟨suite, (List.mem_filter.mp usable).1, used⟩
  · rintro ⟨suite, listed, used⟩
    refine ⟨suite, List.mem_filter.mpr ⟨listed, ?_⟩, used⟩
    apply decide_eq_true
    rintro rfl
    rw [unused] at used
    cases used

theorem usesEcc_iff : provider.usesEcc = true ↔
    ∃ suite ∈ provider.suites, suite.usesEcc = true :=
  any_usableSuites_iff rfl

theorem usesCertificate_iff : provider.usesCertificate = true ↔
    ∃ suite ∈ provider.suites, suite.usesCertificate = true :=
  any_usableSuites_iff rfl

/-! Validation -/

theorem fault?_eq_none_iff :
    provider.fault? = none ↔
      (∃ suite ∈ provider.suites, suite ≠ .null) ∧
      ((∃ suite ∈ provider.suites, suite.usesEcc = true) →
        provider.groups ≠ []) ∧
      ((∃ suite ∈ provider.suites, suite.usesCertificate = true) →
        provider.schemes ≠ []) := by
  rw [← usableSuites_ne_nil_iff, ← usesEcc_iff, ← usesCertificate_iff]
  unfold fault?
  simp only [Options.guard_eq_none_iff, Bool.and_eq_true, List.isEmpty_iff,
    not_and, ne_eq, and_true]

theorem Complete.accepted (complete : provider.Complete) :
    provider.fault? = none := by
  refine fault?_eq_none_iff.mpr ⟨complete.protecting, complete.groups, ?_⟩
  rintro ⟨suite, listed, certified⟩
  exact complete.schemes ⟨suite, listed, usesEcc_of_usesCertificate certified⟩

theorem Schemeless.accepted (schemeless : provider.Schemeless) :
    provider.fault? = none := by
  obtain ⟨suite, listed, curved⟩ := schemeless.curved
  refine fault?_eq_none_iff.mpr
    ⟨⟨suite, listed, ?_⟩, fun _ => schemeless.groups, ?_⟩
  · rintro rfl
    cases curved
  · rintro ⟨other, known, certified⟩
    rw [schemeless.uncertified other known] at certified
    cases certified

theorem complete_or_schemeless (accepted : provider.fault? = none) :
    provider.Complete ∨ provider.Schemeless := by
  obtain ⟨protecting, groups, schemes⟩ := fault?_eq_none_iff.mp accepted
  by_cases lacking : provider.schemes = [] ∧
      ∃ suite ∈ provider.suites, suite.usesEcc = true
  case pos =>
      obtain ⟨none, curved⟩ := lacking
      refine Or.inr ⟨curved, fun suite listed => ?_, groups curved, none⟩
      apply Bool.eq_false_iff.mpr
      intro certified
      exact schemes ⟨suite, listed, certified⟩ none
  case neg =>
      exact Or.inl ⟨protecting, groups, fun curved none =>
        lacking ⟨none, curved⟩⟩

/-- A provider is accepted exactly when it is complete, or when it lacks nothing
but the schemes of suites that are on curves without certificates. -/
theorem accepted_iff_complete (provider : Provider) :
    (provider.fault? = none ↔ provider.Complete ∨ provider.Schemeless) ∧
      ¬(provider.Complete ∧ provider.Schemeless) := by
  refine ⟨⟨complete_or_schemeless, ?_⟩, ?_⟩
  · rintro (complete | schemeless)
    · exact complete.accepted
    · exact schemeless.accepted
  · rintro ⟨complete, schemeless⟩
    exact schemeless.not_complete complete

/-- Suites on curves with pre-shared keys, and no scheme for them. -/
theorem schemeless_accepted :
    let provider : Provider :=
      ⟨[.ecdhePskAes128GcmSha256], [.secp256r1], []⟩
    provider.fault? = none ∧ ¬provider.Complete := by
  intro provider
  refine ⟨rfl, fun complete => ?_⟩
  exact complete.schemes ⟨_, List.mem_cons_self, rfl⟩ rfl

end Provider

theorem Options.complete_of_build {options : Options} {platform : Platform}
    {config : Config}
    (built : (options.build platform).result = .ok config)
    (curved : ∃ suite ∈ config.algorithms.suites, suite.usesEcc = true) :
    platform.provider.Complete := by
  have builds := build_eq_ok_iff.mp built
  obtain ⟨protecting, groups, _⟩ :=
    Provider.fault?_eq_none_iff.mp builds.provider
  have someScheme := builds.lists_ne_nil_iff.1.mpr curved
  obtain ⟨scheme, used⟩ := List.exists_mem_of_ne_nil _ someScheme
  have listed := builds.servedBy.schemes scheme used
  exact ⟨protecting, groups, fun _ => List.ne_nil_of_mem listed⟩

end DatagramTls
