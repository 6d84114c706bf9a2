import DatagramTls.Build.Suites

/-!
What the rules on cipher suites say. A chosen list is accepted exactly when
every suite in it is allowed and supported, a derived list always meets these
conditions, and a suite is accepted exactly when the credentials serve it.
-/

namespace DatagramTls

open Build

namespace Options

variable {α : Type} {recommended : α → Bool} {entries : List α}

theorem notRecommended_eq_nil_iff (name : α → String) :
    notRecommended name recommended entries = [] ↔
      ∀ entry ∈ entries, recommended entry = true := by
  simp [notRecommended]

theorem unlessRecommended_eq_none_iff {listing : Listing}
    {name : α → String} :
    unlessRecommended listing name recommended entries = none ↔
      ∀ entry ∈ entries, recommended entry = true := by
  rw [← notRecommended_eq_nil_iff name]
  unfold unlessRecommended
  cases notRecommended name recommended entries <;> simp

theorem guard_eq_none_iff {condition : Prop} [Decidable condition]
    {objection : α} {rest : Option α} :
    (if condition then some objection else rest) = none ↔
      ¬condition ∧ rest = none := by
  by_cases broken : condition <;> simp [broken]

/-- What a list of suites holds decides, and what it leaves to handshakes with
pre-shared keys where these are singled out. -/
theorem suiteListObjection?_eq_none_iff {options : Options} {listing : Listing}
    {suites : List CipherSuite} :
    options.suiteListObjection? listing suites = none ↔
      suites ≠ [] ∧ .null ∉ suites ∧
        (options.helloVerify.enabledForPsk = some false →
          ∃ suite ∈ suites, suite.usesPsk = true) := by
  unfold suiteListObjection?
  rw [guard_eq_none_iff, guard_eq_none_iff, guard_eq_none_iff,
    ← List.any_eq_true]
  cases suites.any (·.usesPsk) <;> simp

theorem not_broken {gate : Bool} {name : α → String}
    (allowed : gate = true → ∀ entry ∈ entries, recommended entry = true) :
    ¬(gate && !(notRecommended name recommended entries).isEmpty) = true := by
  intro broken
  obtain ⟨closed, some⟩ := Bool.and_eq_true_iff.mp broken
  have none := (notRecommended_eq_nil_iff name).mpr (allowed closed)
  simp [none] at some

end Options

namespace Build

theorem guard_eq_ok_iff {ε : Type} {condition : Prop} [Decidable condition]
    {error : ε} {rest : Except ε Unit} :
    (if condition then .error error else rest) = .ok () ↔
      ¬condition ∧ rest = .ok () := by
  by_cases broken : condition <;> simp [broken]

/-! Suites of the registry -/

theorem mem_select {recommendedOnly : Bool} {wanted : KeyExchange → Bool}
    {suite : CipherSuite} :
    suite ∈ CipherSuite.select recommendedOnly wanted ↔
      wanted suite.keyExchange = true ∧
        (recommendedOnly = true → suite.isRecommended = true) := by
  simp only [CipherSuite.select, List.mem_filter, CipherSuite.mem_all,
    true_and, Bool.and_eq_true, Bool.or_eq_true, Bool.not_eq_true']
  cases recommendedOnly <;> simp

/-! Chosen suites -/

theorem checkChosenSuites_eq_ok_iff {suites : List CipherSuite}
    {recommendedOnly : Bool} {provider : Provider} :
    checkChosenSuites suites recommendedOnly provider = .ok () ↔
      (recommendedOnly = true →
        ∀ suite ∈ suites, suite.isRecommended = true) ∧
        ∀ suite ∈ suites, provider.supportsSuite suite = true := by
  have supported :
      suites.find? (!provider.supportsSuite ·) = none ↔
        ∀ suite ∈ suites, provider.supportsSuite suite = true := by
    rw [List.find?_eq_none]
    simp
  rw [← supported]
  rw [← Options.notRecommended_eq_nil_iff CipherSuite.name]
  unfold checkChosenSuites
  cases recommendedOnly <;>
    cases Options.notRecommended CipherSuite.name CipherSuite.isRecommended
      suites <;>
    cases suites.find? (!provider.supportsSuite ·) <;> simp

theorem cause_of_checkChosenSuites_eq_error {suites : List CipherSuite}
    {recommendedOnly : Bool} {provider : Provider} {cause : ConsistencyError}
    (refused : checkChosenSuites suites recommendedOnly provider =
      .error cause) :
    (∃ names, cause = .notRecommended .suites names) ∨
      ∃ suite, cause = .unsupportedSuite suite := by
  unfold checkChosenSuites at refused
  dsimp only at refused
  repeat' split at refused
  all_goals cases refused
  · exact Or.inl ⟨_, rfl⟩
  · exact Or.inr ⟨_, rfl⟩

theorem unsupported_of_checkChosenSuites_eq_error {suites : List CipherSuite}
    {recommendedOnly : Bool} {provider : Provider} {cause : ConsistencyError}
    (recommended : recommendedOnly = true →
      ∀ suite ∈ suites, suite.isRecommended = true)
    (refused : checkChosenSuites suites recommendedOnly provider =
      .error cause) :
    ∃ suite ∈ suites, provider.supportsSuite suite = false ∧
      cause = .unsupportedSuite suite := by
  unfold checkChosenSuites at refused
  dsimp only at refused
  rw [if_neg (Options.not_broken recommended)] at refused
  split at refused
  case h_1 suite found =>
      cases refused
      exact ⟨suite, List.mem_of_find?_eq_some found,
        by simpa using List.find?_some found, rfl⟩
  case h_2 => cases refused

/-! Derived suites -/

/-- What a suite is derived from. -/
inductive Derivable (credentials : Config.Credentials) (suite : CipherSuite) :
    Prop
  | certificate {family : KeyFamily}
      (certified : suite.keyExchange = .ecdhe family)
      (known : family ∈ derivedFamilies credentials)
  | ecdhePsk {store : PskStore} (shared : suite.keyExchange = .ecdhePsk)
      (stored : credentials.pskStore = some store)
      (serving : store.servesEcdhe = true)
  | psk {store : PskStore} (shared : suite.keyExchange = .psk)
      (stored : credentials.pskStore = some store)
  | anonymous (unauthenticated : suite.keyExchange = .ecdhAnonymous)

section Deriving

variable {credentials : Config.Credentials} {clientOnly recommendedOnly : Bool}
  {suite : CipherSuite}

theorem derivable_of_mem_certificateSuites
    (certified : suite ∈ certificateSuites credentials recommendedOnly) :
    Derivable credentials suite ∧
      (recommendedOnly = true → suite.isRecommended = true) := by
  unfold certificateSuites at certified
  split at certified
  · obtain ⟨family, wanted, selected⟩ := List.mem_flatMap.mp certified
    obtain ⟨exchange, recommended⟩ := mem_select.mp selected
    have known := List.contains_iff_mem.mp (List.mem_filter.mp wanted).2
    exact ⟨.certificate (beq_iff_eq.mp exchange) known, recommended⟩
  · cases certified

theorem mem_pskSuites {store : PskStore}
    (stored : credentials.pskStore = some store) :
    suite ∈ pskSuites credentials recommendedOnly ↔
      (suite.keyExchange = .psk ∨
        (suite.keyExchange = .ecdhePsk ∧ store.servesEcdhe = true)) ∧
        (recommendedOnly = true → suite.isRecommended = true) := by
  simp only [pskSuites, stored, List.mem_append]
  cases store.servesEcdhe with
  | true => simp [mem_select, or_and_right, or_comm]
  | false => simp [mem_select]

theorem derivable_of_mem_pskSuites
    (shared : suite ∈ pskSuites credentials recommendedOnly) :
    Derivable credentials suite ∧
      (recommendedOnly = true → suite.isRecommended = true) := by
  cases stored : credentials.pskStore with
  | none =>
      rw [pskSuites, stored] at shared
      cases shared
  | some store =>
      obtain ⟨plain | ⟨withEcdhe, serving⟩, recommended⟩ :=
        (mem_pskSuites stored).mp shared
      · exact ⟨.psk plain stored, recommended⟩
      · exact ⟨.ecdhePsk withEcdhe stored serving, recommended⟩

theorem derivable_of_mem_servedSuites
    (served : suite ∈ servedSuites credentials clientOnly recommendedOnly) :
    Derivable credentials suite ∧
      (recommendedOnly = true → suite.isRecommended = true) := by
  unfold servedSuites at served
  dsimp only at served
  split at served
  case isTrue without =>
      obtain ⟨exchange, _⟩ := mem_select.mp served
      refine ⟨.anonymous (beq_iff_eq.mp exchange), fun gate => ?_⟩
      simp [gate] at without
  case isFalse =>
      rcases List.mem_append.mp served with certified | shared
      · exact derivable_of_mem_certificateSuites certified
      · exact derivable_of_mem_pskSuites shared

theorem served_of_mem_candidateSuites
    {preselected : Option (List CipherSuite)}
    (candidate : suite ∈
      candidateSuites credentials clientOnly recommendedOnly preselected) :
    suite ∈ servedSuites credentials clientOnly recommendedOnly := by
  cases preselected with
  | none => exact candidate
  | some suites =>
      have kept := (List.mem_filter.mp candidate).2
      exact List.contains_iff_mem.mp kept

theorem derivable_of_mem_derivedSuites
    {preselected : Option (List CipherSuite)} {provider : Provider}
    (derived : suite ∈ derivedSuites credentials clientOnly recommendedOnly
      preselected provider) :
    Derivable credentials suite ∧
      (recommendedOnly = true → suite.isRecommended = true) := by
  have candidate := (List.mem_filter.mp derived).1
  exact derivable_of_mem_servedSuites (served_of_mem_candidateSuites candidate)

end Deriving

theorem checkChosenSuites_derivedSuites (credentials : Config.Credentials)
    (clientOnly recommendedOnly : Bool)
    (preselected : Option (List CipherSuite)) (provider : Provider) :
    checkChosenSuites
        (derivedSuites credentials clientOnly recommendedOnly preselected
          provider) recommendedOnly provider = .ok () := by
  rw [checkChosenSuites_eq_ok_iff]
  constructor
  · intro gate suite member
    exact (derivable_of_mem_derivedSuites member).2 gate
  · intro suite member
    exact (List.mem_filter.mp member).2

/-! Resolved suites -/

theorem result_deriveSuites (credentials : Config.Credentials)
    (clientOnly recommendedOnly : Bool)
    (preselected : Option (List CipherSuite)) (provider : Provider) :
    (deriveSuites credentials clientOnly recommendedOnly preselected
        provider).result =
      .ok (derivedSuites credentials clientOnly recommendedOnly preselected
        provider) := by
  unfold deriveSuites
  dsimp only
  split <;> rfl

def unsupportedCandidates (credentials : Config.Credentials)
    (clientOnly recommendedOnly : Bool)
    (preselected : Option (List CipherSuite)) (provider : Provider) :
    List CipherSuite :=
  (candidateSuites credentials clientOnly recommendedOnly preselected).filter
    (!provider.supportsSuite ·)

theorem events_deriveSuites (credentials : Config.Credentials)
    (clientOnly recommendedOnly : Bool)
    (preselected : Option (List CipherSuite)) (provider : Provider) :
    (deriveSuites credentials clientOnly recommendedOnly preselected
        provider).events =
      (if unsupportedCandidates credentials clientOnly recommendedOnly
          preselected provider = [] then []
        else
          [.suitesUnsupported (unsupportedCandidates credentials clientOnly
            recommendedOnly preselected provider)]) ++
        [.suitesDerived (derivedSuites credentials clientOnly recommendedOnly
          preselected provider)] := by
  unfold deriveSuites unsupportedCandidates
  dsimp only
  cases (candidateSuites credentials clientOnly recommendedOnly
    preselected).filter (!provider.supportsSuite ·) with
  | nil => rfl
  | cons suite rest => rfl

section Resolving

variable {options : Config.Algorithms.Options}
  {credentials : Config.Credentials} {clientOnly recommendedOnly : Bool}
  {provider : Provider} {suites chosen : List CipherSuite}

theorem resolveSuites_eq_ok_iff_of_chosen
    (explicit : options.suites = some chosen) :
    (resolveSuites options credentials clientOnly recommendedOnly
        provider).result = .ok suites ↔
      suites = chosen ∧
        checkChosenSuites chosen recommendedOnly provider = .ok () := by
  unfold resolveSuites
  rw [explicit]
  constructor
  · intro resolved
    obtain ⟨_, allowed, same⟩ := Attempt.result_bind_eq_ok_iff.mp resolved
    cases same
    exact ⟨rfl, Attempt.result_check_eq_ok_iff.mp allowed⟩
  · rintro ⟨rfl, allowed⟩
    exact Attempt.result_bind_eq_ok_iff.mpr
      ⟨(), Attempt.result_check_eq_ok_iff.mpr allowed, rfl⟩

theorem events_resolveSuites_of_chosen
    (explicit : options.suites = some chosen)
    (resolved : (resolveSuites options credentials clientOnly recommendedOnly
      provider).result = .ok suites) :
    (resolveSuites options credentials clientOnly recommendedOnly
      provider).events = [] := by
  obtain ⟨_, allowed⟩ :=
    (resolveSuites_eq_ok_iff_of_chosen explicit).mp resolved
  unfold resolveSuites
  rw [explicit]
  exact Attempt.events_bind_of_ok (Attempt.result_check_eq_ok_iff.mpr allowed)

theorem resolveSuites_of_unset (unset : options.suites = none) :
    (resolveSuites options credentials clientOnly recommendedOnly
        provider).result =
      .ok (derivedSuites credentials clientOnly recommendedOnly
        options.preselected provider) := by
  unfold resolveSuites
  rw [unset]
  exact result_deriveSuites _ _ _ _ _

theorem checkChosenSuites_of_resolveSuites
    (resolved : (resolveSuites options credentials clientOnly recommendedOnly
      provider).result = .ok suites) :
    checkChosenSuites suites recommendedOnly provider = .ok () := by
  cases explicit : options.suites with
  | none =>
      rw [resolveSuites_of_unset explicit] at resolved
      cases resolved
      exact checkChosenSuites_derivedSuites _ _ _ _ _
  | some chosen =>
      obtain ⟨rfl, allowed⟩ :=
        (resolveSuites_eq_ok_iff_of_chosen explicit).mp resolved
      exact allowed

end Resolving

/-! Suites and credentials -/

theorem usesPsk_of_certified {suite : CipherSuite} {family : KeyFamily}
    (certified : suite.certificateFamily? = some family) :
    suite.usesPsk = false := by
  unfold CipherSuite.certificateFamily? at certified
  unfold CipherSuite.usesPsk
  cases exchange : suite.keyExchange <;> rw [exchange] at certified
  case ecdhe => rfl
  all_goals cases certified

theorem usesEcc_of_usesCertificate {suite : CipherSuite}
    (certified : suite.usesCertificate = true) : suite.usesEcc = true := by
  unfold CipherSuite.usesCertificate CipherSuite.certificateFamily? at certified
  unfold CipherSuite.usesEcc
  cases exchange : suite.keyExchange <;> rw [exchange] at certified
  case ecdhe => rfl
  all_goals cases certified

/-- The credentials hold what the suite authenticates with. -/
structure Equipped (credentials : Config.Credentials)
    (clientOnly verifierRequired : Bool) (suite : CipherSuite) : Prop where
  store : suite.usesPsk = true → ∃ store, credentials.pskStore = some store ∧
    (suite.usesEcc = true → store.servesEcdhe = true)
  identity : suite.usesCertificate = true →
    credentials.identity.isSome = true ∨ clientOnly = true
  family : ∀ family ∈ suite.certificateFamily?,
    ∀ families ∈ credentials.keyFamilies?, family ∈ families
  verifier : suite.usesCertificate = true →
    credentials.verifier.isSome = true ∨
      (clientOnly = false ∧ verifierRequired = false)

section Suite

variable {credentials : Config.Credentials} {clientOnly verifierRequired : Bool}
  {suite : CipherSuite} {family : KeyFamily}

theorem equipped_iff_of_uncertified
    (uncertified : suite.certificateFamily? = none) :
    Equipped credentials clientOnly verifierRequired suite ↔
      (suite.usesPsk = true → ∃ store, credentials.pskStore = some store ∧
        (suite.usesEcc = true → store.servesEcdhe = true)) := by
  constructor
  · intro equipped
    exact equipped.store
  · intro stored
    exact {
      store := stored
      identity := by simp [CipherSuite.usesCertificate, uncertified]
      family := by simp [uncertified]
      verifier := by simp [CipherSuite.usesCertificate, uncertified] }

theorem equipped_iff_of_certified
    (certified : suite.certificateFamily? = some family) :
    Equipped credentials clientOnly verifierRequired suite ↔
      (credentials.identity.isSome = true ∨ clientOnly = true) ∧
        (∀ families ∈ credentials.keyFamilies?, family ∈ families) ∧
        (credentials.verifier.isSome = true ∨
          (clientOnly = false ∧ verifierRequired = false)) := by
  have certificate : suite.usesCertificate = true := by
    simp [CipherSuite.usesCertificate, certified]
  constructor
  · intro equipped
    exact ⟨equipped.identity certificate, equipped.family family certified,
      equipped.verifier certificate⟩
  · intro ⟨identity, known, verifier⟩
    exact {
      store := by simp [usesPsk_of_certified certified]
      identity := fun _ => identity
      family := by
        intro other same
        rw [certified] at same
        cases same
        exact known
      verifier := fun _ => verifier }

theorem checkSuite_of_certified
    (certified : suite.certificateFamily? = some family) :
    checkSuite credentials clientOnly verifierRequired suite =
      if credentials.identity.isNone && !clientOnly then
        .error (.missingIdentity suite)
      else if credentials.keyFamilies?.any (!·.contains family) then
        .error (.incompatibleKey suite family)
      else if credentials.verifier.isNone && (clientOnly || verifierRequired)
        then .error (.missingVerifier suite)
      else .ok () := by
  simp only [checkSuite, usesPsk_of_certified certified, certified,
    Bool.false_eq_true, if_false]

theorem checkSuite_eq_ok_iff :
    checkSuite credentials clientOnly verifierRequired suite = .ok () ↔
      Equipped credentials clientOnly verifierRequired suite := by
  cases certified : suite.certificateFamily? with
  | none =>
      rw [equipped_iff_of_uncertified certified]
      unfold checkSuite
      cases shared : suite.usesPsk with
      | false => simp [certified]
      | true =>
          cases stored : credentials.pskStore with
          | none => simp
          | some store =>
              cases curved : suite.usesEcc <;>
                cases serving : store.servesEcdhe <;> simp [serving]
  | some family =>
      rw [checkSuite_of_certified certified,
        equipped_iff_of_certified certified]
      have identified :
          ¬(credentials.identity.isNone && !clientOnly) = true ↔
            credentials.identity.isSome = true ∨ clientOnly = true := by
        cases credentials.identity <;> simp
      have compatible :
          ¬credentials.keyFamilies?.any (!·.contains family) = true ↔
            ∀ families ∈ credentials.keyFamilies?, family ∈ families := by
        cases credentials.keyFamilies? <;> simp
      have verified :
          ¬(credentials.verifier.isNone &&
              (clientOnly || verifierRequired)) = true ↔
            credentials.verifier.isSome = true ∨
              (clientOnly = false ∧ verifierRequired = false) := by
        cases credentials.verifier <;> simp
      simp only [guard_eq_ok_iff, identified, compatible, verified, and_true]

theorem cause_of_checkSuite_eq_error {cause : ConsistencyError}
    (refused : checkSuite credentials clientOnly verifierRequired suite =
      .error cause) :
    cause ∈ [.missingPskStore suite, .pskStoreWithoutEcdhe suite,
        .missingIdentity suite, .missingVerifier suite] ∨
      ∃ family, cause = .incompatibleKey suite family := by
  unfold checkSuite at refused
  repeat' split at refused
  all_goals cases refused
  all_goals simp

end Suite

section Checking

variable {credentials : Config.Credentials}
  {clientOnly verifierRequired warned : Bool} {suites : List CipherSuite}

theorem result_checkSuites_cons (suite : CipherSuite) :
    (checkSuites credentials clientOnly verifierRequired warned
        (suite :: suites)).result =
      match checkSuite credentials clientOnly verifierRequired suite with
      | .error cause => .error (.consistency cause)
      | .ok () => (checkSuites credentials clientOnly verifierRequired
          (warned || suite.usesCertificate && credentials.verifier.isNone)
          suites).result := by
  rw [checkSuites]
  cases checkSuite credentials clientOnly verifierRequired suite with
  | error cause => rfl
  | ok =>
      cases suite.usesCertificate && credentials.verifier.isNone <;>
        cases warned <;> rfl

theorem checkSuites_eq_ok_iff :
    (checkSuites credentials clientOnly verifierRequired warned
        suites).result = .ok () ↔
      ∀ suite ∈ suites,
        Equipped credentials clientOnly verifierRequired suite := by
  induction suites generalizing warned with
  | nil => simp [checkSuites]
  | cons suite rest induction =>
      rw [result_checkSuites_cons, List.forall_mem_cons,
        ← checkSuite_eq_ok_iff]
      cases outcome :
          checkSuite credentials clientOnly verifierRequired suite with
      | error cause => simp
      | ok => simpa using induction

theorem events_checkSuites_cons {suite : CipherSuite}
    (accepted : checkSuite credentials clientOnly verifierRequired suite =
      .ok ()) :
    (checkSuites credentials clientOnly verifierRequired warned
        (suite :: suites)).events =
      (if suite.usesCertificate && credentials.verifier.isNone && !warned then
          [.verifierMissing]
        else []) ++
        (checkSuites credentials clientOnly verifierRequired
          (warned || suite.usesCertificate && credentials.verifier.isNone)
          suites).events := by
  rw [checkSuites, accepted]
  cases suite.usesCertificate && credentials.verifier.isNone <;>
    cases warned <;> rfl

/-- The warning is noted at the first suite that gives reason to, unless it has
been before, and not again. -/
theorem events_checkSuites
    (equipped : ∀ suite ∈ suites,
      Equipped credentials clientOnly verifierRequired suite) :
    (checkSuites credentials clientOnly verifierRequired warned suites).events =
      if suites.any (·.usesCertificate) && credentials.verifier.isNone &&
          !warned then
        [.verifierMissing]
      else [] := by
  induction suites generalizing warned with
  | nil => rfl
  | cons suite rest induction =>
      -- The flag carries whether an earlier suite gave reason to warn.
      obtain ⟨first, others⟩ := List.forall_mem_cons.mp equipped
      rw [events_checkSuites_cons (checkSuite_eq_ok_iff.mpr first),
        induction others, List.any_cons]
      cases suite.usesCertificate <;> cases credentials.verifier.isNone <;>
        cases warned <;> simp

theorem exists_of_checkSuites_eq_error {error : Error}
    (failed : (checkSuites credentials clientOnly verifierRequired warned
      suites).result = .error error) :
    ∃ suite ∈ suites, ∃ cause,
      checkSuite credentials clientOnly verifierRequired suite =
        .error cause ∧ error = .consistency cause := by
  induction suites generalizing warned with
  | nil => cases failed
  | cons suite rest induction =>
      rw [result_checkSuites_cons] at failed
      cases outcome :
          checkSuite credentials clientOnly verifierRequired suite with
      | error cause =>
          rw [outcome] at failed
          cases failed
          exact ⟨suite, List.mem_cons_self, cause, outcome, rfl⟩
      | ok =>
          rw [outcome] at failed
          obtain ⟨other, member, found⟩ := induction failed
          exact ⟨other, List.mem_cons_of_mem suite member, found⟩

end Checking

end Build

end DatagramTls
