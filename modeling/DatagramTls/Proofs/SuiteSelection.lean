import DatagramTls.Proofs.Build.Suites
import DatagramTls.Proofs.Registrations

/-!
Derived suites as one selection. A build puts families of suites together,
narrows them and drops what the provider lacks. What comes out is the registry
in its own order, or the preselected list in its own, without the entries that
nothing speaks for.
-/

namespace DatagramTls

open Build

/-! The layout of the registry -/

namespace CipherSuite

def exchanges : List KeyExchange :=
  [.ecdhe .ec, .ecdhe .rsa, .ecdhePsk, .psk, .ecdhAnonymous, .null]

theorem all_eq_flatMap_exchanges :
    all = exchanges.flatMap fun exchange =>
      all.filter (·.keyExchange == exchange) := by
  decide

private theorem filter_exchange (recommendedOnly : Bool)
    (wanted : KeyExchange → Bool) (exchange : KeyExchange) :
    (all.filter (·.keyExchange == exchange)).filter (fun suite =>
        wanted suite.keyExchange &&
          (!recommendedOnly || suite.isRecommended)) =
      if wanted exchange then select recommendedOnly (· == exchange)
      else [] := by
  rw [List.filter_filter]
  split
  case isTrue yes =>
      apply List.filter_congr
      intro suite _
      by_cases same : suite.keyExchange = exchange
      · simp [same, yes]
      · simp [beq_false_of_ne same]
  case isFalse no =>
      rw [List.filter_eq_nil_iff]
      intro suite _
      by_cases same : suite.keyExchange = exchange
      · simp [same, no]
      · simp [same]

/-- Since the registry keeps the suites of an exchange together, to select
suites is to select exchanges and to put their suites together. -/
theorem select_eq_flatMap_exchanges (recommendedOnly : Bool)
    (wanted : KeyExchange → Bool) :
    select recommendedOnly wanted = exchanges.flatMap fun exchange =>
      if wanted exchange then select recommendedOnly (· == exchange) else [] := by
  let allowed (suite : CipherSuite) :=
    wanted suite.keyExchange && (!recommendedOnly || suite.isRecommended)
  calc
    select recommendedOnly wanted =
        (exchanges.flatMap fun exchange =>
          all.filter (·.keyExchange == exchange)).filter allowed := by
      rw [← all_eq_flatMap_exchanges]
      rfl
    _ = exchanges.flatMap fun exchange =>
          (all.filter (·.keyExchange == exchange)).filter allowed :=
      List.filter_flatMap
    _ = _ := by simp only [allowed, filter_exchange]

theorem select_ne_nil (recommendedOnly : Bool) {exchange : KeyExchange}
    (authenticated : exchange ∈ exchanges.take 4) :
    select recommendedOnly (· == exchange) ≠ [] := by
  revert exchange
  cases recommendedOnly <;> decide

end CipherSuite

/-! What the credentials speak for -/

namespace Config.Credentials

variable {credentials : Credentials} {family : KeyFamily}

def knownKeys (credentials : Credentials) : List Key :=
  if (credentials.identity.bind (·.registrations)).isSome then
    credentials.registrations.flatMap (·.identityKeys)
  else []

def certifies (credentials : Credentials) (family : KeyFamily) : Bool :=
  (credentials.identity.isSome || credentials.verifier.isSome) &&
    if credentials.knownKeys.isEmpty then family == .ec
    else credentials.knownKeys.any (·.family == family)

/-- Whether a key exchange is of use. One without authentication is of use only
to a client only that has no credentials and allows what is not recommended. -/
def serves (credentials : Credentials) (clientOnly recommendedOnly : Bool) :
    KeyExchange → Bool
  | .ecdhe family => credentials.certifies family
  | .ecdhePsk => credentials.pskStore.any (·.servesEcdhe)
  | .psk => credentials.pskStore.isSome
  | .ecdhAnonymous =>
      clientOnly && !recommendedOnly && credentials.pskStore.isNone &&
        credentials.identity.isNone && credentials.verifier.isNone
  | .null => false

theorem knownKeys_of_silent (silent : credentials.keyFamilies? = none) :
    credentials.knownKeys = [] := by
  cases stated : (credentials.identity.bind (·.registrations)).isSome with
  | false => simp [knownKeys, stated]
  | true => simp [keyFamilies?_of_stated stated] at silent

theorem mem_iff_of_keyFamilies? {families : List KeyFamily}
    (said : credentials.keyFamilies? = some families) :
    family ∈ families ↔ ∃ key ∈ credentials.knownKeys, key.family = family := by
  cases stated : (credentials.identity.bind (·.registrations)).isSome with
  | false => simp [keyFamilies?, stated] at said
  | true =>
      rw [keyFamilies?_of_stated stated] at said
      cases said
      simp [Requirements.mem_keyFamilies,
        Requirements.mem_identityKeys_registerAll, Requirements.empty,
        knownKeys, stated]

theorem knownKeys_eq_nil_iff {families : List KeyFamily}
    (said : credentials.keyFamilies? = some families) :
    credentials.knownKeys = [] ↔ families = [] := by
  simp only [List.eq_nil_iff_forall_not_mem, mem_iff_of_keyFamilies? said]
  constructor
  · rintro none family ⟨key, known, _⟩
    exact none key known
  · intro none key known
    exact none key.family ⟨key, known, rfl⟩

theorem contains_derivedFamilies (credentials : Credentials)
    (family : KeyFamily) :
    (derivedFamilies credentials).contains family =
      if credentials.knownKeys.isEmpty then family == .ec
      else credentials.knownKeys.any (·.family == family) := by
  unfold derivedFamilies
  split
  case h_1 silent =>
      rw [knownKeys_of_silent silent]
      cases family <;> rfl
  case h_2 said =>
      rw [(knownKeys_eq_nil_iff said).mpr rfl]
      cases family <;> rfl
  case h_3 families nonempty said =>
      have known : credentials.knownKeys ≠ [] := by
        rw [Ne, knownKeys_eq_nil_iff said]
        rintro rfl
        exact nonempty rfl
      rw [Bool.eq_iff_iff, List.contains_iff_mem, mem_iff_of_keyFamilies? said]
      simp [known]

theorem certifies_eq_false_iff :
    (∀ family, credentials.certifies family = false) ↔
      credentials.identity = none ∧ credentials.verifier = none := by
  have some_family : ∃ family,
      (if credentials.knownKeys.isEmpty then family == .ec
        else credentials.knownKeys.any (·.family == family)) = true := by
    cases credentials.knownKeys with
    | nil => exact ⟨.ec, rfl⟩
    | cons key rest => exact ⟨key.family, by simp⟩
  obtain ⟨family, known⟩ := some_family
  constructor
  · intro none
    have neither := none family
    rw [certifies, known, Bool.and_true] at neither
    simpa using neither
  · rintro ⟨unidentified, unverified⟩ family
    simp [certifies, unidentified, unverified]

end Config.Credentials

/-! Families put together -/

namespace Build

variable (credentials : Config.Credentials) (clientOnly recommendedOnly : Bool)

def exchangeSuites (exchange : KeyExchange) : List CipherSuite :=
  if credentials.serves clientOnly recommendedOnly exchange then
    CipherSuite.select recommendedOnly (· == exchange)
  else []

theorem certificateSuites_eq :
    certificateSuites credentials recommendedOnly =
      exchangeSuites credentials clientOnly recommendedOnly (.ecdhe .ec) ++
        exchangeSuites credentials clientOnly recommendedOnly (.ecdhe .rsa) := by
  unfold certificateSuites exchangeSuites
  simp only [Config.Credentials.serves, Config.Credentials.certifies,
    ← Config.Credentials.contains_derivedFamilies]
  cases credentials.identity.isSome || credentials.verifier.isSome with
  | false => rfl
  | true =>
      generalize (derivedFamilies credentials).contains = known
      cases ec : known .ec <;> cases rsa : known .rsa <;>
        simp [ec, rsa]

theorem pskSuites_eq :
    pskSuites credentials recommendedOnly =
      exchangeSuites credentials clientOnly recommendedOnly .ecdhePsk ++
        exchangeSuites credentials clientOnly recommendedOnly .psk := by
  unfold pskSuites exchangeSuites
  cases stored : credentials.pskStore with
  | none => simp [Config.Credentials.serves, stored]
  | some store => simp [Config.Credentials.serves, stored]

theorem exchangeSuites_eq_nil_iff {exchange : KeyExchange}
    (authenticated : exchange ∈ CipherSuite.exchanges.take 4) :
    exchangeSuites credentials clientOnly recommendedOnly exchange = [] ↔
      credentials.serves clientOnly recommendedOnly exchange = false := by
  unfold exchangeSuites
  have selected := CipherSuite.select_ne_nil recommendedOnly authenticated
  cases credentials.serves clientOnly recommendedOnly exchange <;>
    simp [selected]

theorem certificateSuites_append_pskSuites_eq_nil_iff :
    certificateSuites credentials recommendedOnly ++
        pskSuites credentials recommendedOnly = [] ↔
      credentials.pskStore = none ∧ credentials.identity = none ∧
        credentials.verifier = none := by
  have certified :
      certificateSuites credentials recommendedOnly = [] ↔
        ∀ family, credentials.certifies family = false := by
    rw [certificateSuites_eq credentials false, List.append_eq_nil_iff,
      exchangeSuites_eq_nil_iff _ _ _ (by decide),
      exchangeSuites_eq_nil_iff _ _ _ (by decide)]
    constructor
    · rintro ⟨ec, rsa⟩ family
      cases family with
      | ec => exact ec
      | rsa => exact rsa
    · intro none
      exact ⟨none .ec, none .rsa⟩
  have shared :
      pskSuites credentials recommendedOnly = [] ↔
        credentials.pskStore = none := by
    rw [pskSuites_eq credentials false, List.append_eq_nil_iff,
      exchangeSuites_eq_nil_iff _ _ _ (by decide),
      exchangeSuites_eq_nil_iff _ _ _ (by decide)]
    cases stored : credentials.pskStore <;>
      simp [Config.Credentials.serves, stored]
  rw [List.append_eq_nil_iff, certified, shared,
    Config.Credentials.certifies_eq_false_iff]
  exact and_comm

/-- Suites without authentication stand in where nothing else is served, so they
can as well be put after the others. -/
theorem servedSuites_eq_append :
    servedSuites credentials clientOnly recommendedOnly =
      (certificateSuites credentials recommendedOnly ++
          pskSuites credentials recommendedOnly) ++
        exchangeSuites credentials clientOnly recommendedOnly
          .ecdhAnonymous := by
  have without := certificateSuites_append_pskSuites_eq_nil_iff credentials
    recommendedOnly
  unfold servedSuites
  generalize certificateSuites credentials recommendedOnly ++
    pskSuites credentials recommendedOnly = authenticated at without ⊢
  dsimp only
  split
  case isTrue stands =>
      simp only [Bool.and_eq_true, List.isEmpty_iff, Bool.not_eq_true'] at stands
      obtain ⟨⟨rfl, client⟩, gate⟩ := stands
      obtain ⟨unstored, unidentified, unverified⟩ := without.mp rfl
      simp [exchangeSuites, Config.Credentials.serves, unstored, unidentified,
        unverified, client, gate]
  case isFalse stays =>
      have unserved :
          credentials.serves clientOnly recommendedOnly .ecdhAnonymous =
            false := by
        rw [← Bool.not_eq_true]
        intro serves
        simp only [Config.Credentials.serves, Bool.and_eq_true,
          Option.isNone_iff_eq_none] at serves
        obtain ⟨⟨⟨⟨client, gate⟩, unstored⟩, unidentified⟩, unverified⟩ := serves
        have empty := without.mpr ⟨unstored, unidentified, unverified⟩
        exact stays (by simp [empty, client, gate])
      simp [exchangeSuites, unserved]

/-- What the credentials serve is one selection from the registry. -/
theorem servedSuites_eq_select :
    servedSuites credentials clientOnly recommendedOnly =
      CipherSuite.select recommendedOnly
        (credentials.serves clientOnly recommendedOnly) := by
  have unprotected :
      exchangeSuites credentials clientOnly recommendedOnly .null = [] := rfl
  rw [servedSuites_eq_append, certificateSuites_eq credentials clientOnly,
    pskSuites_eq credentials clientOnly,
    CipherSuite.select_eq_flatMap_exchanges]
  change _ = CipherSuite.exchanges.flatMap
    (exchangeSuites credentials clientOnly recommendedOnly)
  simp only [CipherSuite.exchanges, List.flatMap_cons, List.flatMap_nil,
    unprotected, List.append_nil, List.append_assoc]

/-! Derivation -/

variable (provider : Provider)

def derives (suite : CipherSuite) : Bool :=
  provider.supportsSuite suite &&
    (!recommendedOnly || suite.isRecommended) &&
    credentials.serves clientOnly recommendedOnly suite.keyExchange

/-- Suites are derived one by one, each for what it is, in the order of the
registry or of the preselected list. -/
theorem derivedSuites_eq_filter (preselected : Option (List CipherSuite)) :
    derivedSuites credentials clientOnly recommendedOnly preselected provider =
      (preselected.getD CipherSuite.all).filter
        (derives credentials clientOnly recommendedOnly provider) := by
  cases preselected with
  | none =>
      simp only [derivedSuites, candidateSuites, servedSuites_eq_select,
        CipherSuite.select, List.filter_filter, Option.getD_none]
      apply List.filter_congr
      intro suite _
      rw [derives, Bool.and_comm (credentials.serves _ _ _), Bool.and_assoc]
  | some suites =>
      simp only [derivedSuites, candidateSuites, servedSuites_eq_select,
        List.filter_filter, Option.getD_some]
      apply List.filter_congr
      intro suite _
      rw [Bool.eq_iff_iff]
      simp only [derives, Bool.and_eq_true, List.contains_iff_mem, mem_select]
      cases recommendedOnly <;> simp [and_assoc, and_comm]

/-- A derivation never fails. Its suites are the derivable ones of the registry
in the registry's order and each once; or, where a list is preselected, those of
the list in its order and as often. -/
theorem deriveSuites_eq_filter (preselected : Option (List CipherSuite)) :
    (deriveSuites credentials clientOnly recommendedOnly preselected
        provider).result =
        .ok ((preselected.getD CipherSuite.all).filter
          (derives credentials clientOnly recommendedOnly provider)) ∧
      (CipherSuite.all.filter
        (derives credentials clientOnly recommendedOnly provider)).Nodup := by
  rw [result_deriveSuites, derivedSuites_eq_filter]
  exact ⟨rfl, CipherSuite.nodup_all.filter _⟩

-- A store without ECDHE leaves two of three, in the order of the preselection.
example :
    (deriveSuites { pskStore := some ⟨⟨0⟩, false⟩ } false true
        (some [.pskAes256Ccm8, .ecdhePskAes128GcmSha256, .pskAes128Ccm8])
        .standard).result.toOption =
      some [.pskAes256Ccm8, .pskAes128Ccm8] := by
  decide +kernel

end Build

end DatagramTls
