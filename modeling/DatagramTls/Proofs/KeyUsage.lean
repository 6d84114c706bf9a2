import DatagramTls.Proofs.Build.Outcome
import DatagramTls.Proofs.Registrations

/-!
The usage that certificates permit. The keys and the signatures of every chain
that is registered count, but of their usage only that of the first leaf: a leaf
that is registered later may be unfit for a side that the connector takes.
-/

namespace DatagramTls

open Build

def Config.Role.takes (role : Config.Role) : Side → Bool
  | .client => !role.serverOnly
  | .server => !role.clientOnly

namespace Registration

variable {registrations : List Registration} {side : Side}

def Fits (registrations : List Registration) (side : Side) : Prop :=
  ∀ leaf ∈ leaves registrations, leaf.permits side = true

/-- An unfit leaf comes after a first one that is fit. -/
structure Masked (registrations : List Registration) (side : Side) : Prop where
  first : ∀ leaf ∈ (leaves registrations).head?, leaf.permits side = true
  unfit : ∃ leaf ∈ (leaves registrations).tail, leaf.permits side = false

theorem mem_leaves_iff {leaf : Certificate} :
    leaf ∈ leaves registrations ↔
      leaf ∈ (leaves registrations).head? ∨
        leaf ∈ (leaves registrations).tail := by
  cases leaves registrations with
  | nil => simp
  | cons first later => simp [eq_comm]

theorem Fits.first (fits : Fits registrations side) :
    ∀ leaf ∈ (leaves registrations).head?, leaf.permits side = true := by
  intro leaf first
  exact fits leaf (mem_leaves_iff.mpr (Or.inl first))

theorem not_fits_of_masked (masked : Masked registrations side) :
    ¬Fits registrations side := by
  intro fits
  obtain ⟨leaf, later, refused⟩ := masked.unfit
  rw [fits leaf (mem_leaves_iff.mpr (Or.inr later))] at refused
  cases refused

theorem fits_iff_of_first
    (first : ∀ leaf ∈ (leaves registrations).head?,
      leaf.permits side = true) :
    Fits registrations side ↔ ¬Masked registrations side := by
  constructor
  · intro fits masked
    exact not_fits_of_masked masked fits
  · intro unmasked leaf member
    rcases mem_leaves_iff.mp member with leading | later
    · exact first leaf leading
    · apply Bool.of_not_eq_false
      intro refused
      exact unmasked ⟨first, leaf, later, refused⟩

end Registration

namespace Requirements

variable {registrations : List Registration} {side : Side}

theorem permits_registerAll_iff :
    (empty.registerAll registrations).permits side = true ↔
      ∀ leaf ∈ (Registration.leaves registrations).head?,
        leaf.permits side = true := by
  rw [permits, leaf_registerAll]
  change ((Registration.leaves registrations).head?.all _) = true ↔ _
  rw [Option.all_eq_true]
  rfl

theorem permits_registerAll_iff_fits_iff :
    ((empty.registerAll registrations).permits side = true ↔
        Registration.Fits registrations side) ↔
      ¬Registration.Masked registrations side := by
  rw [permits_registerAll_iff]
  constructor
  · intro agree masked
    exact Registration.not_fits_of_masked masked (agree.mp masked.first)
  · intro unmasked
    constructor
    · intro first
      exact (Registration.fits_iff_of_first first).mpr unmasked
    · exact Registration.Fits.first

end Requirements

theorem Options.Builds.first_leaf_permits {options : Options}
    {platform : Platform} {config : Config}
    (builds : options.Builds platform config) {identity : Identity}
    (identified : options.credentials.identity = some identity)
    (presented : .x509 ∈ identity.kinds) {registrations : List Registration}
    (stated : identity.registrations = some registrations) {side : Side}
    (taken : config.role.takes side = true) :
    ∀ leaf ∈ (Registration.leaves registrations).head?,
      leaf.permits side = true := by
  intro leaf first
  have registered : options.credentials.registrations = registrations ++
      (options.credentials.verifier.bind (·.registrations)).getD [] := by
    simp [Config.Credentials.registrations, identified, stated]
  have required : options.credentials.requirements? =
      some (Requirements.empty.registerAll
        options.credentials.registrations) := by
    apply Config.Credentials.requirements?_of_stated
    simp [identified, stated]
  have usage := checkKeyUsage_eq_ok_iff.mp builds.keyUsage identity identified
    presented _ required
  rw [← builds.role_eq] at usage
  have permitted : (Requirements.empty.registerAll
      options.credentials.registrations).permits side = true := by
    cases side with
    | client => exact usage.1 (by simpa [Config.Role.takes] using taken)
    | server => exact usage.2 (by simpa [Config.Role.takes] using taken)
  apply Requirements.permits_registerAll_iff.mp permitted
  rw [registered, Registration.leaves, List.filterMap_append]
  simp only [Registration.leaves, Option.mem_def] at first
  simp [List.head?_append, first]

/-- Whatever is registered, whether a side is permitted and whether all leaves
are fit for it agree exactly unless an unfit leaf comes after a first one that
is fit. So a configuration that is built with certificates has only leaves that
are fit for every side it takes exactly unless one is masked like that. -/
theorem Registration.fits_iff_unmasked (registrations : List Registration)
    (side : Side) :
    (((Requirements.empty.registerAll registrations).permits side = true ↔
        Fits registrations side) ↔ ¬Masked registrations side) ∧
      ∀ (options : Options) (platform : Platform) (config : Config)
        (identity : Identity),
        (options.build platform).result = .ok config →
        options.credentials.identity = some identity →
        .x509 ∈ identity.kinds →
        identity.registrations = some registrations →
        config.role.takes side = true →
        (Fits registrations side ↔ ¬Masked registrations side) := by
  refine ⟨Requirements.permits_registerAll_iff_fits_iff, ?_⟩
  intro options platform config identity built identified presented stated taken
  have builds := Options.build_eq_ok_iff.mp built
  exact fits_iff_of_first
    (builds.first_leaf_permits identified presented stated taken)

/-- Two chains whose leaves are fit for both sides. -/
theorem Registration.fits_iff_unmasked_pair :
    let leaf : Certificate :=
      ⟨[1], .ec .secp384r1, .sha384Ecdsa, false, .unrestricted⟩
    let other : Certificate :=
      ⟨[2], .ec .secp384r1, .sha384Ecdsa, false,
        ⟨some true, some ⟨true, true, false⟩⟩⟩
    let registrations : List Registration :=
      [.identityChain [leaf], .identityChain [other]]
    let options : Options :=
      { credentials := ⟨none, some ⟨⟨1⟩, [.x509], some registrations⟩, none⟩ }
    (Requirements.empty.registerAll registrations).permits .client = true ∧
      ∃ config, (options.build (.ofCores 4 .standard)).result = .ok config ∧
        config.role.takes .server = true ∧ Fits registrations .server := by
  intro leaf other registrations options
  have unmasked : ∀ side, ¬Masked registrations side := by
    intro side masked
    obtain ⟨unfit, later, refused⟩ := masked.unfit
    obtain rfl := List.mem_singleton.mp later
    cases side <;> cases refused
  have client := fits_iff_unmasked registrations .client
  have server := fits_iff_unmasked registrations .server
  refine ⟨?_, ?_⟩
  · apply (client.1.mpr (unmasked .client)).mpr
    exact (fits_iff_of_first (by rintro _ ⟨⟩; rfl)).mpr (unmasked .client)
  · obtain ⟨config, built, takes⟩ := exists_of_any_toOption
      (show (options.build (.ofCores 4 .standard)).result.toOption.any
        (·.role.takes .server) = true by decide +kernel)
    exact ⟨config, built, takes, (server.2 options _ config _ built rfl
      List.mem_cons_self rfl takes).mpr (unmasked .server)⟩

/-- Where a leaf for both sides comes first, one for servers only goes unseen,
and a connector that also takes the client's side is built with it; in the other
order the client's side is refused. -/
theorem Registration.fits_masked :
    let leaf : Certificate :=
      ⟨[1], .ec .secp384r1, .sha384Ecdsa, false, .unrestricted⟩
    let other : Certificate :=
      ⟨[2], .ec .secp384r1, .sha384Ecdsa, false,
        ⟨some true, some ⟨true, false, false⟩⟩⟩
    let registrations : List Registration :=
      [.identityChain [leaf], .identityChain [other]]
    let options : Options :=
      { credentials := ⟨none, some ⟨⟨1⟩, [.x509], some registrations⟩, none⟩ }
    (Requirements.empty.registerAll registrations).permits .client = true ∧
      (Requirements.empty.registerAll registrations.reverse).permits .client =
        false ∧
      other ∈ leaves registrations ∧ other.permits .client = false ∧
      ∃ config, (options.build (.ofCores 4 .standard)).result = .ok config ∧
        config.role.takes .client = true := by
  intro leaf other registrations options
  refine ⟨rfl, rfl, by decide, rfl, ?_⟩
  exact exists_of_any_toOption
    (show (options.build (.ofCores 4 .standard)).result.toOption.any
      (·.role.takes .client) = true by decide +kernel)

end DatagramTls
