import DatagramTls.Proofs.Build.Rules
import DatagramTls.Proofs.Registrations

/-!
The order of registrations. Registering adds to lists without repetition, and
what is asked of the requirements depends on what the lists hold alone. So the
order of the registrations matters as little as a registration made again.
-/

namespace DatagramTls.Requirements

variable {requirements left right : Requirements}
  {registrations : List Registration}

/-! Lists without repetition -/

structure Unrepeated (requirements : Requirements) : Prop where
  keyFamilies : requirements.keyFamilies.Nodup
  defaultSchemes : requirements.defaultSchemes.Nodup
  defaultGroups : requirements.defaultGroups.Nodup

theorem unrepeated_empty : empty.Unrepeated :=
  ⟨List.nodup_nil, List.nodup_nil, List.nodup_nil⟩

theorem Unrepeated.registerAll (unrepeated : requirements.Unrepeated)
    (registrations : List Registration) :
    (requirements.registerAll registrations).Unrepeated where
  keyFamilies := Distinct.nodup_addAll List.nodup_nil _
  defaultSchemes := nodup_defaultSchemes_registerAll unrepeated.defaultSchemes
  defaultGroups := nodup_defaultGroups_registerAll unrepeated.defaultGroups

/-! Lists in another order -/

/-- The lists hold the same entries. -/
structure Alike (left right : Requirements) : Prop where
  identityKeys : ∀ key, key ∈ left.identityKeys ↔ key ∈ right.identityKeys
  chainSchemes : ∀ scheme,
    scheme ∈ left.chainSchemes ↔ scheme ∈ right.chainSchemes
  defaultSchemes : ∀ scheme,
    scheme ∈ left.defaultSchemes ↔ scheme ∈ right.defaultSchemes
  defaultGroups : ∀ group,
    group ∈ left.defaultGroups ↔ group ∈ right.defaultGroups

theorem alike_of_perm (requirements : Requirements)
    {permuted : List Registration} (permutation : registrations.Perm permuted) :
    (requirements.registerAll registrations).Alike
      (requirements.registerAll permuted) where
  identityKeys := by
    intro key
    simp only [mem_identityKeys_registerAll, permutation.mem_iff]
  chainSchemes := by
    intro scheme
    simp only [mem_chainSchemes_registerAll, permutation.mem_iff]
  defaultSchemes := by
    intro scheme
    simp only [mem_defaultSchemes_registerAll, permutation.mem_iff]
  defaultGroups := by
    intro group
    simp only [mem_defaultGroups_registerAll, permutation.mem_iff]

/-- What is listed is the same up to its order, and what is accepted is the
same. -/
structure SameAnswers (left right : Requirements) : Prop where
  keyFamilies : left.keyFamilies.Perm right.keyFamilies
  defaultSchemes : left.defaultSchemes.Perm right.defaultSchemes
  defaultGroups : left.defaultGroups.Perm right.defaultGroups
  checkSchemes : ∀ schemes,
    left.checkSchemes schemes = .ok () ↔ right.checkSchemes schemes = .ok ()
  checkGroups : ∀ groups,
    left.checkGroups groups = .ok () ↔ right.checkGroups groups = .ok ()

theorem Alike.sameAnswers (alike : left.Alike right)
    (leftUnrepeated : left.Unrepeated) (rightUnrepeated : right.Unrepeated) :
    left.SameAnswers right where
  keyFamilies := by
    apply (List.perm_ext_iff_of_nodup leftUnrepeated.keyFamilies
      rightUnrepeated.keyFamilies).mpr
    intro family
    simp only [mem_keyFamilies, alike.identityKeys]
  defaultSchemes := (List.perm_ext_iff_of_nodup leftUnrepeated.defaultSchemes
    rightUnrepeated.defaultSchemes).mpr alike.defaultSchemes
  defaultGroups := (List.perm_ext_iff_of_nodup leftUnrepeated.defaultGroups
    rightUnrepeated.defaultGroups).mpr alike.defaultGroups
  checkSchemes := by
    intro schemes
    simp only [checkSchemes_eq_ok_iff, alike.identityKeys, alike.chainSchemes]
  checkGroups := by
    intro groups
    simp only [checkGroups_eq_ok_iff, alike.identityKeys]

/-! Registrations made again -/

theorem register_of_subset {registration : Registration}
    (identityKeys : registration.identityKeys ⊆ requirements.identityKeys)
    (leaf : requirements.leaf.or registration.leaf? = requirements.leaf)
    (chainSchemes : registration.chainSchemes ⊆ requirements.chainSchemes)
    (defaultSchemes :
      registration.defaultSchemes ⊆ requirements.defaultSchemes)
    (defaultGroups : registration.defaultGroups ⊆ requirements.defaultGroups) :
    requirements.register registration = requirements := by
  rw [register_eq, leaf, Distinct.addAll_of_subset identityKeys,
    Distinct.addAll_of_subset chainSchemes,
    Distinct.addAll_of_subset defaultSchemes,
    Distinct.addAll_of_subset defaultGroups]

theorem leaf_registerAll_or_of_mem {registration : Registration}
    (member : registration ∈ registrations) :
    (requirements.registerAll registrations).leaf.or registration.leaf? =
      (requirements.registerAll registrations).leaf := by
  cases found : registration.leaf? with
  | none => exact Option.or_none
  | some leaf =>
      have listed : leaf ∈ Registration.leaves registrations :=
        List.mem_filterMap.mpr ⟨registration, member, found⟩
      rw [leaf_registerAll]
      cases leaves : Registration.leaves registrations with
      | nil =>
          rw [leaves] at listed
          cases listed
      | cons first rest => simp

theorem register_registerAll_of_mem {registration : Registration}
    (member : registration ∈ registrations) :
    (requirements.registerAll registrations).register registration =
      requirements.registerAll registrations := by
  apply register_of_subset
  · intro key added
    exact mem_identityKeys_registerAll.mpr (Or.inr ⟨_, member, added⟩)
  · exact leaf_registerAll_or_of_mem member
  · intro scheme added
    exact mem_chainSchemes_registerAll.mpr (Or.inr ⟨_, member, added⟩)
  · intro scheme added
    exact mem_defaultSchemes_registerAll.mpr (Or.inr ⟨_, member, added⟩)
  · intro group added
    exact mem_defaultGroups_registerAll.mpr (Or.inr ⟨_, member, added⟩)

/-- Whatever is registered, nothing is listed twice, another order gives the
same answers, longer lists are accepted with shorter ones, and a registration
that is made again changes nothing. -/
theorem registerAll_order_irrelevant (registrations : List Registration) :
    let requirements := empty.registerAll registrations
    requirements.Unrepeated ∧
      (∀ permuted, registrations.Perm permuted →
        requirements.SameAnswers (empty.registerAll permuted)) ∧
      (∀ schemes wider, schemes ⊆ wider →
        requirements.checkSchemes schemes = .ok () →
          requirements.checkSchemes wider = .ok ()) ∧
      (∀ groups wider, groups ⊆ wider →
        requirements.checkGroups groups = .ok () →
          requirements.checkGroups wider = .ok ()) ∧
      ∀ registration ∈ registrations,
        requirements.register registration = requirements := by
  intro requirements
  have unrepeated := unrepeated_empty.registerAll registrations
  refine ⟨unrepeated, ?_, ?_, ?_, ?_⟩
  · intro permuted permutation
    exact (alike_of_perm empty permutation).sameAnswers unrepeated
      (unrepeated_empty.registerAll permuted)
  · intro schemes wider subset covered
    exact checkSchemes_of_subset subset covered
  · intro groups wider subset covered
    exact checkGroups_of_subset subset covered
  · intro registration member
    exact register_registerAll_of_mem member

/-- An identity with a chain and a key, and what it trusts, in two orders that
list the schemes differently. -/
theorem registerAll_order_irrelevant_reversed :
    let root : Certificate := ⟨[2], .rsa, .sha1Rsa, true, .unrestricted⟩
    let leaf : Certificate :=
      ⟨[1], .ec .secp384r1, .sha256Rsa, false, .unrestricted⟩
    let registrations : List Registration :=
      [.trustedCertificates [root], .identityChain [leaf, root],
        .identityKey .ed25519]
    let schemes : List Scheme := [.ed25519, .sha256Rsa, .sha384Ecdsa]
    let requirements := empty.registerAll registrations
    let reversed := empty.registerAll registrations.reverse
    requirements.defaultSchemes ≠ reversed.defaultSchemes ∧
      requirements.SameAnswers reversed ∧
      requirements.checkSchemes (.sha512Rsa :: schemes) = .ok () ∧
      requirements.checkGroups [.x25519, .secp384r1] = .ok () ∧
      requirements.register (.identityChain [leaf, root]) = requirements := by
  intro root leaf registrations schemes requirements reversed
  obtain ⟨_, sameAnswers, widerSchemes, widerGroups, again⟩ :=
    registerAll_order_irrelevant registrations
  refine ⟨by decide, ?_, ?_, ?_, ?_⟩
  · exact sameAnswers _ (List.reverse_perm registrations).symm
  · exact widerSchemes schemes _ (List.subset_cons_self _ _) rfl
  · exact widerGroups [.secp384r1] _ (List.subset_cons_self _ _) rfl
  · exact again _ (by simp [registrations])

end DatagramTls.Requirements
