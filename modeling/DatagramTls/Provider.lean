import DatagramTls.CipherSuite

/-!
Crypto providers and platforms. A provider lists the suites, groups and schemes that a crypto
backend implements; the suite without protection may be listed but never counts. A configuration is
built for a platform: a number of cores and a provider.
-/

namespace DatagramTls

structure Provider where
  suites : List CipherSuite
  groups : List Group
  schemes : List Scheme
  deriving DecidableEq

namespace Provider

def standard : Provider :=
  ⟨CipherSuite.supported, Group.all, Scheme.all⟩

def usableSuites (provider : Provider) : List CipherSuite :=
  provider.suites.filter (· ≠ .null)

def supportsSuite (provider : Provider) (suite : CipherSuite) : Bool :=
  provider.usableSuites.contains suite

def supportsGroup (provider : Provider) (group : Group) : Bool :=
  provider.groups.contains group

def supportsScheme (provider : Provider) (scheme : Scheme) : Bool :=
  provider.schemes.contains scheme

def usesEcc (provider : Provider) : Bool :=
  provider.usableSuites.any (·.usesEcc)

def usesCertificate (provider : Provider) : Bool :=
  provider.usableSuites.any (·.usesCertificate)

@[simp] theorem supportsSuite_iff {provider : Provider} {suite : CipherSuite} :
    provider.supportsSuite suite = true ↔ suite ∈ provider.suites ∧ suite ≠ .null := by
  simp [supportsSuite, usableSuites]

@[simp] theorem supportsGroup_iff {provider : Provider} {group : Group} :
    provider.supportsGroup group = true ↔ group ∈ provider.groups := by
  simp [supportsGroup]

@[simp] theorem supportsScheme_iff {provider : Provider} {scheme : Scheme} :
    provider.supportsScheme scheme = true ↔ scheme ∈ provider.schemes := by
  simp [supportsScheme]

/-! Validation -/

inductive Fault where
  | noUsableSuite
  | noGroup
  | noScheme
  deriving DecidableEq

def Fault.message : Fault → String
  | .noUsableSuite => "CryptoProvider has no usable cipher suites."
  | .noGroup => "CryptoProvider has ECC cipher suites but no supported groups."
  | .noScheme => "CryptoProvider has certificate based cipher suites but no signature algorithms."

/-- The first thing a provider lacks: a usable suite, a group for suites on curves, or a scheme for
suites with certificates. -/
def fault? (provider : Provider) : Option Fault :=
  if provider.usableSuites.isEmpty then some .noUsableSuite
  else if provider.usesEcc && provider.groups.isEmpty then some .noGroup
  else if provider.usesCertificate && provider.schemes.isEmpty then some .noScheme
  else none

end Provider

/-! Platforms -/

structure Platform where
  cores : UInt64
  provider : Provider
  one_le_cores : 1 ≤ cores

namespace Platform

def ofCores (cores : UInt64) (provider : Provider) : Platform :=
  if one_le : 1 ≤ cores then ⟨cores, provider, one_le⟩ else ⟨1, provider, by decide⟩

def host (cores : UInt64) (installed : Option Provider) : Platform :=
  ofCores cores (installed.getD .standard)

@[simp] theorem provider_ofCores (cores : UInt64) (provider : Provider) :
    (ofCores cores provider).provider = provider := by
  unfold ofCores
  split <;> rfl

end Platform

end DatagramTls
