import DatagramTls.Error

/-!
What a handshake negotiates. Cipher suites, signature schemes and groups are in order of preference;
preselected suites narrow and order those that follow from the credentials. Extensions also say how
much of a certificate path is sent and checked.
-/

namespace DatagramTls.Config

structure Algorithms where
  suites : List CipherSuite
  preselected : Option (List CipherSuite)
  recommendedSuitesOnly : Bool
  schemes : List Scheme
  recommendedSchemesOnly : Bool
  groups : List Group
  recommendedGroupsOnly : Bool
  deriving DecidableEq

namespace Algorithms

structure Options where
  suites : Option (List CipherSuite) := none
  preselected : Option (List CipherSuite) := none
  recommendedSuitesOnly : Option Bool := none
  schemes : Option (List Scheme) := none
  recommendedSchemesOnly : Option Bool := none
  groups : Option (List Group) := none
  recommendedGroupsOnly : Option Bool := none

inductive Setting where
  | suites (suites : List CipherSuite)
  | preselected (suites : List CipherSuite)
  | recommendedSuitesOnly (enabled : Bool)
  | schemes (schemes : List Scheme)
  | recommendedSchemesOnly (enabled : Bool)
  | groups (groups : List Group)
  | recommendedGroupsOnly (enabled : Bool)

def Options.store (options : Options) : Setting → Options
  | .suites suites => { options with suites := some suites }
  | .preselected suites => { options with preselected := some suites }
  | .recommendedSuitesOnly enabled => { options with recommendedSuitesOnly := some enabled }
  | .schemes schemes => { options with schemes := some schemes }
  | .recommendedSchemesOnly enabled => { options with recommendedSchemesOnly := some enabled }
  | .groups groups => { options with groups := some groups }
  | .recommendedGroupsOnly enabled => { options with recommendedGroupsOnly := some enabled }

/-- A list that is empty because no suite uses it stays unset. -/
def nonempty? {α : Type} (values : List α) : Option (List α) :=
  if values.isEmpty then none else some values

def reopen (algorithms : Algorithms) : Options where
  suites := some algorithms.suites
  preselected := algorithms.preselected
  recommendedSuitesOnly := some algorithms.recommendedSuitesOnly
  schemes := nonempty? algorithms.schemes
  recommendedSchemesOnly := some algorithms.recommendedSchemesOnly
  groups := nonempty? algorithms.groups
  recommendedGroupsOnly := some algorithms.recommendedGroupsOnly

end Algorithms

structure Extensions where
  serverName : Bool
  masterSecret : MasterSecretMode
  truncateClientPath : Bool
  truncateValidatedPath : Bool
  deriving DecidableEq

namespace Extensions

structure Options where
  serverName : Option Bool := none
  masterSecret : Option MasterSecretMode := none
  truncateClientPath : Option Bool := none
  truncateValidatedPath : Option Bool := none

inductive Setting where
  | serverName (enabled : Bool)
  | masterSecret (mode : MasterSecretMode)
  | truncateClientPath (enabled : Bool)
  | truncateValidatedPath (enabled : Bool)

namespace Options

def store (options : Options) : Setting → Options
  | .serverName enabled => { options with serverName := some enabled }
  | .masterSecret mode => { options with masterSecret := some mode }
  | .truncateClientPath enabled => { options with truncateClientPath := some enabled }
  | .truncateValidatedPath enabled => { options with truncateValidatedPath := some enabled }

def resolve (options : Options) : Extensions where
  serverName := options.serverName.getD false
  masterSecret := options.masterSecret.getD .enabled
  truncateClientPath := options.truncateClientPath.getD true
  truncateValidatedPath := options.truncateValidatedPath.getD true

end Options

def reopen (extensions : Extensions) : Options where
  serverName := some extensions.serverName
  masterSecret := some extensions.masterSecret
  truncateClientPath := some extensions.truncateClientPath
  truncateValidatedPath := some extensions.truncateValidatedPath

end Extensions

end DatagramTls.Config
