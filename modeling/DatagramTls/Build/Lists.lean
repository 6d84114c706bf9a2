import DatagramTls.Build.Attempt
import DatagramTls.Options.Objection

/-!
Signature schemes and groups of a configuration. A chosen list has to be allowed and supported as a
whole; a derived one starts with the preferred entries, goes on with what certificates require, and
leaves out what is not usable.
-/

namespace DatagramTls.Build

/-- What the entries of a list are, for choosing and deriving it alike. -/
structure Catalog (α : Type) where
  listing : Listing
  derived : Derived
  name : α → String
  recommended : α → Bool
  preferred : List α
  unsupported : α → ConsistencyError
  nothingLeft : ConsistencyError

def schemeCatalog : Catalog Scheme where
  listing := .schemes
  derived := .schemes
  name := Scheme.name
  recommended := Scheme.isRecommended
  preferred := Scheme.preferred
  unsupported := .unsupportedScheme
  nothingLeft := .noScheme

def groupCatalog : Catalog Group where
  listing := .groups
  derived := .groups
  name := Group.name
  recommended := Group.isRecommended
  preferred := Group.preferred
  unsupported := .unsupportedGroup
  nothingLeft := .noGroup

namespace Catalog

variable {α : Type}

def checkChosen (catalog : Catalog α) (entries : List α) (recommendedOnly : Bool)
    (supported : α → Bool) : Except ConsistencyError Unit :=
  let names := Options.notRecommended catalog.name catalog.recommended entries
  if recommendedOnly && !names.isEmpty then .error (.notRecommended catalog.listing names)
  else
    match entries.find? (!supported ·) with
    | some entry => .error (catalog.unsupported entry)
    | none => .ok ()

/-- Keep the usable candidates, note each one left out, and warn if there were any. -/
def keepUsable (catalog : Catalog α) (usable : α → Bool) (candidates : List α) :
    Attempt (List α) := do
  let dropped := candidates.filter (!usable ·)
  Attempt.noteAll (dropped.map fun entry => .leftOut catalog.derived (catalog.name entry))
  if !dropped.isEmpty then
    Attempt.note (.unusable catalog.derived dropped.length candidates.length)
  pure (candidates.filter usable)

def candidates [DecidableEq α] (catalog : Catalog α) (required : List α) : List α :=
  Distinct.addAll catalog.preferred required

/-- The chosen list, or else the derived one; neither may be empty. -/
def resolve [DecidableEq α] (catalog : Catalog α) (chosen : Option (List α)) (required : List α)
    (recommendedOnly : Bool) (supported : α → Bool) : Attempt (List α) := do
  let entries ←
    match chosen with
    | some entries => do
        Attempt.check (catalog.checkChosen entries recommendedOnly supported)
        pure entries
    | none =>
        catalog.keepUsable
          (fun entry => (!recommendedOnly || catalog.recommended entry) && supported entry)
          (catalog.candidates required)
  Attempt.check (if entries.isEmpty then .error catalog.nothingLeft else .ok ())
  pure entries

end Catalog

end DatagramTls.Build
