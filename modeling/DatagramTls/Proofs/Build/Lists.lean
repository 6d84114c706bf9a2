import DatagramTls.Build.Lists
import DatagramTls.Proofs.Build.Suites

/-!
What the rules on signature schemes and groups say. Whether a list is chosen or
derived, what is resolved is not empty and passes the rules for chosen lists.
-/

namespace DatagramTls.Build.Catalog

variable {α : Type} {catalog : Catalog α} {recommendedOnly : Bool}
  {supported : α → Bool} {entries : List α}

theorem checkChosen_eq_ok_iff :
    catalog.checkChosen entries recommendedOnly supported = .ok () ↔
      (recommendedOnly = true →
        ∀ entry ∈ entries, catalog.recommended entry = true) ∧
        ∀ entry ∈ entries, supported entry = true := by
  have allSupported :
      entries.find? (!supported ·) = none ↔
        ∀ entry ∈ entries, supported entry = true := by
    rw [List.find?_eq_none]
    simp
  rw [← allSupported, ← Options.notRecommended_eq_nil_iff catalog.name]
  unfold checkChosen
  cases recommendedOnly <;>
    cases Options.notRecommended catalog.name catalog.recommended entries <;>
    cases entries.find? (!supported ·) <;> simp

theorem unsupported_of_checkChosen_eq_error {cause : ConsistencyError}
    (recommended : recommendedOnly = true →
      ∀ entry ∈ entries, catalog.recommended entry = true)
    (refused : catalog.checkChosen entries recommendedOnly supported =
      .error cause) :
    ∃ entry ∈ entries, supported entry = false ∧
      cause = catalog.unsupported entry := by
  unfold checkChosen at refused
  dsimp only at refused
  rw [if_neg (Options.not_broken recommended)] at refused
  split at refused
  case h_1 entry found =>
      cases refused
      exact ⟨entry, List.mem_of_find?_eq_some found,
        by simpa using List.find?_some found, rfl⟩
  case h_2 => cases refused

theorem checkChosen_nil :
    catalog.checkChosen [] recommendedOnly supported = .ok () := by
  simp [checkChosen_eq_ok_iff]

theorem result_keepUsable (usable : α → Bool) (candidates : List α) :
    (catalog.keepUsable usable candidates).result =
      .ok (candidates.filter usable) := by
  unfold keepUsable
  dsimp only
  cases (candidates.filter (!usable ·)).isEmpty <;> rfl

/-- What is noted of the entries that are left out: each on its own, in order,
and then their number, if there are any. -/
def omissions (catalog : Catalog α) (dropped : List α) (considered : Nat) :
    List Event :=
  if dropped = [] then []
  else
    dropped.map (fun entry => .leftOut catalog.derived (catalog.name entry)) ++
      [.unusable catalog.derived dropped.length considered]

theorem events_keepUsable (usable : α → Bool) (candidates : List α) :
    (catalog.keepUsable usable candidates).events =
      catalog.omissions (candidates.filter (!usable ·)) candidates.length := by
  unfold keepUsable omissions
  dsimp only
  cases candidates.filter (!usable ·) with
  | nil => rfl
  | cons entry rest => rfl

private def requireEntries (catalog : Catalog α) (entries : List α) :
    Attempt (List α) := do
  Attempt.check (if entries.isEmpty then .error catalog.nothingLeft else .ok ())
  pure entries

private theorem events_requireEntries (catalog : Catalog α)
    (entries : List α) : (requireEntries catalog entries).events = [] := by
  cases entries <;> rfl

private theorem requireEntries_eq_ok_iff {resolved : List α} :
    (requireEntries catalog entries).result = .ok resolved ↔
      resolved = entries ∧ entries ≠ [] := by
  rw [requireEntries, Attempt.result_then_eq_ok_iff]
  cases entries with
  | nil => simp
  | cons entry rest => simp [eq_comm (a := resolved)]

private theorem cause_of_requireEntries_eq_error {error : Error}
    (failed : (requireEntries catalog entries).result = .error error) :
    error = .consistency catalog.nothingLeft := by
  rcases Attempt.result_check_then_eq_error_iff.mp failed with
    ⟨cause, empty, rfl⟩ | ⟨_, impossible⟩
  · split at empty
    · cases empty
      rfl
    · cases empty
  · cases impossible

private theorem nonempty?_of_ne_nil (nonempty : entries ≠ []) :
    Config.Algorithms.nonempty? entries = some entries := by
  simp [Config.Algorithms.nonempty?, nonempty]

variable [DecidableEq α] {required chosen resolved : List α}

def usable (catalog : Catalog α) (required : List α) (recommendedOnly : Bool)
    (supported : α → Bool) : List α :=
  (catalog.candidates required).filter fun entry =>
    (!recommendedOnly || catalog.recommended entry) && supported entry

theorem checkChosen_usable :
    catalog.checkChosen
        (catalog.usable required recommendedOnly supported)
        recommendedOnly supported = .ok () := by
  rw [checkChosen_eq_ok_iff]
  constructor
  · intro gate entry member
    have kept := (List.mem_filter.mp member).2
    rw [gate] at kept
    exact (Bool.and_eq_true_iff.mp kept).1
  · intro entry member
    have kept := (List.mem_filter.mp member).2
    exact (Bool.and_eq_true_iff.mp kept).2

private theorem resolve_chosen :
    catalog.resolve (some chosen) required recommendedOnly supported = (do
      Attempt.check (catalog.checkChosen chosen recommendedOnly supported)
      requireEntries catalog chosen) :=
  rfl

private theorem resolve_unset :
    catalog.resolve none required recommendedOnly supported = (do
      let entries ← catalog.keepUsable
        (fun entry =>
          (!recommendedOnly || catalog.recommended entry) && supported entry)
        (catalog.candidates required)
      requireEntries catalog entries) :=
  rfl

theorem resolve_chosen_eq_ok_iff :
    (catalog.resolve (some chosen) required recommendedOnly
        supported).result = .ok resolved ↔
      resolved = chosen ∧ chosen ≠ [] ∧
        catalog.checkChosen chosen recommendedOnly supported = .ok () := by
  rw [resolve_chosen, Attempt.result_then_eq_ok_iff,
    Attempt.result_check_eq_ok_iff, requireEntries_eq_ok_iff]
  constructor
  · rintro ⟨allowed, rfl, nonempty⟩
    exact ⟨rfl, nonempty, allowed⟩
  · rintro ⟨rfl, nonempty, allowed⟩
    exact ⟨allowed, rfl, nonempty⟩

theorem resolve_unset_eq_ok_iff :
    (catalog.resolve none required recommendedOnly supported).result =
        .ok resolved ↔
      resolved = catalog.usable required recommendedOnly supported ∧
        resolved ≠ [] := by
  rw [resolve_unset, Attempt.result_bind_eq_ok_iff]
  simp only [result_keepUsable, Except.ok.injEq, exists_eq_left',
    requireEntries_eq_ok_iff]
  constructor
  · rintro ⟨rfl, nonempty⟩
    exact ⟨rfl, nonempty⟩
  · rintro ⟨rfl, nonempty⟩
    exact ⟨rfl, nonempty⟩

theorem events_resolve_chosen
    (allowed : catalog.checkChosen chosen recommendedOnly supported = .ok ()) :
    (catalog.resolve (some chosen) required recommendedOnly
      supported).events = [] := by
  rw [resolve_chosen,
    Attempt.events_bind_of_ok (Attempt.result_check_eq_ok_iff.mpr allowed)]
  exact events_requireEntries _ _

def dropped (considered entries : List α) : List α :=
  considered.filter (· ∉ entries)

theorem dropped_filter (kept : α → Bool) (considered : List α) :
    dropped considered (considered.filter kept) =
      considered.filter (!kept ·) := by
  apply List.filter_congr
  intro entry member
  simp [member]

theorem events_resolve_unset :
    (catalog.resolve none required recommendedOnly supported).events =
      catalog.omissions
        (dropped (catalog.candidates required)
          (catalog.usable required recommendedOnly supported))
        (catalog.candidates required).length := by
  rw [resolve_unset, Attempt.events_bind_of_ok (result_keepUsable _ _),
    events_requireEntries, List.append_nil, events_keepUsable, usable,
    dropped_filter]

/-- Whether chosen or derived, the entries pass the rules for chosen ones. -/
theorem checkChosen_of_resolve {selected : Option (List α)}
    (succeeded : (catalog.resolve selected required recommendedOnly
      supported).result = .ok resolved) :
    resolved ≠ [] ∧
      catalog.checkChosen resolved recommendedOnly supported = .ok () := by
  cases selected with
  | none =>
      obtain ⟨rfl, nonempty⟩ := resolve_unset_eq_ok_iff.mp succeeded
      exact ⟨nonempty, checkChosen_usable⟩
  | some chosen =>
      obtain ⟨rfl, allowed⟩ := resolve_chosen_eq_ok_iff.mp succeeded
      exact allowed

/-! A list with entries is chosen again when a configuration is reopened. -/

theorem resolve_nonempty?_eq_ok_iff (nonempty : entries ≠ []) :
    (catalog.resolve (Config.Algorithms.nonempty? entries) required
        recommendedOnly supported).result = .ok resolved ↔
      resolved = entries ∧
        catalog.checkChosen entries recommendedOnly supported = .ok () := by
  rw [nonempty?_of_ne_nil nonempty, resolve_chosen_eq_ok_iff]
  simp [nonempty]

theorem unsupported_of_resolve_nonempty? {error : Error}
    (nonempty : entries ≠ [])
    (recommended : recommendedOnly = true →
      ∀ entry ∈ entries, catalog.recommended entry = true)
    (failed : (catalog.resolve (Config.Algorithms.nonempty? entries) required
      recommendedOnly supported).result = .error error) :
    ∃ entry ∈ entries, supported entry = false ∧
      error = .consistency (catalog.unsupported entry) := by
  rw [nonempty?_of_ne_nil nonempty, resolve_chosen] at failed
  rcases Attempt.result_check_then_eq_error_iff.mp failed with
    ⟨cause, refused, rfl⟩ | ⟨allowed, failed⟩
  · obtain ⟨entry, member, missing, rfl⟩ :=
      unsupported_of_checkChosen_eq_error recommended refused
    exact ⟨entry, member, missing, rfl⟩
  · rw [requireEntries_eq_ok_iff.mpr ⟨rfl, nonempty⟩] at failed
    cases failed

/-- A list is refused because of a chosen entry or because nothing is left. -/
theorem cause_of_resolve_eq_error {selected : Option (List α)} {error : Error}
    (failed : (catalog.resolve selected required recommendedOnly
      supported).result = .error error) :
    error = .consistency catalog.nothingLeft ∨
      ∃ chosen ∈ selected, ∃ cause,
        catalog.checkChosen chosen recommendedOnly supported = .error cause ∧
          error = .consistency cause := by
  cases selected with
  | none =>
      rw [resolve_unset] at failed
      rcases Attempt.result_bind_eq_error_iff.mp failed with
        impossible | ⟨entries, _, refused⟩
      · rw [result_keepUsable] at impossible
        cases impossible
      · exact Or.inl (cause_of_requireEntries_eq_error refused)
  | some chosen =>
      rw [resolve_chosen] at failed
      rcases Attempt.result_check_then_eq_error_iff.mp failed with
        found | ⟨_, refused⟩
      · exact Or.inr ⟨chosen, rfl, found⟩
      · exact Or.inl (cause_of_requireEntries_eq_error refused)

end DatagramTls.Build.Catalog
