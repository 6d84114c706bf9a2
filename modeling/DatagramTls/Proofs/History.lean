import DatagramTls.Proofs.Consistency

/-!
Histories of requests. A request that fails changes nothing, and of those that
succeed the latest one of each slot is what the options hold, whatever was
asked for in between.
-/

namespace DatagramTls

/-- Options after some requests, with the settings that were accepted, the
latest first. -/
structure History where
  options : Options := .unset
  accepted : List Setting := []

namespace History

def request (history : History) (request : Request) : History :=
  match request.setting with
  | .error _ => history
  | .ok setting =>
      match history.options.set setting with
      | .error _ => history
      | .ok options => { options, accepted := setting :: history.accepted }

def run (requests : List Request) : History :=
  requests.foldl request {}

/-- The latest setting of the slot that was accepted. -/
def latest? (history : History) (slot : Slot) : Option Setting :=
  history.accepted.find? (·.slot = slot)

variable {history : History}

theorem request_of_refused {request : Request} {error : OptionError}
    (refused : history.options.request request = .error error) :
    history.request request = history := by
  unfold Options.request at refused
  unfold History.request
  cases named : request.setting with
  | error => rfl
  | ok setting =>
      rw [named] at refused
      have refused : history.options.set setting = .error error := refused
      simp only [refused]

theorem request_of_accepted {request : Request} {options : Options}
    (accepted : history.options.request request = .ok options) :
    ∃ setting, history.options.objection? setting = none ∧
      options = history.options.store setting ∧
      history.request request =
        { options, accepted := setting :: history.accepted } := by
  obtain ⟨setting, named, unopposed, rfl⟩ :=
    Options.request_eq_ok_iff.mp accepted
  have stored := Options.set_eq_ok_iff.mpr ⟨unopposed, rfl⟩
  refine ⟨setting, unopposed, rfl, ?_⟩
  simp only [History.request, named, stored]

/-- What holds without requests and is kept by each request holds after any. -/
theorem run_induction {motive : History → Prop} (initial : motive {})
    (step : ∀ history request, motive history → motive (history.request request))
    (requests : List Request) : motive (run requests) := by
  have general : ∀ history, motive history →
      motive (requests.foldl History.request history) := by
    induction requests with
    | nil => exact fun _ held => held
    | cons first rest induction =>
        intro history held
        exact induction _ (step history first held)
  exact general {} initial

/-! Histories and sessions -/

theorem options_run_requests (hostCores : UInt64) (requests : List Request) :
    (Session.run { hostCores } (requests.map .request)).options =
      (run requests).options := by
  have general : ∀ (session : Session) (history : History),
      session.options = history.options →
        (session.run (requests.map .request)).options =
          (requests.foldl request history).options := by
    induction requests with
    | nil =>
        intro session history same
        exact same
    | cons first rest induction =>
        intro session history same
        apply induction
        dsimp only [Session.step]
        rw [same]
        split
        case h_1 options accepted =>
            obtain ⟨_, _, _, recorded⟩ := request_of_accepted accepted
            rw [recorded]
        case h_2 error refused =>
            rw [request_of_refused refused]
            exact same
  exact general { hostCores } {} rfl

theorem consistent_run (requests : List Request) :
    (run requests).options.Consistent := by
  rw [← options_run_requests 0 requests]
  exact ((Session.consistent_fresh 0).run _).options

end History

/-! Storing settings -/

namespace Options

theorem store_store (options : Options) (setting : Setting) :
    (options.store setting).store setting = options.store setting := by
  rcases setting with s | s | s | s | s | s | s | s | s | s | s | s <;>
    cases s <;> rfl

theorem store_comm (options : Options) {first second : Setting}
    (distinct : first.slot ≠ second.slot) :
    (options.store first).store second =
      (options.store second).store first := by
  -- Topics have fields of their own, and within a topic so have the slots.
  rcases first with s | s | s | s | s | s | s | s | s | s | s | s <;>
    rcases second with t | t | t | t | t | t | t | t | t | t | t | t <;>
    first
      | rfl
      | cases s <;> cases t <;> first | rfl | exact absurd rfl distinct

theorem isSet_store_of_ne (options : Options) {setting : Setting} {slot : Slot}
    (other : setting.slot ≠ slot) :
    (options.store setting).isSet slot = options.isSet slot := by
  -- As above, each slot is a field of one topic.
  cases slot <;>
    rcases setting with s | s | s | s | s | s | s | s | s | s | s | s <;>
    first
      | rfl
      | cases s <;> first | rfl | exact absurd rfl other

end Options

/-! The latest settings -/

namespace History

/-- The options hold the setting, and nothing spoke against it when it was
accepted. -/
structure Holds (history : History) (setting : Setting) : Prop where
  stored : history.options.store setting = history.options
  unopposed : ∃ options : Options, options.objection? setting = none

variable {history : History}

theorem latest?_of_accepted {options : Options} {setting : Setting} {slot : Slot}
    {accepted : List Setting} :
    latest? { options, accepted := setting :: accepted } slot =
      if setting.slot = slot then some setting
      else latest? { options, accepted } slot := by
  unfold latest?
  rw [List.find?_cons]
  by_cases same : setting.slot = slot <;> simp [same]

theorem slot_of_latest? {slot : Slot} {setting : Setting}
    (latest : history.latest? slot = some setting) : setting.slot = slot := by
  unfold latest? at latest
  have found := List.find?_some latest
  exact of_decide_eq_true found

theorem holds_latest?_request (request : Request)
    (held : ∀ slot, ∀ setting ∈ history.latest? slot, history.Holds setting) :
    ∀ slot, ∀ setting ∈ (history.request request).latest? slot,
      (history.request request).Holds setting := by
  intro slot setting latest
  cases outcome : history.options.request request with
  | error error =>
      rw [request_of_refused outcome] at latest ⊢
      exact held slot setting latest
  | ok options =>
      obtain ⟨accepted, unopposed, rfl, recorded⟩ := request_of_accepted outcome
      rw [recorded] at latest ⊢
      rw [latest?_of_accepted] at latest
      split at latest
      case isTrue same =>
          cases latest
          exact {
            stored := Options.store_store _ _
            unopposed := ⟨_, unopposed⟩ }
      case isFalse other =>
          -- The setting was held before, and the new one takes another slot.
          have former := held slot setting latest
          have slots : setting.slot ≠ accepted.slot := by
            rw [slot_of_latest? latest]
            exact fun same => other same.symm
          exact {
            stored := by
              calc
                (history.options.store accepted).store setting =
                    (history.options.store setting).store accepted :=
                  (Options.store_comm _ slots).symm
                _ = history.options.store accepted := by rw [former.stored]
            unopposed := former.unopposed }

theorem holds_latest?_run (requests : List Request) :
    ∀ slot, ∀ setting ∈ (run requests).latest? slot,
      (run requests).Holds setting := by
  apply run_induction (motive := fun history =>
    ∀ slot, ∀ setting ∈ history.latest? slot, history.Holds setting)
  · intro slot setting latest
    cases latest
  · exact fun _ => holds_latest?_request

theorem latest?_of_isSet_request (request : Request)
    (known : ∀ slot, history.options.isSet slot = true →
      ∃ setting, history.latest? slot = some setting) :
    ∀ slot, (history.request request).options.isSet slot = true →
      ∃ setting, (history.request request).latest? slot = some setting := by
  intro slot taken
  cases outcome : history.options.request request with
  | error error =>
      rw [request_of_refused outcome] at taken ⊢
      exact known slot taken
  | ok options =>
      obtain ⟨accepted, _, rfl, recorded⟩ := request_of_accepted outcome
      rw [recorded] at taken ⊢
      rw [latest?_of_accepted]
      by_cases same : accepted.slot = slot
      · exact ⟨accepted, if_pos same⟩
      · rw [if_neg same]
        apply known
        rwa [Options.isSet_store_of_ne _ same] at taken

theorem latest?_of_isSet (requests : List Request) :
    ∀ slot, (run requests).options.isSet slot = true →
      ∃ setting, (run requests).latest? slot = some setting := by
  apply run_induction (motive := fun history =>
    ∀ slot, history.options.isSet slot = true →
      ∃ setting, history.latest? slot = some setting)
  · intro slot taken
    cases slot <;> cases taken
  · exact fun _ => latest?_of_isSet_request

theorem not_isSet_of_latest? (requests : List Request) {slot : Slot}
    (none : (run requests).latest? slot = none) :
    ¬(run requests).options.isSet slot = true := by
  intro taken
  obtain ⟨setting, latest⟩ := latest?_of_isSet requests slot taken
  rw [none] at latest
  cases latest

end History

end DatagramTls
