import DatagramTls.Build.Event

/-!
Attempts: computations that note events on the way and may fail. The events noted before a failure
are kept.
-/

namespace DatagramTls.Build

structure Attempt (α : Type) where
  events : List Event
  result : Except Error α

namespace Attempt

variable {α β : Type}

def succeed (value : α) : Attempt α := ⟨[], .ok value⟩

def bind (attempt : Attempt α) (next : α → Attempt β) : Attempt β :=
  match attempt.result with
  | .error error => ⟨attempt.events, .error error⟩
  | .ok value => ⟨attempt.events ++ (next value).events, (next value).result⟩

instance : Monad Attempt where
  pure := succeed
  bind := bind

def log (digest : List UInt8 → List UInt8) (tag : String) (attempt : Attempt α) : List Record :=
  attempt.events.map (·.record digest tag)

def noteAll (events : List Event) : Attempt Unit := ⟨events, .ok ()⟩

def note (event : Event) : Attempt Unit := noteAll [event]

def check (outcome : Except ConsistencyError α) : Attempt α :=
  ⟨[], outcome.mapError .consistency⟩

def checkProvider (provider : Provider) : Attempt Unit :=
  match provider.fault? with
  | some fault => ⟨[], .error (.provider fault)⟩
  | none => succeed ()

@[simp] theorem result_pure (value : α) : (pure value : Attempt α).result = .ok value := rfl

@[simp] theorem events_pure (value : α) : (pure value : Attempt α).events = [] := rfl

@[simp] theorem result_noteAll (events : List Event) : (noteAll events).result = .ok () := rfl

@[simp] theorem result_note (event : Event) : (note event).result = .ok () := rfl

@[simp] theorem result_check_ok (value : α) : (check (.ok value)).result = .ok value := rfl

@[simp] theorem result_check_error (cause : ConsistencyError) :
    (check (.error cause) : Attempt α).result = .error (.consistency cause) :=
  rfl

@[simp] theorem result_check_eq_ok_iff {outcome : Except ConsistencyError α} {value : α} :
    (check outcome).result = .ok value ↔ outcome = .ok value := by
  cases outcome <;> simp

@[simp] theorem result_check_eq_error_iff {outcome : Except ConsistencyError α} {error : Error} :
    (check outcome).result = .error error ↔
      ∃ cause, outcome = .error cause ∧ error = .consistency cause := by
  cases outcome <;> simp [eq_comm]

@[simp] theorem result_checkProvider_eq_ok_iff {provider : Provider} :
    (checkProvider provider).result = .ok () ↔ provider.fault? = none := by
  unfold checkProvider
  cases provider.fault? <;> simp [succeed]

@[simp] theorem result_checkProvider_eq_error_iff {provider : Provider} {error : Error} :
    (checkProvider provider).result = .error error ↔
      ∃ fault, provider.fault? = some fault ∧ error = .provider fault := by
  unfold checkProvider
  cases provider.fault? <;> simp [succeed, eq_comm]

theorem result_bind_eq_ok_iff {attempt : Attempt α} {next : α → Attempt β} {result : β} :
    (attempt >>= next).result = .ok result ↔
      ∃ value, attempt.result = .ok value ∧ (next value).result = .ok result := by
  change (bind attempt next).result = .ok result ↔ _
  unfold bind
  cases attempt.result <;> simp

theorem result_then_eq_ok_iff {attempt : Attempt Unit} {next : Unit → Attempt β} {result : β} :
    (attempt >>= next).result = .ok result ↔
      attempt.result = .ok () ∧ (next ()).result = .ok result :=
  result_bind_eq_ok_iff.trans ⟨fun ⟨_, first, rest⟩ => ⟨first, rest⟩, fun both => ⟨(), both⟩⟩

theorem result_bind_eq_error_iff {attempt : Attempt α} {next : α → Attempt β} {error : Error} :
    (attempt >>= next).result = .error error ↔
      attempt.result = .error error ∨
        ∃ value, attempt.result = .ok value ∧ (next value).result = .error error := by
  change (bind attempt next).result = .error error ↔ _
  unfold bind
  cases attempt.result <;> simp

theorem result_check_then_eq_error_iff {outcome : Except ConsistencyError Unit}
    {next : Unit → Attempt β} {error : Error} :
    (check outcome >>= next).result = .error error ↔
      (∃ cause, outcome = .error cause ∧ error = .consistency cause) ∨
        outcome = .ok () ∧ (next ()).result = .error error := by
  rw [result_bind_eq_error_iff, result_check_eq_error_iff]
  constructor
  · rintro (refused | ⟨_, passed, failed⟩)
    · exact Or.inl refused
    · exact Or.inr ⟨result_check_eq_ok_iff.mp passed, failed⟩
  · rintro (refused | ⟨passed, failed⟩)
    · exact Or.inl refused
    · exact Or.inr ⟨(), result_check_eq_ok_iff.mpr passed, failed⟩

theorem events_bind_of_ok {attempt : Attempt α} {next : α → Attempt β} {value : α}
    (succeeded : attempt.result = .ok value) :
    (attempt >>= next).events = attempt.events ++ (next value).events := by
  change (bind attempt next).events = _
  simp [bind, succeeded]

@[simp] theorem events_noteAll (events : List Event) : (noteAll events).events = events := rfl

@[simp] theorem events_check (outcome : Except ConsistencyError α) :
    (check outcome).events = [] :=
  rfl

@[simp] theorem events_checkProvider (provider : Provider) :
    (checkProvider provider).events = [] := by
  unfold checkProvider
  cases provider.fault? <;> rfl

/-! Regrouping -/

instance : LawfulMonad Attempt := LawfulMonad.mk' Attempt
  (by
    intro α attempt
    change bind attempt succeed = attempt
    obtain ⟨events, result⟩ := attempt
    cases result <;> simp [bind, succeed])
  (by
    intro α β value next
    change bind (succeed value) next = next value
    simp [bind, succeed])
  (by
    intro α β γ attempt next last
    change bind (bind attempt next) last = bind attempt fun value => bind (next value) last
    cases found : attempt.result with
    | error error => simp [bind, found]
    | ok value => cases followed : (next value).result <;> simp [bind, found, followed])

@[simp] theorem events_map (change : α → β) (attempt : Attempt α) :
    (change <$> attempt).events = attempt.events := by
  rw [map_eq_pure_bind]
  change (bind attempt _).events = _
  unfold bind
  cases attempt.result with
  | error error => rfl
  | ok value => exact List.append_nil _

@[simp] theorem result_map (change : α → β) (attempt : Attempt α) :
    (change <$> attempt).result = attempt.result.map change := by
  rw [map_eq_pure_bind]
  change (bind attempt _).result = _
  unfold bind
  cases attempt.result <;> rfl

end Attempt

end DatagramTls.Build
