import DatagramTls.Proofs.Build.Outcome
import DatagramTls.Session

/-!
What the steps of a session do. Whatever a step is, it has one of few effects on
the options and the configurations, so what each effect keeps holds after any
run.
-/

namespace DatagramTls.Session

/-- The options and configurations after a step. -/
inductive Effect (session : Session) : Step → Options → List Config → Prop
  | kept (step : Step) : session.Effect step session.options session.configs
  | stored {request : Request} {setting : Setting}
      (named : request.setting = .ok setting)
      (unopposed : session.options.objection? setting = none) :
      session.Effect (.request request) (session.options.store setting)
        session.configs
  | renewed : session.Effect .renew .unset session.configs
  | built {target : Target} {config : Config}
      (builds : session.options.Builds (session.platform target) config) :
      session.Effect (.build target) session.options
        (session.configs ++ [config])
  | reopened {index : Nat} {config : Config}
      (member : config ∈ session.configs) :
      session.Effect (.reopen index) config.reopen session.configs

theorem effect_step (session : Session) (step : Step) :
    session.Effect step (session.step step).1.options
      (session.step step).1.configs := by
  cases step with
  | request request =>
      dsimp only [Session.step]
      split
      case h_1 options outcome =>
          obtain ⟨setting, named, unopposed, rfl⟩ :=
            Options.request_eq_ok_iff.mp outcome
          exact .stored named unopposed
      case h_2 => exact .kept _
  | renew => exact .renewed
  | build target =>
      dsimp only [Session.step, Session.build]
      split
      case h_1 config outcome =>
          exact .built (Options.build_eq_ok_iff.mp outcome)
      case h_2 => exact .kept _
  | reopen index =>
      dsimp only [Session.step]
      split
      case h_1 config found => exact .reopened (List.mem_of_getElem? found)
      case h_2 => exact .kept _
  | compare first second =>
      dsimp only [Session.step]
      split <;> exact .kept _
  | install provider =>
      dsimp only [Session.step]
      split <;> exact .kept _

theorem hostCores_step (session : Session) (step : Step) :
    (session.step step).1.hostCores = session.hostCores := by
  cases step with
  | renew => rfl
  | build target =>
      dsimp only [Session.step, Session.build]
      split <;> rfl
  | request _ | reopen _ | compare _ _ | install _ =>
      dsimp only [Session.step]
      split <;> rfl

theorem effect_induction {motive : Options → List Config → Prop}
    {hostCores : UInt64} {steps : List Step} (initial : motive .unset [])
    (effect : ∀ session : Session, session.hostCores = hostCores →
      motive session.options session.configs →
        ∀ step ∈ steps, ∀ options configs,
          session.Effect step options configs → motive options configs) :
    motive (run { hostCores } steps).options
      (run { hostCores } steps).configs := by
  have general : ∀ session : Session, session.hostCores = hostCores →
      motive session.options session.configs →
        motive (run session steps).options (run session steps).configs := by
    induction steps with
    | nil => exact fun _ _ held => held
    | cons first rest induction =>
        intro session cores held
        apply induction
        · intro other cores held step member
          exact effect other cores held step (List.mem_cons_of_mem first member)
        · rw [hostCores_step, cores]
        · exact effect session cores held first List.mem_cons_self _ _
            (session.effect_step first)
  exact general { hostCores } rfl initial

end DatagramTls.Session
