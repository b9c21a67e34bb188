import Herald.Proofs.Roster.Stack

/-!
# What a run does to the roster

The roster changes through calls alone: after any steps it is what the calls in the journal have
made of it (`Steps.roster`). The journal tells of a call in the very step that executes it, and of
no others (`Step.history_events`), so it has the calls of a run in the order in which they take
effect (`Run.called`).
-/

namespace Herald.Roster

variable {α : Type} [DecidableEq α]

/-! ## Events that are not about calls -/

omit [DecidableEq α] in
@[simp] theorem history_value (value : Value) : history (value.events : List (Event α)) = [] := by
  unfold Value.events
  split <;> rfl

omit [DecidableEq α] in
@[simp] theorem history_return (scope : List α) (frames : List (Frame α)) (stop : Option Stop) :
    history (returnEvents scope frames stop) = [] := by
  cases scope <;> rfl

/-! ## One step -/

/-- An action changes the roster as the call that it tells of says. -/
theorem Performs.roster {world : World α} {scope : List α} {frames : List (Frame α)}
    {action : Action α} {events : List (Event α)} {next : Config α}
    (performs : Performs world scope frames action events next) :
    next.world.roster = world.roster.after (history events) := by
  cases performs with
  | misaimed | answer | release | releaseNothing | fail | forEach => rfl
  | add => simp [history, Event.edit?, Roster.edit]
  | remove => simp [history, Event.edit?, Roster.edit]
  | clear => simp [history, Event.edit?, Roster.edit]

/-- A step changes the roster as the call that it tells of says. -/
theorem Step.roster {program : Program α} {config next : Config α} {events : List (Event α)}
    (step : Step program config events next) :
    next.world.roster = config.world.roster.after (history events) := by
  cases step with
  | perform code performs => exact performs.roster
  | told | scriptDone | scriptStop => simp
  | stepsDone | stepEnd | stepFault | givenUp | walkDone | visit | skip | walkStop | settled
  | kept | died | diedHooked | hookEnd | unlock => rfl

/-- An action tells of the call that it executes, and of no other. -/
theorem Performs.history_events {world : World α} {scope : List α} {frames : List (Frame α)}
    {action : Action α} {events : List (Event α)} {next : Config α}
    (performs : Performs world scope frames action events next) :
    history events = (action.edit? world scope).toList := by
  cases performs with
  | misaimed aimed nothing => cases action <;> cases aimed <;> simp [Action.edit?, nothing]
  | add aimed => simp [history, Event.edit?, Action.edit?, aimed]
  | remove aimed => simp [history, Event.edit?, Action.edit?, aimed]
  | clear => simp [history, Event.edit?, Action.edit?]
  | answer reading => cases action <;> first | rfl | cases reading
  | release | releaseNothing | fail | forEach => rfl

/-- A step tells of the call that it executes, and of no other. -/
theorem Step.history_events {program : Program α} {config next : Config α} {events : List (Event α)}
    (step : Step program config events next) : history events = config.call?.toList := by
  cases step with
  | perform code performs => cases code <;> exact performs.history_events
  | told | scriptDone | scriptStop => simp [Config.call?]
  | stepEnd | stepFault | givenUp => simp [Config.call?, history, Event.edit?]
  | stepsDone | walkDone | visit | skip | walkStop | settled | kept | died | diedHooked | hookEnd
  | unlock => rfl

/-- A call is executed by code that is told to go on, with its next action. -/
theorem Config.of_call? {config : Config α} {edit : Edit α} (call : config.call? = some edit) :
    ∃ frame below scope action rest, config.frames = frame :: below ∧ config.signal = .proceed ∧
      Code frame scope (action :: rest) ∧ action.edit? config.world scope = some edit := by
  unfold Config.call? at call
  split at call
  · next frames told => exact ⟨_, _, _, _, _, frames, told, .steps _, call⟩
  · next frames told => exact ⟨_, _, _, _, _, frames, told, .script _ _, call⟩
  · cases call

/-! ## Runs -/

variable {program : Program α} {start config : Config α} {journal : List (Event α)}

/-- After any steps the roster is what the calls in the journal have made of it. -/
theorem Steps.roster (sound : Sound start) (steps : Steps program start journal config) :
    config.world.roster = start.world.roster.after (history journal) := by
  induction steps with
  | refl => rfl
  | step steps stepped ih =>
      have step := (Steps.sound sound steps).step_of_step? stepped
      rw [step.roster, ih, history_append, after_append]

theorem Run.roster (run : Run program journal config) :
    config.world.roster = (empty : Roster α).after (history journal) :=
  Steps.roster program.start_sound run

/-- The calls that a journal tells of are those that the run has executed. -/
theorem Run.called (run : Run program journal config) :
    Called program (history journal) config := by
  induction run with
  | refl => exact .start
  | step run stepped ih =>
      rw [history_append, ((Run.sound run).step_of_step? stepped).history_events]
      exact ih.step stepped

/-- What a run has executed stands in a journal. -/
theorem Called.run {calls : List (Edit α)} (called : Called program calls config) :
    ∃ journal, Run program journal config ∧ history journal = calls := by
  induction called with
  | start => exact ⟨[], .refl, rfl⟩
  | step _ stepped ih =>
      obtain ⟨journal, run, told⟩ := ih
      refine ⟨_, run.step stepped, ?_⟩
      rw [history_append, told, ((Run.sound run).step_of_step? stepped).history_events]

/-- At every point of a run the roster is what the calls so far have made of it. -/
theorem Called.roster {calls : List (Edit α)} (called : Called program calls config) :
    config.world.roster = (empty : Roster α).after calls := by
  obtain ⟨journal, run, rfl⟩ := called.run
  exact run.roster

end Herald.Roster
