import Herald.Proofs.Registry.Step

/-!
# What a run does to one registry

A step may accept a change of one registry or make a call on its roster, and leaves all other
registries as they are (`Step.evolves`). The journal tells of it in that very step: of the change
(`Step.changes_events`), so it has the changes of a run in the order in which they were accepted
(`Run.accepted`), and of the call, so the roster of a registry is what the calls that the journal
tells of have made of it (`Steps.observers`). The owner stays the same.
-/

namespace Herald.Registry

variable {α : Type}

/-! ## Worlds -/

theorem World.put_self {world : World α} {place : Nat} {old : Registry α}
    (here : world.registries[place]? = some old) (registry : Registry α) :
    (world.put place registry).registries[place]? = some registry := by
  have inside := (List.getElem?_eq_some_iff.1 here).1
  simp [World.put, inside]

theorem World.put_of_ne {world : World α} {place other : Nat} (differs : other ≠ place)
    (registry : Registry α) :
    (world.put other registry).registries[place]? = world.registries[place]? := by
  simp [World.put, differs]

variable [DecidableEq α]

@[simp] theorem World.registries_takeBatch (world : World α) (name : α) :
    (world.takeBatch name).1.registries = world.registries := by
  unfold World.takeBatch
  split <;> rfl

/-! ## Registries are neither made nor lost -/

omit [DecidableEq α] in
@[simp] theorem World.length_put (world : World α) (place : Nat) (registry : Registry α) :
    (world.put place registry).registries.length = world.registries.length :=
  List.length_set ..

theorem Performs.length_registries {world : World α} {source : Option StateId}
    {frames : List (Frame α)} {action : Action α} {events : List (Event α)} {next : Config α}
    (performs : Performs world source frames action events next) :
    next.world.registries.length = world.registries.length := by
  cases performs with
  | accept | edit => exact World.length_put ..
  | unchanged | answer | enqueue | fail | nowhere | arrived | untold => rfl

theorem Step.length_registries {config next : Config α} {events : List (Event α)}
    (step : Step config events next) :
    next.world.registries.length = config.world.registries.length := by
  cases step with
  | perform code performs => exact performs.length_registries
  | notify => rw [World.registries_takeBatch]
  | stepsDone | stepEnd | stepFault | scriptDone | told | scriptFault | finish | skip | abort => rfl

theorem Steps.length_registries {start config : Config α} {journal : List (Event α)}
    (steps : Steps start journal config) :
    config.world.registries.length = start.world.registries.length := by
  induction steps with
  | refl => rfl
  | step _ stepped ih => exact (Step.of_step? stepped).length_registries.trans ih

/-! ## One step -/

/-- The place of the registry that changes in an event. -/
def Event.changes? : Event α → Option Nat
  | .dispatching _ place _ _ _ => some place
  | .noticed place _ => some place
  | _ => none

/-- What a step can do to the registry in one place. -/
inductive Evolves (place : Nat) (registry : Registry α) : List (Event α) → Registry α → Prop where
  | still {events} (other : ∀ event ∈ events, event.changes? ≠ some place) :
      Evolves place registry events registry
  | accept {level change} (there : change.place = place)
      (source : change.source = registry.current) (accepted : change.isAccepted) :
      Evolves place registry
        [.dispatching level change.place change.source change.target registry.observers.entries]
        (registry.accept change)
  | edit (call : Edit α) :
      Evolves place registry [.noticed place (registry.observers.edit call).2] (registry.edit call)

omit [DecidableEq α] in
/-- A call that sets a state starts from the state of its registry. -/
theorem Action.source_of_change? {world : World α} {action : Action α} {change : Change}
    {registry : Registry α} (asks : action.change? world = some change)
    (here : world.registries[change.place]? = some registry) :
    change.source = registry.current := by
  obtain ⟨_, _, other, _, _, here', _, rfl⟩ := Action.of_change? asks
  cases here'.symm.trans here
  rfl

theorem Performs.evolves {world : World α} {source : Option StateId} {frames : List (Frame α)}
    {action : Action α} {events : List (Event α)} {next : Config α} {place : Nat}
    {registry : Registry α} (here : world.registries[place]? = some registry)
    (performs : Performs world source frames action events next) :
    ∃ after, next.world.registries[place]? = some after ∧
      Evolves place registry events after := by
  cases performs with
  | unchanged => exact ⟨registry, here, .still (by simp [Event.changes?])⟩
  | @accept _ change old asks accepted there =>
      by_cases same : change.place = place
      · subst same
        cases there.symm.trans here
        exact ⟨_, World.put_self here _, .accept rfl (Action.source_of_change? asks here) accepted⟩
      · refine ⟨registry, (World.put_of_ne same _).trans here, .still ?_⟩
        simpa [Event.changes?] using same
  | @edit other _ call old _ there =>
      by_cases same : other = place
      · subst same
        cases there.symm.trans here
        exact ⟨_, World.put_self here _, .edit call⟩
      · refine ⟨registry, (World.put_of_ne same _).trans here, .still ?_⟩
        simpa [Event.changes?] using same
  | answer | enqueue | fail | nowhere | arrived | untold =>
      exact ⟨registry, here, .still (List.forall_mem_nil _)⟩

/-- What a step does to the registry in one place. -/
theorem Step.evolves {config next : Config α} {events : List (Event α)} {place : Nat}
    {registry : Registry α} (here : config.world.registries[place]? = some registry)
    (step : Step config events next) :
    ∃ after, next.world.registries[place]? = some after ∧
      Evolves place registry events after := by
  cases step with
  | perform code performs => exact performs.evolves here
  | notify =>
      refine ⟨registry, ?_, .still (by simp [Event.changes?])⟩
      rwa [World.registries_takeBatch]
  | told =>
      refine ⟨registry, here, .still fun event mem => ?_⟩
      rw [mem_value_events mem]
      simp [Event.changes?]
  | stepsDone | stepEnd | stepFault | scriptDone | scriptFault | finish | skip | abort =>
      exact ⟨registry, here, .still (by simp [Event.changes?])⟩

/-! ## Changes -/

omit [DecidableEq α] in
theorem Action.change?_eq_none_of_fault? {world : World α} {source : Option StateId}
    {action : Action α} {fault : Fault} (fails : action.fault? world source = some fault) :
    action.change? world = none := by
  cases action with
  | on place operation =>
      cases operation with
      | failHere =>
          cases here : world.registries[place]? <;>
            simp [Action.change?, here, Operation.target?]
      | _ => cases fails
  | enqueue | fail => rfl

/-- An action tells of the change that it makes, and of no other. -/
theorem Performs.changes_events {world : World α} {source : Option StateId}
    {frames : List (Frame α)} {action : Action α} {events : List (Event α)} {next : Config α}
    (performs : Performs world source frames action events next) :
    changes events = ((action.change? world).filter Change.isAccepted).toList := by
  cases performs with
  | unchanged asks refused => rw [asks, Option.filter_some, if_neg refused]; rfl
  | accept asks accepted => rw [asks, Option.filter_some, if_pos accepted]; rfl
  | @edit _ operation _ _ calls here =>
      cases operation with
      | add | remove => simp [changes, Event.change?, Action.change?, here, Operation.target?]
      | _ => cases calls
  | @answer _ operation _ _ here reading =>
      cases operation with
      | current | previous | size | owner | «show» =>
          simp [Action.change?, here, Operation.target?]
      | _ => cases reading
  | enqueue => rfl
  | fail fails => simp [Action.change?_eq_none_of_fault? fails]
  | nowhere missing => simp [Action.change?, missing]
  | arrived here reached => simp [Action.change?, here, Operation.target?, reached]
  | @untold place =>
      cases here : world.registries[place]? <;> simp [Action.change?, here, Operation.target?]

omit [DecidableEq α] in
@[simp] theorem changes_value (value : Value) : changes (value.events : List (Event α)) = [] := by
  unfold Value.events
  split <;> rfl

/-- A step tells of the change that it makes, and of no other. -/
theorem Step.changes_events {config next : Config α} {events : List (Event α)}
    (step : Step config events next) :
    changes events = (config.change?.filter Change.isAccepted).toList := by
  cases step with
  | perform code performs => cases code <;> exact performs.changes_events
  | told => simp [Config.change?]
  | stepsDone | stepEnd | stepFault | scriptDone | scriptFault | finish | notify | skip | abort =>
      simp [Config.change?, changes, Event.change?]

/-! ## Runs -/

variable {program : Program α} {start config : Config α} {journal : List (Event α)}

/-- The changes that a journal tells of are those that were accepted in the run. -/
theorem Run.accepted (run : Run program journal config) :
    Accepted program (changes journal) config := by
  induction run with
  | refl => exact .start
  | step run stepped ih =>
      rw [changes_append, (Step.of_step? stepped).changes_events]
      exact ih.step stepped

/-- What was accepted in a run stands in a journal. -/
theorem Accepted.run {accepted : List Change} (reached : Accepted program accepted config) :
    ∃ journal, Run program journal config ∧ changes journal = accepted := by
  induction reached with
  | start => exact ⟨[], .refl, rfl⟩
  | step _ stepped ih =>
      obtain ⟨journal, run, told⟩ := ih
      refine ⟨_, run.step stepped, ?_⟩
      rw [changes_append, told, (Step.of_step? stepped).changes_events]

/-! ## Rosters of registries -/

/-- The call on the roster of the registry in one place that an event tells of. -/
def Event.edit? (place : Nat) : Event α → Option (Edit α)
  | .noticed other notice => if other = place then some notice.edit else none
  | _ => none

/-- The calls on the roster of the registry in one place that a journal tells of, in order. -/
def callsAt (place : Nat) (journal : List (Event α)) : List (Edit α) :=
  journal.filterMap (Event.edit? place)

omit [DecidableEq α] in
@[simp] theorem callsAt_append (place : Nat) (journal events : List (Event α)) :
    callsAt place (journal ++ events) = callsAt place journal ++ callsAt place events :=
  List.filterMap_append

omit [DecidableEq α] in
theorem callsAt_eq_nil {place : Nat} {events : List (Event α)}
    (other : ∀ event ∈ events, event.changes? ≠ some place) : callsAt place events = [] := by
  refine List.filterMap_eq_nil_iff.2 fun event mem => ?_
  cases event with
  | noticed at' notice =>
      have differs : at' ≠ place := fun same => other _ mem (congrArg some same)
      simp [Event.edit?, differs]
  | _ => rfl

theorem Evolves.owner {place : Nat} {registry after : Registry α} {events : List (Event α)}
    (evolves : Evolves place registry events after) : after.owner = registry.owner := by
  cases evolves <;> rfl

theorem Evolves.observers {place : Nat} {registry after : Registry α} {events : List (Event α)}
    (evolves : Evolves place registry events after) :
    after.observers = registry.observers.after (callsAt place events) := by
  cases evolves with
  | still other => rw [callsAt_eq_nil other, Roster.after_nil]
  | accept => rfl
  | edit call => simp [callsAt, Event.edit?, Roster.edit_notice, Registry.edit]

/-- After any steps a registry has the owner that it had, and its roster is what the calls in the
journal have made of it. -/
theorem Steps.observers {place : Nat} {registry : Registry α} (steps : Steps start journal config)
    (here : start.world.registries[place]? = some registry) :
    ∃ after, config.world.registries[place]? = some after ∧ after.owner = registry.owner ∧
      after.observers = registry.observers.after (callsAt place journal) := by
  induction steps with
  | refl => exact ⟨registry, here, rfl, rfl⟩
  | step _ stepped ih =>
      obtain ⟨now, there, owner, observers⟩ := ih
      obtain ⟨after, there', evolves⟩ := (Step.of_step? stepped).evolves there
      refine ⟨after, there', evolves.owner.trans owner, ?_⟩
      rw [evolves.observers, observers, callsAt_append, Roster.after_append]

end Herald.Registry
