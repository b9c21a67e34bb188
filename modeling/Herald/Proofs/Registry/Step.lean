import Herald.Registry.History
import Herald.Roster.History
import Herald.Roster.Lemmas

/-!
# What one step of the machine can do

`Step` lists the steps of the machine, one rule for each thing that can happen, and `Performs` the
ways in which an action can begin. `Step.of_step?` says that the machine takes no other step, and
`Step.step?_eq` that it takes each of these.

Everything that is shown about all runs goes through these rules. None of the proofs opens
`Frame.resume` or `perform` again.
-/

namespace Herald.Registry

variable {α : Type}

/-- The value of an operation that only reads the registry. -/
def Operation.reading? (registry : Registry α) : Operation α → Option Value
  | .current => some (.state registry.current)
  | .previous => some (.previous registry.previous)
  | .size => some (.count registry.observers.size)
  | .owner => some (.text registry.owner)
  | .show layout => some (.text (registry.shown.render layout))
  | _ => none

/-- The call on the roster that an operation makes. -/
def Operation.edit? : Operation α → Option (Edit α)
  | .add observer => some (.add observer)
  | .remove observer => some (.remove observer)
  | _ => none

/-- Whether the fault of a dispatch is to be the value of the action that starts it. -/
def Action.catching : Action α → Bool
  | .on _ (.set _ catching) => catching
  | _ => false

/-- The fault of an action that fails by itself. -/
def Action.fault? (world : World α) (source : Option StateId) : Action α → Option Fault
  | .fail fault => some fault
  | .on place .failHere =>
    world.registries[place]?.bind fun registry =>
      source.map fun source => .observerFailed source registry.current "scripted failure"
  | _ => none

/-- A registry after it has accepted a change. -/
def accept (registry : Registry α) (change : Change) : Registry α :=
  { registry with current := change.target, previous := some change.source }

@[simp] theorem current_accept (registry : Registry α) (change : Change) :
    (registry.accept change).current = change.target := rfl

@[simp] theorem previous_accept (registry : Registry α) (change : Change) :
    (registry.accept change).previous = some change.source := rfl

/-- What a dispatch tells the work that started it after one of its observers failed. -/
def Dispatch.pass (dispatch : Dispatch α) (fault : Fault) : Signal :=
  if dispatch.catching then .deliver (.fault fault) else .raise fault

/-- The dispatch that announces a change to those on a roster. -/
def Dispatch.begin (change : Change) (entries : List (Entry α)) (catching : Bool) : Dispatch α :=
  ⟨change.place, change.source, change.target, entries, catching⟩

/-- The fault that the topmost work is told of. -/
def Signal.fault? : Signal → Option Fault
  | .raise fault => some fault
  | _ => none

variable [DecidableEq α]

/-- A registry after a call on its roster. -/
def edit (registry : Registry α) (edit : Edit α) : Registry α :=
  { registry with observers := (registry.observers.edit edit).1 }

/-- How an action begins for the work in `frames`: what happens, and where the machine stands
afterwards. -/
inductive Performs (world : World α) (source : Option StateId) (frames : List (Frame α)) :
    Action α → List (Event α) → Config α → Prop where
  | unchanged {action change} (asks : action.change? world = some change)
      (refused : ¬ change.isAccepted) :
      Performs world source frames action
        [.unchanged (level frames + 1) change.place change.target]
        ⟨world, frames, .deliver .unit⟩
  | accept {action change registry} (asks : action.change? world = some change)
      (accepted : change.isAccepted) (here : world.registries[change.place]? = some registry) :
      Performs world source frames action
        [.dispatching (level frames + 1) change.place change.source change.target
          registry.observers.entries]
        ⟨world.put change.place (registry.accept change),
          .dispatch (.begin change registry.observers.entries action.catching) :: frames, .proceed⟩
  | edit {place operation call registry} (calls : operation.edit? = some call)
      (here : world.registries[place]? = some registry) :
      Performs world source frames (.on place operation)
        [.noticed place (registry.observers.edit call).2]
        ⟨world.put place (registry.edit call), frames, .deliver .unit⟩
  | answer {place operation value registry} (here : world.registries[place]? = some registry)
      (reading : operation.reading? registry = some value) :
      Performs world source frames (.on place operation) [] ⟨world, frames, .deliver value⟩
  | enqueue {observer batch} :
      Performs world source frames (.enqueue observer batch) []
        ⟨world.enqueue observer batch, frames, .deliver .unit⟩
  | fail {action fault} (fails : action.fault? world source = some fault) :
      Performs world source frames action [] ⟨world, frames, .raise fault⟩
  | nowhere {place operation} (missing : world.registries[place]? = none) :
      Performs world source frames (.on place operation) [] ⟨world, frames, .deliver .unit⟩
  | arrived {place limit registry} (here : world.registries[place]? = some registry)
      (reached : ¬ registry.current < limit) :
      Performs world source frames (.on place (.advance limit)) []
        ⟨world, frames, .deliver .unit⟩
  | untold {place} (outside : source = none) :
      Performs world source frames (.on place .failHere) [] ⟨world, frames, .deliver .unit⟩

/-- `Code frame source script` says that a frame is about to perform the actions of a script, with
`source` as the state that an observer was told of. -/
inductive Code : Frame α → Option StateId → Script α → Prop where
  | steps (rest : Script α) : Code (.steps rest) none rest
  | script (observer : α) (source : StateId) (rest : Script α) :
      Code (.script observer source rest) (some source) rest

/-- The frame of some code after its first action has begun. -/
def Frame.advance : Frame α → Frame α
  | .steps rest => .steps rest.tail
  | .script observer source rest => .script observer source rest.tail
  | frame => frame

/-- One step of the machine: where it stands, what happens, and where it stands afterwards. -/
inductive Step : Config α → List (Event α) → Config α → Prop where
  | perform {world frame source action rest frames events next}
      (code : Code frame source (action :: rest))
      (performs : Performs world source (frame.advance :: frames) action events next) :
      Step ⟨world, frame :: frames, .proceed⟩ events next
  | stepsDone {world frames} :
      Step ⟨world, .steps [] :: frames, .proceed⟩ [] ⟨world, frames, .proceed⟩
  | stepEnd {world rest frames value} :
      Step ⟨world, .steps rest :: frames, .deliver value⟩
        [.stepped (.ok value) (world.registries.map status)]
        ⟨world, .steps rest :: frames, .proceed⟩
  | stepFault {world rest frames fault} :
      Step ⟨world, .steps rest :: frames, .raise fault⟩
        [.stepped (.error fault) (world.registries.map status)]
        ⟨world, .steps rest :: frames, .proceed⟩
  | scriptDone {world observer source frames} :
      Step ⟨world, .script observer source [] :: frames, .proceed⟩
        [.returned (level frames) observer none] ⟨world, frames, .proceed⟩
  | told {world observer source rest frames value} :
      Step ⟨world, .script observer source rest :: frames, .deliver value⟩ value.events
        ⟨world, .script observer source rest :: frames, .proceed⟩
  | scriptFault {world observer source rest frames fault} :
      Step ⟨world, .script observer source rest :: frames, .raise fault⟩
        [.returned (level frames) observer (some fault)] ⟨world, frames, .raise fault⟩
  | finish {world dispatch frames signal} (calm : signal.fault? = none)
      (done : dispatch.pending = [] ∨ world.registries[dispatch.registry]? = none) :
      Step ⟨world, .dispatch dispatch :: frames, signal⟩
        [.ended (level frames + 1) dispatch.registry none] ⟨world, frames, .deliver .unit⟩
  | notify {world dispatch entry pending registry frames signal} (calm : signal.fault? = none)
      (turn : dispatch.pending = entry :: pending)
      (here : world.registries[dispatch.registry]? = some registry)
      (live : registry.observers.isLive entry.serial) :
      Step ⟨world, .dispatch dispatch :: frames, signal⟩
        [.notified (level frames + 1) dispatch.registry entry registry.owner dispatch.source
          world.currents]
        ⟨(world.takeBatch entry.handle).1,
          .script entry.handle dispatch.source (world.takeBatch entry.handle).2 ::
            .dispatch { dispatch with pending } :: frames, .proceed⟩
  | skip {world dispatch entry pending registry frames signal} (calm : signal.fault? = none)
      (turn : dispatch.pending = entry :: pending)
      (here : world.registries[dispatch.registry]? = some registry)
      (gone : ¬ registry.observers.isLive entry.serial) :
      Step ⟨world, .dispatch dispatch :: frames, signal⟩
        [.skipped (level frames + 1) dispatch.registry entry]
        ⟨world, .dispatch { dispatch with pending } :: frames, .proceed⟩
  | abort {world dispatch frames fault} :
      Step ⟨world, .dispatch dispatch :: frames, .raise fault⟩
        [.ended (level frames + 1) dispatch.registry
          (some (fault.withTransition dispatch.source dispatch.target))]
        ⟨world, frames, dispatch.pass (fault.withTransition dispatch.source dispatch.target)⟩

omit [DecidableEq α] in
theorem mem_value_events {value : Value} {event : Event α} (mem : event ∈ value.events) :
    event = .answered value := by
  unfold Value.events at mem
  split at mem
  · cases mem
  · exact List.mem_singleton.1 mem

/-- At most one thing happens in a step. -/
theorem Step.length_events_le {config next : Config α} {events : List (Event α)}
    (step : Step config events next) : events.length ≤ 1 := by
  cases step with
  | perform code performs => cases performs <;> simp
  | @told _ _ _ _ _ value =>
      unfold Value.events
      split <;> simp
  | stepsDone | stepEnd | stepFault | scriptDone | scriptFault | finish | notify | skip | abort =>
      simp

/-! ## The machine takes no other steps -/

omit [DecidableEq α] in
/-- A call that sets a state is made on a registry, by an operation that sets one. -/
theorem Action.of_change? {world : World α} {action : Action α} {change : Change}
    (asks : action.change? world = some change) :
    ∃ place operation registry target, action = .on place operation ∧
      world.registries[place]? = some registry ∧
      operation.target? registry.current = some target ∧
      change = ⟨place, registry.current, target⟩ := by
  cases action with
  | on place operation =>
      obtain ⟨registry, here, found⟩ := Option.bind_eq_some_iff.1 asks
      obtain ⟨target, sets, rfl⟩ := Option.map_eq_some_iff.1 found
      exact ⟨place, operation, registry, target, rfl, here, sets, rfl⟩
  | enqueue | fail => cases asks

section
variable {world : World α} {source : Option StateId} {frames : List (Frame α)} {place : Nat}
  {registry : Registry α} {operation : Operation α} {target : StateId} {catching : Bool}

omit [DecidableEq α] in
theorem change_of_eq (same : target = registry.current) :
    change world frames place registry target catching =
      (⟨world, frames, .deliver .unit⟩, [.unchanged (level frames + 1) place target]) := by
  simp only [change, accept?, if_pos same]

omit [DecidableEq α] in
theorem change_of_ne (differs : target ≠ registry.current) :
    change world frames place registry target catching =
      (⟨world.put place (registry.accept ⟨place, registry.current, target⟩),
        .dispatch (.begin ⟨place, registry.current, target⟩ registry.observers.entries catching) ::
          frames, .proceed⟩,
        [.dispatching (level frames + 1) place registry.current target
          registry.observers.entries]) := by
  simp only [change, accept?, if_neg differs]
  rfl

/-- An action on a registry does its operation there. -/
theorem perform_on (here : world.registries[place]? = some registry) (operation : Operation α) :
    perform world source frames (.on place operation) =
      operate world source frames place registry operation := by
  simp only [perform, here]

/-- An operation that sets a state changes the state to it. -/
theorem operate_of_target? (sets : operation.target? registry.current = some target) :
    operate world source frames place registry operation =
      change world frames place registry target (Action.on place operation).catching := by
  cases operation with
  | set state catching =>
      cases sets
      rfl
  | advance limit =>
      by_cases below : registry.current < limit
      · simp only [Operation.target?, if_pos below, Option.some.injEq] at sets
        subst sets
        simp only [operate, if_pos below]
        rfl
      · simp only [Operation.target?, if_neg below] at sets
        cases sets
  | _ => cases sets

/-- How an operation that sets a state begins. -/
theorem Performs.of_target? (here : world.registries[place]? = some registry)
    (sets : operation.target? registry.current = some target) :
    Performs world source frames (.on place operation)
      (operate world source frames place registry operation).2
      (operate world source frames place registry operation).1 := by
  have asks : (Action.on place operation).change? world =
      some ⟨place, registry.current, target⟩ := by
    simp [Action.change?, here, sets]
  rw [operate_of_target? sets]
  by_cases same : target = registry.current
  · rw [change_of_eq same]
    exact .unchanged asks fun accepted => Change.isAccepted_iff.1 accepted same.symm
  · rw [change_of_ne same]
    exact .accept asks (Change.isAccepted_iff.2 (Ne.symm same)) here

end

/-- How an operation begins. -/
theorem Performs.of_operate {world : World α} {source : Option StateId} {frames : List (Frame α)}
    {place : Nat} {registry : Registry α} (here : world.registries[place]? = some registry)
    (operation : Operation α) :
    Performs world source frames (.on place operation)
      (operate world source frames place registry operation).2
      (operate world source frames place registry operation).1 := by
  cases operation with
  | set state catching => exact .of_target? here rfl
  | advance limit =>
      by_cases below : registry.current < limit
      · exact .of_target? here (if_pos below)
      · simp only [operate, if_neg below]
        exact .arrived here below
  | add observer =>
      have calls : (Operation.add observer).edit? = some (.add observer) := rfl
      exact .edit calls here
  | remove observer =>
      have calls : (Operation.remove observer).edit? = some (.remove observer) := rfl
      exact .edit calls here
  | current | previous | size | owner | «show» => exact .answer here rfl
  | failHere =>
      cases source with
      | none => exact .untold rfl
      | some source => exact .fail (by simp [Action.fault?, here])

/-- How an action begins. -/
theorem Performs.of_perform (world : World α) (source : Option StateId) (frames : List (Frame α))
    (action : Action α) :
    Performs world source frames action (perform world source frames action).2
      (perform world source frames action).1 := by
  cases action with
  | on place operation =>
      cases here : world.registries[place]? with
      | none =>
          simp only [perform, here]
          exact .nowhere here
      | some registry =>
          rw [perform_on here]
          exact .of_operate here operation
  | enqueue observer batch => exact .enqueue
  | fail fault => exact .fail rfl

/-- What the machine does when a dispatch is to go on. -/
theorem Step.of_turn {world : World α} (dispatch : Dispatch α) (frames : List (Frame α))
    {signal : Signal} (calm : signal.fault? = none) :
    Step ⟨world, .dispatch dispatch :: frames, signal⟩ (dispatch.turn world frames).2
      (dispatch.turn world frames).1 := by
  cases here : world.registries[dispatch.registry]? with
  | none =>
      simp only [Dispatch.turn, here]
      exact .finish calm (.inr here)
  | some registry =>
      cases turn : dispatch.pending with
      | nil =>
          simp only [Dispatch.turn, here, turn, Roster.turn_nil]
          exact .finish calm (.inl turn)
      | cons entry pending =>
          by_cases live : registry.observers.isLive entry.serial
          · simp only [Dispatch.turn, here, turn, Roster.turn_of_live live]
            exact .notify calm turn here live
          · simp only [Dispatch.turn, here, turn, Roster.turn_of_not_live live]
            exact .skip calm turn here live

/-- What the machine does when the topmost work goes on. -/
theorem Step.of_resume {world : World α} {frame : Frame α} {frames : List (Frame α)}
    {signal : Signal} :
    Step ⟨world, frame :: frames, signal⟩ (frame.resume world frames signal).2
      (frame.resume world frames signal).1 := by
  cases frame with
  | steps rest =>
      cases signal with
      | proceed =>
          cases rest with
          | nil => exact .stepsDone
          | cons action rest => exact .perform (.steps (action :: rest)) (.of_perform ..)
      | deliver value => cases rest <;> exact .stepEnd
      | raise fault => cases rest <;> exact .stepFault
  | script observer source rest =>
      cases signal with
      | proceed =>
          cases rest with
          | nil => exact .scriptDone
          | cons action rest => exact .perform (.script _ _ (action :: rest)) (.of_perform ..)
      | deliver value => cases rest <;> exact .told
      | raise fault => cases rest <;> exact .scriptFault
  | dispatch dispatch =>
      cases signal with
      | proceed => exact .of_turn dispatch frames rfl
      | deliver value => exact .of_turn dispatch frames rfl
      | raise fault => exact .abort

/-- The machine takes no other steps than those of `Step`. -/
theorem Step.of_step? {config next : Config α} {events : List (Event α)}
    (stepped : config.step? = some (next, events)) : Step config events next := by
  obtain ⟨world, frames, signal⟩ := config
  cases frames with
  | nil => cases stepped
  | cons frame frames =>
      have step : Step ⟨world, frame :: frames, signal⟩ _ _ := .of_resume
      rwa [Option.some.inj stepped] at step

/-! ## Each rule is a step of the machine -/

/-- An action begins in one way only. -/
theorem Performs.perform_eq {world : World α} {source : Option StateId} {frames : List (Frame α)}
    {action : Action α} {events : List (Event α)} {next : Config α}
    (performs : Performs world source frames action events next) :
    perform world source frames action = (next, events) := by
  cases performs with
  | unchanged asks refused =>
      obtain ⟨place, operation, registry, target, rfl, here, sets, rfl⟩ := Action.of_change? asks
      have same : target = registry.current := Decidable.byContradiction fun differs =>
        refused (Change.isAccepted_iff.2 (Ne.symm differs))
      rw [perform_on here, operate_of_target? sets, change_of_eq same]
  | accept asks accepted here' =>
      obtain ⟨place, operation, registry, target, rfl, here, sets, rfl⟩ := Action.of_change? asks
      cases here'.symm.trans here
      have differs := (Change.isAccepted_iff.1 accepted).symm
      rw [perform_on here, operate_of_target? sets, change_of_ne differs]
  | @edit _ operation call _ calls here =>
      rw [perform_on here]
      cases operation with
      | add | remove =>
          cases calls
          rfl
      | _ => cases calls
  | @answer _ operation _ _ here reading =>
      rw [perform_on here]
      cases operation <;> cases reading <;> rfl
  | enqueue => rfl
  | @fail action _ fails =>
      cases action with
      | on place operation =>
          cases operation with
          | failHere =>
              obtain ⟨registry, here, fails⟩ := Option.bind_eq_some_iff.1 fails
              obtain ⟨source, rfl, rfl⟩ := Option.map_eq_some_iff.1 fails
              simp only [perform, here, operate]
          | _ => cases fails
      | enqueue => cases fails
      | fail =>
          cases fails
          rfl
  | nowhere missing => simp only [perform, missing]
  | arrived here reached => simp only [perform, here, operate, if_neg reached]
  | @untold place outside =>
      subst outside
      cases here : world.registries[place]? <;> simp only [perform, here, operate]

/-- A dispatch that is told to go on gives the next observer its turn. -/
theorem Dispatch.resume_eq_turn {world : World α} {dispatch : Dispatch α}
    {frames : List (Frame α)} {signal : Signal} (calm : signal.fault? = none) :
    (Frame.dispatch dispatch).resume world frames signal = dispatch.turn world frames := by
  cases signal with
  | proceed | deliver => rfl
  | raise => cases calm

/-- What a rule says is what the machine does. -/
theorem Step.step?_eq {config next : Config α} {events : List (Event α)}
    (step : Step config events next) : config.step? = some (next, events) := by
  cases step with
  | perform code performs =>
      rw [← performs.perform_eq]
      cases code <;> rfl
  | stepsDone | scriptDone | abort => rfl
  | @stepEnd _ rest | @stepFault _ rest | @told _ _ _ rest | @scriptFault _ _ _ rest =>
      cases rest <;> rfl
  | @finish world dispatch frames signal calm done =>
      refine congrArg some ((Dispatch.resume_eq_turn calm).trans ?_)
      rcases done with done | missing
      · cases here : world.registries[dispatch.registry]? <;>
          simp only [Dispatch.turn, here, done, Roster.turn_nil, Dispatch.finish]
      · simp only [Dispatch.turn, missing, Dispatch.finish]
  | notify calm turn here live =>
      refine congrArg some ((Dispatch.resume_eq_turn calm).trans ?_)
      simp only [Dispatch.turn, turn, here, Roster.turn_of_live live]
  | skip calm turn here gone =>
      refine congrArg some ((Dispatch.resume_eq_turn calm).trans ?_)
      simp only [Dispatch.turn, turn, here, Roster.turn_of_not_live gone]

/-- The machine is at rest only when all work is done. -/
theorem Config.step?_eq_none_iff {config : Config α} :
    config.step? = none ↔ config.frames = [] := by
  obtain ⟨world, frames, signal⟩ := config
  cases frames with
  | nil => simp [Config.step?]
  | cons frame frames => simp [Config.step?]

/-- An observer whose last action has no value returns. -/
theorem Steps.script_returns (world : World α) (observer : α) (source : StateId)
    (frames : List (Frame α)) :
    Steps ⟨world, .script observer source [] :: frames, .deliver .unit⟩
      [.returned (level frames) observer none] ⟨world, frames, .proceed⟩ :=
  .step (.single Step.told.step?_eq) Step.scriptDone.step?_eq

/-- A run can be cut at each of its events. -/
theorem Steps.split {start config : Config α} {journal past rest : List (Event α)}
    {event : Event α} (steps : Steps start journal config) (cut : journal = past ++ event :: rest) :
    ∃ before after, Steps start past before ∧ before.step? = some (after, [event]) ∧
      Steps after rest config :=
  Machine.Steps.split (fun _ _ _ _ _ stepped => (Step.of_step? stepped).length_events_le) steps cut

end Herald.Registry
