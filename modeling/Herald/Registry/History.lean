import Herald.Registry.Run

/-!
# The calls that set a state

A call sets the state of a registry, which is in some state already (`Change`). If the two differ
the call is accepted, and is a change indeed. Two operations make such calls: one names the state,
the other goes on to the next state.

`Config.change?` reads the call off the machine that the topmost work is about to make. `Accepted`
collects those of the calls of a run that are accepted, in the order in which this happens. A
journal tells of the same changes (`changes`).
-/

namespace Herald.Registry

variable {α : Type}

/-- A call that sets the state of the registry in one place: the state that the registry is in, and
the state that it is to be in. -/
structure Change where
  place : Nat
  source : StateId
  target : StateId
  deriving DecidableEq, Repr

/-- A change to the state that is current already is none. -/
def Change.isAccepted (change : Change) : Bool :=
  change.source ≠ change.target

theorem Change.isAccepted_iff {change : Change} :
    change.isAccepted ↔ change.source ≠ change.target := by
  simp [isAccepted]

/-- The state that an operation sets, if it is one that does, on a registry in a given state. -/
def Operation.target? (current : StateId) : Operation α → Option StateId
  | .set state _ => some state
  | .advance limit => if current < limit then some (current + 1) else none
  | _ => none

/-- The call that an action makes, if it is one that sets a state. -/
def Action.change? (world : World α) : Action α → Option Change
  | .on place operation =>
    world.registries[place]?.bind fun registry =>
      (operation.target? registry.current).map fun target => ⟨place, registry.current, target⟩
  | _ => none

/-- The call that the next step makes, if it is one that sets a state. -/
def Config.change? (config : Config α) : Option Change :=
  match config.frames, config.signal with
  | .steps (action :: _) :: _, .proceed => action.change? config.world
  | .script _ _ (action :: _) :: _, .proceed => action.change? config.world
  | _, _ => none

/-- The change that an event tells of. -/
def Event.change? : Event α → Option Change
  | .dispatching _ place source target _ => some ⟨place, source, target⟩
  | _ => none

/-- The changes that a journal tells of, in order. -/
def changes (journal : List (Event α)) : List Change :=
  journal.filterMap Event.change?

@[simp] theorem changes_nil : changes ([] : List (Event α)) = [] := rfl

@[simp] theorem changes_append (journal events : List (Event α)) :
    changes (journal ++ events) = changes journal ++ changes events :=
  List.filterMap_append

/-- All registries of a program are new: no change has been accepted and no observer registered. -/
def Program.Fresh (program : Program α) : Prop :=
  ∀ registry ∈ program.registries, registry.previous = none ∧ registry.observers = {}

/-- The machine reaches a configuration, and these are the changes that were accepted on the
way. -/
inductive Accepted [DecidableEq α] (program : Program α) : List Change → Config α → Prop where
  | start : Accepted program [] program.start
  | step {changes : List Change} {config next : Config α} {events : List (Event α)}
      (accepted : Accepted program changes config)
      (stepped : config.step? = some (next, events)) :
      Accepted program (changes ++ (config.change?.filter Change.isAccepted).toList) next

end Herald.Registry
