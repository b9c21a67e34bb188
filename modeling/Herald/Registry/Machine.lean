import Herald.Machine
import Herald.Registry.Program

/-!
# How a program over registries runs

A program runs on a machine that takes small steps. Its configuration holds the world (registries
and observers), a stack of unfinished work and a signal, which tells the topmost work how to go on.
A step answers with the events that took place in it, and the journal of a run is what its steps
answered, in order.

A change that is accepted takes effect at once, and then the observers that were registered at that
moment are told in order, those that have been removed meanwhile left out. Each is told the state
that *this* change left, whatever has happened since. The first fault ends the dispatch: it gets
the change as its payload if it has none, is logged, and is the outcome of the change. The state
stays as it is.

Observers may answer a change with another change, so a run need not end, and the machine is given
a limit to the number of its steps.
-/

namespace Herald.Registry

variable {α : Type}

/-- What the topmost work is told. -/
inductive Signal where
  /-- Go on. -/
  | proceed
  /-- The action that was started has this value. -/
  | deliver (value : Value)
  /-- The action that was started, or the work above, failed. -/
  | raise (fault : Fault)
  deriving DecidableEq, Repr

/-- What happened in a run. The level of a dispatch is the number of dispatches that are under way
when it begins, itself included. A change that is no change is told at the level that it would have
had. -/
inductive Event (α : Type) where
  | unchanged (level registry : Nat) (state : StateId)
  | dispatching (level registry : Nat) (source target : StateId) (snapshot : List (Entry α))
  /-- An observer was told; `currents` are the states of all registries at that moment. -/
  | notified (level registry : Nat) (entry : Entry α) (owner : String) (source : StateId)
      (currents : List StateId)
  /-- A notification came to its end, or failed. -/
  | returned (level : Nat) (observer : α) (fault : Option Fault)
  | skipped (level registry : Nat) (entry : Entry α)
  | ended (level registry : Nat) (fault : Option Fault)
  | noticed (registry : Nat) (notice : Notice α)
  /-- An action inside a notification has a value. -/
  | answered (value : Value)
  /-- A step of the program came to its end, and left the registries like this. -/
  | stepped (outcome : Except Fault Value) (statuses : List Status)

/-- An accepted change that is being announced. -/
structure Dispatch (α : Type) where
  registry : Nat
  source : StateId
  target : StateId
  /-- The observers at the time of the change whose turn has not come. -/
  pending : List (Entry α)
  catching : Bool

/-- A kind of unfinished work. -/
inductive Frame (α : Type) where
  /-- The steps of the program that are left. -/
  | steps (rest : Script α)
  /-- The actions that are left to an observer that was told that the state `source` was left. -/
  | script (observer : α) (source : StateId) (rest : Script α)
  | dispatch (dispatch : Dispatch α)

/-- What the actions of a program act on. -/
structure World (α : Type) where
  registries : List (Registry α)
  observers : List (α × Observer α)

/-- A state of the machine. -/
structure Config (α : Type) where
  world : World α
  frames : List (Frame α)
  signal : Signal

/-- Whether a frame is a dispatch. -/
def Frame.isDispatch : Frame α → Bool
  | .dispatch _ => true
  | _ => false

/-- The number of dispatches that are under way. -/
def level (frames : List (Frame α)) : Nat :=
  frames.countP Frame.isDispatch

/-- The world with another registry in one place. -/
def World.put (world : World α) (place : Nat) (registry : Registry α) : World α :=
  { world with registries := world.registries.set place registry }

/-- The current states of all registries. -/
def World.currents (world : World α) : List StateId :=
  world.registries.map Registry.current

/-- The world after an observer has taken a batch off its queue, and what the observer does. -/
def World.takeBatch [DecidableEq α] (world : World α) (name : α) : World α × Script α :=
  match world.observers.lookup name with
  | none => (world, [])
  | some observer =>
    ({ world with observers := world.observers.map fun (other, waiting) =>
        if other = name then (other, { waiting with batches := waiting.batches.tail })
        else (other, waiting) },
      observer.batches.head?.getD [] ++ observer.always)

/-- The world after a batch has been put at the end of an observer's queue. -/
def World.enqueue [DecidableEq α] (world : World α) (name : α) (batch : Script α) : World α :=
  { world with observers := world.observers.map fun (other, waiting) =>
      if other = name then (other, { waiting with batches := waiting.batches ++ [batch] })
      else (other, waiting) }

/-! ## Actions -/

/-- Changes the state of the registry in one place, for the work in `frames`. -/
def change (world : World α) (frames : List (Frame α)) (place : Nat) (registry : Registry α)
    (state : StateId) (catching : Bool) : Config α × List (Event α) :=
  match registry.accept? state with
  | none => (⟨world, frames, .deliver .unit⟩, [.unchanged (level frames + 1) place state])
  | some changed =>
    let entries := changed.observers.entries
    (⟨world.put place changed,
      .dispatch ⟨place, registry.current, state, entries, catching⟩ :: frames, .proceed⟩,
      [.dispatching (level frames + 1) place registry.current state entries])

/-- Does an operation on the registry in one place, for the work in `frames`. A notification says
with `source` which state it was told of. -/
def operate [DecidableEq α] (world : World α) (source : Option StateId) (frames : List (Frame α))
    (place : Nat) (registry : Registry α) : Operation α → Config α × List (Event α)
  | .set state catching => change world frames place registry state catching
  | .advance limit =>
    if registry.current < limit then
      change world frames place registry (registry.current + 1) false
    else
      (⟨world, frames, .deliver .unit⟩, [])
  | .add observer =>
    let added := registry.addObserver observer
    (⟨world.put place added.1, frames, .deliver .unit⟩, [.noticed place added.2])
  | .remove observer =>
    let removed := registry.removeObserver observer
    (⟨world.put place removed.1, frames, .deliver .unit⟩, [.noticed place removed.2])
  | .current => (⟨world, frames, .deliver (.state registry.current)⟩, [])
  | .previous => (⟨world, frames, .deliver (.previous registry.previous)⟩, [])
  | .size => (⟨world, frames, .deliver (.count registry.observers.size)⟩, [])
  | .owner => (⟨world, frames, .deliver (.text registry.owner)⟩, [])
  | .show layout => (⟨world, frames, .deliver (.text (registry.shown.render layout))⟩, [])
  | .failHere =>
    match source with
    | none => (⟨world, frames, .deliver .unit⟩, [])
    | some source =>
      let fault := Fault.observerFailed source registry.current "scripted failure"
      (⟨world, frames, .raise fault⟩, [])

/-- Performs an action for the work in `frames`. -/
def perform [DecidableEq α] (world : World α) (source : Option StateId) (frames : List (Frame α)) :
    Action α → Config α × List (Event α)
  | .on place operation =>
    match world.registries[place]? with
    | none => (⟨world, frames, .deliver .unit⟩, [])
    | some registry => operate world source frames place registry operation
  | .enqueue observer batch => (⟨world.enqueue observer batch, frames, .deliver .unit⟩, [])
  | .fail fault => (⟨world, frames, .raise fault⟩, [])

/-! ## Steps -/

/-- Ends a dispatch in which no observer failed. -/
def Dispatch.finish (dispatch : Dispatch α) (world : World α) (frames : List (Frame α)) :
    Config α × List (Event α) :=
  (⟨world, frames, .deliver .unit⟩, [.ended (level frames + 1) dispatch.registry none])

/-- Ends a dispatch in which an observer failed. -/
def Dispatch.abort (dispatch : Dispatch α) (world : World α) (frames : List (Frame α))
    (fault : Fault) : Config α × List (Event α) :=
  let fault := fault.withTransition dispatch.source dispatch.target
  (⟨world, frames, if dispatch.catching then .deliver (.fault fault) else .raise fault⟩,
    [.ended (level frames + 1) dispatch.registry (some fault)])

/-- Gives the next observer of a dispatch its turn. -/
def Dispatch.turn [DecidableEq α] (dispatch : Dispatch α) (world : World α)
    (frames : List (Frame α)) : Config α × List (Event α) :=
  match world.registries[dispatch.registry]? with
  | none => dispatch.finish world frames
  | some registry =>
    match registry.observers.turn dispatch.pending with
    | .done => dispatch.finish world frames
    | .visit entry pending =>
      let taken := world.takeBatch entry.handle
      (⟨taken.1, .script entry.handle dispatch.source taken.2 ::
        .dispatch { dispatch with pending } :: frames, .proceed⟩,
        [.notified (level frames + 1) dispatch.registry entry registry.owner dispatch.source
          world.currents])
    | .skip entry pending =>
      (⟨world, .dispatch { dispatch with pending } :: frames, .proceed⟩,
        [.skipped (level frames + 1) dispatch.registry entry])

/-- The events of an action inside a script: a value is told unless it is `unit`. -/
def Value.events (value : Value) : List (Event α) :=
  if value = .unit then [] else [.answered value]

/-- What the topmost work does when it is told how to go on, with `frames` below it. -/
def Frame.resume [DecidableEq α] (world : World α) (frames : List (Frame α)) :
    Frame α → Signal → Config α × List (Event α)
  | .steps [], .proceed => (⟨world, frames, .proceed⟩, [])
  | .steps (action :: rest), .proceed => perform world none (.steps rest :: frames) action
  | .steps rest, .deliver value =>
    (⟨world, .steps rest :: frames, .proceed⟩,
      [.stepped (.ok value) (world.registries.map Registry.status)])
  | .steps rest, .raise fault =>
    (⟨world, .steps rest :: frames, .proceed⟩,
      [.stepped (.error fault) (world.registries.map Registry.status)])
  | .script observer _ [], .proceed =>
    (⟨world, frames, .proceed⟩, [.returned (level frames) observer none])
  | .script observer source (action :: rest), .proceed =>
    perform world (some source) (.script observer source rest :: frames) action
  | .script observer source rest, .deliver value =>
    (⟨world, .script observer source rest :: frames, .proceed⟩, value.events)
  | .script observer _ _, .raise fault =>
    (⟨world, frames, .raise fault⟩, [.returned (level frames) observer (some fault)])
  | .dispatch d, .proceed => d.turn world frames
  | .dispatch d, .deliver _ => d.turn world frames
  | .dispatch d, .raise fault => d.abort world frames fault

/-- One step of the machine. There is none after the last work is done. -/
def Config.step? [DecidableEq α] (config : Config α) : Option (Config α × List (Event α)) :=
  match config.frames with
  | [] => none
  | frame :: frames => some (frame.resume config.world frames config.signal)

/-! ## Runs -/

/-- The machine before the first step of a program. -/
def Program.start (program : Program α) : Config α where
  world := ⟨program.registries, program.observers⟩
  frames := [.steps program.steps]
  signal := .proceed

/-- Takes up to a given number of steps, and adds what happens in them to a journal. -/
abbrev Config.advance [DecidableEq α] :
    Nat → Config α → Array (Event α) → Config α × Array (Event α) :=
  Machine.advance Config.step?

/-- Runs a program for at most `limit` steps of the machine: the state that is reached, and what
happened. The program has come to its end if no work is left. -/
def Program.run [DecidableEq α] (program : Program α) (limit : Nat) :
    Config α × Array (Event α) :=
  program.start.advance limit #[]

end Herald.Registry
