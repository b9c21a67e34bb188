import Herald.Machine
import Herald.Roster.Program

/-!
# How a program over a roster runs

A program runs on a machine that takes small steps. Its configuration holds the world (the
roster, the handles that the program still holds, who may use the roster), a stack of unfinished
work and a signal, which tells the topmost work how to go on. A step answers with the events that
took place in it, and the journal of a run is what its steps answered, in order.

Two things are explicit here that a program cannot see while it runs.

* *Access.* Every use of the roster takes access to it and gives it back: many may read at one time,
  but whoever changes the roster must be alone (`Access`). A walk has access while it takes its
  snapshot and while it looks whether an entry still stands. A removal keeps its access until the
  entry is gone, while a registration and a clearing give theirs back before they let anything go.
  If a use meets one that excludes it, access is `broken` and the machine stands still.
* *Holders.* A handle is alive while the program, an entry of the roster, the snapshot of a walk, or
  entries that are being let go hold it. It dies when the last of them lets go, and its hook runs at
  once, before anything else.

A walk takes a snapshot of the entries at its start, and visits those of them that are still
registered when their turn comes. It keeps the snapshot until it ends, and then lets go of it in
order before the work that started it goes on.

Work stops early for one of two reasons (`Stop`). A fault goes up to the first walk that catches it,
or else ends the hook or the step of the program that it comes from. An action that is aimed at
nothing is a mistake of the program itself. No walk catches it: the whole hook is given up, and
outside a hook the whole program.
-/

namespace Herald.Roster

variable {α : Type}

/-- Why a holder lets go of handles. -/
inductive Cause where
  /-- A registration was refused, and its argument is not kept. -/
  | argument
  /-- An entry was taken out. -/
  | removal
  /-- The roster was cleared. -/
  | clearing
  /-- A walk ended. -/
  | walk
  /-- The program gave the handle up. -/
  | release
  deriving DecidableEq, Repr

/-- Why work stops before its end. -/
inductive Stop where
  /-- An action failed. -/
  | fault (fault : Fault)
  /-- An action was aimed at nothing. -/
  | misaimed
  deriving DecidableEq, Repr

/-- What the topmost work is told. -/
inductive Signal where
  /-- Go on. -/
  | proceed
  /-- The action that was started has this value. -/
  | deliver (value : Value)
  /-- The action that was started, or the work above, stopped. -/
  | raise (stop : Stop)
  deriving DecidableEq, Repr

/-- What happened in a run. The level of a walk is the number of walks that are under way when it
begins, itself included. -/
inductive Event (α : Type) where
  | began (level : Nat) (snapshot : List (Entry α))
  /-- An entry was found to stand when its turn came, and its visit begins. -/
  | visited (level : Nat) (entry : Entry α)
  /-- A visit came to its end, or stopped. -/
  | returned (level : Nat) (handle : α) (stop : Option Stop)
  /-- An entry was found to be gone when its turn came. -/
  | skipped (level : Nat) (entry : Entry α)
  /-- A walk came to its end, or stopped. -/
  | ended (level : Nat) (stop : Option Stop)
  | noticed (notice : Notice α)
  /-- The program gave a handle up. -/
  | released (handle : α)
  /-- The last holder of a handle let go; `hooked` says whether the handle has a hook. -/
  | died (cause : Cause) (handle : α) (hooked : Bool)
  /-- The hook of a handle came to its end, or stopped. -/
  | hookEnded (handle : α) (stop : Option Stop)
  /-- A holder has let go of all that it held. -/
  | settled (cause : Cause)
  /-- An action inside a visit or a hook has a value. -/
  | answered (value : Value)
  /-- A step of the program came to its end, and left these handles registered. -/
  | stepped (outcome : Except Fault Value) (order : List α)

/-- A walk that is under way. -/
structure Walk (α : Type) where
  /-- The entries that were registered at the start. -/
  snapshot : List (Entry α)
  /-- The part of the snapshot whose turn has not come. -/
  pending : List (Entry α)
  /-- The number of visits so far. -/
  visits : Nat
  turns : List (Script α)
  on : List (α × Script α)
  catching : Bool
  /-- The visits in the course of which the walk was started, by their handles, the innermost
  first. -/
  scope : List α

/-- A kind of unfinished work. -/
inductive Frame (α : Type) where
  /-- The steps of the program that are left. -/
  | steps (rest : Script α)
  /-- The actions of a visit or of a hook that are left. The scope of a visit has its own handle
  first, and then those of the visits farther out; that of a hook is empty. -/
  | script (scope : List α) (rest : Script α)
  | walk (walk : Walk α)
  /-- Handles that are being let go, one by one; after the last one the work below gets `next`. -/
  | letGo (cause : Cause) (handles : List α) (next : Signal)
  /-- The hook of a handle that has died. -/
  | hook (handle : α)
  /-- Access that is to be given back; then the work below gets `next`. -/
  | unlock (next : Signal)

/-- Who is using the roster. -/
inductive Access where
  /-- This many readers. -/
  | shared (readers : Nat)
  /-- Somebody who changes it. -/
  | exclusive
  /-- A use has met another that excludes it. -/
  | broken
  deriving DecidableEq, Repr

namespace Access

/-- Nobody uses the roster. -/
def free : Access :=
  .shared 0

/-- The access of one more reader. -/
def read : Access → Access
  | .shared readers => .shared (readers + 1)
  | _ => .broken

/-- The access of somebody who changes the roster. -/
def write : Access → Access
  | .shared 0 => .exclusive
  | _ => .broken

/-- What is left when a reader, or whoever changes the roster, is done. -/
def release : Access → Access
  | .shared readers => .shared (readers - 1)
  | .exclusive => free
  | .broken => .broken

end Access

/-- What the actions of a program act on. -/
structure World (α : Type) where
  roster : Roster α := {}
  /-- The handles that the program holds. -/
  pool : List α
  access : Access := .free

/-- A state of the machine. -/
structure Config (α : Type) where
  world : World α
  frames : List (Frame α)
  signal : Signal

/-! ## Holders -/

/-- Whether a frame is a walk. -/
def Frame.isWalk : Frame α → Bool
  | .walk _ => true
  | _ => false

/-- The number of walks that are under way. -/
def level (frames : List (Frame α)) : Nat :=
  frames.countP Frame.isWalk

/-- The handles that a frame holds. -/
def Frame.held : Frame α → List α
  | .walk w => w.snapshot.map Entry.handle
  | .letGo _ handles _ => handles
  | _ => []

/-- Whether anything holds a handle. -/
def isHeld [DecidableEq α] (world : World α) (frames : List (Frame α)) (handle : α) : Bool :=
  decide (handle ∈ world.pool) || world.roster.contains handle ||
    frames.any fun frame => decide (handle ∈ frame.held)

/-! ## Actions -/

/-- The handle that a target stands for, in the course of the visits of the handles in `scope`. A
handle that the program has given up stands for nothing, nor does a visit that is not there. -/
def World.resolve [DecidableEq α] (world : World α) (scope : List α) : Target α → Option α
  | .named handle => if handle ∈ world.pool then some handle else none
  | .self => scope.head?
  | .enclosing depth => scope.tail[depth]?

/-- Takes access to the roster and does work with it. If that is not to be had, access is broken
and the work is not done. -/
def World.use (world : World α) (access : Access) (frames : List (Frame α))
    (work : World α → Config α × List (Event α)) : Config α × List (Event α) :=
  if access = .broken then
    (⟨{ world with access := .broken }, frames, .proceed⟩, [])
  else
    work { world with access }

/-- Reads a value off the roster for the work in `frames`. -/
def World.answer (world : World α) (frames : List (Frame α)) (value : Value) :
    Config α × List (Event α) :=
  world.use world.access.read frames fun world =>
    (⟨world, .unlock (.deliver value) :: frames, .proceed⟩, [])

/-- Performs an action for the work in `frames`. An action whose target stands for nothing is not
performed, and stops that work. -/
def perform [DecidableEq α] (world : World α) (scope : List α) (frames : List (Frame α)) :
    Action α → Config α × List (Event α)
  | .add target =>
    match world.resolve scope target with
    | none => (⟨world, frames, .raise .misaimed⟩, [])
    | some handle =>
      let added := world.roster.add handle
      let refused := if world.roster.contains handle then [handle] else []
      world.use world.access.write frames fun world =>
        (⟨{ world with roster := added.1 },
          .unlock .proceed :: .letGo .argument refused (.deliver .unit) :: frames, .proceed⟩,
          [.noticed added.2])
  | .remove target =>
    match world.resolve scope target with
    | none => (⟨world, frames, .raise .misaimed⟩, [])
    | some handle =>
      let removed := world.roster.remove handle
      let taken := if world.roster.contains handle then [handle] else []
      world.use world.access.write frames fun world =>
        (⟨{ world with roster := removed.1 },
          .letGo .removal taken .proceed :: .unlock (.deliver .unit) :: frames, .proceed⟩,
          [.noticed removed.2])
  | .contains target =>
    match world.resolve scope target with
    | none => (⟨world, frames, .raise .misaimed⟩, [])
    | some handle => world.answer frames (.flag (world.roster.contains handle))
  | .clear =>
    let cleared := world.roster.clear
    let taken := world.roster.handles
    world.use world.access.write frames fun world =>
      (⟨{ world with roster := cleared.1 },
        .unlock .proceed :: .letGo .clearing taken (.deliver .unit) :: frames, .proceed⟩,
        [.noticed cleared.2])
  | .size => world.answer frames (.count world.roster.size)
  | .isEmpty => world.answer frames (.flag world.roster.isEmpty)
  | .show layout => world.answer frames (.text (world.roster.shown.render layout))
  | .release handle =>
    if handle ∈ world.pool then
      (⟨{ world with pool := world.pool.filter fun other => other ≠ handle },
        .letGo .release [handle] (.deliver .unit) :: frames, .proceed⟩, [.released handle])
    else
      (⟨world, frames, .deliver .unit⟩, [])
  | .fail fault => (⟨world, frames, .raise (.fault fault)⟩, [])
  | .forEach turns on catching =>
    let entries := world.roster.entries
    world.use world.access.read frames fun world =>
      (⟨world, .unlock .proceed ::
          .walk ⟨entries, entries, 0, turns, on, catching, scope⟩ :: frames, .proceed⟩,
        [.began (level frames + 1) entries])

/-! ## Steps -/

/-- The script of the next visit of a walk, if it is of a given handle. -/
def Walk.script [DecidableEq α] (walk : Walk α) (handle : α) : Script α :=
  (walk.turns[walk.visits]?).getD [] ++ (walk.on.lookup handle).getD []

/-- Ends a walk for the work in `frames`: the snapshot is let go, and then comes `next`. -/
def Walk.finish (walk : Walk α) (world : World α) (frames : List (Frame α))
    (stop : Option Stop) (next : Signal) : Config α × List (Event α) :=
  (⟨world, .letGo .walk (walk.snapshot.map Entry.handle) next :: frames, .proceed⟩,
    [.ended (level frames + 1) stop])

/-- What a walk tells the work that started it after one of its visits stopped. Only a fault can be
caught. -/
def Walk.pass (walk : Walk α) : Stop → Signal
  | .fault fault => if walk.catching then .deliver (.fault fault) else .raise (.fault fault)
  | .misaimed => .raise .misaimed

/-- Ends a walk one of whose visits stopped. -/
def Walk.abort (walk : Walk α) (world : World α) (frames : List (Frame α)) (stop : Stop) :
    Config α × List (Event α) :=
  walk.finish world frames (some stop) (walk.pass stop)

/-- Gives the next entry of a walk its turn. -/
def Walk.turn [DecidableEq α] (walk : Walk α) (world : World α) (frames : List (Frame α)) :
    Config α × List (Event α) :=
  match world.roster.turn walk.pending with
  | .done => walk.finish world frames none (.deliver .unit)
  | .visit entry pending =>
    world.use world.access.read (.walk walk :: frames) fun world =>
      (⟨world, .unlock .proceed ::
        .script (entry.handle :: walk.scope) (walk.script entry.handle) ::
        .walk { walk with pending, visits := walk.visits + 1 } :: frames, .proceed⟩,
        [.visited (level frames + 1) entry])
  | .skip entry pending =>
    world.use world.access.read (.walk walk :: frames) fun world =>
      (⟨world, .unlock .proceed :: .walk { walk with pending } :: frames, .proceed⟩,
        [.skipped (level frames + 1) entry])

/-- Lets go of a handle, for the work in `frames`. If nothing else holds the handle it dies, and
its hook runs. -/
def World.drop [DecidableEq α] (world : World α) (program : Program α) (frames : List (Frame α))
    (cause : Cause) (handle : α) : Config α × List (Event α) :=
  if isHeld world frames handle then
    (⟨world, frames, .proceed⟩, [])
  else
    match program.hook? handle with
    | none => (⟨world, frames, .proceed⟩, [.died cause handle false])
    | some script =>
      (⟨world, .script [] script :: .hook handle :: frames, .proceed⟩,
        [.died cause handle true])

/-- The events of an action inside a script: a value is told unless it is `unit`. -/
def Value.events (value : Value) : List (Event α) :=
  if value = .unit then [] else [.answered value]

/-- The events at the end of a script: a visit returns to its walk. -/
def returnEvents (scope : List α) (frames : List (Frame α)) (stop : Option Stop) :
    List (Event α) :=
  (scope.head?.map fun handle => .returned (level frames) handle stop).toList

/-- What the topmost work does when it is told how to go on, with `frames` below it. -/
def Frame.resume [DecidableEq α] (program : Program α) (world : World α)
    (frames : List (Frame α)) : Frame α → Signal → Config α × List (Event α)
  | .steps [], .proceed => (⟨world, frames, .proceed⟩, [])
  | .steps (action :: rest), .proceed => perform world [] (.steps rest :: frames) action
  | .steps rest, .deliver value =>
    (⟨world, .steps rest :: frames, .proceed⟩, [.stepped (.ok value) world.roster.handles])
  | .steps rest, .raise (.fault fault) =>
    (⟨world, .steps rest :: frames, .proceed⟩, [.stepped (.error fault) world.roster.handles])
  | .steps _, .raise .misaimed => (⟨world, frames, .raise .misaimed⟩, [])
  | .script scope [], .proceed => (⟨world, frames, .proceed⟩, returnEvents scope frames none)
  | .script scope (action :: rest), .proceed =>
    perform world scope (.script scope rest :: frames) action
  | .script scope rest, .deliver value =>
    (⟨world, .script scope rest :: frames, .proceed⟩, value.events)
  | .script scope _, .raise stop =>
    (⟨world, frames, .raise stop⟩, returnEvents scope frames (some stop))
  | .walk w, .proceed => w.turn world frames
  | .walk w, .deliver _ => w.turn world frames
  | .walk w, .raise stop => w.abort world frames stop
  | .letGo cause [] next, _ => (⟨world, frames, next⟩, [.settled cause])
  | .letGo cause (handle :: handles) next, _ =>
    world.drop program (.letGo cause handles next :: frames) cause handle
  | .hook handle, .proceed => (⟨world, frames, .proceed⟩, [.hookEnded handle none])
  | .hook handle, .deliver _ => (⟨world, frames, .proceed⟩, [.hookEnded handle none])
  | .hook handle, .raise stop =>
    (⟨world, frames, .proceed⟩, [.hookEnded handle (some stop)])
  | .unlock next, _ => (⟨{ world with access := world.access.release }, frames, next⟩, [])

/-- One step of the machine. There is none after the last work is done, or if access to the roster
is broken. -/
def Config.step? [DecidableEq α] (program : Program α) (config : Config α) :
    Option (Config α × List (Event α)) :=
  match config.frames with
  | [] => none
  | frame :: frames =>
    if config.world.access = .broken then
      none
    else
      some (frame.resume program config.world frames config.signal)

/-! ## Runs -/

/-- The machine before the first step of a program. -/
def Program.start (program : Program α) : Config α where
  world := { pool := program.handles.map Prod.fst }
  frames := [.steps program.steps]
  signal := .proceed

/-- Takes up to a given number of steps, and adds what happens in them to a journal. -/
abbrev Config.advance [DecidableEq α] (program : Program α) :
    Nat → Config α → Array (Event α) → Config α × Array (Event α) :=
  Machine.advance (Config.step? program)

/-- Runs a program to its end: where the machine comes to rest, and what happened. -/
def Program.run [DecidableEq α] (program : Program α) : Config α × Array (Event α) :=
  program.start.advance program program.cost #[]

end Herald.Roster
