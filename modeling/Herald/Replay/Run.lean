import Herald.Registry.Basic
import Herald.Replay.Plan
import Herald.Stage

/-!
# Running a replay

A replay takes a fresh registry through the states of a plan, one after another, while tracers
watch it. A tracer notes every change it is told of, and takes itself off the roster when it has
been told as often as the plan allows. What the tracers noted, in the order in which they were
told, is the report of the replay.

Tracers are numbered from 0 in the order of registration, and their numbers are the handles on the
roster.

A replay changes its registry and gives the tracers their turns by itself. It does what the machine
for programs over registries does with the program of the plan
(`Herald.Proofs.Replay.Program`).
-/

namespace Herald.Replay

/-- One change of state that one tracer was told of. -/
structure Delivery where
  observer : Nat
  previous : StateId
  current : StateId
  deriving DecidableEq, Repr

/-- What came of a replay. -/
structure Report where
  deliveries : List Delivery
  finalState : StateId
  /-- The number of tracers that are registered at the end. -/
  remaining : Nat
  deriving DecidableEq, Repr

/-- What happened in a replay. -/
inductive Event where
  | noticed (notice : Notice Nat)
  | unchanged (state : StateId)
  | dispatching (source target : StateId) (observers : Nat)
  | skipped (entry : Entry Nat)
  | delivered (owner : String) (delivery : Delivery)
  /-- A tracer is about to take itself off the roster. -/
  | detaching (observer received : Nat)
  /-- A dispatch ended with a fault. -/
  | failed (fault : Fault)
  deriving DecidableEq, Repr

/-- The log record of an event. -/
def Event.record : Event → Trace.Record
  | .noticed notice => notice.record
  | .unchanged state => state.unchangedRecord
  | .dispatching source target observers => source.dispatchRecord target observers
  | .skipped entry => entry.skipRecord
  | .delivered owner delivery =>
    ⟨.info, "lifecycle transition delivered",
      [("owner", .text owner), ("observer", .number delivery.observer),
        ("from", .text delivery.previous.label), ("to", .text delivery.current.label)]⟩
  | .detaching observer received =>
    ⟨.debug, "observer detaching itself",
      [("observer", .number observer), ("received", .number received)]⟩
  | .failed fault => fault.record

/-- A replay under way. -/
structure Progress where
  registry : Registry Nat
  /-- How often each tracer has been told. -/
  received : Array Nat
  deliveries : Array Delivery := #[]
  journal : Array Event := #[]

namespace Progress

/-- Adds an event to the journal. -/
def tell (progress : Progress) (event : Event) : Progress :=
  { progress with journal := progress.journal.push event }

/-- Registers the tracer with a given number. -/
def register (progress : Progress) (observer : Nat) : Progress :=
  let added := progress.registry.addObserver observer
  { progress with registry := added.1 }.tell (.noticed added.2)

/-- Takes the tracer with a given number off the roster. -/
def detach (progress : Progress) (observer : Nat) : Progress :=
  let removed := progress.registry.removeObserver observer
  { progress with registry := removed.1 }.tell (.noticed removed.2)

/-- Tells a tracer that the state `source` was left. It notes that and the state the registry is in
now, and leaves if this was the last delivery that the plan allows. -/
def notify (plan : Plan) (source : StateId) (entry : Entry Nat) (progress : Progress) :
    Progress × Except Fault Unit :=
  let observer := entry.handle
  let delivery : Delivery := ⟨observer, source, progress.registry.current⟩
  let received := progress.received.getD observer 0 + 1
  let noted : Progress :=
    { progress with
      received := progress.received.setIfInBounds observer received
      deliveries := progress.deliveries.push delivery
      journal := progress.journal.push (.delivered progress.registry.owner delivery) }
  if plan.detachAfter.map UInt64.toNat = some received then
    ((noted.tell (.detaching observer received)).detach observer, .ok ())
  else
    (noted, .ok ())

/-- Gives each entry its turn, up to the first fault. An entry that has been removed before its
turn is left out. -/
def visit (notify : Entry Nat → Progress → Progress × Except Fault Unit) :
    List (Entry Nat) → Progress → Progress × Except Fault Unit
  | [], progress => (progress, .ok ())
  | entry :: pending, progress =>
    if progress.registry.observers.isLive entry.serial then
      match notify entry progress with
      | (progress, .ok ()) => visit notify pending progress
      | (progress, .error fault) => (progress, .error fault)
    else
      visit notify pending (progress.tell (.skipped entry))

/-- Takes the registry to a state and tells the tracers, unless it is in that state already. -/
def change (plan : Plan) (progress : Progress) (state : StateId) :
    Progress × Except Fault Unit :=
  match progress.registry.accept? state with
  | none => (progress.tell (.unchanged state), .ok ())
  | some registry =>
    let source := progress.registry.current
    let entries := registry.observers.entries
    let moved := { progress with registry }.tell (.dispatching source state entries.length)
    match visit (notify plan source) entries moved with
    | (progress, .ok ()) => (progress, .ok ())
    | (progress, .error fault) =>
      let fault := fault.withTransition source state
      (progress.tell (.failed fault), .error fault)

/-- Takes the registry through states, up to the first fault. -/
def follow (plan : Plan) : List StateId → Progress → Progress × Except Fault Unit
  | [], progress => (progress, .ok ())
  | state :: states, progress =>
    match progress.change plan state with
    | (progress, .ok ()) => follow plan states progress
    | (progress, .error fault) => (progress, .error fault)

/-- The report of a replay that has come to its end. -/
def report (progress : Progress) : Report :=
  ⟨progress.deliveries.toList, progress.registry.current, progress.registry.observers.size⟩

end Progress

namespace Plan

/-- A replay before its first state: all tracers are registered. -/
def begin (plan : Plan) : Progress :=
  let count := plan.observers.toNat
  (List.range count).foldl Progress.register
    { registry := { owner := plan.owner, current := plan.initialState }
      received := Array.replicate count 0 }

/-- Runs a replay to its end or to the first fault. -/
def run (plan : Plan) : Progress × Except Fault Unit :=
  Progress.follow plan plan.states plan.begin

/-- The report of a replay. -/
def replay (plan : Plan) : Except Fault Report :=
  match plan.run with
  | (progress, .ok ()) => .ok progress.report
  | (_, .error fault) => .error fault

/-- What happens in a replay, in order. -/
def journal (plan : Plan) : List Event :=
  plan.run.1.journal.toList

end Plan

end Herald.Replay
