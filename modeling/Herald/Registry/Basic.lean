import Herald.Fault
import Herald.Roster.Basic
import Herald.Text.Quoted

/-!
# Registries

A registry holds the lifecycle state of its owner and a roster of those who want to know of every
change. A change to the state that is current already is none. Any other change is accepted, and
both the new state and the one left behind are in place before anyone is told.
-/

namespace Herald

/-- The lifecycle state of an owner, and the observers of its changes. -/
structure Registry (α : Type) where
  owner : String
  current : StateId
  /-- The state that the last accepted change left; nothing before the first one. -/
  previous : Option StateId := none
  observers : Roster α := {}
  deriving DecidableEq, Repr

/-- What can be read off a registry between two actions. -/
structure Status where
  current : StateId
  previous : Option StateId
  size : Nat
  deriving DecidableEq, Repr

namespace Registry

variable {α : Type}

/-- The registry after a change of state, if the change is accepted. -/
def accept? (registry : Registry α) (state : StateId) : Option (Registry α) :=
  if state = registry.current then
    none
  else
    some { registry with current := state, previous := some registry.current }

/-- The states of a registry and the number of its observers. -/
def status (registry : Registry α) : Status :=
  ⟨registry.current, registry.previous, registry.observers.size⟩

/-- What a developer is shown of a registry. -/
def shown (registry : Registry α) : Text.Shown :=
  .record "LifecycleRegistry"
    [("owner", .atom (Text.quoted registry.owner)),
      ("current", .ofInt registry.current.toInt),
      ("previous", .ofOption (registry.previous.map fun state => .ofInt state.toInt)),
      ("observers", .ofNat registry.observers.size)]
    false

variable [DecidableEq α]

/-- Registers an observer. -/
def addObserver (registry : Registry α) (observer : α) : Registry α × Notice α :=
  let added := registry.observers.add observer
  ({ registry with observers := added.1 }, added.2)

/-- Takes an observer off the roster. -/
def removeObserver (registry : Registry α) (observer : α) : Registry α × Notice α :=
  let removed := registry.observers.remove observer
  ({ registry with observers := removed.1 }, removed.2)

end Registry

/-! ## Records -/

/-- The log record of a change to the state that is current already. -/
def StateId.unchangedRecord (state : StateId) : Trace.Record :=
  ⟨.debug, "lifecycle state unchanged; nothing to dispatch", [("state", .number state.toInt)]⟩

/-- The log record of an accepted change that a number of observers will hear of. -/
def StateId.dispatchRecord (source target : StateId) (observers : Nat) : Trace.Record :=
  ⟨.trace, "dispatching lifecycle transition",
    [("from", .number source.toInt), ("to", .number target.toInt),
      ("observers", .number observers)]⟩

end Herald
