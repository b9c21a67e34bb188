import Herald.Registry.Basic

/-!
# Programs over registries

A program owns some registries and some observers, and performs actions one after another. An
observer that is notified of a change runs a script of further actions: the first of the batches
that wait for it, and then the actions that it always performs. So a notification may change the
state of any registry again, add and remove observers, or fail.

A registry is named by its place in the list of the program. An action on a place that holds no
registry is not performed.

How programs run is said in `Herald.Registry.Machine`.
-/

namespace Herald.Registry

variable {α : Type}

/-- What an action does with one registry. -/
inductive Operation (α : Type) where
  /-- Changes the state. The fault of a notification ends the dispatch; it is the value of the
  operation if `catching`, and otherwise the operation fails with it. -/
  | set (state : StateId) (catching : Bool)
  /-- Changes the state to the one after the current state, if that is below a limit. -/
  | advance (limit : StateId)
  | add (observer : α)
  | remove (observer : α)
  | current
  | previous
  | size
  | owner
  | show (layout : Text.Layout)
  /-- Fails as an observer of the change that is being announced, up to the state that the registry
  is in now. Outside a notification it does nothing. -/
  | failHere
  deriving DecidableEq, Repr

/-- One action of a program or of a notification. -/
inductive Action (α : Type) where
  /-- An operation on the registry in a given place. -/
  | on (place : Nat) (operation : Operation α)
  /-- Leaves a batch of actions for the first notification of an observer that finds no other
  waiting. -/
  | enqueue (observer : α) (batch : List (Action α))
  | fail (fault : Fault)

/-- Actions that are performed in order, up to the first that fails. -/
abbrev Script (α : Type) :=
  List (Action α)

/-- The value of an action. -/
inductive Value where
  | unit
  | state (value : StateId)
  | previous (value : Option StateId)
  | count (value : Nat)
  | text (value : String)
  | fault (value : Fault)
  deriving DecidableEq, Repr

/-- What an observer does when it is notified. -/
structure Observer (α : Type) where
  /-- One batch for each of the next notifications. -/
  batches : List (Script α) := []
  /-- What every notification ends with. -/
  always : Script α := []

/-- Registries, observers and the steps to perform. -/
structure Program (α : Type) where
  registries : List (Registry α)
  observers : List (α × Observer α)
  steps : Script α

end Herald.Registry
