import Herald.Fault
import Herald.Roster.Basic

/-!
# Programs over a roster

A program owns some handles and performs actions, one after another, on one roster. An action may
walk over the roster (`Action.forEach`), and then each visited handle runs a script of further
actions, which may change the roster, walk over it again or fail. A handle may also have a hook, a
script that runs when the last holder of the handle lets it go.

How programs run is said in `Herald.Roster.Machine`.
-/

namespace Herald.Roster

variable {α : Type}

/-- What an action is aimed at. -/
inductive Target (α : Type) where
  /-- A handle that the program holds. -/
  | named (handle : α)
  /-- The handle that is being visited. -/
  | self
  /-- The handle of a visit farther out. The walk of this visit was started in the course of the
  visit that has the depth 0, the walk of that one in the course of the visit that has the depth 1,
  and so on. -/
  | enclosing (depth : Nat)
  deriving DecidableEq, Repr

/-- One action of a program, of a visit or of a hook. -/
inductive Action (α : Type) where
  | add (target : Target α)
  | remove (target : Target α)
  | contains (target : Target α)
  | clear
  | size
  | isEmpty
  | show (layout : Text.Layout)
  /-- The program lets one of its handles go. -/
  | release (handle : α)
  | fail (fault : Fault)
  /-- Walks over the roster. The visit that comes k-th, from 0, runs the k-th script of `turns` and
  then the script that `on` has for the visited handle. The fault of a visit ends the walk; it is
  the value of the action if `catching`, and otherwise the action fails with it. -/
  | forEach (turns : List (List (Action α))) (on : List (α × List (Action α))) (catching : Bool)

/-- Actions that are performed in order, up to the first that does not succeed. -/
abbrev Script (α : Type) :=
  List (Action α)

/-- The value of an action. -/
inductive Value where
  | unit
  | flag (value : Bool)
  | count (value : Nat)
  | text (value : String)
  | fault (value : Fault)
  deriving DecidableEq, Repr

/-- The handles that a program starts with, some of them with a hook, and its steps. -/
structure Program (α : Type) where
  handles : List (α × Option (Script α))
  steps : Script α

/-- The hook of a handle, if it has one. -/
def Program.hook? [DecidableEq α] (program : Program α) (handle : α) : Option (Script α) :=
  (program.handles.lookup handle).join

/-! ## The cost of a program

An upper bound for the number of machine steps that a program takes, where no roster ever holds
more than `n` handles. A walk lets each script of its list and of its table run at most once, and
a hook runs at most once in the whole program.
-/

mutual

/-- The cost of an action. -/
def Action.cost (n : Nat) : Action α → Nat
  | .forEach turns on _ => 4 * n + 8 + costOfTurns n turns + costOfTable n on
  | _ => n + 8

/-- The cost of a script. -/
def costOfScript (n : Nat) : List (Action α) → Nat
  | [] => 1
  | action :: rest => action.cost n + costOfScript n rest

/-- The cost of a list of scripts that each run once. -/
def costOfTurns (n : Nat) : List (List (Action α)) → Nat
  | [] => 0
  | script :: rest => costOfScript n script + costOfTurns n rest

/-- The cost of a table of scripts that each run once. -/
def costOfTable (n : Nat) : List (α × List (Action α)) → Nat
  | [] => 0
  | (_, script) :: rest => costOfScript n script + costOfTable n rest

end

/-- The cost of the hooks of a program. -/
def costOfHooks (n : Nat) : List (α × Option (Script α)) → Nat
  | [] => 0
  | (_, none) :: rest => costOfHooks n rest
  | (_, some script) :: rest => costOfScript n script + 2 + costOfHooks n rest

/-- The cost of a program. -/
def Program.cost (program : Program α) : Nat :=
  let n := program.handles.length
  costOfScript n program.steps + costOfHooks n program.handles

end Herald.Roster
