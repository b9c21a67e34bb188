import Herald.Registry.Machine

/-!
# What a program over registries did, step by step

A report says of one step of a program how it ended, what happened in it and how it left the
registries. The reports of a run are its journal, cut after each `Event.stepped`.
-/

namespace Herald.Registry

variable {α : Type}

/-- One step of a program. -/
structure Report (α : Type) where
  outcome : Except Fault Value
  /-- What happened in the step, in order. -/
  events : List (Event α)
  /-- How the step left the registries. -/
  statuses : List Status

/-- The log record of an event, for an event that is logged. -/
def Event.record? : Event α → Option Trace.Record
  | .unchanged _ _ state => some state.unchangedRecord
  | .dispatching _ _ source target snapshot =>
    some (source.dispatchRecord target snapshot.length)
  | .skipped _ _ entry => some entry.skipRecord
  | .ended _ _ (some fault) => some fault.record
  | .noticed _ notice => some notice.record
  | _ => none

/-- The report of a step that ends with an event, from what happened in the step before. -/
def Event.report? : Event α → Option (List (Event α) → Report α)
  | .stepped outcome statuses => some fun events => ⟨outcome, events, statuses⟩
  | _ => none

/-- Runs a program for at most `limit` steps of the machine, and reports on each of its own steps
that came to an end. -/
def Program.reports [DecidableEq α] (program : Program α) (limit : Nat) : List (Report α) :=
  Machine.reports Event.report? [] (program.run limit).2.toList

end Herald.Registry
