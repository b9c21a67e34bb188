import Herald.Roster.Machine

/-!
# What a program over a roster did, step by step

A report says of one step of a program how it ended, what happened in it and which handles it left
registered. The reports of a run are its journal, cut after each `Event.stepped`.
-/

namespace Herald.Roster

variable {α : Type}

/-- One step of a program. -/
structure Report (α : Type) where
  outcome : Except Fault Value
  /-- What happened in the step, in order. -/
  events : List (Event α)
  /-- The handles that are registered after the step, in order. -/
  order : List α

/-- The log record of an event, for an event that is logged. -/
def Event.record? : Event α → Option Trace.Record
  | .noticed notice => some notice.record
  | .skipped _ entry => some entry.skipRecord
  | _ => none

/-- The report of a step that ends with an event, from what happened in the step before. -/
def Event.report? : Event α → Option (List (Event α) → Report α)
  | .stepped outcome order => some fun events => ⟨outcome, events, order⟩
  | _ => none

/-- Runs a program and reports on each of its steps. A program that is given up has no report on the
step in which that happens, nor on those after it. -/
def Program.reports [DecidableEq α] (program : Program α) : List (Report α) :=
  Machine.reports Event.report? [] program.run.2.toList

end Herald.Roster
