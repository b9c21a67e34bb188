import Herald.Roster.Report

/-!
# Reading the log of a roster

The records that a roster leaves in a log name its registrations by their serial numbers. A reader
who knows nothing but the log can follow from record to record which registrations stand
(`Trace.Record.follow`), which numbers have been given out (`Trace.Record.added?`), and which
entries were gone when a walk came to them (`Trace.Record.skipped?`).
-/

namespace Herald

namespace Trace.Record

/-- The number in a field of a record. -/
def number? (record : Record) (name : String) : Option Nat :=
  match record.fields.lookup name with
  | some (.number n) => some n.toNat
  | _ => none

/-- The serial numbers of the registrations that stand after a record, if `serials` are those that
stood before it. -/
def follow (serials : List Nat) (record : Record) : List Nat :=
  match record.message, record.number? "serial" with
  | "observer added", some serial => serials ++ [serial]
  | "observer removed", some serial => serials.erase serial
  | "observer list cleared", _ => []
  | _, _ => serials

end Trace.Record

variable {α : Type}

namespace Notice

end Notice

namespace Roster

/-- The records that a journal leaves in a log. -/
def log (journal : List (Event α)) : List Trace.Record :=
  journal.filterMap Event.record?

end Roster

end Herald
