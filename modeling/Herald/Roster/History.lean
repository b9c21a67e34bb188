import Herald.Roster.Run

/-!
# The calls that change a roster

Registrations, removals and clearings are the calls that may change a roster (`Edit`). Each of them
is told of by the notice that it answers with, so a journal determines the calls that were executed
in it (`history`), and what a roster has become (`Roster.after`).

`Config.call?` reads the same calls off the machine instead: it is the call that the topmost work is
about to execute. `Called` collects them along a run, in the order in which they take effect.
-/

namespace Herald

variable {α : Type}

/-- A call that may change a roster. -/
inductive Edit (α : Type) where
  | add (handle : α)
  | remove (handle : α)
  | clear
  deriving DecidableEq, Repr

/-- Whether a handle is no longer registered after a call that takes entries out. -/
def Edit.Expels (handle : α) : Edit α → Prop
  | .add _ => False
  | .remove other => other = handle
  | .clear => True

instance [DecidableEq α] (handle : α) (edit : Edit α) : Decidable (edit.Expels handle) :=
  match edit with
  | .add _ => .isFalse id
  | .remove other => decEq other handle
  | .clear => .isTrue trivial

@[simp] theorem Edit.expels_add (handle other : α) : ¬ (Edit.add other).Expels handle := id

@[simp] theorem Edit.expels_remove (handle other : α) :
    (Edit.remove other).Expels handle ↔ other = handle := .rfl

@[simp] theorem Edit.expels_clear (handle : α) : (Edit.clear : Edit α).Expels handle := trivial

/-- The call that a notice answers. -/
def Notice.edit : Notice α → Edit α
  | .added handle _ _ => .add handle
  | .addIgnored handle => .add handle
  | .removed handle _ _ => .remove handle
  | .removeIgnored handle => .remove handle
  | .cleared _ => .clear

namespace Roster

/-- The call that an event tells of. -/
def Event.edit? : Event α → Option (Edit α)
  | .noticed notice => some notice.edit
  | _ => none

/-- The calls that a journal tells of, in order. -/
def history (journal : List (Event α)) : List (Edit α) :=
  journal.filterMap Event.edit?

@[simp] theorem history_nil : history ([] : List (Event α)) = [] := rfl

@[simp] theorem history_append (journal events : List (Event α)) :
    history (journal ++ events) = history journal ++ history events :=
  List.filterMap_append

@[simp] theorem edit_clear_notice (roster : Roster α) :
    roster.clear.2.edit = (.clear : Edit α) := rfl

variable [DecidableEq α]

/-- What a call does. -/
def edit (roster : Roster α) : Edit α → Roster α × Notice α
  | .add handle => roster.add handle
  | .remove handle => roster.remove handle
  | .clear => roster.clear

/-- What a roster has become after some calls. -/
def after (roster : Roster α) (edits : List (Edit α)) : Roster α :=
  edits.foldl (fun roster edit => (roster.edit edit).1) roster

@[simp] theorem after_nil (roster : Roster α) : roster.after [] = roster := rfl

@[simp] theorem after_cons (roster : Roster α) (edit : Edit α) (edits : List (Edit α)) :
    roster.after (edit :: edits) = (roster.edit edit).1.after edits := rfl

@[simp] theorem after_append (roster : Roster α) (first second : List (Edit α)) :
    roster.after (first ++ second) = (roster.after first).after second :=
  List.foldl_append

@[simp] theorem edit_add_notice (roster : Roster α) (handle : α) :
    (roster.add handle).2.edit = .add handle := by
  unfold add
  split <;> rfl

@[simp] theorem edit_remove_notice (roster : Roster α) (handle : α) :
    (roster.remove handle).2.edit = .remove handle := by
  unfold remove
  split <;> rfl

/-- The notice of a call tells of that call. -/
theorem edit_notice (roster : Roster α) (edit : Edit α) : (roster.edit edit).2.edit = edit := by
  cases edit <;> simp [Roster.edit]

/-! ## Calls in a run -/

/-- The call that an action executes, if it is one that may change the roster and is aimed at
something. -/
def Action.edit? (world : World α) (scope : List α) : Action α → Option (Edit α)
  | .add target => (world.resolve scope target).map .add
  | .remove target => (world.resolve scope target).map .remove
  | .clear => some .clear
  | _ => none

/-- The call that the next step executes. -/
def Config.call? (config : Config α) : Option (Edit α) :=
  match config.frames, config.signal with
  | .steps (action :: _) :: _, .proceed => action.edit? config.world []
  | .script scope (action :: _) :: _, .proceed => action.edit? config.world scope
  | _, _ => none

/-- The machine reaches a configuration, and these are the calls that were executed on the way. -/
inductive Called (program : Program α) : List (Edit α) → Config α → Prop where
  | start : Called program [] program.start
  | step {calls : List (Edit α)} {config next : Config α} {events : List (Event α)}
      (called : Called program calls config)
      (stepped : config.step? program = some (next, events)) :
      Called program (calls ++ config.call?.toList) next

end Roster

end Herald
