import Herald.Roster.Machine

/-!
# Runs of a program over a roster

`Steps` relates a configuration to those that the machine can reach from it, with the journal of
what happens on the way. A run of a program starts where the program starts. What holds at every
point of every run is shown by induction on the steps (`Machine.Steps`); `Program.run_isRun` says
that running a program to its end is one of its runs.
-/

namespace Herald.Roster

variable {α : Type} [DecidableEq α]

/-- The machine can go from `start` to a configuration, and the journal holds what happens on the
way. -/
abbrev Steps (program : Program α) (start : Config α) : List (Event α) → Config α → Prop :=
  Machine.Steps (Config.step? program) start

/-- What the machine can do from the start of a program. -/
abbrev Run (program : Program α) : List (Event α) → Config α → Prop :=
  Steps program program.start

/-- Taking a number of steps from the start of a program is a run. -/
theorem Program.advance_isRun (program : Program α) (fuel : Nat) :
    Run program (program.start.advance program fuel #[]).2.toList
      (program.start.advance program fuel #[]).1 :=
  Machine.advance_steps fuel .refl

/-- Running a program to its end is a run. -/
theorem Program.run_isRun (program : Program α) :
    Run program program.run.2.toList program.run.1 :=
  program.advance_isRun program.cost

/-- A program that reaches back into its roster from visits and from a hook. Of the three visits
that its walk could make, the first takes its own handle out and registers it again, and the second
clears the roster. That leaves the handle `1` to the walk alone, and when the walk ends its hook
registers `0` and walks in turn. -/
def reentrant : Program Nat where
  handles :=
    [(0, none), (1, some [.add (.named 0), .forEach [[.remove .self]] [] false]), (2, none)]
  steps := [.add (.named 0), .add (.named 1), .add (.named 2), .release 1,
    .forEach [[.remove .self, .add .self], [.clear]] [] true, .add (.named 2)]

end Herald.Roster
