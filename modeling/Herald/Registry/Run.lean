import Herald.Registry.Machine

/-!
# Runs of a program over registries

`Steps` relates a configuration to those that the machine can reach from it, with the journal of
what happens on the way. A run of a program starts where the program starts. What holds at every
point of every run is shown by induction on the steps (`Machine.Steps`); `Program.run_isRun` says
that running a program up to a limit is one of its runs.
-/

namespace Herald.Registry

variable {α : Type} [DecidableEq α]

/-- The machine can go from `start` to a configuration, and the journal holds what happens on the
way. -/
abbrev Steps (start : Config α) : List (Event α) → Config α → Prop :=
  Machine.Steps Config.step? start

/-- What the machine can do from the start of a program. -/
abbrev Run (program : Program α) : List (Event α) → Config α → Prop :=
  Steps program.start

/-- Running a program up to a limit is a run. -/
theorem Program.run_isRun (program : Program α) (limit : Nat) :
    Run program (program.run limit).2.toList (program.run limit).1 :=
  Machine.advance_steps limit .refl

/-- A program whose observers change states in turn. The first change of `host` makes observer `0`
change `peer`, where observer `2` fails, and the fault goes back through both dispatches. The second
change of `host` makes it change `host` once more, while observer `1` has not yet been told. -/
def relay : Program Nat where
  registries := [{ owner := "host", current := 0 }, { owner := "peer", current := 5 }]
  observers :=
    [(0, { batches := [[.on 1 (.set 6 false)], [.on 0 (.set 3 false)]] }), (1, {}),
      (2, { always := [.fail { severity := .warn, message := "gone" }] })]
  steps := [.on 0 (.add 0), .on 0 (.add 1), .on 1 (.add 2), .on 0 (.set 1 true),
    .on 0 (.set 2 false)]

end Herald.Registry
