import Herald.Replay.Run
import Herald.Settings.Arguments

/-!
# The command line

What the program prints and how it exits, for every list of arguments and every environment. It
prints its usage if help is asked for; it fails if no plan can be made of the settings; and
otherwise it replays the plan and prints a line for each delivery and a last one for the state that
was reached. The text of a failure is not made here, but by the runtime that the program returns it
to (`runWith`).
-/

namespace Herald.CommandLine

/-- What the program leaves behind. -/
structure Outcome where
  code : UInt32
  output : String := ""
  errors : String := ""
  deriving DecidableEq, Repr

/-- The line that tells how to call the program. -/
def usage : String :=
  "lifecyclext_trace [--owner <name>] [--initial <state>] [--observers <n>] " ++
    "[--detach-after <n>] [--states a,b,c]\n"

/-- The line for a delivery. -/
def deliveryLine (delivery : Replay.Delivery) : String :=
  "observer " ++ String.ofList (Text.decimal delivery.observer) ++ " : " ++
    delivery.previous.label ++ " -> " ++ delivery.current.label ++ "\n"

/-- The last line of a report. -/
def finalLine (report : Replay.Report) : String :=
  "final state " ++ report.finalState.label ++ " with " ++
    String.ofList (Text.decimal report.remaining) ++ " observer(s) registered\n"

/-- The text of a report. -/
def reportText (report : Replay.Report) : String :=
  String.join (report.deliveries.map deliveryLine) ++ finalLine report

/-- Runs the program. The first of the words is its own name. What is written of a failure is a
matter of the runtime: `render` is told what was being done and which fault stopped it. -/
def runWith (render : String → Fault → String) (environment : Environment)
    (words : List String) : Outcome :=
  match Settings.ofCommandLine environment words with
  | none => { code := 0, output := usage }
  | some settings =>
    match settings.plan with
    | .error fault =>
      { code := 1, errors := render "invalid lifecyclext_trace configuration" fault }
    | .ok plan =>
      match plan.replay with
      | .error fault => { code := 1, errors := render "lifecycle replay aborted" fault }
      | .ok report => { code := 0, output := reportText report }

/-- A failure as the runtime writes it: what was being done, and the text of the fault that stopped
it. -/
def failureText (context : String) (fault : Fault) : String :=
  "Error: " ++ context ++ "\n\nCaused by:\n    " ++ fault.describe ++ "\n"

/-- Runs the program on the runtime that writes failures as `failureText` does. -/
def run (environment : Environment) (words : List String) : Outcome :=
  runWith failureText environment words

end Herald.CommandLine
