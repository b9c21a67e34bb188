import Herald.CommandLine

/-!
# The program

Reads the environment, runs the command line, prints what it leaves and exits with its code.
-/

namespace Herald

/-- The settings that the environment has values for. -/
def readEnvironment : IO Environment := do
  return {
    owner := ← IO.getEnv "LIFECYCLEXT_OWNER"
    initialState := ← IO.getEnv "LIFECYCLEXT_INITIAL_STATE"
    observers := ← IO.getEnv "LIFECYCLEXT_OBSERVERS"
    detachAfter := ← IO.getEnv "LIFECYCLEXT_DETACH_AFTER" }

end Herald

/-- The program. -/
def main (arguments : List String) : IO UInt32 := do
  let outcome := Herald.CommandLine.run (← Herald.readEnvironment) ("herald" :: arguments)
  IO.print outcome.output
  IO.eprint outcome.errors
  return outcome.code
