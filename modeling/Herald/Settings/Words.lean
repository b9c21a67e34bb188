import Herald.Settings.Arguments

/-!
# Settings written as words

Settings are written as words of a command line by giving each flag the text that the settings have
for it. A flag takes its value in the same word or in the next one. What a plan is written as is
what settings hold that it can be made of: labels for states and numerals for counts.
-/

namespace Herald

/-- A flag with the value that it is given. -/
structure Assignment where
  flag : Flag
  value : String
  deriving DecidableEq, Repr

/-- Where a flag has its value: after an equals sign in the same word, or in the next word. -/
inductive Spelling where
  | joined
  | apart
  deriving DecidableEq, Repr

/-- The words in which a flag is given its value. -/
def Assignment.words (assignment : Assignment) : Spelling → List String
  | .joined => [assignment.flag.word ++ "=" ++ assignment.value]
  | .apart => [assignment.flag.word, assignment.value]

/-- The words of flags with their values, one after the other. -/
def spell (parts : List (Spelling × Assignment)) : List String :=
  parts.flatMap fun part => part.2.words part.1

namespace Settings

/-- The text that settings have for a flag. Only the number of deliveries after which an observer
leaves may have none. -/
def value? (settings : Settings) : Flag → Option String
  | .owner => some settings.owner
  | .initial => some settings.initialState
  | .observers => some settings.observers
  | .detachAfter => settings.detachAfter
  | .states => some settings.states

/-- The settings with the values that flags are given, in order. -/
def assign (settings : Settings) (assignments : List Assignment) : Settings :=
  assignments.foldl (fun settings assignment => settings.set assignment.flag assignment.value)
    settings

/-- The flags with the texts that settings have for them. -/
def assignments (settings : Settings) : List Assignment :=
  Flag.all.filterMap fun flag => (settings.value? flag).map fun value => ⟨flag, value⟩

end Settings

/-- The settings of a plan. -/
def Replay.Plan.settings (plan : Plan) : Settings where
  owner := plan.owner
  initialState := plan.initialState.label
  observers := String.ofList (Text.decimal plan.observers.toNat)
  detachAfter := plan.detachAfter.map fun limit => String.ofList (Text.decimal limit.toNat)
  states := ",".intercalate (plan.states.map StateId.label)

end Herald
