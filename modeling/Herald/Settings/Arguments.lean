import Herald.Settings.Basic

/-!
# Settings from a command line

Settings start from defaults, which the environment may replace, and are then changed by the
arguments from left to right. A flag takes its value from the same argument, after an equals sign,
or from the next one, whatever that is; a flag at the very end has no value and changes nothing.
All other arguments count for nothing, except that a request for help ends the reading.
-/

namespace Herald

/-- What the environment says of the settings. -/
structure Environment where
  owner : Option String := none
  initialState : Option String := none
  observers : Option String := none
  detachAfter : Option String := none
  deriving DecidableEq, Repr

/-- The flags that take a value. -/
inductive Flag where
  | owner
  | initial
  | observers
  | detachAfter
  | states
  deriving DecidableEq, Repr

namespace Flag

/-- All flags. -/
def all : List Flag :=
  [.owner, .initial, .observers, .detachAfter, .states]

/-- The flag as it is written. -/
def word : Flag → String
  | .owner => "--owner"
  | .initial => "--initial"
  | .observers => "--observers"
  | .detachAfter => "--detach-after"
  | .states => "--states"

/-- The flag that is written in a given way. -/
def ofWord? (cs : List Char) : Option Flag :=
  all.find? fun flag => flag.word.toList == cs

theorem mem_all (flag : Flag) : flag ∈ all := by
  cases flag <;> decide

end Flag

/-- What an argument says. -/
inductive Argument where
  /-- A request for help. -/
  | help
  /-- A flag whose value is the next argument. -/
  | flag (flag : Flag)
  /-- A flag with its value. -/
  | assignment (flag : Flag) (value : String)
  /-- Anything else. -/
  | other
  deriving DecidableEq, Repr

/-- Reads one argument. -/
def Argument.ofString (text : String) : Argument :=
  if text = "-h" ∨ text = "--help" then
    .help
  else
    let cs := text.toList
    match Flag.ofWord? (cs.takeWhile (· ≠ '=')), cs.dropWhile (· ≠ '=') with
    | none, _ => .other
    | some found, [] => .flag found
    | some found, _ :: value => .assignment found (String.ofList value)

namespace Settings

/-- The settings with the value of a flag. -/
def set (settings : Settings) (flag : Flag) (value : String) : Settings :=
  match flag with
  | .owner => { settings with owner := value }
  | .initial => { settings with initialState := value }
  | .observers => { settings with observers := value }
  | .detachAfter => { settings with detachAfter := some value }
  | .states => { settings with states := value }

/-- The settings before any argument is read. -/
def ofEnvironment (environment : Environment) : Settings where
  owner := environment.owner.getD "lifecyclext_trace"
  initialState := environment.initialState.getD Stage.initialized.label
  observers := environment.observers.getD "3"
  detachAfter := environment.detachAfter
  states := "created,started,resumed,started,created,destroyed"

/-- The settings after all arguments have been read; nothing if help is asked for. -/
def scan (settings : Settings) : List String → Option Settings
  | [] => some settings
  | text :: rest =>
    match Argument.ofString text with
    | .help => none
    | .assignment flag value => (settings.set flag value).scan rest
    | .other => settings.scan rest
    | .flag flag =>
      match rest with
      | [] => some settings
      | value :: rest => (settings.set flag value).scan rest

/-- The settings of a command line, whose first word is the name of the program; nothing if help
is asked for. -/
def ofCommandLine (environment : Environment) (words : List String) : Option Settings :=
  (ofEnvironment environment).scan words.tail

end Settings

end Herald
