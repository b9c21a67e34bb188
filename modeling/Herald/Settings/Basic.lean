import Herald.Replay.Plan
import Herald.Stage
import Herald.Text.Pieces

/-!
# Settings

The settings of a replay as they were given, each a text. They are read only when a plan is made of
them (`Settings.plan`), so that a text that cannot be used is reported and never replaced by a
default. The first setting that cannot be used, in the order of the fields, decides the fault.
-/

namespace Herald

/-- The settings of a replay, unread. -/
structure Settings where
  owner : String
  initialState : String
  observers : String
  detachAfter : Option String
  states : String
  deriving DecidableEq, Repr

namespace Settings

/-- Reads a count below 2^64, with blanks around it and perhaps a `+` in front. A fault names the
setting by its key and keeps the text as it was given. -/
def parseCount (key text : String) : Except Fault UInt64 :=
  match Text.unsigned? (Text.trim text.toList) with
  | some n => if n < UInt64.size then .ok (UInt64.ofNat n) else .error (.invalidConfig key text)
  | none => .error (.invalidConfig key text)

/-- The pieces of a text between commas that are not blank, without the blanks around them. -/
def stateTexts (text : String) : List (List Char) :=
  ((Text.pieces ',' text.toList).map Text.trim).filter fun piece => !piece.isEmpty

/-- Reads the states between commas. Blank pieces count for nothing. -/
def parseStates (text : String) : Except Fault (List StateId) :=
  (stateTexts text).mapM fun piece => StateId.parse (String.ofList piece)

/-- Reads the number of deliveries after which an observer leaves, if there is one. -/
def parseDetachAfter : Option String → Except Fault (Option UInt64)
  | none => .ok none
  | some text => (parseCount "detach_after" text).map some

/-- Makes a plan of the settings. -/
def plan (settings : Settings) : Except Fault Replay.Plan := do
  let initialState ← StateId.parse settings.initialState
  let observers ← parseCount "observers" settings.observers
  let detachAfter ← parseDetachAfter settings.detachAfter
  let states ← parseStates settings.states
  return { owner := settings.owner, initialState, observers, detachAfter, states }

end Settings

end Herald
