import Herald.Fault
import Herald.Text.Blank
import Herald.Text.Letters
import Herald.Text.Numeral

/-!
# Lifecycle stages

Five named states that follow the usual life of a component, from least to most active. A state is
otherwise a bare number: `StateId.label` writes the name of a stage where there is one and the
number where there is none, and `StateId.parse` reads either.
-/

namespace Herald

/-- The stages of a component's life, from least to most active. -/
inductive Stage where
  | destroyed
  | initialized
  | created
  | started
  | resumed
  deriving DecidableEq, Ord, Repr

namespace Stage

/-- All stages, least active first. -/
def all : List Stage :=
  [.destroyed, .initialized, .created, .started, .resumed]

/-- The state that stands for a stage. -/
def id : Stage → StateId
  | .destroyed => 0
  | .initialized => 1
  | .created => 2
  | .started => 3
  | .resumed => 4

/-- The stage that a state stands for, if it stands for one. -/
def ofId? (id : StateId) : Option Stage :=
  all.find? fun stage => stage.id = id

/-- The name of a stage. -/
def label : Stage → String
  | .destroyed => "destroyed"
  | .initialized => "initialized"
  | .created => "created"
  | .started => "started"
  | .resumed => "resumed"

/-- Whether the first stage is the second or a more active one. -/
def isAtLeast (stage other : Stage) : Bool :=
  (compare stage other).isGE

/-- The stage with a given name, up to blanks around it and the case of its letters. -/
def ofLabel? (cs : List Char) : Option Stage :=
  all.find? fun stage => Text.sameLetters stage.label.toList (Text.trim cs)

/-- Reads the name of a stage. A fault keeps the text as it was given. -/
def parse (input : String) : Except Fault Stage :=
  match ofLabel? input.toList with
  | some stage => .ok stage
  | none => .error (.unknownState input)

theorem mem_all (stage : Stage) : stage ∈ all := by
  cases stage <;> decide

@[simp] theorem ofId?_id (stage : Stage) : ofId? stage.id = some stage := by
  cases stage <;> decide

end Stage

namespace StateId

/-- The numeral of a state. -/
def numeral (state : StateId) : String :=
  String.ofList (Text.decimalInt state.toInt)

/-- The name of the stage that a state stands for, or its numeral. -/
def label (state : StateId) : String :=
  match Stage.ofId? state with
  | some stage => stage.label
  | none => state.numeral

/-- The state with a given numeral, if it is in the range of states. -/
def ofNumeral? (cs : List Char) : Option StateId :=
  (Text.signed? cs).bind fun n =>
    if Int32.minValue.toInt ≤ n ∧ n ≤ Int32.maxValue.toInt then some (Int32.ofInt n) else none

/-- Reads the numeral of a state or the name of a stage, with blanks around it. A fault keeps the
text without those blanks. -/
def parse (input : String) : Except Fault StateId :=
  let text := Text.trim input.toList
  match ofNumeral? text with
  | some state => .ok state
  | none => (Stage.parse (String.ofList text)).map Stage.id

end StateId

end Herald
