import Herald.Text.Numeral

/-!
# Values shown to a developer

A value for a log or a debugger, in one of two layouts: all on one line, or as an indented block
with one field on each line. A record may say that it has fields that it does not show.
-/

namespace Herald.Text

/-- What is shown of a value. -/
inductive Shown where
  /-- A text that is shown as it stands. -/
  | atom (text : String)
  /-- A value wrapped under a name. -/
  | wrapped (name : String) (value : Shown)
  /-- Named fields; `more` says that there are others, which are not shown. -/
  | record (name : String) (fields : List (String × Shown)) (more : Bool)

/-- How a value is laid out. -/
inductive Layout where
  | line
  | block
  deriving DecidableEq, Repr

namespace Shown

/-- A number is shown as its numeral. -/
def ofNat (n : Nat) : Shown :=
  .atom (String.ofList (decimal n))

/-- A number that may be negative is shown as its numeral. -/
def ofInt (n : Int) : Shown :=
  .atom (String.ofList (decimalInt n))

/-- A value that may be missing. -/
def ofOption : Option Shown → Shown
  | some value => .wrapped "Some" value
  | none => .atom "None"

mutual

/-- The value on one line. -/
def line : Shown → String
  | .atom text => text
  | .wrapped name value => name ++ "(" ++ value.line ++ ")"
  | .record name fields more =>
    let texts := lineFields fields ++ if more then [".."] else []
    name ++ " \x7b " ++ ", ".intercalate texts ++ " \x7d"

/-- The fields of a record, each with its name. -/
def lineFields : List (String × Shown) → List String
  | [] => []
  | (name, value) :: fields => (name ++ ": " ++ value.line) :: lineFields fields

end

mutual

/-- The value as a block whose lines after the first start with `indent`. -/
def block (indent : String) : Shown → String
  | .atom text => text
  | .wrapped name value =>
    let inner := indent ++ "    "
    name ++ "(\n" ++ inner ++ value.block inner ++ ",\n" ++ indent ++ ")"
  | .record name fields more =>
    let inner := indent ++ "    "
    let rest := if more then inner ++ "..\n" else ""
    name ++ " \x7b\n" ++ blockFields inner fields ++ rest ++ indent ++ "\x7d"

/-- The fields of a record, each on a line of its own that starts with `indent`. -/
def blockFields (indent : String) : List (String × Shown) → String
  | [] => ""
  | (name, value) :: fields =>
    indent ++ name ++ ": " ++ value.block indent ++ ",\n" ++ blockFields indent fields

end

/-- The value in a given layout. -/
def render (value : Shown) : Layout → String
  | .line => value.line
  | .block => value.block ""

end Shown

end Herald.Text
