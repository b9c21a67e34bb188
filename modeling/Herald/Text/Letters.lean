/-!
# Letters up to case

Two texts that differ only in the case of the letters `A` to `Z`. No other letter has a second
case here: a dotted or accented capital equals nothing but itself.
-/

namespace Herald.Text

/-- The text with each of the letters `A` to `Z` in lower case. -/
def lower (cs : List Char) : List Char :=
  cs.map Char.toLower

/-- Whether two texts are the same up to the case of the letters `A` to `Z`. -/
def sameLetters (as bs : List Char) : Bool :=
  lower as == lower bs

theorem sameLetters_iff {as bs : List Char} : sameLetters as bs ↔ lower as = lower bs := by
  simp [sameLetters]

end Herald.Text
