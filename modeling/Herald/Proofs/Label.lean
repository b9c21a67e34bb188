import Herald.Stage

/-!
# Labels are read back

The label of a state is the name of a stage or a numeral. Either is one word of letters and digits,
perhaps with a `-` in front (`mem_label`), so it can stand between blanks, commas and the ends of
lines. Reading a label gives the state (`parse_label`): the name of a stage is no numeral, and the
numeral of a state is within the range of states.
-/

namespace Herald.StateId

/-- The characters of a label. -/
theorem mem_label {state : StateId} {c : Char} (mem : c ∈ state.label.toList) :
    c = '-' ∨ c.isAlphanum := by
  unfold label at mem
  split at mem
  · next stage _ =>
    have letters : stage.label.toList.all Char.isAlphanum := by
      cases stage <;> decide
    exact .inr (List.all_eq_true.1 letters c mem)
  · rw [numeral, String.toList_ofList] at mem
    refine (Text.isDigit_of_mem_decimalInt mem).imp_right fun digit => ?_
    simp [Char.isAlphanum, digit]

/-- A character that is no letter, no digit and not `-` is not in a label. -/
theorem not_mem_label {c : Char} (state : StateId) (sign : c ≠ '-') (other : ¬ c.isAlphanum) :
    c ∉ state.label.toList :=
  fun mem => (mem_label mem).elim sign other

/-- There are no blanks around a label. -/
theorem trim_label (state : StateId) : Text.trim state.label.toList = state.label.toList := by
  refine Text.trim_eq_self fun c mem => ?_
  rcases mem_label mem with rfl | plain
  · decide
  · exact Text.not_isBlank_of_isAlphanum plain

theorem label_ne_nil (state : StateId) : state.label.toList ≠ [] := by
  unfold label
  split
  · next stage _ => cases stage <;> decide
  · rw [numeral, String.toList_ofList]
    cases state.toInt with
    | ofNat n => exact Text.decimal_ne_nil n
    | negSucc n => exact List.cons_ne_nil _ _

/-- The numeral of a state is read back. -/
theorem ofNumeral?_decimalInt (state : StateId) :
    ofNumeral? (Text.decimalInt state.toInt) = some state := by
  have inside := And.intro state.minValue_le_toInt state.toInt_le
  rw [ofNumeral?, Text.signed?_decimalInt, Option.bind_some, if_pos inside, Int32.ofInt_toInt]

/-- The name of a stage is no numeral. -/
theorem parse_label_of_stage (stage : Stage) : parse stage.label = .ok stage.id := by
  cases stage <;> rfl

/-- The label of a state is read back. -/
theorem parse_label (state : StateId) : parse state.label = .ok state := by
  have trimmed := trim_label state
  unfold label at trimmed ⊢
  split
  · next stage found =>
    have same : stage.id = state := by simpa using List.find?_some found
    rw [parse_label_of_stage, same]
  · next found =>
    rw [found] at trimmed
    simp only [numeral, String.toList_ofList] at trimmed ⊢
    simp only [parse, String.toList_ofList, trimmed, ofNumeral?_decimalInt]

/-- Different states have different labels. -/
theorem label_inj {state other : StateId} (same : state.label = other.label) : state = other := by
  have read := parse_label state
  rw [same, parse_label] at read
  exact (Except.ok.inj read).symm

end Herald.StateId
