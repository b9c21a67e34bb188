import Herald.Proofs.Label
import Herald.Proofs.Text.Grammar

/-!
# Texts that are read as states

Without the blanks around it, a text that is read as a state is the numeral of the state, with
perhaps a sign, or the name of its stage in letters of either case (`parse_eq_ok_iff`). No text is
both, because there is a digit in each numeral and none in a name (`Signed.not_names`). Any other
text is refused, and the fault has what is left of it without the blanks (`parse_eq_error_iff`).
-/

namespace Herald

namespace Stage

/-- A text names a stage: it is the name of the stage but for the case of its letters. -/
def Names (text : List Char) (stage : Stage) : Prop :=
  List.Forall₂ Text.SameButCase text stage.label.toList

/-- No two stages have the same name, not even without case. -/
theorem label_inj_of_sameLetters {stage other : Stage}
    (same : Text.sameLetters stage.label.toList other.label.toList) : stage = other := by
  revert same
  cases stage <;> cases other <;> decide

theorem names_iff {text : List Char} {stage : Stage} :
    Names text stage ↔ Text.sameLetters stage.label.toList text := by
  rw [Names, ← Text.sameLetters_iff_forall₂, Text.sameLetters_iff, Text.sameLetters_iff, eq_comm]

/-- A text names one stage at most. -/
theorem Names.unique {text : List Char} {stage other : Stage} (names : Names text stage)
    (otherwise : Names text other) : stage = other := by
  rw [names_iff, Text.sameLetters_iff] at names otherwise
  exact label_inj_of_sameLetters (Text.sameLetters_iff.2 (names.trans otherwise.symm))

/-- The stage that is found is the one that the text names. -/
theorem ofLabel?_eq_some_iff {cs : List Char} {stage : Stage} :
    ofLabel? cs = some stage ↔ Names (Text.trim cs) stage := by
  have names_of_found {other : Stage} (found : ofLabel? cs = some other) :
      Names (Text.trim cs) other := by
    have same := List.find?_some found
    exact names_iff.2 same
  refine ⟨names_of_found, fun names => ?_⟩
  cases found : ofLabel? cs with
  | none => exact absurd (names_iff.1 names) (List.find?_eq_none.1 found stage stage.mem_all)
  | some other => rw [names.unique (names_of_found found)]

theorem not_isDigit_of_mem_label {stage : Stage} {c : Char} (mem : c ∈ stage.label.toList) :
    ¬ c.isDigit := by
  have letters : stage.label.toList.all fun c => !c.isDigit := by
    cases stage <;> decide
  simpa using List.all_eq_true.1 letters c mem

end Stage

/-- There is a digit in a numeral, and there is none in the name of a stage. -/
theorem Text.Signed.not_names {text : List Char} {value : Int} (numeral : Text.Signed text value)
    (stage : Stage) : ¬ stage.Names text := by
  intro names
  obtain ⟨c, mem, digit⟩ := numeral.exists_isDigit
  obtain ⟨i, inside, rfl⟩ := List.getElem_of_mem mem
  obtain ⟨length, pointwise⟩ := List.forall₂_iff_get.1 names
  have same : Text.SameButCase text[i] stage.label.toList[i] :=
    pointwise i inside (length ▸ inside)
  refine Stage.not_isDigit_of_mem_label (List.getElem_mem (length ▸ inside)) ?_
  rwa [← same.eq_of_isDigit digit]

namespace StateId

/-- A numeral is read as the state that is its value, and no other text is. -/
theorem ofNumeral?_eq_some_iff {cs : List Char} {state : StateId} :
    ofNumeral? cs = some state ↔ Text.Signed cs state.toInt := by
  rw [← Text.signed?_eq_some_iff, ofNumeral?, Option.bind_eq_some_iff]
  constructor
  · rintro ⟨value, read, inside⟩
    split at inside
    · next bounds =>
      obtain ⟨low, high⟩ := bounds
      cases inside
      rw [read, Int32.toInt_ofInt_of_le low (Int.lt_of_le_of_lt high (by decide))]
    · cases inside
  · intro read
    refine ⟨state.toInt, read, ?_⟩
    rw [if_pos ⟨state.minValue_le_toInt, state.toInt_le⟩, Int32.ofInt_toInt]

/-- A text names a state: it names the stage that the state stands for. -/
def Names (text : List Char) (state : StateId) : Prop :=
  ∃ stage : Stage, stage.id = state ∧ stage.Names text

/-- A text is read as a numeral if it is one, and as the name of a stage otherwise. -/
theorem parse_eq (input : String) :
    parse input =
      ((ofNumeral? (Text.trim input.toList)).or
        ((Stage.ofLabel? (Text.trim input.toList)).map Stage.id)).elim
          (.error (.unknownState (String.ofList (Text.trim input.toList)))) .ok := by
  unfold parse
  dsimp only
  cases ofNumeral? (Text.trim input.toList) with
  | some state => rfl
  | none =>
      rw [Stage.parse, String.toList_ofList]
      cases Stage.ofLabel? (Text.trim input.toList) <;> rfl

/-- Blanks around a text make no difference. -/
theorem parse_trim (input : String) :
    parse (String.ofList (Text.trim input.toList)) = parse input := by
  rw [parse_eq, parse_eq, String.toList_ofList, Text.trim_trim]

/-- Without the blanks around it a text that is read as a state is a numeral of the state or names
it. -/
theorem parse_eq_ok_iff {input : String} {state : StateId} :
    parse input = .ok state ↔
      Text.Signed (Text.trim input.toList) state.toInt ∨ Names (Text.trim input.toList) state := by
  have named : (Stage.ofLabel? (Text.trim input.toList)).map Stage.id = some state ↔
      Names (Text.trim input.toList) state := by
    simp only [Option.map_eq_some_iff, Stage.ofLabel?_eq_some_iff, Text.trim_trim, Names, and_comm]
  have unread (names : Names (Text.trim input.toList) state) :
      ofNumeral? (Text.trim input.toList) = none := by
    obtain ⟨stage, -, names⟩ := names
    refine Option.eq_none_iff_forall_ne_some.2 fun other read => ?_
    exact (ofNumeral?_eq_some_iff.1 read).not_names stage names
  -- no numeral names a stage, so it does not matter that numerals are tried first
  rw [parse_eq, ← ofNumeral?_eq_some_iff, ← named]
  rw [← named] at unread
  cases read : ofNumeral? (Text.trim input.toList) with
  | none => cases (Stage.ofLabel? (Text.trim input.toList)).map Stage.id <;> simp
  | some other =>
      have unnamed := mt unread (by simp [read])
      simp [unnamed]

/-- A text that cannot be read as a state is reported without the blanks around it. -/
theorem fault_of_parse {input : String} {fault : Fault}
    (refused : parse input = .error fault) :
    fault = .unknownState (String.ofList (Text.trim input.toList)) := by
  rw [parse_eq] at refused
  generalize (ofNumeral? (Text.trim input.toList)).or _ = read at refused
  cases read with
  | none => exact (Except.error.inj refused).symm
  | some state => cases refused

/-- Any other text is refused, and it is reported without the blanks around it. -/
theorem parse_eq_error_iff {input : String} {fault : Fault} :
    parse input = .error fault ↔
      fault = .unknownState (String.ofList (Text.trim input.toList)) ∧
        ∀ state : StateId, ¬ (Text.Signed (Text.trim input.toList) state.toInt ∨
          Names (Text.trim input.toList) state) := by
  simp only [← parse_eq_ok_iff]
  constructor
  · intro refused
    exact ⟨fault_of_parse refused, by simp [refused]⟩
  · rintro ⟨rfl, unread⟩
    cases read : parse input with
    | ok state => exact absurd read (unread state)
    | error fault => rw [fault_of_parse read]

/-- Each text has one that is left of it without the blanks at its ends. That one is read as a state
if and only if it is a numeral of the state or names it, and it is never both; in every other case
the text is refused, and the fault has what is left of it. The label of a state is read as the
state. -/
theorem parse_of_stripped (input : String) :
    (∃! text, Text.Stripped input.toList text) ∧
      (∀ text, Text.Stripped input.toList text →
        (∀ state, parse input = .ok state ↔ Text.Signed text state.toInt ∨ Names text state) ∧
        ∀ fault, parse input = .error fault ↔ fault = .unknownState (String.ofList text) ∧
          ∀ state : StateId, ¬ (Text.Signed text state.toInt ∨ Names text state)) ∧
      (∀ text value state, ¬ (Text.Signed text value ∧ Names text state)) ∧
      ∀ state : StateId, parse state.label = .ok state := by
  refine ⟨⟨_, Text.stripped_trim _, ?_⟩, ?_, ?_, parse_label⟩
  · intro text stripped
    exact stripped.trim_eq.symm
  · intro text stripped
    obtain rfl := stripped.trim_eq
    exact ⟨fun state => parse_eq_ok_iff, fun fault => parse_eq_error_iff⟩
  · rintro text value state ⟨numeral, stage, -, names⟩
    exact numeral.not_names stage names

/-- A numeral with a sign, leading zeros and blanks around it is read, and so is a name in letters
of both cases. A name whose first letter only looks like another case of `s` is refused. -/
theorem padded_parse :
    (Text.Stripped "	+0003　".toList "+0003".toList ∧ parse "	+0003　" = .ok 3) ∧
      (Text.Stripped " StarteD".toList "StarteD".toList ∧ parse " StarteD" = .ok 3) ∧
      Text.Stripped "ſtarted".toList "ſtarted".toList ∧
      parse "ſtarted" = .error (.unknownState "ſtarted") ∧
      ∀ state : StateId, ¬ (Text.Signed "ſtarted".toList state.toInt ∨
        Names "ſtarted".toList state) := by
  have signed : Text.Stripped "	+0003　".toList "+0003".toList := Text.trim_eq_iff.1 rfl
  have cased : Text.Stripped " StarteD".toList "StarteD".toList := Text.trim_eq_iff.1 rfl
  have foreign : Text.Stripped "ſtarted".toList "ſtarted".toList :=
    Text.trim_eq_iff.1 rfl
  have numeral : Text.Signed "+0003".toList (3 : StateId).toInt := Text.signed?_eq_some_iff.1 rfl
  have names : Names "StarteD".toList 3 := ⟨.started, rfl, Stage.names_iff.2 (by decide)⟩
  have refused : parse "ſtarted" = .error (.unknownState "ſtarted") := rfl
  refine ⟨⟨signed, ?_⟩, ⟨cased, ?_⟩, foreign, refused, ?_⟩
  · exact (((parse_of_stripped _).2.1 _ signed).1 3).2 (.inl numeral)
  · exact (((parse_of_stripped _).2.1 _ cased).1 3).2 (.inr names)
  · exact ((((parse_of_stripped _).2.1 _ foreign).2 _).1 refused).2

end StateId

end Herald
