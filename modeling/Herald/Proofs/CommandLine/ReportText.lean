import Herald.CommandLine
import Herald.Proofs.Label

/-!
# The text of a report

The text of a report has one line for each delivery and a last one (`hasLines_reportText`), and says
all that the report says. Numerals and labels hold no blanks and no ends of lines, so a text can be
taken apart from the left (`deliveryLine_append_inj`, `finalLine_inj`), and the first letter of a
line tells a delivery from the end. So different reports have different texts (`reportText_inj`).
-/

namespace Herald.CommandLine

open Replay

/-! ## Words that end at a blank -/

/-- A text is cut in one way at the first place where a character stands. -/
theorem cut_inj {c : Char} {word other rest rest' : List Char} (first : c ∉ word)
    (second : c ∉ other) (same : word ++ c :: rest = other ++ c :: rest') :
    word = other ∧ rest = rest' := by
  induction word generalizing other with
  | nil =>
      cases other with
      | nil => exact ⟨rfl, (List.cons.inj same).2⟩
      | cons b other => exact absurd ((List.cons.inj same).1 ▸ List.mem_cons_self) second
  | cons a word ih =>
      cases other with
      | nil => exact absurd ((List.cons.inj same).1 ▸ List.mem_cons_self) first
      | cons b other =>
          obtain ⟨rfl, tails⟩ := List.cons.inj same
          obtain ⟨rfl, rests⟩ :=
            ih (fun mem => first (.tail _ mem)) (fun mem => second (.tail _ mem)) tails
          exact ⟨rfl, rests⟩

/-- A character that is no digit is not in a numeral. -/
theorem not_mem_decimal {c : Char} (n : Nat) (other : ¬ c.isDigit) : c ∉ Text.decimal n :=
  fun mem => other (Text.isDigit_of_mem_decimal mem)

/-- A numeral before a blank tells its number. -/
theorem decimal_blank_inj {m n : Nat} {rest rest' : List Char}
    (same : Text.decimal m ++ ' ' :: rest = Text.decimal n ++ ' ' :: rest') :
    m = n ∧ rest = rest' := by
  obtain ⟨numerals, rests⟩ :=
    cut_inj (not_mem_decimal m (by decide)) (not_mem_decimal n (by decide)) same
  exact ⟨Text.decimal_inj numerals, rests⟩

/-- A label before a character that it does not hold tells its state. -/
theorem label_cut_inj {c : Char} {state other : StateId} {rest rest' : List Char} (sign : c ≠ '-')
    (cut : ¬ c.isAlphanum)
    (same : state.label.toList ++ c :: rest = other.label.toList ++ c :: rest') :
    state = other ∧ rest = rest' := by
  obtain ⟨labels, rests⟩ :=
    cut_inj (state.not_mem_label sign cut) (other.not_mem_label sign cut) same
  exact ⟨StateId.label_inj (String.toList_inj.1 labels), rests⟩

/-! ## The lines of a report -/

/-- A text is one line: it ends with the end of a line, and has no other. -/
def IsLine (text : String) : Prop :=
  ∃ inner, '\n' ∉ inner ∧ text.toList = inner ++ ['\n']

/-- A text is a number of lines. -/
def HasLines (text : String) (n : Nat) : Prop :=
  ∃ lines, lines.length = n ∧ (∀ line ∈ lines, IsLine line) ∧ text = String.join lines

theorem toList_deliveryLine (delivery : Delivery) :
    (deliveryLine delivery).toList =
      "observer ".toList ++ (Text.decimal delivery.observer ++ ' ' :: (": ".toList ++
        (delivery.previous.label.toList ++ ' ' :: ("-> ".toList ++
          (delivery.current.label.toList ++ ['\n']))))) := by
  -- the equation of the definition would be checked byte by byte
  delta deliveryLine
  simp

theorem toList_finalLine (report : Report) :
    (finalLine report).toList =
      "final state ".toList ++ (report.finalState.label.toList ++ ' ' :: ("with ".toList ++
        (Text.decimal report.remaining ++ " observer(s) registered\n".toList))) := by
  delta finalLine
  simp

theorem isLine_deliveryLine (delivery : Delivery) : IsLine (deliveryLine delivery) := by
  have number := not_mem_decimal (c := '\n') delivery.observer (by decide)
  have source := delivery.previous.not_mem_label (c := '\n') (by decide) (by decide)
  have target := delivery.current.not_mem_label (c := '\n') (by decide) (by decide)
  refine ⟨"observer ".toList ++ (Text.decimal delivery.observer ++ ' ' :: (": ".toList ++
    (delivery.previous.label.toList ++ ' ' :: ("-> ".toList ++
      delivery.current.label.toList)))), ?_, ?_⟩
  · simp [number, source, target]
  · simp [toList_deliveryLine]

theorem isLine_finalLine (report : Report) : IsLine (finalLine report) := by
  have number := not_mem_decimal (c := '\n') report.remaining (by decide)
  have state := report.finalState.not_mem_label (c := '\n') (by decide) (by decide)
  refine ⟨"final state ".toList ++ (report.finalState.label.toList ++ ' ' :: ("with ".toList ++
    (Text.decimal report.remaining ++ " observer(s) registered".toList))), ?_, ?_⟩
  · simp [number, state]
  · simp [toList_finalLine]

/-- The text of a report has a line for each delivery and a last one. -/
theorem hasLines_reportText (report : Report) :
    HasLines (reportText report) (report.deliveries.length + 1) := by
  refine ⟨report.deliveries.map deliveryLine ++ [finalLine report], by simp, ?_, ?_⟩
  · intro line mem
    rcases List.mem_append.1 mem with mem | mem
    · obtain ⟨delivery, -, rfl⟩ := List.mem_map.1 mem
      exact isLine_deliveryLine delivery
    · exact List.mem_singleton.1 mem ▸ isLine_finalLine report
  · simp [reportText]

/-! ## The report of a text -/

/-- The line of a delivery tells the delivery, and where the line ends. -/
theorem deliveryLine_append_inj {delivery other : Delivery} {rest rest' : List Char}
    (same : (deliveryLine delivery).toList ++ rest = (deliveryLine other).toList ++ rest') :
    delivery = other ∧ rest = rest' := by
  simp only [toList_deliveryLine, List.append_assoc, List.cons_append, List.nil_append] at same
  obtain ⟨observers, after⟩ := decimal_blank_inj (List.append_cancel_left same)
  obtain ⟨sources, after⟩ := label_cut_inj (by decide) (by decide) (List.append_cancel_left after)
  obtain ⟨targets, rests⟩ := label_cut_inj (by decide) (by decide) (List.append_cancel_left after)
  cases delivery
  cases other
  cases observers
  cases sources
  cases targets
  exact ⟨rfl, rests⟩

/-- The last line tells the state that was reached and the number of observers. -/
theorem finalLine_inj {report other : Report}
    (same : (finalLine report).toList = (finalLine other).toList) :
    report.finalState = other.finalState ∧ report.remaining = other.remaining := by
  rw [toList_finalLine, toList_finalLine] at same
  obtain ⟨states, after⟩ := label_cut_inj (by decide) (by decide) (List.append_cancel_left same)
  obtain ⟨numbers, -⟩ := decimal_blank_inj (List.append_cancel_left after)
  exact ⟨states, numbers⟩

/-- The line of a delivery is not the last line. -/
theorem deliveryLine_append_ne_finalLine (delivery : Delivery) (rest : List Char)
    (report : Report) : (deliveryLine delivery).toList ++ rest ≠ (finalLine report).toList := by
  rw [toList_deliveryLine, toList_finalLine]
  intro same
  have initial : 'o' = 'f' := (List.cons.inj same).1
  exact absurd initial (by decide)

/-- The lines of deliveries with a last line after them tell the deliveries, and the last line. -/
theorem deliveryLines_append_inj {deliveries others : List Delivery} {report other : Report}
    (same : deliveries.flatMap (fun delivery => (deliveryLine delivery).toList) ++
        (finalLine report).toList =
      others.flatMap (fun delivery => (deliveryLine delivery).toList) ++
        (finalLine other).toList) :
    deliveries = others ∧ (finalLine report).toList = (finalLine other).toList := by
  induction deliveries generalizing others with
  | nil =>
      cases others with
      | nil =>
          simp only [List.flatMap_nil, List.nil_append] at same
          exact ⟨rfl, same⟩
      | cons first others =>
          simp only [List.flatMap_nil, List.nil_append, List.flatMap_cons, List.append_assoc]
            at same
          exact absurd same.symm (deliveryLine_append_ne_finalLine first _ report)
  | cons first deliveries ih =>
      cases others with
      | nil =>
          simp only [List.flatMap_nil, List.nil_append, List.flatMap_cons, List.append_assoc]
            at same
          exact absurd same (deliveryLine_append_ne_finalLine first _ other)
      | cons second others =>
          simp only [List.flatMap_cons, List.append_assoc] at same
          obtain ⟨rfl, rests⟩ := deliveryLine_append_inj same
          obtain ⟨rfl, lasts⟩ := ih rests
          exact ⟨rfl, lasts⟩

/-- Different reports have different texts. -/
theorem reportText_inj {report other : Report} (same : reportText report = reportText other) :
    report = other := by
  have texts := congrArg String.toList same
  simp only [reportText, String.toList_append, String.toList_join, List.flatMap_map] at texts
  obtain ⟨deliveries, lasts⟩ := deliveryLines_append_inj texts
  obtain ⟨states, numbers⟩ := finalLine_inj lasts
  cases report
  cases other
  cases deliveries
  cases states
  cases numbers
  rfl

end Herald.CommandLine
