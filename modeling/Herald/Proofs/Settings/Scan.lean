import Herald.Settings.Words
import Mathlib.Data.List.Induction

/-!
# What the words of a command line set

A flag with its value, in one word or in two, sets the value and nothing else (`scan_words`). So
after flags with their values each setting is what its flag was given last, or what it was before
(`value?_assign`). A word that asks for help counts where a flag may stand, and only there
(`scan_eq_none_iff`).
-/

namespace Herald

/-! ## One argument -/

namespace Flag

/-- A flag is known by its word. -/
theorem ofWord?_word (flag : Flag) : ofWord? flag.word.toList = some flag := by
  cases flag <;> decide

theorem word_of_ofWord? {cs : List Char} {flag : Flag} (known : ofWord? cs = some flag) :
    flag.word.toList = cs := by
  simpa using List.find?_some known

/-- There is no equals sign in the word of a flag. -/
theorem equals_not_mem_word (flag : Flag) : '=' ∉ flag.word.toList := by
  cases flag <;> decide

end Flag

namespace Argument

/-- A word asks for help. -/
def IsHelp (word : String) : Prop :=
  word = "-h" ∨ word = "--help"

theorem ofString_eq_help_iff {text : String} : ofString text = .help ↔ IsHelp text := by
  unfold ofString IsHelp
  split
  · simp [*]
  · simp only [*, iff_false]
    split <;> simp

/-- The word of a flag is read as the flag. -/
theorem ofString_word (flag : Flag) : ofString flag.word = .flag flag := by
  cases flag <;> decide

/-- A flag that waits for its value stands alone in its word. -/
theorem ofString_eq_flag_iff {text : String} {flag : Flag} :
    ofString text = .flag flag ↔ text = flag.word := by
  refine ⟨fun read => ?_, fun same => same ▸ ofString_word flag⟩
  unfold ofString at read
  split at read
  · cases read
  · dsimp only at read
    split at read
    · cases read
    · next found known nothing =>
      cases read
      have whole :=
        List.takeWhile_append_dropWhile (p := fun c => decide (c ≠ '=')) (l := text.toList)
      rw [nothing, List.append_nil] at whole
      rw [whole] at known
      exact String.toList_inj.1 (Flag.word_of_ofWord? known).symm
    · cases read

/-- The word of a flag asks for no help. -/
theorem not_isHelp_word (flag : Flag) : ¬ IsHelp flag.word := by
  rw [← ofString_eq_help_iff, ofString_word]
  simp

/-- A flag, an equals sign and a value are read as what they are. -/
theorem ofString_assignment (flag : Flag) (value : String) :
    ofString (flag.word ++ "=" ++ value) = .assignment flag value := by
  have whole : (flag.word ++ "=" ++ value).toList = flag.word.toList ++ '=' :: value.toList := by
    simp
  have before : ∀ c ∈ flag.word.toList, decide (c ≠ '=') = true := by
    intro c mem
    have differs : c ≠ '=' := fun same => flag.equals_not_mem_word (same ▸ mem)
    simpa using differs
  -- a request for help has no equals sign
  have unhelpful : ¬ (flag.word ++ "=" ++ value = "-h" ∨ flag.word ++ "=" ++ value = "--help") := by
    have there : '=' ∈ (flag.word ++ "=" ++ value).toList := by simp
    rintro (same | same) <;> rw [same] at there <;> revert there <;> decide
  rw [ofString, if_neg unhelpful, whole]
  simp only [List.takeWhile_append_of_pos before, List.dropWhile_append_of_pos before,
    List.takeWhile_cons_of_neg, List.dropWhile_cons_of_neg, ne_eq, not_true_eq_false, decide_false,
    Bool.false_eq_true, not_false_eq_true, List.append_nil, Flag.ofWord?_word, String.ofList_toList]

/-- A flag has its value in the same word if and only if an equals sign stands between them. -/
theorem ofString_eq_assignment_iff {text value : String} {flag : Flag} :
    ofString text = .assignment flag value ↔ text = flag.word ++ "=" ++ value := by
  refine ⟨fun read => ?_, fun same => same ▸ ofString_assignment flag value⟩
  unfold ofString at read
  split at read
  · cases read
  · dsimp only at read
    split at read
    · cases read
    · cases read
    · next found sign rest known after =>
      cases read
      have whole :=
        List.takeWhile_append_dropWhile (p := fun c => decide (c ≠ '=')) (l := text.toList)
      have stopped := List.head?_dropWhile_not (fun c => decide (c ≠ '=')) text.toList
      rw [after] at stopped whole
      obtain rfl : sign = '=' := by simpa using stopped
      rw [← Flag.word_of_ofWord? known] at whole
      refine String.toList_inj.1 (whole.symm.trans ?_)
      simp

end Argument

namespace Settings

variable {settings other : Settings}

/-! ## Flags with their values -/

/-- A flag that is given a value sets it. -/
theorem scan_words (settings : Settings) (spelling : Spelling) (assignment : Assignment)
    (rest : List String) :
    settings.scan (assignment.words spelling ++ rest) =
      (settings.set assignment.flag assignment.value).scan rest := by
  cases spelling with
  | joined => simp [Assignment.words, scan, Argument.ofString_assignment]
  | apart => simp [Assignment.words, scan, Argument.ofString_word]

/-- Flags that are given values set them in order. -/
theorem scan_spell (settings : Settings) (parts : List (Spelling × Assignment))
    (rest : List String) :
    settings.scan (spell parts ++ rest) = (settings.assign (parts.map Prod.snd)).scan rest := by
  induction parts generalizing settings with
  | nil => rfl
  | cons part parts ih =>
      rw [spell, List.flatMap_cons, List.append_assoc, scan_words]
      exact ih _

/-! ## The last value counts -/

theorem value?_set (settings : Settings) (flag other : Flag) (value : String) :
    (settings.set flag value).value? other =
      if flag = other then some value else settings.value? other := by
  cases flag <;> cases other <;> rfl

/-- Settings that have the same text for every flag are the same. -/
theorem ext_value? (same : ∀ flag, settings.value? flag = other.value? flag) :
    settings = other := by
  obtain ⟨owner, initialState, observers, detachAfter, states⟩ := settings
  obtain ⟨owner', initialState', observers', detachAfter', states'⟩ := other
  cases same .owner
  cases same .initial
  cases same .observers
  cases same .detachAfter
  cases same .states
  rfl

/-- The value that a flag is given last. -/
def lastValue? (flag : Flag) (assignments : List Assignment) : Option String :=
  (assignments.reverse.find? fun assignment => assignment.flag = flag).map Assignment.value

theorem mem_of_lastValue? {flag : Flag} {assignments : List Assignment} {value : String}
    (last : lastValue? flag assignments = some value) : ⟨flag, value⟩ ∈ assignments := by
  obtain ⟨assignment, found, rfl⟩ := Option.map_eq_some_iff.1 last
  have mem := List.mem_of_find?_eq_some found
  obtain rfl : assignment.flag = flag := by simpa using List.find?_some found
  exact List.mem_reverse.1 mem

theorem lastValue?_eq_none_iff {flag : Flag} {assignments : List Assignment} :
    lastValue? flag assignments = none ↔ ∀ assignment ∈ assignments, assignment.flag ≠ flag := by
  simp [lastValue?, List.find?_eq_none]

theorem lastValue?_append (flag : Flag) (assignments others : List Assignment) :
    lastValue? flag (assignments ++ others) =
      (lastValue? flag others).or (lastValue? flag assignments) := by
  simp [lastValue?, Option.map_or]

theorem lastValue?_singleton (flag : Flag) (assignment : Assignment) :
    lastValue? flag [assignment] =
      if assignment.flag = flag then some assignment.value else none := by
  by_cases same : assignment.flag = flag <;> simp [lastValue?, same]

/-- What other flags are given does not matter. -/
theorem lastValue?_filter (flag : Flag) (assignments : List Assignment) :
    lastValue? flag (assignments.filter (·.flag = flag)) = lastValue? flag assignments := by
  simp [lastValue?, ← List.filter_reverse, List.find?_filter]

theorem lastValue?_concat (flag : Flag) (assignments : List Assignment) (last : Assignment) :
    lastValue? flag (assignments ++ [last]) =
      if last.flag = flag then some last.value else lastValue? flag assignments := by
  rw [lastValue?_append, lastValue?_singleton]
  split <;> rfl

theorem assign_concat (settings : Settings) (assignments : List Assignment) (last : Assignment) :
    settings.assign (assignments ++ [last]) =
      (settings.assign assignments).set last.flag last.value := by
  simp [assign]

/-- After flags have been given values a setting is what its flag was given last, or what it was
before. -/
theorem value?_assign (settings : Settings) (assignments : List Assignment) (flag : Flag) :
    (settings.assign assignments).value? flag =
      (lastValue? flag assignments).or (settings.value? flag) := by
  induction assignments using List.reverseRecOn with
  | nil => rfl
  | append_singleton assignments last ih =>
      rw [assign_concat, value?_set, lastValue?_concat, ih]
      split <;> rfl

/-! ## Help -/

/-- A word asks for help where a flag may stand: the words before it are flags with their values and
words that are no flag waiting for a value. -/
inductive AsksHelp : List String → Prop where
  | here {word rest} (help : Argument.IsHelp word) : AsksHelp (word :: rest)
  | value {flag : Flag} {value rest} (later : AsksHelp rest) :
      AsksHelp (flag.word :: value :: rest)
  | past {word rest} (unvalued : ∀ flag : Flag, word ≠ flag.word) (later : AsksHelp rest) :
      AsksHelp (word :: rest)

/-- The value of a flag asks for nothing. -/
theorem asksHelp_flag_iff {flag : Flag} {value : String} {rest : List String} :
    AsksHelp (flag.word :: value :: rest) ↔ AsksHelp rest := by
  constructor
  · intro asks
    generalize same : flag.word :: value :: rest = words at asks
    cases asks with
    | here help =>
        cases same
        exact absurd help (Argument.not_isHelp_word flag)
    | value later =>
        obtain ⟨-, same⟩ := List.cons.inj same
        cases same
        exact later
    | past unvalued =>
        cases same
        exact absurd rfl (unvalued flag)
  · exact .value

/-- A flag at the very end asks for nothing. -/
theorem not_asksHelp_flag (flag : Flag) : ¬ AsksHelp [flag.word] := by
  intro asks
  generalize same : [flag.word] = words at asks
  cases asks with
  | here help =>
      cases same
      exact Argument.not_isHelp_word flag help
  | value => cases congrArg List.length same
  | past unvalued =>
      cases same
      exact unvalued flag rfl

theorem asksHelp_cons_iff {word : String} {rest : List String}
    (unvalued : ∀ flag : Flag, word ≠ flag.word) :
    AsksHelp (word :: rest) ↔ Argument.IsHelp word ∨ AsksHelp rest := by
  constructor
  · intro asks
    cases asks with
    | here help => exact .inl help
    | value later => exact absurd rfl (unvalued _)
    | past _ later => exact .inr later
  · rintro (help | later)
    · exact .here help
    · exact .past unvalued later

/-- There are no settings if and only if help is asked for. -/
theorem scan_eq_none_iff {words : List String} : settings.scan words = none ↔ AsksHelp words := by
  -- a word that is read as something else neither asks for help nor is a flag
  have past {text : String} {rest : List String} (unhelpful : Argument.ofString text ≠ .help)
      (unvalued : ∀ flag, Argument.ofString text ≠ .flag flag) :
      AsksHelp (text :: rest) ↔ AsksHelp rest := by
    have other (flag : Flag) : text ≠ flag.word :=
      fun same => unvalued flag (Argument.ofString_eq_flag_iff.2 same)
    rw [asksHelp_cons_iff other, ← Argument.ofString_eq_help_iff]
    simp [unhelpful]
  fun_induction scan settings words with
  | case1 settings =>
      refine iff_of_false (by simp) fun asks => ?_
      cases asks
  | case2 settings text rest read =>
      exact iff_of_true rfl (.here (Argument.ofString_eq_help_iff.1 read))
  | case3 settings text rest flag value read ih | case4 settings text rest read ih =>
      exact ih.trans (past (by simp [read]) (by simp [read])).symm
  | case5 settings text flag read =>
      rw [Argument.ofString_eq_flag_iff.1 read]
      exact iff_of_false (by simp) (not_asksHelp_flag flag)
  | case6 settings text flag read value rest ih =>
      rw [Argument.ofString_eq_flag_iff.1 read]
      exact ih.trans asksHelp_flag_iff.symm

end Settings

end Herald
