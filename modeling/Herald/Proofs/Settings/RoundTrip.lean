import Herald.Proofs.Label
import Herald.Proofs.Settings.Scan

/-!
# Plans survive the command line

Settings that are written as words, each flag with its value in either spelling and the flags in any
order, are the settings that are read from these words (`ofCommandLine_of_written`). The settings of
a plan make that plan (`plan_settings`): labels and numerals are read back, and a label holds
neither a comma nor a blank, so the states are found again between the commas. Both together say
that each plan can be given on a command line (`plan_of_words`).
-/

namespace Herald

namespace Settings

variable {settings : Settings} {assignments : List Assignment}

/-! ## From words to settings -/

/-- Settings are written by the flags for which they have a text, each with that text. -/
theorem mem_assignments_iff {flag : Flag} {value : String} :
    ⟨flag, value⟩ ∈ settings.assignments ↔ settings.value? flag = some value := by
  constructor
  · intro mem
    obtain ⟨other, -, found⟩ := List.mem_filterMap.1 mem
    obtain ⟨text, known, same⟩ := Option.map_eq_some_iff.1 found
    cases same
    exact known
  · intro known
    exact List.mem_filterMap.2 ⟨flag, flag.mem_all, by rw [known]; rfl⟩

/-- In any order the flags are given the texts that the settings have for them. -/
theorem lastValue?_of_written (written : assignments.Perm settings.assignments) (flag : Flag) :
    lastValue? flag assignments = settings.value? flag := by
  cases last : lastValue? flag assignments with
  | some value => exact (mem_assignments_iff.1 (written.mem_iff.1 (mem_of_lastValue? last))).symm
  | none =>
      cases known : settings.value? flag with
      | none => rfl
      | some value =>
          have mem := written.mem_iff.2 (mem_assignments_iff.2 known)
          exact absurd rfl (lastValue?_eq_none_iff.1 last _ mem)

/-- Settings that are written as words are read from them, if the environment gives no text for a
flag that they have none for. -/
theorem ofCommandLine_of_written {environment : Environment} {parts : List (Spelling × Assignment)}
    (name : String) (written : (parts.map Prod.snd).Perm settings.assignments)
    (unlimited : settings.detachAfter = none → environment.detachAfter = none) :
    ofCommandLine environment (name :: spell parts) = some settings := by
  have read : ofCommandLine environment (name :: spell parts) =
      some ((ofEnvironment environment).assign (parts.map Prod.snd)) := by
    have scanned := scan_spell (ofEnvironment environment) parts []
    rw [List.append_nil] at scanned
    exact scanned
  rw [read, Option.some.injEq]
  refine ext_value? fun flag => ?_
  rw [value?_assign, lastValue?_of_written written]
  cases flag with
  | owner | initial | observers | states => rfl
  | detachAfter =>
      cases known : settings.detachAfter with
      | some limit => simp [value?, known]
      | none =>
          have missing : (ofEnvironment environment).value? .detachAfter = none := unlimited known
          rw [missing, value?, known]
          rfl

/-! ## From settings to a plan -/

/-- The numeral of a count is read back. -/
theorem parseCount_decimal (key : String) (count : UInt64) :
    parseCount key (String.ofList (Text.decimal count.toNat)) = .ok count := by
  have trimmed : Text.trim (Text.decimal count.toNat) = Text.decimal count.toNat :=
    Text.trim_eq_self fun c mem =>
      Text.not_isBlank_of_isAlphanum (by simp [Char.isAlphanum, Text.isDigit_of_mem_decimal mem])
  have inside : count.toNat < UInt64.size := count.toNat_lt_size
  simp only [parseCount, String.toList_ofList, trimmed, Text.unsigned?_decimal, if_pos inside,
    UInt64.ofNat_toNat]

theorem parseDetachAfter_decimal (limit : Option UInt64) :
    parseDetachAfter (limit.map fun limit => String.ofList (Text.decimal limit.toNat)) =
      .ok limit := by
  cases limit with
  | none => rfl
  | some limit =>
      rw [Option.map_some, parseDetachAfter, parseCount_decimal]
      rfl

/-- Labels are found again between commas. -/
theorem stateTexts_labels (states : List StateId) :
    stateTexts (",".intercalate (states.map StateId.label)) =
      states.map fun state => state.label.toList := by
  rcases eq_or_ne states [] with rfl | some
  · rfl
  · have joined : (",".intercalate (states.map StateId.label)).toList =
        [','].intercalate (states.map fun state => state.label.toList) := by
      rw [String.toList_intercalate, List.map_map]
      rfl
    have cut : Text.pieces ',' ([','].intercalate (states.map fun state => state.label.toList)) =
        states.map fun state => state.label.toList := by
      refine Text.pieces_intercalate (by simpa using some) fun text mem => ?_
      obtain ⟨state, -, rfl⟩ := List.mem_map.1 mem
      exact state.not_mem_label (by decide) (by decide)
    have trimmed : (states.map fun state => state.label.toList).map Text.trim =
        states.map fun state => state.label.toList := by
      rw [List.map_map]
      exact List.map_congr_left fun state _ => state.trim_label
    rw [stateTexts, joined, cut, trimmed, List.filter_eq_self.2]
    intro text mem
    obtain ⟨state, -, rfl⟩ := List.mem_map.1 mem
    simpa using state.label_ne_nil

/-- The labels of states are read back. -/
theorem parseStates_labels (states : List StateId) :
    parseStates (",".intercalate (states.map StateId.label)) = .ok states := by
  rw [parseStates, stateTexts_labels]
  induction states with
  | nil => rfl
  | cons state states ih =>
      rw [List.map_cons, List.mapM_cons, ih, String.ofList_toList, StateId.parse_label]
      rfl

end Settings

namespace Replay.Plan

/-- The settings of a plan make the plan. -/
theorem plan_settings (plan : Plan) : plan.settings.plan = .ok plan := by
  simp only [Settings.plan, settings, StateId.parse_label, Settings.parseCount_decimal,
    Settings.parseDetachAfter_decimal, Settings.parseStates_labels]
  rfl

/-- A plan that is written as words of a command line, each flag with its value in either spelling
and the flags in any order, is the plan that is made of these words. If the plan has no limit the
environment must not have one either; otherwise the environment does not matter. -/
theorem plan_of_words (plan : Plan) (environment : Environment) (name : String)
    (parts : List (Spelling × Assignment))
    (written : (parts.map Prod.snd).Perm plan.settings.assignments)
    (unlimited : plan.detachAfter = none → environment.detachAfter = none) :
    ∃ settings, Settings.ofCommandLine environment (name :: spell parts) = some settings ∧
      settings.plan = .ok plan := by
  refine ⟨plan.settings, Settings.ofCommandLine_of_written name written fun none => ?_,
    plan.plan_settings⟩
  exact unlimited (Option.map_eq_none_iff.1 none)

end Replay.Plan

namespace Replay

/-- A plan with values at the ends of their ranges, whose owner looks like a request for help. -/
def extreme : Plan where
  owner := "--help"
  initialState := Int32.minValue
  observers := 18446744073709551615
  detachAfter := none
  states := [4, Int32.maxValue]

/-- `extreme`, with its flags in another order and in both spellings. -/
def extremeParts : List (Spelling × Assignment) :=
  [(.joined, ⟨.states, "resumed,2147483647"⟩), (.apart, ⟨.owner, "--help"⟩),
    (.apart, ⟨.observers, "18446744073709551615"⟩), (.joined, ⟨.initial, "-2147483648"⟩)]

/-- `extreme` is read from its words, whatever number of observers the environment gives. -/
theorem extreme_read :
    (extremeParts.map Prod.snd).Perm extreme.settings.assignments ∧ extreme.detachAfter = none ∧
      spell extremeParts =
        ["--states=resumed,2147483647", "--owner", "--help", "--observers", "18446744073709551615",
          "--initial=-2147483648"] ∧
      ∃ settings, Settings.ofCommandLine { observers := some "lots" }
          ("herald" :: spell extremeParts) = some settings ∧ settings.plan = .ok extreme := by
  have assignments : extreme.settings.assignments =
      [⟨.owner, "--help"⟩, ⟨.initial, "-2147483648"⟩, ⟨.observers, "18446744073709551615"⟩,
        ⟨.states, "resumed,2147483647"⟩] := by decide +kernel
  have written : (extremeParts.map Prod.snd).Perm extreme.settings.assignments := by
    rw [assignments]
    decide
  exact ⟨written, rfl, rfl, extreme.plan_of_words _ "herald" extremeParts written fun _ => rfl⟩

end Replay

end Herald
