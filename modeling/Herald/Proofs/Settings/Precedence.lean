import Herald.CommandLine
import Herald.Proofs.Settings.Scan
import Mathlib.Logic.Relation

/-!
# Where a setting has its text from

The words of a command line are items, one after the other: flags with their values, in either
spelling, and words that are none of the program's; a flag without a value may stand at the end.
A setting has its text from the last item that gives it one, or else from the environment, or else
by default (`value?_line`). So items may be changed as long as the last value of each flag stays
(`lastValue?_of_reworded`). A request for help counts where the next item would begin, and what
follows it does not (`line_help`). `settings_of_items` is assembled from these three.
-/

namespace Herald

/-- A word that is none of the program's: it asks for no help, and neither is it a flag nor does it
begin with a flag and an equals sign. -/
def Argument.Unknown (word : String) : Prop :=
  ¬ IsHelp word ∧ ∀ flag : Flag, word ≠ flag.word ∧ ¬ (flag.word ++ "=").toList <+: word.toList

/-- A word that is none of the program's is read as such. -/
theorem Argument.ofString_of_unknown {word : String} (unknown : Unknown word) :
    ofString word = .other := by
  obtain ⟨unhelpful, unflagged⟩ := unknown
  cases read : ofString word with
  | help => exact absurd (ofString_eq_help_iff.1 read) unhelpful
  | flag flag => exact absurd (ofString_eq_flag_iff.1 read) (unflagged flag).1
  | assignment flag value =>
      refine absurd ⟨value.toList, ?_⟩ (unflagged flag).2
      rw [ofString_eq_assignment_iff.1 read]
      exact String.toList_append.symm
  | other => rfl

/-- What stands on a command line. -/
inductive Item where
  /-- A flag with its value, in one word or in two. -/
  | given (spelling : Spelling) (assignment : Assignment)
  /-- A word that is none of the program's. -/
  | unknown (word : String) (unknown : Argument.Unknown word)

namespace Item

/-- The words of an item. -/
def words : Item → List String
  | .given spelling assignment => assignment.words spelling
  | .unknown word _ => [word]

/-- What an item gives to a flag. -/
def assignment? : Item → Option Assignment
  | .given _ assignment => some assignment
  | .unknown _ _ => none

/-- What items give to flags, in order. -/
def assignments (items : List Item) : List Assignment :=
  items.filterMap assignment?

@[simp] theorem assignments_given (spelling : Spelling) (assignment : Assignment)
    (items : List Item) :
    assignments (.given spelling assignment :: items) = assignment :: assignments items := rfl

@[simp] theorem assignments_unknown {word : String} (unknown : Argument.Unknown word)
    (items : List Item) : assignments (.unknown word unknown :: items) = assignments items := rfl

@[simp] theorem assignments_append (items others : List Item) :
    assignments (items ++ others) = assignments items ++ assignments others :=
  List.filterMap_append

/-- The words of items, and perhaps a flag at the end that has no value. -/
def line (items : List Item) (last : Option Flag) : List String :=
  items.flatMap words ++ last.toList.map Flag.word

/-- One change to the items of a line. -/
inductive Reworded : List Item → List Item → Prop where
  /-- A flag is spelled in the other way. -/
  | spelling (before after : List Item) (spelling other : Spelling) (assignment : Assignment) :
      Reworded (before ++ .given spelling assignment :: after)
        (before ++ .given other assignment :: after)
  /-- A word that is none of the program's is left out. -/
  | unknown (before after : List Item) (word : String) (unknown : Argument.Unknown word) :
      Reworded (before ++ .unknown word unknown :: after) (before ++ after)
  /-- A value is left out that a later item replaces. -/
  | replaced (before after : List Item) (spelling : Spelling) (assignment : Assignment)
      (later : ∃ other ∈ assignments after, other.flag = assignment.flag) :
      Reworded (before ++ .given spelling assignment :: after) (before ++ after)
  /-- The items are put in another order, which is the same order for each flag. -/
  | order {items others : List Item} (perm : items.Perm others)
      (same : ∀ flag, (assignments items).filter (·.flag = flag) =
        (assignments others).filter (·.flag = flag)) :
      Reworded items others

end Item

/-- What the environment says of a flag. -/
def Environment.value? (environment : Environment) : Flag → Option String
  | .owner => environment.owner
  | .initial => environment.initialState
  | .observers => environment.observers
  | .detachAfter => environment.detachAfter
  | .states => none

/-- The text of a setting for which neither the command line nor the environment has one. -/
def Flag.default? : Flag → Option String
  | .owner => some "lifecyclext_trace"
  | .initial => some "initialized"
  | .observers => some "3"
  | .detachAfter => none
  | .states => some "created,started,resumed,started,created,destroyed"

namespace Settings

variable {settings : Settings} {environment : Environment} {items others : List Item}

/-! ## Reading items -/

theorem scan_item (settings : Settings) (item : Item) (rest : List String) :
    settings.scan (item.words ++ rest) = (settings.assign item.assignment?.toList).scan rest := by
  cases item with
  | given spelling assignment => exact settings.scan_words spelling assignment rest
  | unknown word unknown =>
      rw [Item.words, List.singleton_append, scan, Argument.ofString_of_unknown unknown]
      rfl

/-- Items give their values to the flags in order, whatever follows them. -/
theorem scan_items (settings : Settings) (items : List Item) (rest : List String) :
    settings.scan (items.flatMap Item.words ++ rest) =
      (settings.assign (Item.assignments items)).scan rest := by
  induction items generalizing settings with
  | nil => rfl
  | cons item items ih =>
      rw [List.flatMap_cons, List.append_assoc, scan_item, ih]
      cases item <;> rfl

/-- A flag at the very end changes nothing. -/
theorem scan_last (settings : Settings) (last : Option Flag) :
    settings.scan (last.toList.map Flag.word) = some settings := by
  cases last with
  | none => rfl
  | some flag => simp [scan, Argument.ofString_word]

/-- The settings of a line of items. -/
theorem ofCommandLine_line (environment : Environment) (name : String) (items : List Item)
    (last : Option Flag) :
    ofCommandLine environment (name :: Item.line items last) =
      some ((ofEnvironment environment).assign (Item.assignments items)) := by
  rw [ofCommandLine, List.tail_cons, Item.line, scan_items, scan_last]

/-! ## The text of a setting -/

theorem value?_ofEnvironment (environment : Environment) (flag : Flag) :
    (ofEnvironment environment).value? flag = (environment.value? flag).or flag.default? := by
  obtain ⟨owner, initialState, observers, detachAfter⟩ := environment
  cases flag with
  | owner => cases owner <;> rfl
  | initial => cases initialState <;> rfl
  | observers => cases observers <;> rfl
  | detachAfter => cases detachAfter <;> rfl
  | states => rfl

/-- A setting has its text from the last item for it, or else from the environment, or else by
default. -/
theorem value?_line (environment : Environment) (items : List Item) (flag : Flag) :
    ((ofEnvironment environment).assign (Item.assignments items)).value? flag =
      (lastValue? flag (Item.assignments items)).or
        ((environment.value? flag).or flag.default?) := by
  rw [value?_assign, value?_ofEnvironment]

/-! ## Changing the items -/

/-- A change to the items leaves the last value of each flag as it is. -/
theorem lastValue?_of_reworded (reworded : Item.Reworded items others) (flag : Flag) :
    lastValue? flag (Item.assignments items) = lastValue? flag (Item.assignments others) := by
  cases reworded with
  | spelling before after spelling other assignment => simp
  | unknown before after word unknown => simp
  | replaced before after spelling assignment later =>
      obtain ⟨other, mem, same⟩ := later
      rw [Item.assignments_append, Item.assignments_given, Item.assignments_append,
        ← List.singleton_append, lastValue?_append, lastValue?_append, lastValue?_append,
        lastValue?_singleton]
      split_ifs with here
      · -- a value of the same flag comes after the one that is left out
        cases last : lastValue? flag (Item.assignments after) with
        | none => exact absurd (same.trans here) (lastValue?_eq_none_iff.1 last other mem)
        | some value => rfl
      · rw [Option.or_none]
  | order perm same => rw [← lastValue?_filter, same flag, lastValue?_filter]

/-- Changes to the items leave the settings as they are. -/
theorem assign_of_reworded (reworded : Relation.EqvGen Item.Reworded items others) :
    settings.assign (Item.assignments items) = settings.assign (Item.assignments others) := by
  induction reworded with
  | rel items others step =>
      refine ext_value? fun flag => ?_
      rw [value?_assign, value?_assign, lastValue?_of_reworded step]
  | refl => rfl
  | symm items others _ ih => exact ih.symm
  | trans items others rest _ _ first second => exact first.trans second

/-! ## Help -/

/-- A request for help ends the reading where the next item would begin. -/
theorem line_help (environment : Environment) (name : String) (items : List Item) {word : String}
    (help : Argument.IsHelp word) (rest : List String) :
    ofCommandLine environment (name :: (items.flatMap Item.words ++ word :: rest)) = none := by
  rw [ofCommandLine, List.tail_cons, scan_items, scan_eq_none_iff]
  exact .here help

/-- A line of items, perhaps with a flag without a value at the end, is read, and each setting has
its text from the last item for it, or else from the environment, or else by default. So the flags
may be spelled in the other way, words that are none of the program's and values that are replaced
may be left out, and items may change places as long as those of each flag keep their order. A
request for help where an item would begin makes the program print its usage and succeed, whatever
comes after it. -/
theorem settings_of_items (environment : Environment) (name : String) (items : List Item) :
    (∀ last, ∃ settings, ofCommandLine environment (name :: Item.line items last) = some settings ∧
        ∀ flag, settings.value? flag =
          (lastValue? flag (Item.assignments items)).or
            ((environment.value? flag).or flag.default?)) ∧
      (∀ others last last', Relation.EqvGen Item.Reworded items others →
        ofCommandLine environment (name :: Item.line items last) =
          ofCommandLine environment (name :: Item.line others last')) ∧
      ∀ word rest, Argument.IsHelp word →
        ofCommandLine environment (name :: (items.flatMap Item.words ++ word :: rest)) = none ∧
          CommandLine.run environment (name :: (items.flatMap Item.words ++ word :: rest)) =
            { code := 0, output := CommandLine.usage, errors := "" } := by
  refine ⟨fun last => ?_, fun others last last' reworded => ?_, fun word rest help => ?_⟩
  · exact ⟨_, ofCommandLine_line environment name items last, value?_line environment items⟩
  · rw [ofCommandLine_line, ofCommandLine_line, assign_of_reworded reworded]
  · have asked := line_help environment name items help rest
    exact ⟨asked, by simp only [CommandLine.run, CommandLine.runWith, asked]⟩

/-- A word that begins like a flag and is none. -/
theorem unknown_owners : Argument.Unknown "--owners=me" := by
  refine ⟨?_, fun flag => ?_⟩
  · rintro (same | same) <;> exact absurd same (by decide)
  · cases flag <;> decide

/-- Items with values that look like flags and requests for help. -/
def cluttered : List Item :=
  [.given .apart ⟨.owner, "--states"⟩, .unknown "--owners=me" unknown_owners,
    .given .joined ⟨.states, "resumed,"⟩, .given .apart ⟨.owner, "--help"⟩]

/-- What is left of `cluttered`, in another order. -/
def sparse : List Item :=
  [.given .joined ⟨.owner, "--help"⟩, .given .apart ⟨.states, "resumed,"⟩]

/-- `cluttered` and `sparse` set the same, and neither asks for help before `-h` is added. -/
theorem cluttered_settings :
    Relation.EqvGen Item.Reworded cluttered sparse ∧
      Item.line cluttered (some .initial) =
        ["--owner", "--states", "--owners=me", "--states=resumed,", "--owner", "--help",
          "--initial"] ∧
      Item.line sparse none = ["--owner=--help", "--states", "resumed,"] ∧
      (∃ settings, ofCommandLine { observers := some "lots" }
          ("herald" :: Item.line cluttered (some .initial)) = some settings ∧
        settings.value? .owner = some "--help" ∧ settings.value? .observers = some "lots" ∧
          settings.value? .initial = some "initialized") ∧
      ofCommandLine { observers := some "lots" }
          ("herald" :: Item.line cluttered (some .initial)) =
        ofCommandLine { observers := some "lots" } ("herald" :: Item.line sparse none) ∧
      CommandLine.run {} ("herald" :: (cluttered.flatMap Item.words ++ ["-h", "--owner", "me"])) =
        { code := 0, output := CommandLine.usage, errors := "" } := by
  have reworded : Relation.EqvGen Item.Reworded cluttered sparse := by
    refine .trans _ _ _ (.rel _ _ (.replaced [] _ .apart ⟨.owner, "--states"⟩ ?_)) ?_
    · exact ⟨⟨.owner, "--help"⟩, .tail _ (.head _), rfl⟩
    refine .trans _ _ _ (.rel _ _ (.unknown [] _ "--owners=me" unknown_owners)) ?_
    refine .trans _ _ _ (.rel _ _ (.spelling [] _ .joined .apart ⟨.states, "resumed,"⟩)) ?_
    refine .trans _ _ _ (.rel _ _ (.spelling [_] [] .apart .joined ⟨.owner, "--help"⟩)) ?_
    refine .rel _ _ (.order (.swap _ _ _) fun flag => ?_)
    cases flag <;> rfl
  obtain ⟨read, same, helped⟩ := settings_of_items { observers := some "lots" } "herald" cluttered
  obtain ⟨settings, known, texts⟩ := read (some .initial)
  refine ⟨reworded, rfl, rfl, ⟨settings, known, texts .owner, texts .observers, texts .initial⟩,
    same sparse _ _ reworded, ?_⟩
  exact ((settings_of_items {} "herald" cluttered).2.2 "-h" ["--owner", "me"] (.inl rfl)).2

end Settings

end Herald
