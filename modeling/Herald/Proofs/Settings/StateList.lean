import Herald.Proofs.Settings.Verdict

/-!
# Lists of states

What becomes of a list of states while the other settings stay as they are (`outcome`). Two lists
with a comma between them are read one after the other: the fault of the first counts before that of
the second, and if there is none the states of the second follow those of the first. So a blank
piece may be added anywhere, which covers a comma at either end and one comma after another, and
blanks may stand around any piece (`Spaced`). Both are said by `outcome_join`.
-/

namespace Herald.Settings

variable {settings : Settings}

/-- What becomes of a list of states: the states of the plan, or the fault. -/
def outcome (settings : Settings) (text : String) : Except Fault (List StateId) :=
  { settings with states := text }.plan.map Replay.Plan.states

/-- The pieces of a text between its commas. -/
def commaPieces (text : String) : List String :=
  (Text.pieces ',' text.toList).map String.ofList

/-- Texts have blanks added to them: blank texts between them, and blanks around each of them. -/
inductive Spaced : List String → List String → Prop where
  | nil : Spaced [] []
  | insert {blank : String} {texts others : List String}
      (empty : ∀ c ∈ blank.toList, Text.isBlank c) (rest : Spaced texts others) :
      Spaced texts (blank :: others)
  | pad {front text back : String} {texts others : List String}
      (before : ∀ c ∈ front.toList, Text.isBlank c) (after : ∀ c ∈ back.toList, Text.isBlank c)
      (rest : Spaced texts others) : Spaced (text :: texts) ((front ++ text ++ back) :: others)

/-! ## The texts that are read -/

theorem not_mem_of_mem_commaPieces {text piece : String} (mem : piece ∈ commaPieces text) :
    ',' ∉ piece.toList := by
  obtain ⟨cs, cut, rfl⟩ := List.mem_map.1 mem
  rw [String.toList_ofList]
  exact Text.not_mem_of_mem_pieces cut

theorem intercalate_commaPieces (text : String) : ",".intercalate (commaPieces text) = text := by
  have pieces : (commaPieces text).map String.toList = Text.pieces ',' text.toList := by
    simp [commaPieces, Function.comp_def]
  rw [← String.toList_inj, String.toList_intercalate, pieces]
  exact Text.intercalate_pieces ',' text.toList

theorem stateTexts_join (first second : String) :
    stateTexts (first ++ "," ++ second) = stateTexts first ++ stateTexts second := by
  have whole : (first ++ "," ++ second).toList = first.toList ++ ',' :: second.toList := by simp
  rw [stateTexts, whole, Text.pieces_append, List.map_append, List.filter_append]
  rfl

/-- Texts with commas between them are read one after the other. -/
theorem stateTexts_intercalate (texts : List String) :
    stateTexts (",".intercalate texts) = texts.flatMap stateTexts := by
  induction texts with
  | nil => rfl
  | cons text texts ih =>
      cases texts with
      | nil => simp
      | cons next texts =>
          rw [String.intercalate_cons_cons, stateTexts_join, ih]
          rfl

/-- A text without a comma is one piece, which is read if it is not blank. -/
theorem stateTexts_of_whole {text : String} (whole : ',' ∉ text.toList) :
    stateTexts text = [Text.trim text.toList].filter fun piece => !piece.isEmpty := by
  rw [stateTexts, Text.pieces_eq_singleton whole, List.map_singleton]

theorem ne_comma_of_isBlank {c : Char} (blank : Text.isBlank c) : c ≠ ',' := by
  rintro rfl
  revert blank
  decide

/-- Nothing is read of a blank text. -/
theorem stateTexts_of_blank {text : String} (blank : ∀ c ∈ text.toList, Text.isBlank c) :
    stateTexts text = [] := by
  have whole : ',' ∉ text.toList := fun mem => ne_comma_of_isBlank (blank _ mem) rfl
  rw [stateTexts_of_whole whole, Text.trim_eq_nil_iff.2 blank]
  rfl

/-- Blanks around a piece are not read. -/
theorem stateTexts_pad {front text back : String} (whole : ',' ∉ text.toList)
    (before : ∀ c ∈ front.toList, Text.isBlank c) (after : ∀ c ∈ back.toList, Text.isBlank c) :
    stateTexts (front ++ text ++ back) = stateTexts text := by
  have padded : (front ++ text ++ back).toList = front.toList ++ text.toList ++ back.toList := by
    rw [String.toList_append, String.toList_append]
  have still : ',' ∉ (front ++ text ++ back).toList := by
    rw [padded, List.mem_append, List.mem_append]
    rintro ((mem | mem) | mem)
    · exact ne_comma_of_isBlank (before _ mem) rfl
    · exact whole mem
    · exact ne_comma_of_isBlank (after _ mem) rfl
  rw [stateTexts_of_whole still, stateTexts_of_whole whole, padded,
    ((Text.stripped_trim text.toList).pad before after).trim_eq]

/-- Added blanks are not read. -/
theorem Spaced.flatMap_stateTexts {texts others : List String} (spaced : Spaced texts others)
    (whole : ∀ text ∈ texts, ',' ∉ text.toList) :
    others.flatMap stateTexts = texts.flatMap stateTexts := by
  induction spaced with
  | nil => rfl
  | insert empty rest ih => rw [List.flatMap_cons, stateTexts_of_blank empty, ih whole]; rfl
  | pad before after rest ih =>
      obtain ⟨first, later⟩ := List.forall_mem_cons.1 whole
      rw [List.flatMap_cons, List.flatMap_cons, stateTexts_pad first before after, ih later]

/-! ## What becomes of a list -/

/-- Where the other settings are accepted, what becomes of a list of states is how it is read. -/
theorem outcome_eq (valid : ∀ part ∈ settings.leadingParts, part.Accepted) (text : String) :
    settings.outcome text = parseStates text := by
  have accepted : ∀ part ∈ { settings with states := "" }.parts, part.Accepted := by
    intro part mem
    rcases List.mem_append.1 mem with mem | mem
    · exact valid part mem
    · cases mem
  obtain ⟨plan, made⟩ := exists_plan_iff.2 accepted
  obtain ⟨-, initial, count, limit, -⟩ := plan_eq_ok_iff.1 made
  rw [← parseCount_eq_ok_iff "observers"] at count
  rw [← parseDetachAfter_eq_ok_iff] at limit
  dsimp only at initial count limit
  unfold outcome Settings.plan
  dsimp only
  rw [initial, count, limit]
  cases parseStates text <;> rfl

/-- Where the other settings are accepted, two lists of states with a comma between them are read
one after the other: the fault of the first comes before that of the second, and the states of the
first before those of the second. Blank pieces, which may be empty, and blanks around the pieces of
a list change nothing. -/
theorem outcome_join (valid : ∀ part ∈ settings.leadingParts, part.Accepted) :
    (∀ first second, settings.outcome (first ++ "," ++ second) = do
        let states ← settings.outcome first
        let more ← settings.outcome second
        return states ++ more) ∧
      ∀ text others, Spaced (commaPieces text) others →
        settings.outcome (",".intercalate others) = settings.outcome text := by
  simp only [outcome_eq valid]
  constructor
  · intro first second
    rw [parseStates, stateTexts_join, List.mapM_append]
    rfl
  · intro text others spaced
    have same : stateTexts (",".intercalate others) = stateTexts text := calc
      stateTexts (",".intercalate others)
      _ = others.flatMap stateTexts := stateTexts_intercalate others
      _ = (commaPieces text).flatMap stateTexts :=
          spaced.flatMap_stateTexts fun _ => not_mem_of_mem_commaPieces
      _ = stateTexts text := by rw [← stateTexts_intercalate, intercalate_commaPieces]
    rw [parseStates, parseStates, same]

/-- Settings with no states. -/
def stateless : Settings where
  owner := "screen"
  initialState := "1"
  observers := "2"
  detachAfter := none
  states := ""

/-- Of two lists with faults the first decides, and blanks and commas that are added to a list
change nothing. -/
theorem stateless_outcome :
    (∀ part ∈ stateless.leadingParts, part.Accepted) ∧
      stateless.outcome ("created, paused" ++ "," ++ "9x,7") = .error (.unknownState "paused") ∧
      Spaced (commaPieces "created,7")
        ["", " " ++ "created" ++ "\t", "\u3000", "" ++ "7" ++ "\n"] ∧
      stateless.outcome
          (",".intercalate ["", " " ++ "created" ++ "\t", "\u3000", "" ++ "7" ++ "\n"]) =
        stateless.outcome "created,7" ∧
      stateless.outcome ("created" ++ "," ++ "7") = .ok [2, 7] := by
  have valid : ∀ part ∈ stateless.leadingParts, part.Accepted := by
    have initial : (Part.mk .initial "1").Accepted := ⟨1, rfl⟩
    have observers : (Part.mk .observers "2").Accepted :=
      ⟨2, by decide, Text.unsigned?_eq_some_iff.1 rfl⟩
    simp [leadingParts, stateless, initial, observers]
  have spaced : Spaced (commaPieces "created,7")
      ["", " " ++ "created" ++ "\t", "\u3000", "" ++ "7" ++ "\n"] := by
    have pieces : commaPieces "created,7" = ["created", "7"] := rfl
    have blank (text : String) (all : text.toList.all Text.isBlank) :
        ∀ c ∈ text.toList, Text.isBlank c :=
      List.all_eq_true.1 all
    rw [pieces]
    exact .insert (blank "" rfl) (.pad (blank " " rfl) (blank "\t" rfl)
      (.insert (blank "\u3000" rfl) (.pad (blank "" rfl) (blank "\n" rfl) .nil)))
  refine ⟨valid, ?_, spaced, (outcome_join valid).2 "created,7" _ spaced, ?_⟩
  · rw [(outcome_join valid).1]
    rfl
  · rw [(outcome_join valid).1]
    rfl

end Herald.Settings
