import Herald.Proofs.Settings.Refusal

/-!
# Which settings make a plan

The texts of the settings that are read, each on its own, are their parts: the initial state, the
number of observers, the limit if there is one, and the pieces of the list of states that are not
blank, in this order. Settings make a plan if and only if each part is accepted (`Part.Accepted`),
and the plan has what the parts are read as (`plan_eq_ok_iff`). Otherwise the first part that is not
accepted decides the fault (`plan_eq_error_iff`), so nothing that comes after it matters.
-/

namespace Herald.Settings

variable {settings : Settings}

/-- A text that is read on its own, and the flag of the setting that it belongs to. -/
structure Part where
  flag : Flag
  text : String
  deriving DecidableEq, Repr

namespace Part

/-- A state has to be one, and a count a numeral, perhaps with a `+` in front, of a number below
2^64. -/
def Accepted (part : Part) : Prop :=
  match part.flag with
  | .owner => True
  | .initial | .states => ∃ state, StateId.parse part.text = .ok state
  | .observers | .detachAfter =>
    ∃ n < UInt64.size, Text.Unsigned (Text.trim part.text.toList) n

/-- What is reported of a part that is not accepted: a count under the key of its setting and as it
was given, a state without the blanks around it. -/
def fault (part : Part) : Fault :=
  match part.flag with
  | .observers | .detachAfter => .invalidConfig part.flag.key part.text
  | _ => .unknownState (String.ofList (Text.trim part.text.toList))

end Part

/-- The texts between commas that are not blank. -/
def statePieces (text : String) : List String :=
  ((Text.pieces ',' text.toList).filter fun piece => !piece.all Text.isBlank).map String.ofList

/-- The parts that are read before the list of states. -/
def leadingParts (settings : Settings) : List Part :=
  [⟨.initial, settings.initialState⟩, ⟨.observers, settings.observers⟩] ++
    settings.detachAfter.toList.map (Part.mk .detachAfter)

/-- The parts of the settings, in the order in which they are read. -/
def parts (settings : Settings) : List Part :=
  settings.leadingParts ++ (statePieces settings.states).map (Part.mk .states)

/-- A plan has what the settings are read as. -/
structure Makes (settings : Settings) (plan : Replay.Plan) : Prop where
  owner : plan.owner = settings.owner
  initialState : StateId.parse settings.initialState = .ok plan.initialState
  observers : Text.Unsigned (Text.trim settings.observers.toList) plan.observers.toNat
  detachAfter : Option.Rel (fun text limit => Text.Unsigned (Text.trim text.toList) limit.toNat)
    settings.detachAfter plan.detachAfter
  states : List.Forall₂ (fun text state => StateId.parse text = .ok state)
    (statePieces settings.states) plan.states

/-! ## Reading one part -/

theorem parseCount_eq_ok_iff (key : String) {text : String} {count : UInt64} :
    parseCount key text = .ok count ↔ Text.Unsigned (Text.trim text.toList) count.toNat := by
  rw [← Text.unsigned?_eq_some_iff]
  unfold parseCount
  cases read : Text.unsigned? (Text.trim text.toList) with
  | none => simp
  | some n =>
      dsimp only
      split
      · next inside =>
        rw [Except.ok.injEq, Option.some.injEq, ← UInt64.toNat_inj,
          UInt64.toNat_ofNat_of_lt' inside]
      · next beyond =>
        have differs : n ≠ count.toNat := fun same => beyond (same ▸ count.toNat_lt_size)
        simp [differs]

theorem parseDetachAfter_eq_ok_iff {limit : Option String} {count : Option UInt64} :
    parseDetachAfter limit = .ok count ↔
      Option.Rel (fun text n => Text.Unsigned (Text.trim text.toList) n.toNat) limit count := by
  cases limit with
  | none => cases count <;> simp [parseDetachAfter]
  | some text =>
      cases count with
      | none =>
          cases read : parseCount "detach_after" text <;> simp [parseDetachAfter, read, Except.map]
      | some n =>
          rw [Option.rel_some_some, ← parseCount_eq_ok_iff "detach_after"]
          cases read : parseCount "detach_after" text <;> simp [parseDetachAfter, read, Except.map]

/-- A list of texts is read as what each of them is read as. -/
theorem mapM_eq_ok_iff {α β : Type} {read : α → Except Fault β} {texts : List α}
    {values : List β} :
    texts.mapM read = .ok values ↔
      List.Forall₂ (fun text value => read text = .ok value) texts values := by
  induction texts generalizing values with
  | nil => cases values <;> simp [pure, Except.pure]
  | cons text texts ih =>
      rw [List.mapM_cons]
      cases first : read text with
      | error fault => cases values <;> simp [bind, Except.bind, first]
      | ok value =>
          cases rest : texts.mapM read with
          | error fault => cases values <;> simp [bind, Except.bind, first, ← ih, rest]
          | ok others =>
              cases values <;> simp [bind, Except.bind, pure, Except.pure, first, ← ih, rest]

/-- Blank pieces count for nothing, and neither do blanks around a piece. -/
theorem parseStates_eq (text : String) :
    parseStates text = (statePieces text).mapM StateId.parse := by
  have pieces : stateTexts text =
      ((Text.pieces ',' text.toList).filter fun piece => !piece.all Text.isBlank).map
        Text.trim := by
    rw [stateTexts, List.filter_map]
    congr 2
    funext piece
    have blank : (Text.trim piece).isEmpty = piece.all Text.isBlank := by
      rw [Bool.eq_iff_iff, List.isEmpty_iff, Text.trim_eq_nil_iff, List.all_eq_true]
    rw [Function.comp_apply, blank]
  have read (piece : List Char) :
      StateId.parse (String.ofList (Text.trim piece)) = StateId.parse (String.ofList piece) := by
    have same := StateId.parse_trim (String.ofList piece)
    rwa [String.toList_ofList] at same
  rw [parseStates, pieces, statePieces, List.mapM_map, List.mapM_map]
  simp only [Function.comp_def, read]

/-! ## The plan -/

theorem bind_eq_ok_iff {α β : Type} {read : Except Fault α} {next : α → Except Fault β}
    {value : β} : (read >>= next) = .ok value ↔ ∃ a, read = .ok a ∧ next a = .ok value := by
  cases read <;> simp [bind, Except.bind]

/-- A plan is made of settings if and only if it has what they are read as. -/
theorem plan_eq_ok_iff {plan : Replay.Plan} : settings.plan = .ok plan ↔ settings.Makes plan := by
  unfold Settings.plan
  simp only [bind_eq_ok_iff]
  constructor
  · rintro ⟨initialState, initial, observers, count, detachAfter, limit, states, list, same⟩
    cases same
    rw [parseStates_eq] at list
    exact ⟨rfl, initial, (parseCount_eq_ok_iff _).1 count, parseDetachAfter_eq_ok_iff.1 limit,
      mapM_eq_ok_iff.1 list⟩
  · obtain ⟨owner, initialState, observers, detachAfter, states⟩ := plan
    rintro ⟨rfl, initial, count, limit, list⟩
    rw [← mapM_eq_ok_iff, ← parseStates_eq] at list
    exact ⟨initialState, initial, observers, (parseCount_eq_ok_iff _).2 count, detachAfter,
      parseDetachAfter_eq_ok_iff.2 limit, states, list, rfl⟩

/-! ## The fault -/

theorem fault?_eq_none_iff {β : Type} {read : Except Fault β} :
    fault? read = none ↔ ∃ value, read = .ok value := by
  cases read <;> simp [fault?]

/-- The fault with which a part is refused, if it is. -/
def refusalOf? (part : Part) : Option Fault :=
  match part.flag with
  | .owner => none
  | .initial | .states => fault? (StateId.parse part.text)
  | .observers | .detachAfter => fault? (parseCount part.flag.key part.text)

/-- A part is refused if it is not accepted. -/
theorem refusalOf?_eq_none_iff {part : Part} : refusalOf? part = none ↔ part.Accepted := by
  have count (key text : String) : fault? (parseCount key text) = none ↔
      ∃ n < UInt64.size, Text.Unsigned (Text.trim text.toList) n := by
    simp only [fault?_eq_none_iff, parseCount_eq_ok_iff]
    constructor
    · rintro ⟨n, numeral⟩
      exact ⟨n.toNat, n.toNat_lt_size, numeral⟩
    · rintro ⟨n, inside, numeral⟩
      exact ⟨UInt64.ofNat n, by rwa [UInt64.toNat_ofNat_of_lt' inside]⟩
  obtain ⟨flag, text⟩ := part
  cases flag with
  | owner => exact iff_of_true rfl trivial
  | initial | states => exact fault?_eq_none_iff
  | observers | detachAfter => exact count _ text

theorem fault_of_refusalOf? {part : Part} {fault : Fault}
    (refused : refusalOf? part = some fault) : fault = part.fault := by
  obtain ⟨flag, text⟩ := part
  cases flag with
  | owner => cases refused
  | initial | states => exact StateId.fault_of_parse (fault?_eq_some_iff.1 refused)
  | observers | detachAfter => exact fault_of_parseCount (fault?_eq_some_iff.1 refused)

theorem refusalOf?_eq_some_iff {part : Part} {fault : Fault} :
    refusalOf? part = some fault ↔ ¬ part.Accepted ∧ fault = part.fault := by
  rw [← refusalOf?_eq_none_iff]
  cases refused : refusalOf? part with
  | none => simp
  | some other => simp [fault_of_refusalOf? refused, eq_comm]

theorem fault?_map {α β : Type} (f : α → β) (read : Except Fault α) :
    fault? (read.map f) = fault? read := by
  cases read <;> rfl

/-- The plan fails with the fault of the first part that is refused. -/
theorem fault?_plan_eq_findSome? (settings : Settings) :
    fault? settings.plan = settings.parts.findSome? refusalOf? := by
  have initial : refusalOf? ⟨.initial, settings.initialState⟩ = settings.refusal? .initial := rfl
  have count : refusalOf? ⟨.observers, settings.observers⟩ = settings.refusal? .observers := rfl
  have limit : (settings.detachAfter.toList.map (Part.mk .detachAfter)).findSome? refusalOf? =
      settings.refusal? .detachAfter := by
    unfold refusal?
    cases settings.detachAfter with
    | none => rfl
    | some text =>
        rw [Option.toList_some, List.map_singleton, List.findSome?_singleton, parseDetachAfter,
          fault?_map]
        rfl
  have states : ((statePieces settings.states).map (Part.mk .states)).findSome? refusalOf? =
      settings.refusal? .states := by
    rw [refusal?, parseStates_eq, fault?_mapM, List.findSome?_map]
    rfl
  rw [fault?_plan, parts, leadingParts, List.findSome?_append, List.findSome?_append, limit, states]
  simp only [Flag.all, List.findSome?_cons, List.findSome?_nil, initial, count]
  cases settings.refusal? .initial with
  | some fault => rfl
  | none =>
      cases settings.refusal? .observers with
      | some fault => rfl
      | none => cases settings.refusal? .detachAfter <;> cases settings.refusal? .states <;> rfl

/-- The fault is that of the first part that is not accepted. -/
theorem plan_eq_error_iff {fault : Fault} :
    settings.plan = .error fault ↔
      ∃ before part after, settings.parts = before ++ part :: after ∧
        (∀ earlier ∈ before, earlier.Accepted) ∧ ¬ part.Accepted ∧ fault = part.fault := by
  rw [← fault?_eq_some_iff, fault?_plan_eq_findSome?, List.findSome?_eq_some_iff]
  simp only [refusalOf?_eq_some_iff, refusalOf?_eq_none_iff]
  constructor
  · rintro ⟨before, part, after, split, ⟨refused, told⟩, accepted⟩
    exact ⟨before, part, after, split, accepted, refused, told⟩
  · rintro ⟨before, part, after, split, accepted, refused, told⟩
    exact ⟨before, part, after, split, ⟨refused, told⟩, accepted⟩

/-- Settings make a plan if and only if each of their parts is accepted. -/
theorem exists_plan_iff :
    (∃ plan, settings.plan = .ok plan) ↔ ∀ part ∈ settings.parts, part.Accepted := by
  rw [← fault?_eq_none_iff, fault?_plan_eq_findSome?, List.findSome?_eq_none_iff]
  simp only [refusalOf?_eq_none_iff]

/-- Where parts that settings have in common at the start include one that is not accepted, the
settings fail with the same fault. -/
theorem plan_eq_of_common {other : Settings} {common : List Part}
    (here : common <+: settings.parts) (there : common <+: other.parts)
    (refused : ∃ part ∈ common, ¬ part.Accepted) : other.plan = settings.plan := by
  obtain ⟨part, mem, refused⟩ := refused
  cases first : common.findSome? refusalOf? with
  | none =>
      exact absurd (refusalOf?_eq_none_iff.1 (List.findSome?_eq_none_iff.1 first part mem)) refused
  | some fault =>
      -- what comes after the common parts is not read any more
      have fails {settings : Settings} (start : common <+: settings.parts) :
          settings.plan = .error fault := by
        obtain ⟨rest, split⟩ := start
        rw [← fault?_eq_some_iff, fault?_plan_eq_findSome?, ← split, List.findSome?_append, first]
        rfl
      rw [fails here, fails there]

/-- Settings make a plan if and only if each of their parts is accepted, and then the plan has what
the parts are read as. Otherwise the fault is that of the first part that is not accepted: a count
is reported under the key of its setting and as it was given, a state without the blanks around it.
What comes after that part may be changed in any way, and the fault stays the same. The pieces of
the list of states are the texts without a comma that commas join to the list. -/
theorem plan_of_parts (settings : Settings) :
    ((∃ plan, settings.plan = .ok plan) ↔ ∀ part ∈ settings.parts, part.Accepted) ∧
      (∀ plan, settings.plan = .ok plan ↔ settings.Makes plan) ∧
      (∀ fault, settings.plan = .error fault ↔
        ∃ before part after, settings.parts = before ++ part :: after ∧
          (∀ earlier ∈ before, earlier.Accepted) ∧ ¬ part.Accepted ∧ fault = part.fault) ∧
      (∀ (other : Settings) (common : List Part), common <+: settings.parts →
        common <+: other.parts → (∃ part ∈ common, ¬ part.Accepted) →
          other.plan = settings.plan) ∧
      Text.Cut ',' settings.states.toList (Text.pieces ',' settings.states.toList) := by
  refine ⟨exists_plan_iff, fun plan => plan_eq_ok_iff, fun fault => plan_eq_error_iff, ?_, ?_⟩
  · intro other common here there refused
    exact plan_eq_of_common here there refused
  · exact Text.pieces_eq_iff.1 rfl

/-- Settings with a limit that is none, and with a state that is none after that. -/
def misprinted : Settings where
  owner := "screen"
  initialState := " +2"
  observers := "\u3000+03 "
  detachAfter := some " -1"
  states := "created,, pau sed,7,9x"

/-- The fault of `misprinted` is that of its limit, whatever its states are. Without a limit it is
that of the first state that is none, whatever comes after it. -/
theorem misprinted_plan :
    misprinted.plan = .error (.invalidConfig "detach_after" " -1") ∧
      { misprinted with states := "" }.plan = misprinted.plan ∧
      { misprinted with detachAfter := none, states := "created, pau sed, ,resumed" }.plan =
        { misprinted with detachAfter := none }.plan ∧
      { misprinted with detachAfter := none }.plan = .error (.unknownState "pau sed") := by
  have initial : (Part.mk .initial " +2").Accepted := ⟨2, rfl⟩
  have observers : (Part.mk .observers "\u3000+03 ").Accepted :=
    ⟨3, by decide, Text.unsigned?_eq_some_iff.1 rfl⟩
  have created : (Part.mk .states "created").Accepted := ⟨2, rfl⟩
  have limit : ¬ (Part.mk .detachAfter " -1").Accepted := by
    rintro ⟨n, -, numeral⟩
    cases Text.unsigned?_eq_some_iff.2 numeral
  have paused : ¬ (Part.mk .states " pau sed").Accepted := by
    rintro ⟨state, read⟩
    cases read
  have accepted : ∀ earlier ∈ [Part.mk .initial " +2", .mk .observers "\u3000+03 "],
      earlier.Accepted := by
    simp [initial, observers]
  refine ⟨?_, ?_, ?_, ?_⟩
  · exact ((plan_of_parts _).2.2.1 _).2 ⟨_, ⟨.detachAfter, " -1"⟩, _, rfl, accepted, limit, rfl⟩
  · exact (plan_of_parts misprinted).2.2.2.1 _
      [⟨.initial, " +2"⟩, ⟨.observers, "\u3000+03 "⟩, ⟨.detachAfter, " -1"⟩] ⟨_, rfl⟩ ⟨_, rfl⟩
      ⟨_, by simp, limit⟩
  · exact (plan_of_parts { misprinted with detachAfter := none }).2.2.2.1 _
      [⟨.initial, " +2"⟩, ⟨.observers, "\u3000+03 "⟩, ⟨.states, "created"⟩, ⟨.states, " pau sed"⟩]
      ⟨_, rfl⟩ ⟨_, rfl⟩ ⟨_, by simp, paused⟩
  · exact ((plan_of_parts _).2.2.1 _).2
      ⟨[⟨.initial, " +2"⟩, ⟨.observers, "\u3000+03 "⟩, ⟨.states, "created"⟩], ⟨.states, " pau sed"⟩,
        _, rfl, by simp [initial, observers, created], paused, rfl⟩

end Herald.Settings
