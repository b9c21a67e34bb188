import Herald.Proofs.StateText
import Herald.Settings.Words

/-!
# What a fault says of the settings

Settings of which no plan can be made have a first setting that is refused, and its fault is that of
the plan (`fault?_plan`). A count that is refused is reported as a fault of the configuration, under
the key of its setting. A state that is refused is not: its fault comes from the reading of states,
which knows no settings, so its domain is the lifecycle and its key is the same for every setting
(`domain_of_refusal`).
-/

namespace Herald

/-- The key under which a setting is known. -/
def Flag.key : Flag → String
  | .owner => "owner_name"
  | .initial => "initial_state"
  | .observers => "observers"
  | .detachAfter => "detach_after"
  | .states => "states"

/-- A fault reports a setting with a text: it is one of the configuration, and has the key of the
setting. -/
def Fault.Reports (fault : Fault) (flag : Flag) (text : String) : Prop :=
  fault.domain = .config ∧ fault.payload = .context flag.key text

namespace Settings

variable {settings : Settings}

/-- The fault with which the reading of something fails, if it fails. -/
def fault? {β : Type} : Except Fault β → Option Fault
  | .ok _ => none
  | .error fault => some fault

/-- The fault with which the setting of a flag is refused, if it is. Any text will do for an
owner. -/
def refusal? (settings : Settings) : Flag → Option Fault
  | .owner => none
  | .initial => fault? (StateId.parse settings.initialState)
  | .observers => fault? (parseCount "observers" settings.observers)
  | .detachAfter => fault? (parseDetachAfter settings.detachAfter)
  | .states => fault? (parseStates settings.states)

/-- The first setting that is refused. -/
def offender? (settings : Settings) : Option Flag :=
  Flag.all.find? fun flag => (settings.refusal? flag).isSome

/-- The texts that are read as states in the setting of a flag. -/
def stateTextsOf (settings : Settings) : Flag → List String
  | .initial => [String.ofList (Text.trim settings.initialState.toList)]
  | .states => (stateTexts settings.states).map String.ofList
  | _ => []

/-! ## The fault of the first setting that is refused -/

/-- The plan fails with the fault of the first setting that is refused. -/
theorem fault?_plan (settings : Settings) :
    fault? settings.plan = Flag.all.findSome? settings.refusal? := by
  simp only [plan, Flag.all, List.findSome?_cons, List.findSome?_nil, refusal?]
  cases StateId.parse settings.initialState with
  | error => rfl
  | ok =>
      cases parseCount "observers" settings.observers with
      | error => rfl
      | ok =>
          cases parseDetachAfter settings.detachAfter with
          | error => rfl
          | ok => cases parseStates settings.states <;> rfl

theorem fault?_eq_some_iff {β : Type} {read : Except Fault β} {fault : Fault} :
    fault? read = some fault ↔ read = .error fault := by
  cases read <;> simp [fault?]

/-- Settings of which no plan can be made have a first setting that is refused, with the same
fault. -/
theorem exists_offender {fault : Fault} (refused : settings.plan = .error fault) :
    ∃ flag, settings.offender? = some flag ∧ settings.refusal? flag = some fault := by
  have found := settings.fault?_plan
  rw [fault?_eq_some_iff.2 refused] at found
  obtain ⟨earlier, flag, later, split, here, before⟩ := List.findSome?_eq_some_iff.1 found.symm
  refine ⟨flag, ?_, here⟩
  rw [offender?, List.find?_eq_some_iff_append]
  exact ⟨by simp [here], earlier, later, split, by simpa using before⟩

/-! ## What the fault says -/

theorem fault_of_parseCount {key text : String} {fault : Fault}
    (refused : parseCount key text = .error fault) : fault = .invalidConfig key text := by
  unfold parseCount at refused
  split at refused
  · split at refused <;> cases refused
    rfl
  · cases refused
    rfl

theorem fault_of_parseDetachAfter {limit : Option String} {fault : Fault}
    (refused : parseDetachAfter limit = .error fault) :
    ∃ text, limit = some text ∧ fault = .invalidConfig "detach_after" text := by
  cases limit with
  | none => cases refused
  | some text =>
      cases read : parseCount "detach_after" text with
      | ok => simp [parseDetachAfter, read, Except.map] at refused
      | error other =>
          simp only [parseDetachAfter, read, Except.map, Except.error.injEq] at refused
          subst refused
          exact ⟨text, rfl, fault_of_parseCount read⟩

/-- A list of texts is refused with the fault of the first text that is refused. -/
theorem fault?_mapM {α β : Type} (read : α → Except Fault β) (texts : List α) :
    fault? (texts.mapM read) = texts.findSome? fun text => fault? (read text) := by
  induction texts with
  | nil => rfl
  | cons text texts ih =>
      rw [List.mapM_cons, List.findSome?_cons, ← ih]
      cases read text with
      | error fault => rfl
      | ok value => cases texts.mapM read <;> rfl

/-- A list of states is refused for one of its pieces. -/
theorem fault_of_parseStates {text : String} {fault : Fault}
    (refused : parseStates text = .error fault) :
    ∃ piece ∈ stateTexts text, fault = .unknownState (String.ofList piece) := by
  rw [← fault?_eq_some_iff, parseStates, fault?_mapM, List.findSome?_eq_some_iff] at refused
  obtain ⟨before, piece, after, split, here, -⟩ := refused
  have mem : piece ∈ stateTexts text := split ▸ List.mem_append_cons_self
  refine ⟨piece, mem, ?_⟩
  obtain ⟨whole, -, rfl⟩ := List.mem_map.1 (List.mem_filter.1 mem).1
  rw [StateId.fault_of_parse (fault?_eq_some_iff.1 here), String.toList_ofList, Text.trim_trim]

/-- Settings of which no plan can be made have a first setting that is refused. If it is a count the
fault reports it, with the text that was given. If it is a state or a list of states the fault does
not report it: it comes from the lifecycle and has the key of any state, with the text that was read
as one. -/
theorem domain_of_refusal {fault : Fault} (refused : settings.plan = .error fault) :
    ∃ flag, settings.offender? = some flag ∧
      ((flag = .observers ∨ flag = .detachAfter) ∧
          (∃ text, settings.value? flag = some text ∧ fault.Reports flag text) ∨
        (flag = .initial ∨ flag = .states) ∧ (∀ text, ¬ fault.Reports flag text) ∧
          fault.domain = .lifecycle ∧
          ∃ text ∈ settings.stateTextsOf flag, fault.payload = .context "state" text) := by
  obtain ⟨flag, offends, here⟩ := exists_offender refused
  refine ⟨flag, offends, ?_⟩
  -- a fault of the lifecycle is none of the configuration
  have unreported (input text : String) : ¬ (Fault.unknownState input).Reports flag text := by
    rintro ⟨config, -⟩
    cases config
  cases flag with
  | owner => cases here
  | initial =>
      obtain rfl := StateId.fault_of_parse (fault?_eq_some_iff.1 here)
      exact .inr ⟨.inl rfl, unreported _, rfl, _, List.mem_singleton_self _, rfl⟩
  | observers =>
      obtain rfl := fault_of_parseCount (fault?_eq_some_iff.1 here)
      exact .inl ⟨.inl rfl, _, rfl, rfl, rfl⟩
  | detachAfter =>
      obtain ⟨text, given, rfl⟩ := fault_of_parseDetachAfter (fault?_eq_some_iff.1 here)
      exact .inl ⟨.inr rfl, text, given, rfl, rfl⟩
  | states =>
      obtain ⟨piece, mem, rfl⟩ := fault_of_parseStates (fault?_eq_some_iff.1 here)
      exact .inr ⟨.inr rfl, unreported _, rfl, _, List.mem_map_of_mem mem, rfl⟩

/-- Settings with a state that is none, and a limit that is none after that. -/
def paused : Settings where
  owner := "screen"
  initialState := "created"
  observers := "3"
  detachAfter := none
  states := "created, paused ,started"

/-- The fault of `paused` comes from the lifecycle, that of `paused` with a limit that is no number
reports the limit. -/
theorem paused_refusal :
    (paused.plan = .error (.unknownState "paused") ∧ paused.offender? = some .states ∧
      ∀ text, ¬ (Fault.unknownState "paused").Reports .states text) ∧
    { paused with detachAfter := some " -1" }.plan = .error (.invalidConfig "detach_after" " -1") ∧
      (Fault.invalidConfig "detach_after" " -1").Reports .detachAfter " -1" := by
  have refused : paused.plan = .error (.unknownState "paused") := rfl
  have offends : paused.offender? = some .states := rfl
  have limited : { paused with detachAfter := some " -1" }.plan =
      .error (.invalidConfig "detach_after" " -1") := rfl
  refine ⟨⟨refused, offends, ?_⟩, limited, ?_⟩
  · obtain ⟨flag, offends', ⟨count | count, -⟩ | ⟨-, unreported, -⟩⟩ := domain_of_refusal refused
    · cases count ▸ offends.symm.trans offends'
    · cases count ▸ offends.symm.trans offends'
    · cases offends.symm.trans offends'
      exact unreported
  · obtain ⟨flag, offends', ⟨-, text, given, reports⟩ | ⟨-, -, foreign, -⟩⟩ :=
      domain_of_refusal limited
    · obtain rfl : flag = .detachAfter := (Option.some.inj offends').symm
      cases given
      exact reports
    · cases foreign

/-- A fault of the settings need not report the setting that is refused. -/
theorem refused_unreported :
    ¬ ∀ (settings : Settings) (fault : Fault), settings.plan = .error fault →
      ∃ flag, settings.offender? = some flag ∧ ∃ text, fault.Reports flag text := by
  intro always
  obtain ⟨flag, -, text, config, -⟩ := always paused (.unknownState "paused") rfl
  cases config

end Settings

end Herald
