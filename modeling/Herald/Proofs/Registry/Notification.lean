import Herald.Proofs.Registry.Chain
import Herald.Proofs.Registry.Failure

/-!
# What an observer finds when it is told

Each notification belongs to a dispatch that is still open: the journal shows the change that it
announces, and no dispatch of the same level has begun or ended since (`OpenSince`). An observer is
told of the state that this change left. The registry is in the state to which it has been led
since, by this change or by a later one that was made while the dispatch was open
(`current_of_notified`).

So an observer can find the registry in the very state that it is told was left: an observer before
it may have gone back to that state (`left_state_found_again`). It needs such a change, and the
change must be the last one.
-/

namespace Herald.Registry

variable {α : Type}

/-- A dispatch of a level has been open since it announced a change: neither has it ended, nor has
another one of the level begun. -/
structure OpenSince (depth : Nat) (change : Change) (before during journal : List (Event α)) :
    Prop where
  journal_eq : ∃ snapshot, journal =
    before ++ .dispatching depth change.place change.source change.target snapshot :: during
  unended : ∀ place fault, .ended depth place fault ∉ during
  alone : ∀ place source target snapshot, .dispatching depth place source target snapshot ∉ during

/-- A dispatch stays open while no dispatch of its level begins or ends. -/
theorem OpenSince.append {depth : Nat} {change : Change} {before during journal : List (Event α)}
    {events : List (Event α)} (opened : OpenSince depth change before during journal)
    (unended : ∀ place fault, .ended depth place fault ∉ events)
    (alone : ∀ place source target snapshot,
      .dispatching depth place source target snapshot ∉ events) :
    OpenSince depth change before (during ++ events) (journal ++ events) where
  journal_eq := by
    obtain ⟨snapshot, whole⟩ := opened.journal_eq
    exact ⟨snapshot, by simp [whole]⟩
  unended place fault mem :=
    (List.mem_append.1 mem).elim (opened.unended place fault) (unended place fault)
  alone place source target snapshot mem :=
    (List.mem_append.1 mem).elim (opened.alone place source target snapshot)
      (alone place source target snapshot)

/-- A dispatch stays open in what is no step of a dispatch of its level. -/
theorem OpenSince.append_of_quiet {depth : Nat} {change : Change}
    {before during journal events : List (Event α)}
    (opened : OpenSince depth change before during journal) (quiet : Quiet depth events) :
    OpenSince depth change before (during ++ events) (journal ++ events) :=
  opened.append (fun _ _ mem => quiet _ mem rfl) fun _ _ _ _ mem => quiet _ mem rfl

/-- There are no more dispatches on a part of the stack than on the whole. -/
theorem level_le_of_suffix {frames below : List (Frame α)} (lower : below <:+ frames) :
    level below ≤ level frames := by
  obtain ⟨upper, rfl⟩ := lower
  rw [level_append]
  exact Nat.le_add_left _ _

variable [DecidableEq α]

/-! ## From the stack to the journal -/

section
variable {dispatch : Dispatch α} {caller : List (Frame α)} {events : List (Event α)}
  {next : Config α}

/-- A dispatch that is on the stack after an action has begun was there before, or begins now. -/
theorem Performs.origin_of_dispatch {world : World α} {source : Option StateId}
    {frames : List (Frame α)} {action : Action α}
    (performs : Performs world source frames action events next)
    (there : .dispatch dispatch :: caller <:+ next.frames) :
    .dispatch dispatch :: caller <:+ frames ∨
      ∃ snapshot, events = [.dispatching (level caller + 1) dispatch.change.place
        dispatch.change.source dispatch.change.target snapshot] := by
  cases performs with
  | accept =>
      obtain ⟨rfl, rfl⟩ | there : (dispatch = .begin _ _ _ ∧ caller = frames) ∨ _ := by
        simpa [List.suffix_cons_iff] using there
      · exact .inr ⟨_, rfl⟩
      · exact .inl there
  | unchanged | edit | answer | enqueue | fail | nowhere | arrived | untold => exact .inl there

/-- A dispatch that is on the stack after a step was there before, below the topmost work or as the
topmost work, which has only given an observer its turn; or it begins in the step. -/
theorem Step.origin_of_dispatch {world : World α} {frame : Frame α} {below : List (Frame α)}
    {signal : Signal} (step : Step ⟨world, frame :: below, signal⟩ events next)
    (there : .dispatch dispatch :: caller <:+ next.frames) :
    .dispatch dispatch :: caller <:+ below ∨
      (∃ earlier : Dispatch α, frame = .dispatch earlier ∧ earlier.change = dispatch.change ∧
        caller = below ∧ (∀ depth place fault, .ended depth place fault ∉ events) ∧
        ∀ depth place source target snapshot,
          .dispatching depth place source target snapshot ∉ events) ∨
      ∃ snapshot, events = [.dispatching (level caller + 1) dispatch.change.place
        dispatch.change.source dispatch.change.target snapshot] := by
  cases step with
  | perform code performs =>
      rcases performs.origin_of_dispatch there with there | begins
      · cases code <;> exact .inl (by simpa [Frame.advance, List.suffix_cons_iff] using there)
      · exact .inr (.inr begins)
  | stepsDone | scriptDone | scriptFault | finish | abort => exact .inl there
  | stepEnd | stepFault | told => exact .inl (by simpa [List.suffix_cons_iff] using there)
  | notify | skip =>
      obtain ⟨rfl, rfl⟩ | there :
          (dispatch = { registry := _, .. } ∧ caller = below) ∨
            .dispatch dispatch :: caller <:+ below := by
        simpa [List.suffix_cons_iff] using there
      · exact .inr (.inl ⟨_, rfl, rfl, rfl, by simp, by simp⟩)
      · exact .inl there

/-- A dispatch on the stack of a run is open. -/
theorem Run.openSince_of_dispatch {program : Program α} {journal : List (Event α)}
    {config : Config α} (run : Run program journal config)
    (there : .dispatch dispatch :: caller <:+ config.frames) :
    ∃ before during, OpenSince (level caller + 1) dispatch.change before during journal := by
  induction run generalizing dispatch with
  | refl => simp [Program.start, List.suffix_cons_iff] at there
  | @step journal events config next run stepped ih =>
      have step := Step.of_step? stepped
      obtain ⟨world, stack, signal⟩ := config
      cases stack with
      | nil => cases stepped
      | cons frame below =>
          rcases step.origin_of_dispatch there with
            there | ⟨earlier, rfl, same, rfl, unended, alone⟩ | ⟨snapshot, rfl⟩
          · -- what the topmost work does is no step of the dispatches below it
            obtain ⟨before, during, opened⟩ := ih (there.trans (List.suffix_cons _ _))
            have lower := level_le_of_suffix there
            rw [level_dispatch] at lower
            exact ⟨before, _, opened.append_of_quiet (step.quiet lower)⟩
          · obtain ⟨before, during, opened⟩ := ih List.suffix_rfl
            rw [same] at opened
            exact ⟨before, _, opened.append (unended _) (alone _)⟩
          · exact ⟨journal, [], ⟨snapshot, rfl⟩, fun _ _ => List.not_mem_nil,
              fun _ _ _ _ => List.not_mem_nil⟩

/-- It is the topmost dispatch that notifies. -/
theorem Step.of_notified {config : Config α} {depth place : Nat} {entry : Entry α} {owner : String}
    {source : StateId} {currents : List StateId}
    (step : Step config [.notified depth place entry owner source currents] next) :
    ∃ (dispatch : Dispatch α) (caller : List (Frame α)) (registry : Registry α),
      config.frames = .dispatch dispatch :: caller ∧
      depth = level caller + 1 ∧ place = dispatch.registry ∧ source = dispatch.source ∧
      config.world.registries[place]? = some registry ∧ currents = config.world.currents := by
  generalize happened : [Event.notified depth place entry owner source currents] = events at step
  cases step with
  | notify calm turn here =>
      cases happened
      exact ⟨_, _, _, rfl, rfl, rfl, rfl, here, rfl⟩
  | perform code performs => cases performs <;> cases happened
  | @told _ _ _ _ _ value =>
      have mem : .notified depth place entry owner source currents ∈ value.events :=
        happened ▸ List.mem_singleton_self _
      cases mem_value_events mem
  | stepsDone | stepEnd | stepFault | scriptDone | scriptFault | finish | skip | abort =>
      cases happened

end

/-! ## Where changes have led since -/

omit [DecidableEq α] in
/-- The state to which changes have led is that of the last change. -/
theorem endOf_cons_append (initial : StateId) (first : List Change) (change : Change)
    (second : List Change) :
    endOf initial (first ++ change :: second) = endOf change.target second := by
  rcases List.eq_nil_or_concat second with rfl | ⟨others, last, rfl⟩
  · simp [endOf]
  · rw [List.concat_eq_append, ← List.cons_append, ← List.append_assoc]
    simp only [endOf, List.getLast?_concat]
    rfl

omit [DecidableEq α] in
/-- Changes lead somewhere else unless there are any, and the last of them leads there. -/
theorem endOf_eq_iff {initial state : StateId} {changes : List Change} (differs : state ≠ initial) :
    endOf initial changes = state ↔ ∃ last ∈ changes.getLast?, last.target = state := by
  cases last : changes.getLast? with
  | none => simp [endOf, last, Ne.symm differs]
  | some change => simp [endOf, last]

omit [DecidableEq α] in
/-- The changes of a registry whose dispatch is open are that of the dispatch and what came before
and after it. -/
theorem OpenSince.changesAt_eq {depth : Nat} {change : Change}
    {before during journal : List (Event α)}
    (opened : OpenSince depth change before during journal) :
    changesAt change.place (changes journal) = changesAt change.place (changes before) ++
      change :: changesAt change.place (changes during) := by
  obtain ⟨snapshot, rfl⟩ := opened.journal_eq
  rw [List.append_cons, changes_append, changes_append, changesAt_append, changesAt_append,
    List.append_assoc]
  simp [changes, changesAt, Event.change?]

/-- Each notification belongs to a dispatch that is open, and tells of the state that the change of
this dispatch left. At that moment the registry is in the state to which the last change has led
that it has accepted from this one on. So it is in the state that was left only if it has accepted
further changes while the dispatch was open, and the last of them has led back there. -/
theorem current_of_notified {program : Program α} {before after : List (Event α)}
    {config : Config α} {depth place : Nat} {entry : Entry α} {owner : String} {source : StateId}
    {currents : List StateId} (fresh : program.Fresh)
    (run : Run program
      (before ++ .notified depth place entry owner source currents :: after) config) :
    ∃ change earlier during, OpenSince depth change earlier during before ∧
      change.place = place ∧ change.source = source ∧ change.source ≠ change.target ∧
      ∃ current, currents[place]? = some current ∧
        current = endOf change.target (changesAt place (changes during)) ∧
        (current = source ↔
          ∃ last ∈ (changesAt place (changes during)).getLast?, last.target = source) := by
  obtain ⟨reached, next, first, stepped, -⟩ := run.split rfl
  obtain ⟨dispatch, caller, registry, top, rfl, rfl, rfl, here, rfl⟩ :=
    (Step.of_step? stepped).of_notified
  obtain ⟨earlier, during, opened⟩ := Run.openSince_of_dispatch first ⟨[], top.symm⟩
  -- what the registry has been through is what the journal tells, with this change in it
  have inside : dispatch.registry < program.registries.length :=
    first.length_registries ▸ (List.getElem?_eq_some_iff.1 here).1
  obtain ⟨registry', here', follows⟩ :=
    Run.follows fresh first (List.getElem?_eq_getElem inside)
  cases here'.symm.trans here
  have own := opened.changesAt_eq
  change changesAt dispatch.registry _ = _ at own
  rw [own] at follows
  have proper : dispatch.change.source ≠ dispatch.change.target :=
    follows.chain.proper _ (by simp)
  have current : registry.current =
      endOf dispatch.change.target (changesAt dispatch.registry (changes during)) :=
    follows.current.trans (endOf_cons_append ..)
  refine ⟨dispatch.change, earlier, during, opened, rfl, rfl, proper, registry.current, ?_,
    current, ?_⟩
  · simp [World.currents, here]
  · rw [current]
    exact endOf_eq_iff proper

/-- A program whose first observer answers a change by going back to the state that was left, so
that the change is told to the second observer when it has been undone. -/
def turnback : Program Nat where
  registries := [{ owner := "host", current := 2 }]
  observers := [(0, { batches := [[.on 0 (.set 2 false)]] }), (1, {})]
  steps := [.on 0 (.add 0), .on 0 (.add 1), .on 0 (.set 5 false)]

/-- When the second observer of `turnback` is told that state 2 was left, the change to 5 is still
being announced, and the change back to 2 has been made and announced since. -/
theorem turnback_current :
    turnback.Fresh ∧
      Run turnback
        ((turnback.run 14).2.toList ++ .notified 1 0 ⟨1, 1⟩ "host" 2 [2] :: [])
        (turnback.run 15).1 ∧
      ∃ change earlier during, OpenSince 1 change earlier during (turnback.run 14).2.toList ∧
        change.place = 0 ∧ change.source = 2 ∧ change.source ≠ change.target ∧
        ∃ last ∈ (changesAt 0 (changes during)).getLast?, last.target = 2 := by
  have fresh : turnback.Fresh := by simp [Program.Fresh, turnback]
  have run : Run turnback
      ((turnback.run 14).2.toList ++ .notified 1 0 ⟨1, 1⟩ "host" 2 [2] :: []) (turnback.run 15).1 :=
    turnback.run_isRun 15
  obtain ⟨change, earlier, during, opened, place, source, proper, current, here, -, undone⟩ :=
    current_of_notified fresh run
  cases here
  exact ⟨fresh, run, change, earlier, during, opened, place, source, proper, undone.1 rfl⟩

/-- An observer can be told that the state was left in which the registry is. -/
theorem left_state_found_again :
    ¬ ∀ (program : Program Nat) (journal : List (Event Nat)) (config : Config Nat),
      program.Fresh → Run program journal config →
        ∀ level place entry owner source currents,
          .notified level place entry owner source currents ∈ journal →
            currents[place]? ≠ some source := by
  intro never
  have fresh : turnback.Fresh := by simp [Program.Fresh, turnback]
  have last : (turnback.run 15).2.toList.getLast? =
    some (.notified 1 0 ⟨1, 1⟩ "host" 2 [2]) := rfl
  exact never turnback _ _ fresh (turnback.run_isRun 15) _ _ _ _ _ _ (List.mem_of_getLast? last) rfl

end Herald.Registry
