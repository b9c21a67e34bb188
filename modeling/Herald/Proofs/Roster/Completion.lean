import Herald.Proofs.Roster.Lifetime

/-!
# Every program is worked through

A walk makes no more visits than there were entries when it began, whatever is registered and
however many walks begin meanwhile (`Run.length_visitsAt_le`). A hook runs when its handle dies, so
no more hooks run than the program has handles (`Run.length_hookStarts_le`), and no more happens in
a run than the program costs (`Run.length_journal_le`).

So the machine comes to rest, and then it has told the outcome of every step of the program, unless
a step was aimed at nothing and the program was given up there (`Run.progress`). For that, whatever
stands directly on the steps of the program has to tell them an outcome in the end
(`Frame.Answers`). `program_completes` puts these together.
-/

namespace Herald.Roster

variable {α : Type}

/-! ## Outcomes of the steps of a program -/

/-- The outcome of a step of the program that comes to its end with an event. -/
def Event.outcome? : Event α → Option (Except Fault Value)
  | .stepped outcome _ => some outcome
  | _ => none

/-- The outcomes of the steps of the program that have come to their end. -/
def outcomes (journal : List (Event α)) : List (Except Fault Value) :=
  journal.filterMap Event.outcome?

/-- Whether work that an action has started tells its outcome when it is done. -/
def Frame.Answers : Frame α → Prop
  | .walk _ => True
  | .letGo _ _ next => next ≠ .proceed
  | .unlock next => next ≠ .proceed
  | _ => False

/-- How far a program has come. -/
inductive Progress (program : Program α) : List (Event α) → Config α → Prop where
  /-- The next step is about to begin. -/
  | between {journal world rest}
      (count : (outcomes journal).length + rest.length = program.steps.length) :
      Progress program journal ⟨world, [.steps rest], .proceed⟩
  /-- A step is told the outcome of its action. -/
  | told {journal world rest signal} (outcome : signal ≠ .proceed)
      (count : (outcomes journal).length + 1 + rest.length = program.steps.length) :
      Progress program journal ⟨world, [.steps rest], signal⟩
  /-- The action of a step is under way. -/
  | busy {journal config upper frame rest} (frames : config.frames = upper ++ [frame, .steps rest])
      (answers : frame.Answers)
      (count : (outcomes journal).length + 1 + rest.length = program.steps.length) :
      Progress program journal config
  /-- All steps have come to their end. -/
  | done {journal world} (count : (outcomes journal).length = program.steps.length) :
      Progress program journal ⟨world, [], .proceed⟩
  /-- The program has been given up in one of its steps. -/
  | givenUp {journal world} (count : (outcomes journal).length < program.steps.length) :
      Progress program journal ⟨world, [], .raise .misaimed⟩

@[simp] theorem outcomes_append (journal events : List (Event α)) :
    outcomes (journal ++ events) = outcomes journal ++ outcomes events :=
  List.filterMap_append

/-- The steps of the program are below all other work. -/
theorem Sound.eq_nil_of_steps {world : World α} {rest : Script α} {frames : List (Frame α)}
    {signal : Signal} (sound : Sound ⟨world, .steps rest :: frames, signal⟩) : frames = [] := by
  cases (sound.idle_of_usesRoster rfl).1
  rfl

variable [DecidableEq α] {program : Program α} {config next : Config α}
  {journal events : List (Event α)}

theorem Performs.outcomes_events {world : World α} {scope : List α} {frames : List (Frame α)}
    {action : Action α} (performs : Performs world scope frames action events next) :
    outcomes events = [] := by
  cases performs <;> rfl

/-- Only the steps of the program come to an outcome. -/
theorem Step.outcomes_events {world : World α} {frame : Frame α} {below : List (Frame α)}
    {signal : Signal} (step : Step program ⟨world, frame :: below, signal⟩ events next)
    (other : ∀ rest, frame ≠ .steps rest) : outcomes events = [] := by
  cases step with
  | perform code performs => exact performs.outcomes_events
  | stepsDone | stepEnd | stepFault | givenUp => exact absurd rfl (other _)
  | @told _ _ _ _ value =>
      unfold Value.events
      split <;> rfl
  | @scriptDone _ scope | @scriptStop _ scope => cases scope <;> rfl
  | walkDone | visit | skip | walkStop | settled | kept | died | diedHooked | hookEnd
  | unlock => rfl

/-- An action that a step of the program begins has its outcome, or is under way. -/
theorem Performs.progress {world : World α} {rest : Script α} {action : Action α}
    (performs : Performs world [] [.steps rest] action events next)
    (count : (outcomes journal).length + 1 + rest.length = program.steps.length) :
    Progress program (journal ++ events) next := by
  have count' : (outcomes (journal ++ events)).length + 1 + rest.length = program.steps.length := by
    simpa [performs.outcomes_events] using count
  cases performs with
  | misaimed | releaseNothing | fail => exact .told nofun count'
  | answer => exact .busy (List.nil_append _).symm (show Frame.Answers _ from nofun) count'
  | release => exact .busy (List.nil_append _).symm (show Frame.Answers _ from nofun) count'
  | add | remove | clear =>
      exact .busy List.singleton_append.symm (show Frame.Answers _ from nofun) count'
  | forEach => exact .busy List.singleton_append.symm trivial count'

/-- What a program has come to after a step. -/
theorem Progress.step (progress : Progress program journal config) (sound : Sound config)
    (step : Step program config events next) : Progress program (journal ++ events) next := by
  cases progress with
  | between count =>
      cases step with
      | perform code performs =>
          cases code
          exact performs.progress (by simpa [Nat.add_assoc, Nat.add_comm 1] using count)
      | stepsDone => exact .done (by simpa using count)
  | told outcome count =>
      cases step with
      | perform | stepsDone => exact absurd rfl outcome
      | stepEnd | stepFault =>
          exact .between (by simpa [outcomes, Event.outcome?] using count)
      | givenUp =>
          refine .givenUp ?_
          rw [List.append_nil]
          omega
  | @busy _ upper frame rest frames answers count =>
      obtain ⟨world, stack, signal⟩ := config
      obtain rfl : stack = _ := frames
      cases upper with
      | cons top upper =>
          -- the step is one of the work above the action
          have other : ∀ rest, top ≠ .steps rest := by
            rintro rest rfl
            exact absurd sound.eq_nil_of_steps (by simp)
          obtain ⟨pushed, frames⟩ := step.above
          have frames := frames.trans (List.append_assoc pushed upper _).symm
          exact .busy frames answers (by simpa [step.outcomes_events other] using count)
      | nil =>
          have other : ∀ rest, frame ≠ .steps rest := by
            rintro rest rfl
            cases answers
          have count' : (outcomes (journal ++ events)).length + 1 + rest.length =
              program.steps.length := by
            simpa [step.outcomes_events other] using count
          cases step with
          | perform code => cases code <;> cases answers
          | stepsDone | stepEnd | stepFault | givenUp => exact absurd rfl (other _)
          | scriptDone | told | scriptStop | hookEnd => cases answers
          | settled | unlock => exact .told answers count'
          | walkDone =>
              exact .busy (List.nil_append _).symm (show Frame.Answers _ from nofun) count'
          | walkStop => exact .busy (List.nil_append _).symm (Walk.pass_ne_proceed _ _) count'
          | kept | died => exact .busy (List.nil_append _).symm answers count'
          | skip => exact .busy List.singleton_append.symm trivial count'
          | visit => exact .busy (rfl : _ = [_, _] ++ [_, _]) trivial count'
          | diedHooked => exact .busy (rfl : _ = [_, _] ++ [_, _]) answers count'
  | done | givenUp => cases step

/-- What a program has come to at any point of a run. -/
theorem Run.progress (run : Run program journal config) : Progress program journal config := by
  induction run with
  | refl => exact .between (Nat.zero_add _)
  | step run stepped ih =>
      have sound := Run.sound run
      exact ih.step sound (sound.step_of_step? stepped)

/-! ## Bounds -/

/-- No more happens than a program costs. -/
theorem Run.length_journal_le (run : Run program journal config) :
    journal.length + config.weight program ≤ program.cost := by
  induction run with
  | refl => simpa using program.weight_start_le
  | step run stepped ih =>
      have single := ((Run.sound run).step_of_step? stepped).length_events_le
      have less := Run.weight_lt run stepped
      rw [List.length_append]
      omega

/-- Only handles that the program started with die. -/
theorem Run.deaths_subset (run : Run program journal config) :
    deaths journal ⊆ program.handles.map Prod.fst := by
  intro handle dead
  obtain ⟨cause, hooked, mem⟩ := mem_deaths.1 dead
  obtain ⟨past, rest, rfl⟩ := List.append_of_mem mem
  obtain ⟨before, after, run', stepped⟩ :=
    Steps.exists_step program.start_sound run ⟨rest, List.append_assoc _ _ _⟩
  have died := ((Run.sound run').step_of_step? stepped).of_died (List.mem_singleton_self _)
  exact Run.mem_handles_of_isHeld run' died.2.1

/-- No more hooks run than the program has handles. -/
theorem Run.length_hookStarts_le (run : Run program journal config) :
    (journal.filterMap Event.hookStart?).length ≤ program.handles.length := by
  have fewer := (List.subperm_of_subset run.nodup_deaths run.deaths_subset).length_le
  rw [List.length_map] at fewer
  exact Nat.le_trans (hookStarts_sublist_deaths journal).length_le fewer

/-- A walk that is under way has visited at most as many entries as there were when it began. -/
theorem Run.length_visitsAt_le {depth : Nat} {snapshot : List (Entry α)}
    {before during : List (Event α)} (run : Run program journal config)
    (underway : Underway depth snapshot before during journal) :
    ∃ start, Run program before start ∧ start.world.roster.entries = snapshot ∧
      (visitsAt depth during).length ≤ start.world.roster.size := by
  obtain ⟨origin, caller, start, _, walk, rfl, rfl, -, walking⟩ := run.begun_of_underway underway
  obtain ⟨pending, phase, traversal⟩ := walking.exists_traversal
  refine ⟨start, walk.run, walk.entries.symm, ?_⟩
  have visits := (visitsAt_sublist_turnsAt (level caller + 1) during).length_le
  have turns := congrArg List.length traversal.turnsAt_append_pending
  rw [List.length_append, walk.entries] at turns
  rw [size]
  omega

/-! ## Enough steps -/

/-- Nothing changes once the machine has come to rest. -/
theorem Config.advance_add {fuel : Nat} {config : Config α} {journal : Array (Event α)}
    (rest : (config.advance program fuel journal).1.frames = []) (more : Nat) :
    config.advance program (fuel + more) journal = config.advance program fuel journal :=
  (Machine.advance_add fuel more config journal).trans
    (Machine.advance_of_rest (Config.step?_eq_none_iff.2 (.inl rest)) more _)

/-- There is one run of a program that comes to rest. -/
theorem Run.eq_run (run : Run program journal config) (rest : config.frames = []) :
    program.run = (config, journal.toArray) := by
  obtain ⟨fuel, reached⟩ :
      ∃ fuel, program.start.advance program fuel #[] = (config, journal.toArray) :=
    Machine.Steps.exists_advance run
  have rested : (program.start.advance program fuel #[]).1.frames = [] := by
    rw [reached]
    exact rest
  rcases Nat.le_total fuel program.cost with less | less
  · obtain ⟨more, same⟩ := Nat.exists_eq_add_of_le less
    rw [Program.run, same, Config.advance_add rested, reached]
  · obtain ⟨more, rfl⟩ := Nat.exists_eq_add_of_le less
    rw [Config.advance_add program.run_finishes] at reached
    exact reached

/-- Every program is worked through. In any of its runs no more happens than the program costs, no
more hooks run than it has handles, and a walk makes no more visits than there were entries when it
began. It is enough to take as many steps of the machine as the program costs: then no work is left,
and each step of the program has come to an outcome, unless one of them was aimed at nothing and the
program was given up there. -/
theorem program_completes (program : Program α) :
    (∀ journal config, Run program journal config →
      journal.length ≤ program.cost ∧
      (journal.filterMap Event.hookStart?).length ≤ program.handles.length ∧
      ∀ depth snapshot before during, Underway depth snapshot before during journal →
        ∃ start, Run program before start ∧ start.world.roster.entries = snapshot ∧
          (visitsAt depth during).length ≤ start.world.roster.size) ∧
    program.run.1.frames = [] ∧
    (∀ fuel, program.cost ≤ fuel → program.start.advance program fuel #[] = program.run) ∧
    ((program.run.1.signal = .proceed ∧
        (outcomes program.run.2.toList).length = program.steps.length) ∨
      program.run.1.signal = .raise .misaimed ∧
        (outcomes program.run.2.toList).length < program.steps.length) := by
  have rest := program.run_finishes
  refine ⟨fun journal config run => ⟨?_, run.length_hookStarts_le, ?_⟩, rest, ?_, ?_⟩
  · exact Nat.le_trans (Nat.le_add_right _ _) run.length_journal_le
  · exact fun depth snapshot before during => run.length_visitsAt_le
  · intro fuel enough
    obtain ⟨more, rfl⟩ := Nat.exists_eq_add_of_le enough
    exact Config.advance_add rest more
  · have progress := Run.progress program.run_isRun
    generalize program.run.2.toList = journal at progress ⊢
    generalize program.run.1 = config at progress rest ⊢
    cases progress with
    | between | told => cases rest
    | busy frames => simp [frames] at rest
    | done count => exact .inl ⟨rfl, count⟩
    | givenUp count => exact .inr ⟨rfl, count⟩

/-- When the first walk of `reentrant` is about to end it has visited two of three handles, and in
the end all six steps have come to an outcome. -/
theorem reentrant_completes :
    Run reentrant (reentrant.start.advance reentrant 42 #[]).2.toList
        (reentrant.start.advance reentrant 42 #[]).1 ∧
      (∃ before during start,
        Underway 1 [⟨0, 0⟩, ⟨1, 1⟩, ⟨2, 2⟩] before during
          (reentrant.start.advance reentrant 42 #[]).2.toList ∧
        Run reentrant before start ∧
        start.world.roster.entries = [⟨0, 0⟩, ⟨1, 1⟩, ⟨2, 2⟩] ∧
        (visitsAt 1 during).length ≤ start.world.roster.size) ∧
      (reentrant.run.2.toList.filterMap Event.hookStart?).length ≤ 3 ∧
      reentrant.run.1.frames = [] ∧
      (outcomes reentrant.run.2.toList).length = 6 := by
  have run := reentrant.advance_isRun 42
  have walk : Frame.walk _ :: [.steps _] <:+ (reentrant.start.advance reentrant 42 #[]).1.frames :=
    ⟨[], rfl⟩
  obtain ⟨before, during, underway⟩ := run.underway_of_walk walk
  obtain ⟨bounded, rest, -, done | ⟨givenUp, -⟩⟩ := program_completes reentrant
  · obtain ⟨start, run', entries, visits⟩ := (bounded _ _ run).2.2 _ _ _ _ underway
    exact ⟨run, ⟨before, during, start, underway, run', entries, visits⟩,
      (bounded _ _ reentrant.run_isRun).2.1, rest, done.2⟩
  · cases (givenUp : Signal.proceed = _)

end Herald.Roster
