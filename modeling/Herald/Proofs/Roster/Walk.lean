import Herald.Proofs.Roster.LettingGo

/-!
# Walks visit what is registered when its turn comes

A walk asks of each entry whether its serial number is still there. Since numbers are not used
twice this is to ask whether a call has expelled the handle (`WellFormed.isLive_after_iff`), so a
walk of the machine is a traversal (`Walking.step`). The calls are those that the journal tells of,
and those are the ones that were executed (`Run.called`). What visits and hooks do in the meantime
stands above the walk on the stack and leaves it alone (`Step.above`, `Step.level_of_mem`).

The walk comes to its end because every run does (`Run.walk_ends`), and so does the letting go of
its snapshot (`Run.letGo_settles`), after which the work that started it goes on. `forEach_exact`
puts these together for a walk that an action starts.
-/

namespace Herald.Roster

variable {α : Type} [DecidableEq α] {program : Program α}

/-! ## Walks of the machine -/

omit [DecidableEq α] in
theorem Walk.pass_ne_proceed (walk : Walk α) (stop : Stop) : walk.pass stop ≠ .proceed := by
  cases stop with
  | fault fault =>
      simp only [Walk.pass]
      split <;> exact nofun
  | misaimed => exact nofun

/-- What a walk answers to the work that started it. -/
def Walk.answer (walk : Walk α) : Option Stop → Signal
  | none => .deliver .unit
  | some why => walk.pass why

/-- How many visits of a level a journal tells of. -/
def Counts (level : Nat) (journal : List (Event α)) (visits : Nat) : Prop :=
  visits = (visitsAt level journal).length

omit [DecidableEq α] in
theorem Counts.append {level visits : Nat} {journal events : List (Event α)}
    (counts : Counts level journal visits) (others : visitsAt level events = []) :
    Counts level (journal ++ events) visits := by
  rw [Counts, visitsAt_append, others, List.append_nil]
  exact counts

omit [DecidableEq α] in
theorem Counts.visit {level visits : Nat} {journal : List (Event α)}
    (counts : Counts level journal visits) (entry : Entry α) :
    Counts level (journal ++ [.visited level entry]) (visits + 1) := by
  rw [Counts] at counts
  simp [Counts, counts, visitsAt, Event.visit?]

/-- A walk for the work in `caller` is under way, and has been a traversal so far. It knows how many
visits it has made. -/
inductive Walking (origin : Walk α) (caller : List (Frame α)) :
    List (Event α) → Config α → Prop where
  /-- The walk is told to go on. -/
  | between {world signal pending visits journal} (calm : signal.stop? = none)
      (walk : Traversal (level caller + 1) origin.snapshot journal pending .between)
      (counts : Counts (level caller + 1) journal visits) :
      Walking origin caller journal ⟨world, .walk { origin with pending, visits } :: caller, signal⟩
  /-- The walk has used the roster and gives its access back. -/
  | unlocking {world signal pending visits journal}
      (walk : Traversal (level caller + 1) origin.snapshot journal pending .between)
      (counts : Counts (level caller + 1) journal visits) :
      Walking origin caller journal
        ⟨world, .unlock .proceed :: .walk { origin with pending, visits } :: caller, signal⟩
  /-- A visit is under way, with its own work above it. -/
  | visiting {config upper rest entry pending visits journal}
      (frames : config.frames = upper ++ .script (entry.handle :: origin.scope) rest ::
        .walk { origin with pending, visits } :: caller)
      (walk : Traversal (level caller + 1) origin.snapshot journal pending (.visiting entry))
      (counts : Counts (level caller + 1) journal visits) :
      Walking origin caller journal config
  /-- A visit was stopped, and the walk is told of it. -/
  | stopped {world why pending visits journal}
      (walk : Traversal (level caller + 1) origin.snapshot journal pending (.stopped why))
      (counts : Counts (level caller + 1) journal visits) :
      Walking origin caller journal
        ⟨world, .walk { origin with pending, visits } :: caller, .raise why⟩

omit [DecidableEq α] in
/-- A walk that has just begun is under way. -/
theorem Walking.begin (world : World α) (origin : Walk α) (caller : List (Frame α))
    (whole : origin.pending = origin.snapshot) (first : origin.visits = 0) :
    Walking origin caller [] ⟨world, .unlock .proceed :: .walk origin :: caller, .proceed⟩ := by
  obtain ⟨snapshot, pending, visits, turns, on, catching, scope⟩ := origin
  obtain rfl : pending = snapshot := whole
  obtain rfl : visits = 0 := first
  exact .unlocking .start rfl

/-- A walk for the work in `caller` has just ended, after a traversal. -/
inductive Walked (origin : Walk α) (caller : List (Frame α)) :
    List (Event α) → Config α → Prop where
  | intro {world signal pending during phase stop}
      (walk : Traversal (level caller + 1) origin.snapshot during pending phase)
      (final : phase.Final pending stop) :
      Walked origin caller (during ++ [.ended (level caller + 1) stop])
        ⟨world, .letGo .walk (origin.snapshot.map Entry.handle) (origin.answer stop) :: caller,
          signal⟩

omit [DecidableEq α] in
theorem Walked.ended_mem {origin : Walk α} {caller : List (Frame α)} {journal : List (Event α)}
    {config : Config α} (walked : Walked origin caller journal config) :
    ∃ stop, .ended (level caller + 1) stop ∈ journal := by
  cases walked with
  | @intro _ _ _ _ _ stop => exact ⟨stop, by simp⟩

omit [DecidableEq α] in
/-- A walk that has just ended lets go of its snapshot. -/
theorem Walked.exists_frames {origin : Walk α} {caller : List (Frame α)}
    {journal : List (Event α)} {config : Config α} (walked : Walked origin caller journal config) :
    ∃ stop, config.frames =
      .letGo .walk (origin.snapshot.map Entry.handle) (origin.answer stop) :: caller := by
  cases walked with
  | intro => exact ⟨_, rfl⟩

/-- A visit that is under way is still under way after a step, or it ends there. -/
theorem Walking.step_of_visiting {origin : Walk α} {caller upper : List (Frame α)}
    {journal events : List (Event α)} {world : World α} {signal : Signal} {next : Config α}
    {entry : Entry α} {rest : Script α} {pending : List (Entry α)} {visits : Nat}
    (walk : Traversal (level caller + 1) origin.snapshot journal pending (.visiting entry))
    (counts : Counts (level caller + 1) journal visits)
    (sound : Sound ⟨world, upper ++ .script (entry.handle :: origin.scope) rest ::
      .walk { origin with pending, visits } :: caller, signal⟩)
    (step : Step program ⟨world, upper ++ .script (entry.handle :: origin.scope) rest ::
      .walk { origin with pending, visits } :: caller, signal⟩ events next) :
    Walking origin caller (journal ++ events) next := by
  cases upper with
  | cons frame upper =>
      -- the step is one of the work above the visit
      obtain ⟨pushed, frames⟩ := step.above
      have frames := frames.trans (List.append_assoc pushed upper _).symm
      have quiet := step.quiet sound
      exact .visiting frames (walk.within quiet) (counts.append quiet.visitsAt_eq_nil)
  | nil =>
      -- the step is one of the visit itself
      cases step with
      | perform code performs =>
          obtain ⟨⟨pushed, frames⟩, deeper⟩ := performs.above
          have quiet : Quiet (level caller + 1) events := by
            intro event mem about
            have deeper := deeper event mem _ about
            rw [code.level_advance, level_walk] at deeper
            omega
          cases code with
          | script =>
              exact .visiting frames (walk.within quiet) (counts.append quiet.visitsAt_eq_nil)
      | scriptDone =>
          rw [returnEvents_visit]
          exact .between rfl walk.returned (counts.append rfl)
      | told =>
          have quiet (value : Value) :
              Quiet (level caller + 1) (value.events : List (Event α)) := by
            intro event mem about
            cases mem_value_events mem
            cases about
          exact .visiting (List.nil_append _).symm (walk.within (quiet _))
            (counts.append (quiet _).visitsAt_eq_nil)
      | scriptStop =>
          rw [returnEvents_visit]
          exact .stopped (walk.stopped _) (counts.append rfl)

/-- One step of a walk that is under way, where an entry of the snapshot stands exactly if no call
has expelled its handle since the walk began. -/
theorem Walking.step {origin : Walk α} {caller : List (Frame α)} {journal events : List (Event α)}
    {config next : Config α} (walking : Walking origin caller journal config)
    (stands : ∀ entry ∈ origin.snapshot,
      config.world.roster.isLive entry.serial ↔ Undisturbed journal entry.handle)
    (sound : Sound config) (step : Step program config events next) :
    Walking origin caller (journal ++ events) next ∨
      Walked origin caller (journal ++ events) next := by
  cases walking with
  | between calm walk counts =>
      cases step with
      | perform code => cases code
      | walkDone _ done =>
          obtain rfl := done
          exact .inr (.intro walk .finished)
      | visit _ turn live =>
          obtain rfl := turn
          have undisturbed := (stands _ walk.mem_snapshot).1 live
          exact .inl (.visiting List.singleton_append.symm (walk.visit undisturbed)
            (counts.visit _))
      | skip _ turn gone =>
          obtain rfl := turn
          have disturbed := fun undisturbed => gone ((stands _ walk.mem_snapshot).2 undisturbed)
          exact .inl (.unlocking (walk.skip disturbed) (counts.append rfl))
      | walkStop => cases calm
  | unlocking walk counts =>
      cases step with
      | perform code => cases code
      | unlock =>
          rw [List.append_nil]
          exact .inl (.between rfl walk counts)
  | visiting frames walk counts =>
      obtain ⟨world, stack, signal⟩ := config
      obtain rfl : stack = _ := frames
      exact .inl (.step_of_visiting walk counts sound step)
  | stopped walk =>
      cases step with
      | walkDone calm | visit calm | skip calm => cases calm
      | walkStop => exact .inr (.intro walk .stopped)

/-! ## Walks end -/

section

variable {start config next : Config α} {before journal events rest : List (Event α)}
  {origin : Walk α} {caller : List (Frame α)}

/-- One step of a walk in a run. The walk began with the entries that were registered then. -/
theorem Run.step_of_walking (run : Run program before start)
    (entries : origin.snapshot = start.world.roster.entries)
    (steps : Steps program start journal config) (walking : Walking origin caller journal config)
    (stepped : config.step? program = some (next, events)) :
    Walking origin caller (journal ++ events) next ∨
      Walked origin caller (journal ++ events) next := by
  have sound := Steps.sound (Run.sound run) steps
  refine walking.step ?_ sound (sound.step_of_step? stepped)
  -- the snapshot was the roster at the beginning, and only calls have changed the roster since
  intro entry mem
  rw [Steps.roster (Run.sound run) steps]
  exact (Run.wellFormed run).isLive_after_iff _ (entries ▸ mem)

/-- A walk that has begun is under way as long as its end has not happened. -/
theorem Run.walking (run : Run program before start)
    (entries : origin.snapshot = start.world.roster.entries)
    (begins : Walking origin caller [] start) (steps : Steps program start journal config)
    (unended : ∀ stop, .ended (level caller + 1) stop ∉ journal) :
    Walking origin caller journal config := by
  induction steps with
  | refl => exact begins
  | step steps stepped ih =>
      have walking := ih fun stop mem => unended stop (List.mem_append_left _ mem)
      rcases Run.step_of_walking run entries steps walking stepped with walking | walked
      · exact walking
      · obtain ⟨stop, ended⟩ := walked.ended_mem
        exact absurd ended (unended stop)

end

variable {start : Config α}

/-- The visit of a handle is about to begin, as the one with the given number of a walk for the work
in `caller`, where `origin` is the walk as it began. The script of that number comes first, and then
the one that the table has for the handle. -/
def Config.Visits (config : Config α) (origin : Walk α) (number : Nat) (handle : α)
    (caller : List (Frame α)) : Prop :=
  ∃ pending, config.frames =
    .unlock .proceed ::
      .script (handle :: origin.scope)
        (origin.turns[number]?.getD [] ++ (origin.on.lookup handle).getD []) ::
      .walk { origin with pending, visits := number + 1 } :: caller

/-- Visits are begun by walks. -/
theorem Step.of_visited {config next : Config α} {other : Nat} {entry : Entry α}
    {events : List (Event α)} (step : Step program config events next)
    (visited : .visited other entry ∈ events) :
    ∃ walk caller, config.frames = .walk walk :: caller ∧ level caller + 1 = other ∧
      next.Visits walk walk.visits entry.handle caller := by
  cases step with
  | visit =>
      cases List.mem_singleton.1 visited
      exact ⟨_, _, rfl, rfl, _, rfl⟩
  | perform code performs => cases performs <;> simp at visited
  | told => cases mem_value_events visited
  | scriptDone | scriptStop =>
      obtain ⟨_, _, _, same⟩ := mem_returnEvents visited
      cases same
  | stepsDone | stepEnd | stepFault | givenUp | walkDone | skip | walkStop | settled | kept | died
  | diedHooked | hookEnd | unlock => simp at visited

end Herald.Roster
