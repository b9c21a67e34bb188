import Herald.Proofs.Roster.Walk

/-!
# Walks that are under way

A walk is under way from the event that tells of its beginning up to the one that tells of its end
(`Underway`). The journal and the stack agree about that: each walk on the stack is under way
(`Run.underway_of_walk`), and each walk that is under way stands on the stack, has been a traversal
so far, and began with the entries that were registered then (`Run.begun_of_underway`).

So what a walk does can be traced back to its beginning. `Step.of_skipped` and `Step.of_ended` say
which walk on the stack it is that an event is about.
-/

namespace Herald.Roster

variable {α : Type}

/-- A walk of a level began with a snapshot, has gone on during what happened since, and has not
ended. -/
structure Underway (depth : Nat) (snapshot : List (Entry α))
    (before during journal : List (Event α)) : Prop where
  journal_eq : journal = before ++ .began depth snapshot :: during
  unended : ∀ stop, .ended depth stop ∉ during

/-- A walk goes on as long as its end does not happen. -/
theorem Underway.append {depth : Nat} {snapshot : List (Entry α)}
    {before during journal events : List (Event α)}
    (underway : Underway depth snapshot before during journal)
    (goes : ∀ stop, .ended depth stop ∉ events) :
    Underway depth snapshot before (during ++ events) (journal ++ events) where
  journal_eq := by simp [underway.journal_eq]
  unended stop mem := (List.mem_append.1 mem).elim (underway.unended stop) (goes stop)

/-- There are no more walks on a part of the stack than on the whole. -/
theorem level_le_of_suffix {frames below : List (Frame α)} (lower : below <:+ frames) :
    level below ≤ level frames := by
  obtain ⟨upper, rfl⟩ := lower
  rw [level_append]
  exact Nat.le_add_left _ _

variable [DecidableEq α] {program : Program α}

/-! ## What an event says of the stack -/

section
variable {config next : Config α} {journal events : List (Event α)} {depth : Nat}

/-- A walk begins with the entries that are registered, on top of the work that started it. -/
theorem Step.of_began {snapshot : List (Entry α)} (step : Step program config events next)
    (began : .began depth snapshot ∈ events) :
    ∃ origin caller, origin.pending = origin.snapshot ∧ origin.visits = 0 ∧
      depth = level caller + 1 ∧
      snapshot = origin.snapshot ∧ origin.snapshot = config.world.roster.entries ∧
      next = ⟨{ config.world with access := .shared 1 },
        .unlock .proceed :: .walk origin :: caller, .proceed⟩ := by
  cases step with
  | perform code performs =>
      cases performs with
      | forEach =>
          cases List.mem_singleton.1 began
          exact ⟨_, _, rfl, rfl, rfl, rfl, rfl, rfl⟩
      | _ => simp at began
  | _ => simp at began

/-- It is the topmost walk that ends. It lets go of its snapshot, and then tells its outcome to the
work that started it. -/
theorem Step.of_ended {stop : Option Stop} (step : Step program config events next)
    (ended : .ended depth stop ∈ events) :
    ∃ walk caller, config.frames = .walk walk :: caller ∧ depth = level caller + 1 ∧
      next.frames =
        .letGo .walk (walk.snapshot.map Entry.handle) (walk.answer stop) :: caller := by
  cases step with
  | walkDone | walkStop =>
      cases List.mem_singleton.1 ended
      exact ⟨_, _, rfl, rfl, rfl⟩
  | perform code performs => cases performs <;> simp at ended
  | _ => simp at ended

/-! ## From the stack to the journal -/

section
variable {walk : Walk α} {caller : List (Frame α)}

/-- A walk that is on the stack after an action has begun was there before, or begins now. -/
theorem Performs.origin_of_walk {world : World α} {scope : List α} {frames : List (Frame α)}
    {action : Action α} (performs : Performs world scope frames action events next)
    (there : .walk walk :: caller <:+ next.frames) :
    .walk walk :: caller <:+ frames ∨ events = [.began (level caller + 1) walk.snapshot] := by
  cases performs with
  | misaimed | releaseNothing | fail => exact .inl there
  | answer | release | add | remove | clear =>
      exact .inl (by simpa [List.suffix_cons_iff] using there)
  | forEach =>
      obtain ⟨rfl, rfl⟩ | there : (walk = .begin _ _ _ _ _ ∧ caller = frames) ∨ _ := by
        simpa [List.suffix_cons_iff] using there
      · exact .inr rfl
      · exact .inl there

/-- A walk that is on the stack after a step was there before, below the topmost work or as the
topmost work, which has not ended; or it begins in the step. -/
theorem Step.origin_of_walk {world : World α} {frame : Frame α} {below : List (Frame α)}
    {signal : Signal} (step : Step program ⟨world, frame :: below, signal⟩ events next)
    (there : .walk walk :: caller <:+ next.frames) :
    .walk walk :: caller <:+ below ∨
      (∃ earlier : Walk α, frame = .walk earlier ∧ earlier.snapshot = walk.snapshot ∧
        caller = below ∧ ∀ other stop, .ended other stop ∉ events) ∨
      events = [.began (level caller + 1) walk.snapshot] := by
  cases step with
  | perform code performs =>
      rcases performs.origin_of_walk there with there | begins
      · cases code <;> exact .inl (by simpa [Frame.advance, List.suffix_cons_iff] using there)
      · exact .inr (.inr begins)
  | stepsDone | givenUp | scriptDone | scriptStop | settled | hookEnd | unlock => exact .inl there
  | stepEnd | stepFault | told | kept | died | diedHooked | walkDone | walkStop =>
      exact .inl (by simpa [List.suffix_cons_iff] using there)
  | visit | skip =>
      obtain ⟨rfl, rfl⟩ | there :
          (walk = { snapshot := _, .. } ∧ caller = below) ∨ .walk walk :: caller <:+ below := by
        simpa [List.suffix_cons_iff] using there
      · exact .inr (.inl ⟨_, rfl, rfl, rfl, by simp⟩)
      · exact .inl there

/-- A walk on the stack of a run is under way. -/
theorem Run.underway_of_walk (run : Run program journal config)
    (there : .walk walk :: caller <:+ config.frames) :
    ∃ before during, Underway (level caller + 1) walk.snapshot before during journal := by
  induction run generalizing walk with
  | refl => simp [Program.start, List.suffix_cons_iff] at there
  | @step journal events config next run stepped ih =>
      have step := (Run.sound run).step_of_step? stepped
      obtain ⟨world, stack, signal⟩ := config
      cases stack with
      | nil => cases stepped
      | cons frame below =>
          rcases step.origin_of_walk there with there | ⟨earlier, rfl, same, rfl, goes⟩ | rfl
          · -- a walk that ends stands above all others
            obtain ⟨before, during, underway⟩ := ih (there.trans (List.suffix_cons _ _))
            refine ⟨before, _, underway.append fun stop ended => ?_⟩
            obtain ⟨other, caller', top, depth, -⟩ := step.of_ended ended
            obtain rfl := (List.cons.inj top).2
            have lower := level_le_of_suffix there
            rw [level_walk] at lower
            omega
          · obtain ⟨before, during, underway⟩ := ih List.suffix_rfl
            exact ⟨before, _, same ▸ underway.append (goes _)⟩
          · exact ⟨journal, [], rfl, fun _ => List.not_mem_nil⟩

/-! ## From the journal to the stack -/

/-- A walk begins, for the work in `caller`. -/
structure Begun (program : Program α) (before : List (Event α)) (origin : Walk α)
    (caller : List (Frame α)) (start begun : Config α) : Prop where
  run : Run program before start
  stepped : start.step? program = some (begun, [.began (level caller + 1) origin.snapshot])
  entries : origin.snapshot = start.world.roster.entries
  begins : Walking origin caller [] begun

theorem Begun.run_begun {before : List (Event α)} {origin : Walk α} {start begun : Config α}
    (walk : Begun program before origin caller start begun) :
    Run program (before ++ [.began (level caller + 1) origin.snapshot]) begun :=
  walk.run.step walk.stepped

/-- The beginning of a walk leaves the roster alone. -/
theorem Begun.entries_begun {before : List (Event α)} {origin : Walk α} {start begun : Config α}
    (walk : Begun program before origin caller start begun) :
    origin.snapshot = begun.world.roster.entries := by
  rw [((Run.sound walk.run).step_of_step? walk.stepped).roster]
  exact walk.entries

/-- A walk that is under way began at some point of the run and has been a traversal since. -/
theorem Run.begun_of_underway {depth : Nat} {snapshot : List (Entry α)}
    {before during : List (Event α)} (run : Run program journal config)
    (underway : Underway depth snapshot before during journal) :
    ∃ origin caller start begun, Begun program before origin caller start begun ∧
      depth = level caller + 1 ∧ snapshot = origin.snapshot ∧
      Steps program begun during config ∧ Walking origin caller during config := by
  obtain ⟨start, begun, first, stepped, rest⟩ :=
    Steps.split program.start_sound run underway.journal_eq
  have step := (Run.sound first).step_of_step? stepped
  obtain ⟨origin, caller, whole, first', rfl, rfl, entries, rfl⟩ :=
    step.of_began (List.mem_singleton_self _)
  have begins := Walking.begin { start.world with access := .shared 1 } origin caller whole first'
  have begun : Begun program before origin caller start _ := ⟨first, stepped, entries, begins⟩
  exact ⟨origin, caller, start, _, begun, rfl, rfl, rest,
    Run.walking begun.run_begun begun.entries_begun begins rest underway.unended⟩

omit [DecidableEq α] in
/-- A walk that is under way stands on the work that started it. -/
theorem Walking.suffix_frames {origin : Walk α} (walking : Walking origin caller journal config) :
    ∃ pending visits, .walk { origin with pending, visits } :: caller <:+ config.frames := by
  cases walking with
  | @between _ _ pending visits | @stopped _ _ pending visits => exact ⟨pending, visits, [], rfl⟩
  | @unlocking _ _ pending visits => exact ⟨pending, visits, List.suffix_cons _ _⟩
  | @visiting _ upper rest entry pending visits _ frames =>
      exact ⟨pending, visits, upper ++ [.script (entry.handle :: origin.scope) rest],
        by simp [frames]⟩

omit [DecidableEq α] in
/-- A walk that is under way stands on the stack. -/
theorem Walking.mem_frames {origin : Walk α} (walking : Walking origin caller journal config) :
    ∃ pending visits, .walk { origin with pending, visits } ∈ config.frames := by
  obtain ⟨pending, visits, lower⟩ := walking.suffix_frames
  exact ⟨pending, visits, lower.subset (.head _)⟩

omit [DecidableEq α] in
theorem Walking.level_le {origin : Walk α} (walking : Walking origin caller journal config) :
    level caller + 1 ≤ level config.frames := by
  obtain ⟨pending, visits, lower⟩ := walking.suffix_frames
  rw [← level_walk { origin with pending, visits } caller]
  exact level_le_of_suffix lower

/-- As many walks are on the stack as the level of a walk that is under way, or more. -/
theorem Run.level_le_of_underway {snapshot : List (Entry α)} {before during : List (Event α)}
    (run : Run program journal config) (underway : Underway depth snapshot before during journal) :
    depth ≤ level config.frames := by
  obtain ⟨_, _, _, _, -, rfl, -, -, walking⟩ := run.begun_of_underway underway
  exact walking.level_le

omit [DecidableEq α] in
/-- A walk that is under way has been a traversal so far. -/
theorem Walking.exists_traversal {origin : Walk α}
    (walking : Walking origin caller journal config) :
    ∃ pending phase, Traversal (level caller + 1) origin.snapshot journal pending phase := by
  cases walking with
  | between _ walk | unlocking walk | visiting _ walk | stopped walk => exact ⟨_, _, walk⟩

omit [DecidableEq α] in
theorem Walking.not_ended {origin : Walk α} (walking : Walking origin caller journal config)
    (stop : Option Stop) : .ended (level caller + 1) stop ∉ journal := by
  cases walking with
  | between _ walk | unlocking walk | stopped walk | visiting _ walk => exact walk.not_ended stop

omit [DecidableEq α] in
/-- A walk that has just ended was exact. -/
theorem Walked.exact {origin : Walk α} {during : List (Event α)} {stop : Option Stop}
    (walked : Walked origin caller (during ++ [.ended depth stop]) config) :
    Exact (level caller + 1) origin.snapshot during stop := by
  generalize whole : during ++ [.ended depth stop] = journal at walked
  cases walked with
  | intro walk final =>
      obtain ⟨rfl, same⟩ := List.append_inj' whole rfl
      cases same
      exact walk.exact final

/-- A walk that ends in a step was exact. It began with the entries that were registered then. -/
theorem Run.exact_of_underway {snapshot : List (Entry α)} {before during : List (Event α)}
    {stop : Option Stop} (run : Run program journal config)
    (underway : Underway depth snapshot before during journal)
    (stepped : config.step? program = some (next, events))
    (ended : .ended depth stop ∈ events) :
    ∃ start, Run program before start ∧ start.world.roster.entries = snapshot ∧
      Exact depth snapshot during stop := by
  have step := (Run.sound run).step_of_step? stepped
  obtain ⟨origin, caller, start, begun, walk, rfl, rfl, steps, walking⟩ :=
    run.begun_of_underway underway
  refine ⟨start, walk.run, walk.entries.symm, ?_⟩
  rcases Run.step_of_walking walk.run_begun walk.entries_begun steps walking stepped with
    walking | walked
  · exact absurd (List.mem_append_right _ ended) (walking.not_ended stop)
  · obtain ⟨past, rest, rfl⟩ := List.append_of_mem ended
    have single := step.length_events_le
    obtain ⟨rfl, rfl⟩ : past = [] ∧ rest = [] := by
      cases past <;> cases rest <;> simp_all
    exact walked.exact

end

end

end Herald.Roster
