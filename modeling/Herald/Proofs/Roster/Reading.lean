import Herald.Proofs.Roster.Underway

/-!
# Walks that only read

A walk whose visits only read, or fail with a fault that is caught, is an aside to the work that
starts it: the machine comes back to the same world, and what has happened meanwhile is about deeper
walks only, each of which began with the roster as it is (`Aside`).

That holds because nothing that such a walk does can matter to anybody else. The roster does not
change, so every entry still stands when its turn comes, and a handle that is let go is held by its
entry, so nothing dies (`Browses.step`). `Run.comes_back` is the induction over the walk and all
walks inside it, and `Run.aside` adds what is known of walks in general: one that is not stopped
has visited its whole snapshot. Whoever asks in the walk whether a handle is registered must have
that handle (`Config.asksAimed`).
-/

namespace Herald.Roster

variable {α : Type}

/-! ## Actions that only read -/

/-- An action that does not change anything. It fails only if `faults`: a walk lets its visits fail
if it catches their faults, or else if it may fail itself. -/
inductive Action.Reads : Bool → Action α → Prop where
  | contains {faults target} : Reads faults (.contains target)
  | size {faults} : Reads faults .size
  | isEmpty {faults} : Reads faults .isEmpty
  | show {faults layout} : Reads faults (.show layout)
  | fail {fault} : Reads true (.fail fault)
  | forEach {faults catching} {turns : List (Script α)} {on : List (α × Script α)}
      (counted : ∀ script ∈ turns, ∀ action ∈ script, Reads (faults || catching) action)
      (named : ∀ pair ∈ on, ∀ action ∈ pair.2, Reads (faults || catching) action) :
      Reads faults (.forEach turns on catching)

/-- Whether a signal is one that work gets which may be told of a fault only if `faults`. -/
def Signal.Fits (faults : Bool) : Signal → Prop
  | .raise (.fault _) => faults = true
  | .raise .misaimed => False
  | _ => True

/-- What a walk passes on is for the work below it: it may be a fault if that work may be told of
one. -/
theorem Walk.fits_pass {walk : Walk α} {faults : Bool} {stop : Stop}
    (fits : (Signal.raise stop).Fits (faults || walk.catching)) : (walk.pass stop).Fits faults := by
  cases stop with
  | misaimed => exact fits
  | fault fault =>
      cases caught : walk.catching with
      | false => simpa [Walk.pass, caught, Signal.Fits] using fits
      | true => simp [Walk.pass, caught, Signal.Fits]

section
variable [DecidableEq α]

/-- Whoever is about to ask whether a handle is registered has that handle. -/
def Config.asksAimed (config : Config α) : Bool :=
  match config.frames, config.signal with
  | .steps (.contains target :: _) :: _, .proceed => (config.world.resolve [] target).isSome
  | .script scope (.contains target :: _) :: _, .proceed =>
    (config.world.resolve scope target).isSome
  | _, _ => true

theorem Config.resolve_of_asksAimed {world : World α} {frame : Frame α} {frames : List (Frame α)}
    {scope : List α} {target : Target α} {rest : Script α}
    (aimed : (⟨world, frame :: frames, .proceed⟩ : Config α).asksAimed)
    (code : Code frame scope (.contains target :: rest)) : world.resolve scope target ≠ none := by
  cases code <;> exact Option.isSome_iff_ne_none.1 aimed

/-- The visits of a walk that only reads only read. -/
theorem Action.Reads.script {faults catching : Bool} {turns : List (Script α)}
    {on : List (α × Script α)} (reads : (Action.forEach turns on catching).Reads faults)
    (roster : Roster α) (scope : List α) (visits : Nat) (handle : α) :
    ∀ action ∈ { Walk.begin roster turns on catching scope with visits }.script handle,
      action.Reads (faults || catching) := by
  cases reads with
  | forEach counted named =>
      intro action mem
      rcases List.mem_append.1 mem with mem | mem
      · cases found : turns[visits]? with
        | none => simp [Walk.begin, found] at mem
        | some script =>
            have mem : action ∈ script := by simpa [Walk.begin, found] using mem
            exact counted script (List.mem_of_getElem? found) action mem
      · cases found : on.lookup handle with
        | none => simp [Walk.begin, found] at mem
        | some script =>
            have mem : action ∈ script := by simpa [Walk.begin, found] using mem
            obtain ⟨before, after, split, -⟩ := List.lookup_eq_some_iff.1 found
            exact named (handle, script) (by simp [split]) action mem

end

/-! ## What they leave in a journal -/

/-- An event of work that only reads, on top of `depth` walks. It is about a deeper walk, which
began with the entries of the roster. No entry is skipped and no handle dies. -/
def Event.Reads (depth : Nat) (roster : Roster α) : Event α → Prop
  | .began level snapshot => depth < level ∧ snapshot = roster.entries
  | .visited level entry => depth < level ∧ entry ∈ roster.entries
  | .returned level handle _ => depth < level ∧ handle ∈ roster.handles
  | .ended level _ => depth < level
  | .settled cause => cause = .walk
  | .answered _ => True
  | .stepped _ order => order = roster.handles
  | .skipped .. | .noticed _ | .released _ | .died .. | .hookEnded .. => False

/-- What happens when work on top of `depth` walks starts a walk that only reads, up to the moment
when that work goes on. -/
structure Aside (depth : Nat) (roster : Roster α) (events : List (Event α)) : Prop where
  began : events.head? = some (.began (depth + 1) roster.entries)
  reads : ∀ event ∈ events, event.Reads depth roster
  /-- A walk that begins, and is not stopped, visits the whole roster in the order of
  registration. -/
  whole : ∀ past level during rest,
    events = past ++ .began level roster.entries :: (during ++ .ended level none :: rest) →
    (∀ stop, .ended level stop ∉ during) → visitsAt level during = roster.entries

/-! ## The machine meanwhile -/

/-- What stands on the stack, above some work that may be told of a fault if `faults`, while a walk
that this work has started only reads. The first argument says whether the topmost work may be told
of a fault. -/
inductive Browsing [DecidableEq α] (roster : Roster α) (faults : Bool) :
    Bool → List (Frame α) → Prop where
  | nil : Browsing roster faults faults []
  | walk {flag walk upper} (below : Browsing roster faults flag upper)
      (snapshot : walk.snapshot = roster.entries) (pending : walk.pending ⊆ roster.entries)
      (reads : ∀ visits handle, ∀ action ∈ { walk with visits }.script handle,
        action.Reads (flag || walk.catching)) :
      Browsing roster faults (flag || walk.catching) (.walk walk :: upper)
  | script {flag handle scope rest walk upper}
      (below : Browsing roster faults flag (.walk walk :: upper))
      (registered : handle ∈ roster.handles) (reads : ∀ action ∈ rest, action.Reads flag) :
      Browsing roster faults flag (.script (handle :: scope) rest :: .walk walk :: upper)
  | letGo {flag handles next upper} (below : Browsing roster faults flag upper)
      (registered : handles ⊆ roster.handles) (answers : next ≠ .proceed) (fits : next.Fits flag) :
      Browsing roster faults flag (.letGo .walk handles next :: upper)

/-- A walk for the work in `base` is under way, and only reads. -/
inductive Browses [DecidableEq α] (world : World α) (base : List (Frame α)) (faults : Bool) :
    Config α → Prop where
  | going {flag frame upper signal} (stack : Browsing world.roster faults flag (frame :: upper))
      (fits : signal.Fits flag) :
      Browses world base faults ⟨world, frame :: (upper ++ base), signal⟩
  /-- Somebody reads. -/
  | reading {flag frame upper next} (stack : Browsing world.roster faults flag (frame :: upper))
      (fits : next.Fits flag) :
      Browses world base faults
        ⟨{ world with access := .shared 1 }, .unlock next :: frame :: (upper ++ base), .proceed⟩

/-- The walk is over, and the work that started it goes on. -/
inductive Browsed (world : World α) (base : List (Frame α)) (faults : Bool) : Config α → Prop where
  | intro {signal} (answers : signal ≠ .proceed) (fits : signal.Fits faults) :
      Browsed world base faults ⟨world, base, signal⟩

section
variable [DecidableEq α] {program : Program α} {world : World α} {base : List (Frame α)}
  {faults : Bool} {config next : Config α} {events : List (Event α)}

/-- A visit that only reads begins an action. -/
theorem Performs.browses {flag : Bool} {handle : α} {scope : List α} {rest : Script α}
    {walk : Walk α} {upper : List (Frame α)} {action : Action α}
    (stack : Browsing world.roster faults flag
      (.script (handle :: scope) rest :: .walk walk :: upper))
    (reads : action.Reads flag)
    (aimed : ∀ target, action = .contains target → world.resolve (handle :: scope) target ≠ none)
    (performs : Performs world (handle :: scope)
      (.script (handle :: scope) rest :: .walk walk :: (upper ++ base)) action events next) :
    Browses world base faults next ∧ ∀ event ∈ events, event.Reads (level base) world.roster := by
  cases reads with
  | contains =>
      cases performs with
      | misaimed same nothing =>
          cases same
          exact absurd nothing (aimed _ rfl)
      | answer => exact ⟨.reading stack trivial, List.forall_mem_nil _⟩
  | size | isEmpty | «show» =>
      cases performs with
      | misaimed same => cases same
      | answer => exact ⟨.reading stack trivial, List.forall_mem_nil _⟩
  | fail =>
      cases performs with
      | misaimed same => cases same
      | answer reading => cases reading
      | fail => exact ⟨.going stack rfl, List.forall_mem_nil _⟩
  | @forEach _ catching turns on counted named =>
      cases performs with
      | misaimed same => cases same
      | answer reading => cases reading
      | forEach =>
          have reads := (Action.Reads.forEach counted named).script world.roster (handle :: scope)
          have begins : Browsing world.roster faults (flag || catching)
              (.walk (.begin world.roster turns on catching (handle :: scope)) :: _) :=
            .walk stack rfl (List.Subset.refl _) reads
          refine ⟨.reading begins trivial, ?_⟩
          simp [Event.Reads, level_append]
          omega

/-- What a walk that only reads may come to with a step. -/
def Continues (world : World α) (base : List (Frame α)) (faults : Bool) (events : List (Event α))
    (next : Config α) : Prop :=
  (Browses world base faults next ∨ Browsed world base faults next) ∧
    ∀ event ∈ events, event.Reads (level base) world.roster

section
variable {flag : Bool} {upper : List (Frame α)} {signal : Signal}

omit [DecidableEq α] in
/-- A walk above some work is deeper than the walks among that work. -/
theorem level_lt_of_above (upper base : List (Frame α)) :
    level base < level (upper ++ base) + 1 := by
  rw [level_append]
  omega

/-- The walk on top gives its next entry a turn, or ends. -/
theorem Browsing.step_walk {walk : Walk α}
    (stack : Browsing world.roster faults flag (.walk walk :: upper)) (fits : signal.Fits flag)
    (step : Step program ⟨world, .walk walk :: (upper ++ base), signal⟩ events next) :
    Continues world base faults events next := by
  have deeper := level_lt_of_above upper base
  cases stack with
  | @walk flag _ _ below snapshot pending reads =>
      have held : walk.snapshot.map Entry.handle ⊆ world.roster.handles := by
        rw [snapshot]
        exact List.Subset.refl _
      cases step with
      | perform code => cases code
      | walkDone =>
          exact ⟨.inl (.going (.letGo below held nofun trivial) trivial),
            List.forall_mem_singleton.2 deeper⟩
      | walkStop =>
          exact ⟨.inl (.going (.letGo below held (Walk.pass_ne_proceed _ _) (walk.fits_pass fits))
            trivial), List.forall_mem_singleton.2 deeper⟩
      | @visit _ _ entry rest _ _ _ turn =>
          obtain ⟨mem, later⟩ := List.cons_subset.1 (turn ▸ pending)
          have visiting := @Browsing.walk _ _ _ _ _
            { walk with pending := rest, visits := walk.visits + 1 } _ below snapshot later reads
          exact ⟨.inl (.reading (.script visiting (List.mem_map_of_mem mem) (reads _ _)) trivial),
            List.forall_mem_singleton.2 ⟨deeper, mem⟩⟩
      | skip _ turn gone =>
          -- the roster has not changed since the walk began
          obtain ⟨mem, -⟩ := List.cons_subset.1 (turn ▸ pending)
          exact absurd (isLive_iff.2 (List.mem_map_of_mem mem)) gone

/-- The visit on top begins an action, or ends. -/
theorem Browsing.step_script {handle : α} {scope : List α} {rest : Script α} {walk : Walk α}
    (stack : Browsing world.roster faults flag
      (.script (handle :: scope) rest :: .walk walk :: upper))
    (fits : signal.Fits flag)
    (aimed : (⟨world, .script (handle :: scope) rest :: .walk walk :: (upper ++ base), signal⟩ :
      Config α).asksAimed)
    (step : Step program
      ⟨world, .script (handle :: scope) rest :: .walk walk :: (upper ++ base), signal⟩ events
      next) :
    Continues world base faults events next := by
  cases stack with
  | script below registered reads =>
      have returned (stop : Option Stop) :
          ∀ event ∈ returnEvents (handle :: scope) (.walk walk :: (upper ++ base)) stop,
            event.Reads (level base) world.roster := by
        rw [returnEvents_visit]
        exact List.forall_mem_singleton.2 ⟨level_lt_of_above upper base, registered⟩
      cases step with
      | @perform _ _ _ action _ _ _ _ code performs =>
          cases code
          obtain ⟨reads, rest⟩ := List.forall_mem_cons.1 reads
          have knows : ∀ target, action = .contains target →
              world.resolve (handle :: scope) target ≠ none := by
            rintro target rfl
            exact Config.resolve_of_asksAimed aimed (.script ..)
          obtain ⟨browses, quiet⟩ := performs.browses (.script below registered rest) reads knows
          exact ⟨.inl browses, quiet⟩
      | scriptDone => exact ⟨.inl (.going below trivial), returned none⟩
      | scriptStop => exact ⟨.inl (.going below fits), returned (some _)⟩
      | told =>
          refine ⟨.inl (.going (.script below registered reads) trivial), ?_⟩
          intro event mem
          cases mem_value_events mem
          trivial

/-- The snapshot of a walk that has ended is let go, and every handle of it is held by its entry. -/
theorem Browsing.step_letGo {cause : Cause} {handles : List α} {answer : Signal}
    (stack : Browsing world.roster faults flag (.letGo cause handles answer :: upper))
    (step : Step program ⟨world, .letGo cause handles answer :: (upper ++ base), signal⟩ events
      next) : Continues world base faults events next := by
  cases stack with
  | letGo below registered answers fits =>
      cases step with
      | perform code => cases code
      | settled =>
          refine ⟨?_, List.forall_mem_singleton.2 rfl⟩
          cases upper with
          | nil =>
              cases below
              exact .inr (.intro answers fits)
          | cons => exact .inl (.going below fits)
      | kept =>
          exact ⟨.inl (.going (.letGo below (List.cons_subset.1 registered).2 answers fits)
            trivial), List.forall_mem_nil _⟩
      | died last | diedHooked last =>
          have mem := (List.cons_subset.1 registered).1
          exact absurd (isHeld_iff.2 (.inr (.inl mem))) last

end

/-- A walk that only reads leaves the world alone and no trace in it, whatever its next step is. -/
theorem Browses.step (free : world.access = .free) (browses : Browses world base faults config)
    (aimed : config.asksAimed) (step : Step program config events next) :
    Continues world base faults events next := by
  cases browses with
  | reading stack fits =>
      cases step with
      | perform code => cases code
      | unlock =>
          obtain ⟨roster, pool, access⟩ := world
          obtain rfl : access = .free := free
          exact ⟨.inl (.going stack fits), List.forall_mem_nil _⟩
  | going stack fits =>
      cases stack with
      | walk below snapshot pending reads =>
          exact (Browsing.walk below snapshot pending reads).step_walk fits step
      | script below registered reads =>
          exact (Browsing.script below registered reads).step_script fits aimed step
      | letGo below registered answers fits =>
          exact (Browsing.letGo below registered answers fits).step_letGo step

/-! ## Runs -/

variable {past : List (Event α)} {start : Config α}

/-- The walk for the work in `base` goes on, or lets go of its snapshot. -/
def Lasts (origin : Walk α) (base : List (Frame α)) (events : List (Event α)) (config : Config α) :
    Prop :=
  Walking origin base events config ∨
    ∃ handles next, config.frames = .letGo .walk handles next :: base

/-- What a walk that only reads has on the stack is no hook. -/
theorem Browses.exists_frames (browses : Browses world base faults config) :
    ∃ frame upper, config.frames = frame :: (upper ++ base) ∧ ∀ rest, frame ≠ .script [] rest := by
  cases browses with
  | going stack =>
      refine ⟨_, _, rfl, ?_⟩
      rintro rest rfl
      cases stack
  | @reading _ frame upper next =>
      exact ⟨.unlock next, frame :: upper, rfl, fun rest same => by cases same⟩

/-- Nothing dies while the snapshot of a walk that only reads is let go. -/
theorem Browses.letGo_of_step {handles : List α} {answer : Signal}
    (top : config.frames = .letGo .walk handles answer :: base)
    (step : Step program config events next) (browses : Browses world base faults next) :
    ∃ rest, next.frames = .letGo .walk rest answer :: base := by
  obtain ⟨frame, upper, frames, noHook⟩ := browses.exists_frames
  cases step with
  | kept | died =>
      cases top
      exact ⟨_, rfl⟩
  | settled =>
      -- the work in `base` would stand above itself
      obtain rfl := (List.cons.inj top).2
      have longer := congrArg List.length frames
      simp only [List.length_cons, List.length_append] at longer
      omega
  | diedHooked => exact absurd (List.cons.inj frames).1.symm (noHook _)
  | perform code =>
      cases top
      cases code
  | stepsDone | stepEnd | stepFault | givenUp | scriptDone | told | scriptStop | walkDone | visit
  | skip | walkStop | hookEnd | unlock => cases top

/-- A walk that only reads comes to its end, in the world in which it began. -/
theorem Run.comes_back {origin : Walk α} (run : Run program past start)
    (entries : origin.snapshot = start.world.roster.entries)
    (aimed : ∀ events config, Run program (past ++ events) config →
      (∀ stop, .ended (level base + 1) stop ∉ events) → config.asksAimed)
    (free : world.access = .free) (walks : Walking origin base [] start)
    (begins : Browses world base faults start) :
    ∃ events config, Steps program start events config ∧ Browsed world base faults config ∧
      ∀ event ∈ events, event.Reads (level base) world.roster := by
  refine Run.leads_to
    (fun events config => (Lasts origin base events config ∧ Browses world base faults config) ∧
      ∀ event ∈ events, event.Reads (level base) world.roster)
    (fun events config => Browsed world base faults config ∧
      ∀ event ∈ events, event.Reads (level base) world.roster)
    run ⟨⟨.inl walks, begins⟩, List.forall_mem_nil _⟩ ?_ ?_
  · rintro events config ⟨⟨-, browses⟩, -⟩
    cases browses <;> exact List.cons_ne_nil _ _
  · rintro events config more next steps ⟨⟨lasts, browses⟩, quiet⟩ stepped
    have reached := run.trans steps
    have step := (Run.sound reached).step_of_step? stepped
    have asks : config.asksAimed := by
      rcases lasts with walking | ⟨handles, answer, top⟩
      · exact aimed _ _ reached walking.not_ended
      · simp only [Config.asksAimed, top]
    obtain ⟨goes, quiet'⟩ := browses.step free asks step
    have quiet'' := List.forall_mem_append.2 ⟨quiet, quiet'⟩
    refine goes.imp (fun browses => ⟨⟨?_, browses⟩, quiet''⟩) (⟨·, quiet''⟩)
    rcases lasts with walking | ⟨handles, answer, top⟩
    · rcases Run.step_of_walking run entries steps walking stepped with walking | walked
      · exact .inl walking
      · obtain ⟨stop, top⟩ := walked.exists_frames
        exact .inr ⟨_, _, top⟩
    · obtain ⟨rest, top⟩ := browses.letGo_of_step top step
      exact .inr ⟨_, _, top⟩

omit [DecidableEq α] in
/-- Where no entry is skipped all turns are visits. -/
theorem turnsAt_eq_visitsAt {depth : Nat} {journal : List (Event α)}
    (noSkip : ∀ entry, .skipped depth entry ∉ journal) :
    turnsAt depth journal = visitsAt depth journal := by
  refine List.filterMap_congr fun event mem => ?_
  cases event with
  | skipped other entry =>
      have different : other ≠ depth := by
        rintro rfl
        exact noSkip entry mem
      simp [Event.turn?, Event.visit?, different]
  | _ => rfl

/-- A walk in which no entry is skipped, and that is not stopped, visits its whole snapshot. -/
theorem Run.visitsAt_eq {depth : Nat} {snapshot : List (Entry α)}
    {before during rest : List (Event α)}
    (run : Run program (before ++ .began depth snapshot :: (during ++ .ended depth none :: rest))
      config)
    (unended : ∀ stop, .ended depth stop ∉ during)
    (noSkip : ∀ entry, .skipped depth entry ∉ during) : visitsAt depth during = snapshot := by
  have there : (before ++ .began depth snapshot :: during) ++ [.ended depth none] <+:
      before ++ .began depth snapshot :: (during ++ .ended depth none :: rest) :=
    ⟨rest, by simp⟩
  obtain ⟨last, after, run', stepped⟩ := Steps.exists_step program.start_sound run there
  have underway : Underway depth snapshot before during
      (before ++ .began depth snapshot :: during) := ⟨rfl, unended⟩
  obtain ⟨-, -, -, exact⟩ :=
    Run.exact_of_underway run' underway stepped (List.mem_singleton_self _)
  rw [← turnsAt_eq_visitsAt noSkip]
  exact (exact.finished rfl).1

/-- Whether code goes on after a fault. -/
def Frame.catches : Frame α → Bool
  | .steps _ => true
  | _ => false

omit [DecidableEq α] in
theorem Frame.catches_advance (frame : Frame α) : frame.advance.catches = frame.catches := by
  cases frame <;> rfl

/-- Code gets the value of an action, or a fault if it goes on after faults. -/
theorem Run.told {frame : Frame α} {frames : List (Frame α)} {scope : List α}
    {script : Script α} {signal : Signal}
    (run : Run program past ⟨world, frame :: frames, signal⟩) (code : Code frame scope script)
    (answers : signal ≠ .proceed) (fits : signal.Fits frame.catches) :
    ∃ events, Steps program ⟨world, frame :: frames, signal⟩ events
        ⟨world, frame :: frames, .proceed⟩ ∧
      ∀ event ∈ events, event.Reads (level frames) world.roster := by
  have sound := Run.sound run
  cases signal with
  | proceed => exact absurd rfl answers
  | deliver value =>
      cases code with
      | steps =>
          exact ⟨_, .single (sound.step?_of_step .stepEnd), List.forall_mem_singleton.2 rfl⟩
      | script =>
          refine ⟨_, .single (sound.step?_of_step .told), fun event mem => ?_⟩
          cases mem_value_events mem
          trivial
  | raise stop =>
      cases stop with
      | misaimed => exact fits.elim
      | fault fault =>
          cases code with
          | steps =>
              exact ⟨_, .single (sound.step?_of_step .stepFault), List.forall_mem_singleton.2 rfl⟩
          | script => cases fits

/-- Code that starts a walk which only reads goes on in the same world, after an aside. If the code
does not go on after faults, the walk must not fail. Whoever asks for a handle while the walk is
under way must have it. -/
theorem Run.aside {frame : Frame α} {frames : List (Frame α)} {scope : List α}
    {turns : List (Script α)} {on : List (α × Script α)} {catching : Bool} {rest : Script α}
    (run : Run program past ⟨world, frame :: frames, .proceed⟩)
    (aimed : ∀ during journal config, Run program journal config →
      Underway (level frames + 1) world.roster.entries past during journal → config.asksAimed)
    (code : Code frame scope (.forEach turns on catching :: rest))
    (reads : (Action.forEach turns on catching).Reads frame.catches) :
    ∃ events, Run program (past ++ events) ⟨world, frame.advance :: frames, .proceed⟩ ∧
      Aside (level frames) world.roster events := by
  have sound := Run.sound run
  have free := (sound.idle_of_usesRoster code.usesRoster).2
  -- the walk begins
  have step : Step program ⟨world, frame :: frames, .proceed⟩ _ _ := .perform code .forEach
  have begun := sound.step?_of_step step
  have begins : Browses world (frame.advance :: frames) frame.catches
      ⟨{ world with access := .shared 1 }, .unlock .proceed ::
        .walk (.begin world.roster turns on catching scope) :: frame.advance :: frames, .proceed⟩ :=
    .reading (.walk .nil rfl (List.Subset.refl _) (reads.script world.roster scope)) trivial
  have walks := Walking.begin { world with access := .shared 1 }
    (.begin world.roster turns on catching scope) (frame.advance :: frames) rfl rfl
  rw [code.level_advance] at begun
  have aimed (events : List (Event α)) (config : Config α)
      (reached : Run program (past ++ [.began (level frames + 1) world.roster.entries] ++ events)
        config)
      (unended : ∀ stop, .ended (level (frame.advance :: frames) + 1) stop ∉ events) :
      config.asksAimed := by
    rw [List.append_assoc] at reached
    rw [code.level_advance] at unended
    exact aimed events _ config reached ⟨rfl, unended⟩
  -- and comes back
  obtain ⟨during, _, steps, ⟨answers, fits⟩, quiet⟩ :=
    Run.comes_back (run.step begun) rfl aimed free walks begins
  rw [← frame.catches_advance] at fits
  obtain ⟨after, told, quiet'⟩ := Run.told ((run.step begun).trans steps) code.advance answers fits
  have run' := run.trans ((Machine.Steps.single begun).trans (steps.trans told))
  rw [code.level_advance] at quiet
  have reads : ∀ event ∈ [.began (level frames + 1) world.roster.entries] ++ (during ++ after),
      event.Reads (level frames) world.roster :=
    List.forall_mem_append.2 ⟨List.forall_mem_singleton.2 ⟨Nat.lt_succ_self _, rfl⟩,
      List.forall_mem_append.2 ⟨quiet, quiet'⟩⟩
  refine ⟨_, run', rfl, reads, ?_⟩
  intro before depth inner rest split unended
  rw [split, ← List.append_assoc] at run'
  refine Run.visitsAt_eq run' unended fun entry mem => ?_
  -- a skipped entry is no event of work that only reads
  refine (reads (.skipped depth entry) ?_).elim
  rw [split]
  simp [mem]

end

end Herald.Roster
