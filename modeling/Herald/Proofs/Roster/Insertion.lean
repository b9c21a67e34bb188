import Herald.Proofs.Roster.Completion
import Herald.Proofs.Roster.Reading
import Herald.Roster.Log

/-!
# Walks that only read cannot be noticed

Let a program be given walks that only read, in any of its scripts and wherever in them
(`Program.Interspersed`). Nothing else changes: both machines go through the same worlds, and the
journal of the one is the journal of the other with asides woven in (`Woven`).

The machines go in lockstep, with one exception (`Step.follow`): if the work on top of the second
one is about to start inserted walks, then it is first led through them (`Run.catch_up`), after
which the next actions on both sides correspond (`Aligned`). An aside leaves the world as it was, so
that makes no difference to the rest of the stack. `readers_unnoticed` is the induction over a run.
-/

namespace Herald.Roster

variable {α : Type} [DecidableEq α]

/-! ## Inserted walks -/

/-- The second script is the first with walks inserted that only read: between its actions, and in
the scripts of its walks. An inserted walk fails only if `faults`. -/
inductive Interspersed : Bool → Script α → Script α → Prop where
  | nil {faults} : Interspersed faults [] []
  | keep {faults action rest rest'} (after : Interspersed faults rest rest') :
      Interspersed faults (action :: rest) (action :: rest')
  /-- In the scripts of a walk. -/
  | within {faults catching rest rest'} {turns turns' : List (Script α)}
      {on on' : List (α × Script α)}
      (counted : ∀ k : Nat, Interspersed false (turns[k]?.getD []) (turns'[k]?.getD []))
      (named : ∀ handle,
        Interspersed false ((on.lookup handle).getD []) ((on'.lookup handle).getD []))
      (after : Interspersed faults rest rest') :
      Interspersed faults (.forEach turns on catching :: rest)
        (.forEach turns' on' catching :: rest')
  | insert {faults turns on catching rest rest'}
      (reads : (Action.forEach turns on catching).Reads faults)
      (after : Interspersed faults rest rest') :
      Interspersed faults rest (.forEach turns on catching :: rest')

/-- The same for the scripts of a walk: the lists by the number of the visit and the tables by its
handle, where a script that is missing is an empty one. -/
structure ScriptsInterspersed (turns turns' : List (Script α)) (on on' : List (α × Script α)) :
    Prop where
  counted : ∀ k : Nat, Interspersed false (turns[k]?.getD []) (turns'[k]?.getD [])
  named : ∀ handle,
    Interspersed false ((on.lookup handle).getD []) ((on'.lookup handle).getD [])

/-- The second program is the first with walks inserted that only read. A step of the program may be
an inserted walk that fails; inside a visit or a hook an inserted walk catches the faults of its own
visits. -/
structure Program.Interspersed (program other : Program α) : Prop where
  handles : other.handles.map Prod.fst = program.handles.map Prod.fst
  hooks : ∀ handle, Option.Rel (Roster.Interspersed false) (program.hook? handle)
    (other.hook? handle)
  steps : Roster.Interspersed true program.steps other.steps

/-- What the second journal has in addition to the first are asides, each at a point of a run of
`program`. -/
inductive Woven (program : Program α) : List (Event α) → List (Event α) → Prop where
  | nil : Woven program [] []
  | both {journal journal'} (woven : Woven program journal journal') (events : List (Event α)) :
      Woven program (journal ++ events) (journal' ++ events)
  /-- An aside, of the work that is on top in a certain state of the machine. -/
  | aside {journal journal' events start} (woven : Woven program journal journal')
      (run : Run program journal' start)
      (aside : Aside (level start.frames) start.world.roster events) :
      Woven program journal (journal' ++ events)

section
variable {faults : Bool} {script script' other other' : Script α}

theorem Interspersed.refl (faults : Bool) (script : Script α) :
    Interspersed faults script script := by
  induction script with
  | nil => exact .nil
  | cons action rest ih => exact .keep ih

theorem ScriptsInterspersed.refl (turns : List (Script α)) (on : List (α × Script α)) :
    ScriptsInterspersed turns turns on on :=
  ⟨fun _ => .refl _ _, fun _ => .refl _ _⟩

theorem Interspersed.append (first : Interspersed faults script script')
    (second : Interspersed faults other other') :
    Interspersed faults (script ++ other) (script' ++ other') := by
  induction first with
  | nil => exact second
  | keep _ ih => exact .keep (ih second)
  | within counted named _ _ _ ih => exact .within counted named (ih second)
  | insert reads _ ih => exact .insert reads (ih second)

end

/-- What does not show in asides is the same in both journals. -/
theorem Woven.filterMap_eq {β : Type} {program : Program α} {journal journal' : List (Event α)}
    {f : Event α → Option β} (woven : Woven program journal journal')
    (silent : ∀ depth roster event, Event.Reads depth roster event → f event = none) :
    journal'.filterMap f = journal.filterMap f := by
  induction woven with
  | nil => rfl
  | both _ events ih => rw [List.filterMap_append, List.filterMap_append, ih]
  | aside _ _ aside ih =>
      have nothing := List.filterMap_eq_nil_iff.2 fun event mem =>
        silent _ _ event (aside.reads event mem)
      rw [List.filterMap_append, ih, nothing, List.append_nil]

/-- What happened in the walks of a level. -/
def eventsAt (level : Nat) (journal : List (Event α)) : List (Event α) :=
  journal.filter fun event => event.level? = some level

omit [DecidableEq α] in
@[simp] theorem eventsAt_append (level : Nat) (journal events : List (Event α)) :
    eventsAt level (journal ++ events) = eventsAt level journal ++ eventsAt level events :=
  List.filter_append ..

omit [DecidableEq α] in
/-- What is about a walk in work that only reads is about a deeper one. -/
theorem Event.Reads.lt {depth level : Nat} {roster : Roster α} {event : Event α}
    (reads : event.Reads depth roster) (about : event.level? = some level) : depth < level := by
  cases event with
  | began | visited | returned =>
      cases about
      exact reads.1
  | ended =>
      cases about
      exact reads
  | skipped => exact reads.elim
  | _ => cases about

omit [DecidableEq α] in
/-- Work that only reads lets nothing die, and leaves no record in a log. -/
theorem Event.Reads.silent {depth : Nat} {roster : Roster α} {event : Event α}
    (reads : event.Reads depth roster) : event.death? = none ∧ event.record? = none := by
  cases event with
  | skipped | noticed | died => exact reads.elim
  | _ => exact ⟨rfl, rfl⟩

omit [DecidableEq α] in
/-- An aside is not about the walks that are under way. -/
theorem Aside.quiet {depth level : Nat} {roster : Roster α} {events : List (Event α)}
    (aside : Aside depth roster events) (upper : level ≤ depth) : Quiet level events := by
  intro event mem about
  have deeper := (aside.reads event mem).lt about
  omega

omit [DecidableEq α] in
theorem Quiet.eventsAt_eq_nil {level : Nat} {events : List (Event α)} (quiet : Quiet level events) :
    eventsAt level events = [] :=
  List.filter_eq_nil_iff.2 fun event mem => by simpa using quiet event mem

/-- A walk that is under way in the first journal is under way in the second one, and the same has
happened in it. -/
theorem Woven.underway {program : Program α} {journal journal' : List (Event α)} {depth : Nat}
    {snapshot : List (Entry α)} {before during : List (Event α)}
    (woven : Woven program journal journal')
    (underway : Underway depth snapshot before during journal) :
    ∃ before' during', Underway depth snapshot before' during' journal' ∧
      eventsAt depth during' = eventsAt depth during := by
  induction woven generalizing during with
  | nil => exact ⟨before, during, underway, rfl⟩
  | @both journal journal' _ events ih =>
      rcases List.append_eq_append_iff.1 underway.journal_eq with
        ⟨before', rfl, whole⟩ | ⟨sofar, whole, rest⟩
      · -- the walk began in these events
        exact ⟨journal' ++ before', during,
          ⟨by rw [whole, List.append_assoc], underway.unended⟩, rfl⟩
      · rcases List.cons_eq_append_iff.1 rest with ⟨rfl, begins⟩ | ⟨past, rfl, rfl⟩
        · exact ⟨journal', during, ⟨by rw [begins], underway.unended⟩, rfl⟩
        · -- it was under way before
          have unended := underway.unended
          simp only [List.mem_append, not_or] at unended
          obtain ⟨before', during', underway', same⟩ := ih ⟨whole, fun stop => (unended stop).1⟩
          refine ⟨before', _, underway'.append fun stop => (unended stop).2, ?_⟩
          rw [eventsAt_append, eventsAt_append, same]
  | aside _ run aside ih =>
      obtain ⟨before', during', underway', same⟩ := ih underway
      have quiet := aside.quiet (run.level_le_of_underway underway')
      refine ⟨before', _, underway'.append fun stop mem => quiet _ mem rfl, ?_⟩
      rw [eventsAt_append, quiet.eventsAt_eq_nil, List.append_nil, same]

/-! ## Configurations -/

/-- Code with another script. -/
def Frame.withScript (script : Script α) : Frame α → Frame α
  | .steps _ => .steps script
  | .script scope _ => .script scope script
  | frame => frame

/-- Frames of which the second has inserted walks in its scripts. -/
inductive Frame.Grown : Frame α → Frame α → Prop where
  | code {frame scope script script'} (code : Code frame scope script)
      (inserts : Interspersed frame.catches script script') : Grown frame (frame.withScript script')
  | walk {walk : Walk α} {turns : List (Script α)} {on : List (α × Script α)}
      (scripts : ScriptsInterspersed walk.turns turns walk.on on) :
      Grown (.walk walk) (.walk { walk with turns, on })
  | same {frame} (other : frame.usesRoster = false) : Grown frame frame

/-- States of the machine that are the same but for inserted walks in the scripts. -/
inductive Grown : Config α → Config α → Prop where
  | intro {world frames frames' signal} (stack : List.Forall₂ Frame.Grown frames frames') :
      Grown ⟨world, frames, signal⟩ ⟨world, frames', signal⟩

/-- The work on top of the second state is about to start an inserted walk. -/
inductive StartsInserted : Config α → Config α → Prop where
  | intro {world frame frames frames' scope script turns on catching rest'}
      (code : Code frame scope script)
      (reads : (Action.forEach turns on catching).Reads frame.catches)
      (after : Interspersed frame.catches script rest')
      (stack : List.Forall₂ Frame.Grown frames frames') :
      StartsInserted ⟨world, frame :: frames, .proceed⟩
        ⟨world, frame.withScript (.forEach turns on catching :: rest') :: frames', .proceed⟩

/-- Whoever asks in an inserted walk whether a handle is registered has that handle: from the moment
when the walk begins, in a run of `other` that goes with a run of `program`, and as long as it is
under way. -/
def Program.AsksAimed (program other : Program α) : Prop :=
  ∀ journal here before there, Run program journal here → Run other before there →
    Woven other journal before → StartsInserted here there →
      ∀ during journal' config, Run other journal' config →
        Underway (level there.frames + 1) there.world.roster.entries before during journal' →
          config.asksAimed

/-- Scripts of which the second has no inserted walk at the front. -/
inductive Aligned (faults : Bool) : Script α → Script α → Prop where
  | nil : Aligned faults [] []
  | keep {action rest rest'} (after : Interspersed faults rest rest') :
      Aligned faults (action :: rest) (action :: rest')
  | within {catching rest rest' turns turns' on on'}
      (scripts : ScriptsInterspersed turns turns' on on') (after : Interspersed faults rest rest') :
      Aligned faults (.forEach turns on catching :: rest) (.forEach turns' on' catching :: rest')

section
variable {frame frame' : Frame α} {frames frames' : List (Frame α)} {scope : List α}
  {script : Script α}

omit [DecidableEq α] in
theorem Code.unique {scope' : List α} {script' : Script α} (code : Code frame scope script)
    (code' : Code frame scope' script') : scope = scope' ∧ script = script' := by
  cases code <;> cases code' <;> exact ⟨rfl, rfl⟩

omit [DecidableEq α] in
theorem Code.withScript (code : Code frame scope script) (other : Script α) :
    Code (frame.withScript other) scope other := by
  cases code <;> constructor

omit [DecidableEq α] in
theorem Frame.catches_withScript (frame : Frame α) (other : Script α) :
    (frame.withScript other).catches = frame.catches := by
  cases frame <;> rfl

omit [DecidableEq α] in
theorem Frame.withScript_advance (frame : Frame α) (other : Script α) :
    frame.advance.withScript other = frame.withScript other := by
  cases frame <;> rfl

omit [DecidableEq α] in
theorem Frame.advance_withScript (frame : Frame α) (action : Action α) (rest : Script α) :
    (frame.withScript (action :: rest)).advance = frame.withScript rest := by
  cases frame <;> rfl

theorem Frame.Grown.isWalk_eq (grown : Frame.Grown frame frame') :
    frame'.isWalk = frame.isWalk := by
  cases grown with
  | code code => cases code <;> rfl
  | walk | same => rfl

theorem Frame.Grown.held_eq (grown : Frame.Grown frame frame') : frame'.held = frame.held := by
  cases grown with
  | code code => cases code <;> rfl
  | walk | same => rfl

/-- Code that has begun an action has the same walks inserted after it. -/
theorem Frame.Grown.advance {action : Action α} {rest rest' : Script α}
    (code : Code frame scope (action :: rest)) (after : Interspersed frame.catches rest rest') :
    Frame.Grown frame.advance (frame.withScript rest') := by
  rw [← frame.withScript_advance]
  rw [← frame.catches_advance] at after
  exact .code code.advance after

theorem level_of_grown (stack : List.Forall₂ Frame.Grown frames frames') :
    level frames' = level frames :=
  level_congr (stack.imp fun _ _ grown => grown.isWalk_eq)

theorem isHeld_of_grown (stack : List.Forall₂ Frame.Grown frames frames') (world : World α)
    (handle : α) : isHeld world frames' handle = isHeld world frames handle := by
  have holds : Holds frames' handle ↔ Holds frames handle :=
    holds_congr (stack.imp fun _ _ grown => grown.held_eq)
  rw [Bool.eq_iff_iff, isHeld_iff, isHeld_iff, holds]

end

/-! ## Lockstep -/

section
variable {world : World α} {frame : Frame α} {frames frames' : List (Frame α)} {scope : List α}
  {events : List (Event α)} {next : Config α}

/-- A walk that begins on both sides begins in the same way. -/
theorem Performs.forEach_grown {turns turns' : List (Script α)} {on on' : List (α × Script α)}
    {catching : Bool} (stack : List.Forall₂ Frame.Grown frames frames')
    (scripts : ScriptsInterspersed turns turns' on on')
    (performs : Performs world scope frames (.forEach turns on catching) events next) :
    ∃ next', Performs world scope frames' (.forEach turns' on' catching) events next' ∧
      Grown next next' := by
  cases performs with
  | misaimed same => cases same
  | answer reading => cases reading
  | forEach =>
      rw [← level_of_grown stack]
      have walks : Frame.Grown (.walk (.begin world.roster turns on catching scope))
          (.walk (.begin world.roster turns' on' catching scope)) := .walk scripts
      exact ⟨_, .forEach, .intro (.cons (.same rfl) (.cons walks stack))⟩

/-- An action begins on both sides in the same way. -/
theorem Performs.grown {action : Action α} (stack : List.Forall₂ Frame.Grown frames frames')
    (performs : Performs world scope frames action events next) :
    ∃ next', Performs world scope frames' action events next' ∧ Grown next next' := by
  cases performs with
  | misaimed aimed nothing => exact ⟨_, .misaimed aimed nothing, .intro stack⟩
  | add aimed => exact ⟨_, .add aimed, .intro (.cons (.same rfl) (.cons (.same rfl) stack))⟩
  | remove aimed => exact ⟨_, .remove aimed, .intro (.cons (.same rfl) (.cons (.same rfl) stack))⟩
  | clear => exact ⟨_, .clear, .intro (.cons (.same rfl) (.cons (.same rfl) stack))⟩
  | answer reading => exact ⟨_, .answer reading, .intro (.cons (.same rfl) stack)⟩
  | release pooled => exact ⟨_, .release pooled, .intro (.cons (.same rfl) stack)⟩
  | releaseNothing notPooled => exact ⟨_, .releaseNothing notPooled, .intro stack⟩
  | fail => exact ⟨_, .fail, .intro stack⟩
  | forEach =>
      exact Performs.forEach_grown stack (.refl _ _) .forEach

end

section
variable {program other : Program α} {journal journal' events : List (Event α)}
  {here there next : Config α}

/-- Code that is about to start inserted walks is led through them. -/
theorem Run.catch_up {world : World α} {frame : Frame α} {frames frames' : List (Frame α)}
    {scope : List α} {script script' : Script α} (aimed : program.AsksAimed other)
    (source : Run program journal ⟨world, frame :: frames, .proceed⟩)
    (code : Code frame scope script) (inserts : Interspersed frame.catches script script')
    (stack : List.Forall₂ Frame.Grown frames frames') (woven : Woven other journal journal')
    (run : Run other journal' ⟨world, frame.withScript script' :: frames', .proceed⟩) :
    ∃ journal' script', Run other journal' ⟨world, frame.withScript script' :: frames', .proceed⟩ ∧
      Woven other journal journal' ∧ Aligned frame.catches script script' := by
  generalize same : frame.catches = faults at inserts
  induction inserts generalizing journal' with
  | nil => exact ⟨_, _, run, woven, .nil⟩
  | keep after => exact ⟨_, _, run, woven, .keep (same ▸ after)⟩
  | within counted named after => exact ⟨_, _, run, woven, .within ⟨counted, named⟩ (same ▸ after)⟩
  | @insert _ _ _ _ _ rest reads after ih =>
      rw [← same] at reads after
      have asks := aimed _ _ _ _ source run woven (.intro code reads after stack)
      rw [(code.withScript _).level_cons frames'] at asks
      rw [← frame.catches_withScript] at reads
      obtain ⟨events, run', aside⟩ := Run.aside run asks (code.withScript _) reads
      rw [frame.advance_withScript] at run'
      rw [← (code.withScript _).level_cons frames'] at aside
      exact ih code (woven.aside run aside) run' same

/-- The other side can get where a configuration is, and what happens on the way is what is in a
journal, with asides. -/
inductive Followed (other : Program α) (journal : List (Event α)) (config : Config α) : Prop where
  | intro {journal' config'} (run : Run other journal' config')
      (woven : Woven other journal journal') (grown : Grown config config')

/-- The other side takes the same step. -/
theorem Followed.of_step {next' : Config α} (run : Run other journal' there)
    (woven : Woven other journal journal') (step : Step other there events next')
    (grown : Grown next next') : Followed other (journal ++ events) next :=
  .intro (run.step ((Run.sound run).step?_of_step step)) (woven.both events) grown

section
variable {world : World α} {frame : Frame α} {frames frames' : List (Frame α)} {signal : Signal}

/-- Code goes on alike on both sides, after it has been led through inserted walks. -/
theorem Step.follow_code {scope : List α} {script script' : Script α}
    (aimed : program.AsksAimed other)
    (source : Run program journal ⟨world, frame :: frames, signal⟩)
    (code : Code frame scope script) (inserts : Interspersed frame.catches script script')
    (stack : List.Forall₂ Frame.Grown frames frames') (woven : Woven other journal journal')
    (run : Run other journal' ⟨world, frame.withScript script' :: frames', signal⟩)
    (step : Step program ⟨world, frame :: frames, signal⟩ events next) :
    Followed other (journal ++ events) next := by
  have told : Frame.Grown frame (frame.withScript script') := .code code inserts
  have depth := level_of_grown stack
  cases step with
  | @perform _ _ _ action _ _ _ _ code' performs =>
      obtain ⟨rfl, rfl⟩ := code.unique code'
      obtain ⟨_, _, run, woven, aligned⟩ := Run.catch_up aimed source code inserts stack woven run
      cases aligned with
      | keep after =>
          obtain ⟨next', performs', grown⟩ := performs.grown (.cons (.advance code after) stack)
          rw [← frame.advance_withScript action] at performs'
          exact .of_step run woven (.perform (code.withScript _) performs') grown
      | @within catching _ _ _ turns' _ on' scripts after =>
          obtain ⟨next', performs', grown⟩ :=
            performs.forEach_grown (.cons (.advance code after) stack) scripts
          rw [← frame.advance_withScript (.forEach turns' on' catching)] at performs'
          exact .of_step run woven (.perform (code.withScript _) performs') grown
  | stepsDone =>
      cases code
      obtain ⟨_, _, run, woven, aligned⟩ :=
        Run.catch_up aimed source (.steps _) inserts stack woven run
      cases aligned
      exact .of_step run woven .stepsDone (.intro stack)
  | scriptDone =>
      cases code
      obtain ⟨_, _, run, woven, aligned⟩ :=
        Run.catch_up aimed source (.script ..) inserts stack woven run
      cases aligned
      simp only [returnEvents, ← depth]
      exact .of_step run woven .scriptDone (.intro stack)
  | stepEnd =>
      cases code
      exact .of_step run woven .stepEnd (.intro (.cons told stack))
  | stepFault =>
      cases code
      exact .of_step run woven .stepFault (.intro (.cons told stack))
  | givenUp =>
      cases code
      exact .of_step run woven .givenUp (.intro stack)
  | told =>
      cases code
      exact .of_step run woven .told (.intro (.cons told stack))
  | scriptStop =>
      cases code
      simp only [returnEvents, ← depth]
      exact .of_step run woven .scriptStop (.intro stack)
  | walkDone | visit | skip | walkStop | settled | kept | died | diedHooked | hookEnd | unlock =>
      cases code

/-- A walk gives its entries their turns alike on both sides. -/
theorem Step.follow_walk {walk : Walk α} {turns : List (Script α)} {on : List (α × Script α)}
    (scripts : ScriptsInterspersed walk.turns turns walk.on on)
    (stack : List.Forall₂ Frame.Grown frames frames') (woven : Woven other journal journal')
    (run : Run other journal' ⟨world, .walk { walk with turns, on } :: frames', signal⟩)
    (step : Step program ⟨world, .walk walk :: frames, signal⟩ events next) :
    Followed other (journal ++ events) next := by
  have depth := level_of_grown stack
  cases step with
  | perform code => cases code
  | walkDone calm done =>
      rw [← depth]
      exact .of_step run woven (.walkDone calm done) (.intro (.cons (.same rfl) stack))
  | @visit _ _ entry _ _ _ calm turn live =>
      rw [← depth]
      have visits := (scripts.counted walk.visits).append (scripts.named entry.handle)
      exact .of_step run woven (.visit calm turn live)
        (.intro (.cons (.same rfl) (.cons (.code (.script ..) visits)
          (.cons (.walk scripts) stack))))
  | skip calm turn gone =>
      rw [← depth]
      exact .of_step run woven (.skip calm turn gone)
        (.intro (.cons (.same rfl) (.cons (.walk scripts) stack)))
  | walkStop =>
      rw [← depth]
      exact .of_step run woven .walkStop (.intro (.cons (.same rfl) stack))

/-- Other work is the same on both sides. What has died has hooks on both sides or on neither. -/
theorem Step.follow_other
    (hooks : ∀ handle, Option.Rel (Interspersed false) (program.hook? handle) (other.hook? handle))
    (noCode : frame.usesRoster = false) (stack : List.Forall₂ Frame.Grown frames frames')
    (woven : Woven other journal journal')
    (run : Run other journal' ⟨world, frame :: frames', signal⟩)
    (step : Step program ⟨world, frame :: frames, signal⟩ events next) :
    Followed other (journal ++ events) next := by
  have held (cause : Cause) (handles : List α) (next : Signal) (handle : α) :
      isHeld world (.letGo cause handles next :: frames') handle =
        isHeld world (.letGo cause handles next :: frames) handle :=
    isHeld_of_grown (.cons (.same rfl) stack) world handle
  cases step with
  | perform code => cases code <;> cases noCode
  | stepsDone | stepEnd | stepFault | givenUp | scriptDone | told | scriptStop | walkDone | visit
  | skip | walkStop => cases noCode
  | settled => exact .of_step run woven .settled (.intro stack)
  | kept keeps =>
      exact .of_step run woven (.kept ((held ..).trans keeps)) (.intro (.cons (.same rfl) stack))
  | @died _ _ handle _ _ _ _ last unhooked =>
      have hook := hooks handle
      rw [unhooked] at hook
      generalize script : other.hook? handle = hook' at hook
      cases hook
      exact .of_step run woven (.died ((held ..) ▸ last) script) (.intro (.cons (.same rfl) stack))
  | @diedHooked _ _ handle _ _ _ _ _ last hooked =>
      have hook := hooks handle
      rw [hooked] at hook
      generalize script : other.hook? handle = hook' at hook
      cases hook with
      | some inserts =>
          exact .of_step run woven (.diedHooked ((held ..) ▸ last) script)
            (.intro (.cons (.code (.script ..) inserts)
              (.cons (.same rfl) (.cons (.same rfl) stack))))
  | hookEnd => exact .of_step run woven .hookEnd (.intro stack)
  | unlock => exact .of_step run woven .unlock (.intro stack)

end

/-- A step on one side has asides and a step on the other side, in which the same happens. -/
theorem Step.follow (inserted : program.Interspersed other) (aimed : program.AsksAimed other)
    (source : Run program journal here) (grown : Grown here there)
    (woven : Woven other journal journal') (run : Run other journal' there)
    (step : Step program here events next) :
    Followed other (journal ++ events) next := by
  cases grown with
  | intro stack =>
      cases stack with
      | nil => cases step
      | cons top stack =>
          cases top with
          | code code inserts => exact step.follow_code aimed source code inserts stack woven run
          | walk scripts => exact step.follow_walk scripts stack woven run
          | same noCode => exact step.follow_other inserted.hooks noCode stack woven run

/-- A run on one side has a run on the other side. -/
theorem Run.follow {config : Config α} (inserted : program.Interspersed other)
    (aimed : program.AsksAimed other) (run : Run program journal config) :
    Followed other journal config := by
  induction run with
  | refl =>
      have begins : Grown program.start other.start := by
        rw [Program.start, Program.start, inserted.handles]
        exact .intro (.cons (.code (.steps _) inserted.steps) .nil)
      exact .intro .refl .nil begins
  | step run stepped ih =>
      obtain ⟨run', woven, grown⟩ := ih
      have step := (Run.sound run).step_of_step? stepped
      exact step.follow inserted aimed run grown woven run'

end

/-- Walks that only read are inserted in a program: between its steps, in the visits of its walks,
however deep, and in its hooks. Those that are inserted in visits and hooks catch their faults. Then
each run of the program has a run with the inserted walks in which only asides come in addition. It
leads to the same world, with the same entries under the same numbers and the same number for the
next one, and the same has happened in each walk that is under way. At the end all work is done on
both sides, the worlds are the same, and so are the deaths and the log.

What is inserted must be able to run: whoever asks in an inserted walk whether a handle is
registered has the handle. -/
theorem readers_unnoticed {program other : Program α} (inserted : program.Interspersed other)
    (aimed : program.AsksAimed other) :
    (∀ journal config, Run program journal config →
      ∃ journal' config', Run other journal' config' ∧ Woven other journal journal' ∧
        config'.world = config.world ∧ config'.signal = config.signal ∧
        level config'.frames = level config.frames ∧
        ∀ depth snapshot before during, Underway depth snapshot before during journal →
          ∃ before' during', Underway depth snapshot before' during' journal' ∧
            eventsAt depth during' = eventsAt depth during) ∧
    Woven other program.run.2.toList other.run.2.toList ∧
    other.run.1 = program.run.1 ∧
    deaths other.run.2.toList = deaths program.run.2.toList ∧
    log other.run.2.toList = log program.run.2.toList := by
  refine ⟨fun journal config run => ?_, ?_⟩
  · obtain ⟨run', woven, grown⟩ := run.follow inserted aimed
    refine ⟨_, _, run', woven, ?_⟩
    cases grown with
    | intro stack =>
        exact ⟨rfl, rfl, level_of_grown stack, fun _ _ _ _ underway => woven.underway underway⟩
  · have rest := program.run_finishes
    obtain @⟨_, config', run', woven, grown⟩ := Run.follow inserted aimed program.run_isRun
    have same : config' = program.run.1 := by
      generalize program.run.1 = config at rest grown
      cases grown with
      | intro stack =>
          obtain rfl : _ = [] := rest
          rw [List.forall₂_nil_left_iff.1 stack]
    have whole := Run.eq_run run' (by rw [same, rest])
    rw [whole]
    exact ⟨woven, same, woven.filterMap_eq fun _ _ _ reads => reads.silent.1,
      woven.filterMap_eq fun _ _ _ reads => reads.silent.2⟩

/-! ## A program with inserted walks -/

/-- Whether a check holds at each point from a configuration on, and all work is done after at most
so many steps. -/
def Config.throughout (program : Program α) (check : Config α → Bool) : Nat → Config α → Bool
  | 0, config => check config && config.frames.isEmpty
  | fuel + 1, config => check config &&
    match config.step? program with
    | none => true
    | some (next, _) => next.throughout program check fuel

section
variable {program : Program α} {check : Config α → Bool} {start config : Config α}
  {journal : List (Event α)} {fuel : Nat}

theorem Config.check_of_throughout (holds : config.throughout program check fuel) :
    check config := by
  cases fuel <;> exact (Bool.and_eq_true_iff.1 holds).1

theorem Steps.throughout (steps : Steps program start journal config)
    (holds : start.throughout program check fuel) :
    ∃ fuel, config.throughout program check fuel := by
  induction steps with
  | refl => exact ⟨fuel, holds⟩
  | @step _ _ config next _ stepped ih =>
      obtain ⟨fuel, holds⟩ := ih
      cases fuel with
      | zero =>
          have rest : config.frames = [] := List.isEmpty_iff.1 (Bool.and_eq_true_iff.1 holds).2
          have stopped : config.step? program = none := Config.step?_eq_none_iff.2 (.inl rest)
          cases stopped.symm.trans stepped
      | succ fuel =>
          refine ⟨fuel, ?_⟩
          simpa [Config.throughout, stepped] using (Bool.and_eq_true_iff.1 holds).2

end

/-- A walk that only reads. Its second visit walks in turn, and fails after that. -/
def glance : Action Nat :=
  .forEach [[.contains (.named 0), .size],
    [.forEach [] [] false, .fail { severity := .warn, message := "gone" }]] [] true

/-- `reentrant` with such walks: between its steps, in visits of both of its walks, and in its
hook. -/
def reentrantWatched : Program Nat where
  handles :=
    [(0, none), (1, some [glance, .add (.named 0), .forEach [[glance, .remove .self]] [] false]),
      (2, none)]
  steps := [.add (.named 0), .add (.named 1), glance, .add (.named 2), .release 1,
    .forEach [[.remove .self, glance, .add .self], [glance, .clear]] [] true, .add (.named 2)]

theorem glance_reads (faults : Bool) : glance.Reads faults := by
  have visits : ∀ script ∈ [[.contains (.named 0), .size],
      [.forEach [] [] false, .fail { severity := .warn, message := "gone" }]],
      ∀ action ∈ script, (action : Action Nat).Reads true := by
    have inner : (Action.forEach [] [] false : Action Nat).Reads true :=
      .forEach (List.forall_mem_nil _) (List.forall_mem_nil _)
    simpa using ⟨⟨.contains, .size⟩, inner, .fail⟩
  cases faults <;> exact .forEach visits (List.forall_mem_nil _)

theorem reentrant_interspersed : reentrant.Interspersed reentrantWatched where
  handles := rfl
  hooks
    | 0 | 2 | _ + 3 => .none
    | 1 => .some (.insert (glance_reads _) (.keep (.within
        (fun | 0 => .insert (glance_reads _) (.refl _ _) | _ + 1 => .nil) (fun _ => .nil) .nil)))
  steps := .keep (.keep (.insert (glance_reads _) (.keep (.keep (.within
    (fun | 0 => .keep (.insert (glance_reads _) (.refl _ _))
         | 1 => .insert (glance_reads _) (.refl _ _)
         | _ + 2 => .nil)
    (fun _ => .nil) (.refl _ _))))))

/-- Whatever `reentrant` does, it does with the inserted walks as well. -/
theorem reentrant_unnoticed :
    reentrant.Interspersed reentrantWatched ∧ reentrant.AsksAimed reentrantWatched ∧
      Woven reentrantWatched reentrant.run.2.toList reentrantWatched.run.2.toList ∧
      reentrantWatched.run.1 = reentrant.run.1 ∧
      deaths reentrantWatched.run.2.toList = [1] ∧
      reentrant.run.2.size = 41 ∧ reentrantWatched.run.2.size = 104 := by
  have aimed : reentrant.AsksAimed reentrantWatched := by
    intro _ _ _ _ _ _ _ _ _ _ config run _
    have holds : reentrantWatched.start.throughout reentrantWatched Config.asksAimed
        reentrantWatched.cost := by decide +kernel
    obtain ⟨fuel, holds⟩ := run.throughout holds
    exact Config.check_of_throughout holds
  have dead : deaths reentrant.run.2.toList = [1] := by decide +kernel
  obtain ⟨-, woven, same, deaths, -⟩ := readers_unnoticed reentrant_interspersed aimed
  exact ⟨reentrant_interspersed, aimed, woven, same, deaths.trans dead, by decide +kernel,
    by decide +kernel⟩

end Herald.Roster
