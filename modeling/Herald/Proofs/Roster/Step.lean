import Herald.Roster.History
import Herald.Roster.Lemmas

/-!
# What one step of the machine can do

`Step` lists the steps of the machine, one rule for each thing that can happen, and `Performs` the
ways in which an action can begin. `Step.of_step?` says that the machine takes no other step, and
`Step.step?_eq` that it takes each of these, as long as no use of the roster is under way when the
topmost work wants to use it (`Config.Ready`).

Everything that is shown about all runs goes through these rules. None of the proofs opens
`Frame.resume` or `perform` again.
-/

namespace Herald.Roster

variable {α : Type} [DecidableEq α]

/-- The value of an action that only reads the roster, if it is aimed at something. -/
def Action.reading? (world : World α) (scope : List α) : Action α → Option Value
  | .contains target =>
    (world.resolve scope target).map fun handle => .flag (world.roster.contains handle)
  | .size => some (.count world.roster.size)
  | .isEmpty => some (.flag world.roster.isEmpty)
  | .show layout => some (.text (world.roster.shown.render layout))
  | _ => none

/-- What an action is aimed at. -/
def Action.target? : Action α → Option (Target α)
  | .add target => some target
  | .remove target => some target
  | .contains target => some target
  | _ => none

/-- The walk that begins with the entries of a roster. -/
def Walk.begin (roster : Roster α) (turns : List (Script α)) (on : List (α × Script α))
    (catching : Bool) (scope : List α) : Walk α :=
  ⟨roster.entries, roster.entries, 0, turns, on, catching, scope⟩

/-- How an action begins for the work in `frames` when nobody uses the roster: what happens, and
where the machine stands afterwards. -/
inductive Performs (world : World α) (scope : List α) (frames : List (Frame α)) :
    Action α → List (Event α) → Config α → Prop where
  | misaimed {action target} (aimed : action.target? = some target)
      (nothing : world.resolve scope target = none) :
      Performs world scope frames action [] ⟨world, frames, .raise .misaimed⟩
  | add {target handle} (aimed : world.resolve scope target = some handle) :
      Performs world scope frames (.add target) [.noticed (world.roster.add handle).2]
        ⟨{ world with roster := (world.roster.add handle).1, access := .exclusive },
          .unlock .proceed ::
            .letGo .argument (if world.roster.contains handle then [handle] else [])
              (.deliver .unit) :: frames, .proceed⟩
  | remove {target handle} (aimed : world.resolve scope target = some handle) :
      Performs world scope frames (.remove target) [.noticed (world.roster.remove handle).2]
        ⟨{ world with roster := (world.roster.remove handle).1, access := .exclusive },
          .letGo .removal (if world.roster.contains handle then [handle] else []) .proceed ::
            .unlock (.deliver .unit) :: frames, .proceed⟩
  | clear :
      Performs world scope frames .clear [.noticed world.roster.clear.2]
        ⟨{ world with roster := world.roster.clear.1, access := .exclusive },
          .unlock .proceed :: .letGo .clearing world.roster.handles (.deliver .unit) :: frames,
          .proceed⟩
  | answer {action value} (reading : action.reading? world scope = some value) :
      Performs world scope frames action []
        ⟨{ world with access := .shared 1 }, .unlock (.deliver value) :: frames, .proceed⟩
  | release {handle} (pooled : handle ∈ world.pool) :
      Performs world scope frames (.release handle) [.released handle]
        ⟨{ world with pool := world.pool.filter fun other => other ≠ handle },
          .letGo .release [handle] (.deliver .unit) :: frames, .proceed⟩
  | releaseNothing {handle} (notPooled : handle ∉ world.pool) :
      Performs world scope frames (.release handle) [] ⟨world, frames, .deliver .unit⟩
  | fail {fault} :
      Performs world scope frames (.fail fault) [] ⟨world, frames, .raise (.fault fault)⟩
  | forEach {turns on catching} :
      Performs world scope frames (.forEach turns on catching)
        [.began (level frames + 1) world.roster.entries]
        ⟨{ world with access := .shared 1 },
          .unlock .proceed :: .walk (.begin world.roster turns on catching scope) :: frames,
          .proceed⟩

/-- `Code frame scope script` says that a frame is about to perform the actions of a script, in the
course of the visits of the handles in `scope`. -/
inductive Code : Frame α → List α → Script α → Prop where
  | steps (rest : Script α) : Code (.steps rest) [] rest
  | script (scope : List α) (rest : Script α) : Code (.script scope rest) scope rest

/-- The frame of some code after its first action has begun. -/
def Frame.advance : Frame α → Frame α
  | .steps rest => .steps rest.tail
  | .script scope rest => .script scope rest.tail
  | frame => frame

/-- What happened before the end of a hook. -/
def Signal.stop? : Signal → Option Stop
  | .raise stop => some stop
  | _ => none

/-- One step of the machine: where it stands, what happens, and where it stands afterwards. -/
inductive Step (program : Program α) : Config α → List (Event α) → Config α → Prop where
  | perform {world frame scope action rest frames events next}
      (code : Code frame scope (action :: rest))
      (performs : Performs world scope (frame.advance :: frames) action events next) :
      Step program ⟨world, frame :: frames, .proceed⟩ events next
  | stepsDone {world frames} :
      Step program ⟨world, .steps [] :: frames, .proceed⟩ [] ⟨world, frames, .proceed⟩
  | stepEnd {world rest frames value} :
      Step program ⟨world, .steps rest :: frames, .deliver value⟩
        [.stepped (.ok value) world.roster.handles] ⟨world, .steps rest :: frames, .proceed⟩
  | stepFault {world rest frames fault} :
      Step program ⟨world, .steps rest :: frames, .raise (.fault fault)⟩
        [.stepped (.error fault) world.roster.handles] ⟨world, .steps rest :: frames, .proceed⟩
  | givenUp {world rest frames} :
      Step program ⟨world, .steps rest :: frames, .raise .misaimed⟩ []
        ⟨world, frames, .raise .misaimed⟩
  | scriptDone {world scope frames} :
      Step program ⟨world, .script scope [] :: frames, .proceed⟩ (returnEvents scope frames none)
        ⟨world, frames, .proceed⟩
  | told {world scope rest frames value} :
      Step program ⟨world, .script scope rest :: frames, .deliver value⟩ value.events
        ⟨world, .script scope rest :: frames, .proceed⟩
  | scriptStop {world scope rest frames stop} :
      Step program ⟨world, .script scope rest :: frames, .raise stop⟩
        (returnEvents scope frames (some stop)) ⟨world, frames, .raise stop⟩
  | walkDone {world walk frames signal} (calm : signal.stop? = none) (done : walk.pending = []) :
      Step program ⟨world, .walk walk :: frames, signal⟩ [.ended (level frames + 1) none]
        ⟨world, .letGo .walk (walk.snapshot.map Entry.handle) (.deliver .unit) :: frames, .proceed⟩
  | visit {world walk entry pending frames signal} (calm : signal.stop? = none)
      (turn : walk.pending = entry :: pending) (live : world.roster.isLive entry.serial) :
      Step program ⟨world, .walk walk :: frames, signal⟩ [.visited (level frames + 1) entry]
        ⟨{ world with access := .shared 1 },
          .unlock .proceed :: .script (entry.handle :: walk.scope) (walk.script entry.handle) ::
            .walk { walk with pending, visits := walk.visits + 1 } :: frames, .proceed⟩
  | skip {world walk entry pending frames signal} (calm : signal.stop? = none)
      (turn : walk.pending = entry :: pending) (gone : ¬ world.roster.isLive entry.serial) :
      Step program ⟨world, .walk walk :: frames, signal⟩ [.skipped (level frames + 1) entry]
        ⟨{ world with access := .shared 1 },
          .unlock .proceed :: .walk { walk with pending } :: frames, .proceed⟩
  | walkStop {world walk frames stop} :
      Step program ⟨world, .walk walk :: frames, .raise stop⟩
        [.ended (level frames + 1) (some stop)]
        ⟨world, .letGo .walk (walk.snapshot.map Entry.handle) (walk.pass stop) :: frames, .proceed⟩
  | settled {world cause next frames signal} :
      Step program ⟨world, .letGo cause [] next :: frames, signal⟩ [.settled cause]
        ⟨world, frames, next⟩
  | kept {world cause handle handles next frames signal}
      (held : isHeld world (.letGo cause handles next :: frames) handle) :
      Step program ⟨world, .letGo cause (handle :: handles) next :: frames, signal⟩ []
        ⟨world, .letGo cause handles next :: frames, .proceed⟩
  | died {world cause handle handles next frames signal}
      (last : ¬ isHeld world (.letGo cause handles next :: frames) handle)
      (unhooked : program.hook? handle = none) :
      Step program ⟨world, .letGo cause (handle :: handles) next :: frames, signal⟩
        [.died cause handle false] ⟨world, .letGo cause handles next :: frames, .proceed⟩
  | diedHooked {world cause handle handles next frames signal script}
      (last : ¬ isHeld world (.letGo cause handles next :: frames) handle)
      (hooked : program.hook? handle = some script) :
      Step program ⟨world, .letGo cause (handle :: handles) next :: frames, signal⟩
        [.died cause handle true]
        ⟨world, .script [] script :: .hook handle :: .letGo cause handles next :: frames,
          .proceed⟩
  | hookEnd {world handle frames signal} :
      Step program ⟨world, .hook handle :: frames, signal⟩ [.hookEnded handle signal.stop?]
        ⟨world, frames, .proceed⟩
  | unlock {world next frames signal} :
      Step program ⟨world, .unlock next :: frames, signal⟩ []
        ⟨{ world with access := world.access.release }, frames, next⟩

/-- Code that is told to go on performs its next action. -/
theorem Step.performs {program : Program α} {world : World α} {frame : Frame α}
    {frames : List (Frame α)} {scope : List α} {action : Action α} {rest : Script α}
    {events : List (Event α)} {next : Config α} (code : Code frame scope (action :: rest))
    (step : Step program ⟨world, frame :: frames, .proceed⟩ events next) :
    Performs world scope (frame.advance :: frames) action events next := by
  cases step with
  | perform other performs => cases code <;> cases other <;> exact performs
  | stepsDone | scriptDone | walkDone | visit | skip | settled | kept | died | diedHooked | hookEnd
  | unlock => cases code

omit [DecidableEq α] in
@[simp] theorem mem_value_events_iff {value : Value} {event : Event α} :
    event ∈ value.events ↔ value ≠ .unit ∧ event = .answered value := by
  unfold Value.events
  split
  · next silent => simp [silent]
  · next told => simp [told]

omit [DecidableEq α] in
theorem mem_value_events {value : Value} {event : Event α} (mem : event ∈ value.events) :
    event = .answered value :=
  (mem_value_events_iff.1 mem).2

omit [DecidableEq α] in
@[simp] theorem mem_returnEvents_iff {scope : List α} {frames : List (Frame α)}
    {stop : Option Stop} {event : Event α} :
    event ∈ returnEvents scope frames stop ↔
      ∃ handle farther, scope = handle :: farther ∧
        event = .returned (level frames) handle stop := by
  cases scope <;> simp [returnEvents]

omit [DecidableEq α] in
theorem mem_returnEvents {scope : List α} {frames : List (Frame α)} {stop : Option Stop}
    {event : Event α} (mem : event ∈ returnEvents scope frames stop) :
    ∃ handle farther, scope = handle :: farther ∧
      event = .returned (level frames) handle stop :=
  mem_returnEvents_iff.1 mem

/-- At most one thing happens in a step. -/
theorem Step.length_events_le {program : Program α} {config next : Config α}
    {events : List (Event α)} (step : Step program config events next) : events.length ≤ 1 := by
  cases step with
  | perform code performs => cases performs <;> simp
  | @told _ _ _ _ value =>
      unfold Value.events
      split <;> simp
  | @scriptDone _ scope | @scriptStop _ scope => cases scope <;> simp [returnEvents]
  | stepsDone | stepEnd | stepFault | givenUp | walkDone | visit | skip | walkStop | settled | kept
  | died | diedHooked | hookEnd | unlock => simp

/-- Whether a frame is work that may use the roster. -/
def Frame.usesRoster : Frame α → Bool
  | .steps _ | .script _ _ | .walk _ => true
  | _ => false

omit [DecidableEq α] in
theorem Code.usesRoster {frame : Frame α} {scope : List α} {script : Script α}
    (code : Code frame scope script) : frame.usesRoster := by
  cases code <;> rfl

/-- Nobody uses the roster if the topmost work is work that may. -/
def Config.Ready (config : Config α) : Prop :=
  ∀ frame ∈ config.frames.head?, frame.usesRoster → config.world.access = .free

omit [DecidableEq α] in
/-- Access to a roster that nobody uses is always to be had. -/
theorem World.use_of_free {world : World α} (free : world.access = .free)
    (frames : List (Frame α)) (work : World α → Config α × List (Event α)) :
    world.use world.access.read frames work = work { world with access := .shared 1 } ∧
      world.use world.access.write frames work = work { world with access := .exclusive } := by
  simp [World.use, free, Access.free, Access.read, Access.write]

/-- How an action begins, if nobody uses the roster. -/
theorem Performs.of_perform {world : World α} (free : world.access = .free) (scope : List α)
    (frames : List (Frame α)) (action : Action α) :
    Performs world scope frames action (perform world scope frames action).2
      (perform world scope frames action).1 := by
  have reads := fun work => (World.use_of_free free frames work).1
  have writes := fun work => (World.use_of_free free frames work).2
  cases action with
  | add target =>
      cases aimed : world.resolve scope target with
      | none => simpa [perform, aimed] using .misaimed rfl aimed
      | some handle => simpa [perform, aimed, writes] using .add aimed
  | remove target =>
      cases aimed : world.resolve scope target with
      | none => simpa [perform, aimed] using .misaimed rfl aimed
      | some handle => simpa [perform, aimed, writes] using .remove aimed
  | contains target =>
      cases aimed : world.resolve scope target with
      | none => simpa [perform, aimed] using .misaimed rfl aimed
      | some handle =>
          simpa [perform, aimed, World.answer, reads] using
            Performs.answer (by simp [Action.reading?, aimed])
  | clear => simpa [perform, writes] using .clear
  | size => simpa [perform, World.answer, reads] using .answer rfl
  | isEmpty => simpa [perform, World.answer, reads] using .answer rfl
  | «show» layout => simpa [perform, World.answer, reads] using .answer rfl
  | release handle =>
      by_cases pooled : handle ∈ world.pool
      · simp only [perform, if_pos pooled]
        exact .release pooled
      · simp only [perform, if_neg pooled]
        exact .releaseNothing pooled
  | fail fault => exact .fail
  | forEach turns on catching => simpa [perform, reads] using .forEach

/-- What the machine does when a walk is to go on, if nobody uses the roster. -/
theorem Step.of_turn {program : Program α} {world : World α} (free : world.access = .free)
    (walk : Walk α) (frames : List (Frame α)) {signal : Signal} (calm : signal.stop? = none) :
    Step program ⟨world, .walk walk :: frames, signal⟩ (walk.turn world frames).2
      (walk.turn world frames).1 := by
  have reads := fun frames work => (World.use_of_free free frames work).1
  cases turn : walk.pending with
  | nil => simpa [Walk.turn, turn, Walk.finish] using .walkDone calm turn
  | cons entry pending =>
      by_cases live : world.roster.isLive entry.serial
      · simpa [Walk.turn, turn, turn_of_live live, reads] using .visit calm turn live
      · simpa [Walk.turn, turn, turn_of_not_live live, reads] using .skip calm turn live

/-- What the machine does when a handle is let go. -/
theorem Step.of_drop {program : Program α} {world : World α} {cause : Cause} {handle : α}
    {handles : List α} {next signal : Signal} (frames : List (Frame α)) :
    Step program ⟨world, .letGo cause (handle :: handles) next :: frames, signal⟩
      (world.drop program (.letGo cause handles next :: frames) cause handle).2
      (world.drop program (.letGo cause handles next :: frames) cause handle).1 := by
  by_cases held : isHeld world (.letGo cause handles next :: frames) handle
  · simpa [World.drop, held] using .kept held
  · cases hook : program.hook? handle with
    | none => simpa [World.drop, held, hook] using .died held hook
    | some script => simpa [World.drop, held, hook] using .diedHooked held hook

/-- What the machine does when the topmost work goes on, if nobody uses the roster. -/
theorem Step.of_resume {program : Program α} {world : World α} {frame : Frame α}
    {frames : List (Frame α)} {signal : Signal}
    (ready : frame.usesRoster → world.access = .free) :
    Step program ⟨world, frame :: frames, signal⟩
      (frame.resume program world frames signal).2
      (frame.resume program world frames signal).1 := by
  cases frame with
  | steps rest =>
      cases signal with
      | proceed =>
          cases rest with
          | nil => exact .stepsDone
          | cons action rest =>
              have performs := Performs.of_perform (ready rfl) [] (.steps rest :: frames) action
              exact .perform (.steps (action :: rest)) performs
      | deliver value => cases rest <;> exact .stepEnd
      | raise stop =>
          cases stop with
          | fault fault => cases rest <;> exact .stepFault
          | misaimed => cases rest <;> exact .givenUp
  | script scope rest =>
      cases signal with
      | proceed =>
          cases rest with
          | nil => exact .scriptDone
          | cons action rest =>
              have performs :=
                Performs.of_perform (ready rfl) scope (.script scope rest :: frames) action
              exact .perform (.script scope (action :: rest)) performs
      | deliver value => cases rest <;> exact .told
      | raise stop => cases rest <;> exact .scriptStop
  | walk walk =>
      cases signal with
      | proceed => exact .of_turn (ready rfl) walk frames rfl
      | deliver value => exact .of_turn (ready rfl) walk frames rfl
      | raise stop => exact .walkStop
  | letGo cause handles next =>
      cases handles with
      | nil => exact .settled
      | cons handle handles => exact .of_drop frames
  | hook handle => cases signal <;> exact .hookEnd
  | unlock next => exact .unlock

/-- The machine takes no other steps than those of `Step`. -/
theorem Step.of_step? {program : Program α} {config next : Config α} {events : List (Event α)}
    (ready : config.Ready) (stepped : config.step? program = some (next, events)) :
    Step program config events next := by
  obtain ⟨world, frames, signal⟩ := config
  cases frames with
  | nil => simp [Config.step?] at stepped
  | cons frame frames =>
      by_cases broken : world.access = .broken
      · simp [Config.step?, broken] at stepped
      · simp only [Config.step?, if_neg broken, Option.some.injEq] at stepped
        have step : Step program ⟨world, frame :: frames, signal⟩ _ _ :=
          .of_resume (ready frame (by simp))
        rwa [stepped] at step

/-! ## Each rule is a step of the machine -/

/-- If nobody uses the roster, an action begins in one way only. -/
theorem Performs.perform_eq {world : World α} (free : world.access = .free) {scope : List α}
    {frames : List (Frame α)} {action : Action α} {events : List (Event α)} {next : Config α}
    (performs : Performs world scope frames action events next) :
    perform world scope frames action = (next, events) := by
  have reads := fun frames work => (World.use_of_free free frames work).1
  have writes := fun frames work => (World.use_of_free free frames work).2
  cases performs with
  | misaimed aimed nothing => cases action <;> cases aimed <;> simp only [perform, nothing]
  | add aimed | remove aimed => simp only [perform, aimed, writes]
  | clear => simp only [perform, writes]
  | answer reading =>
      cases action with
      | contains target =>
          obtain ⟨handle, aimed, rfl⟩ := Option.map_eq_some_iff.1 reading
          simp only [perform, aimed, World.answer, reads]
      | size | isEmpty | «show» =>
          cases reading
          simp only [perform, World.answer, reads]
      | _ => cases reading
  | release pooled => simp only [perform, if_pos pooled]
  | releaseNothing notPooled => simp only [perform, if_neg notPooled]
  | fail => rfl
  | forEach => simp only [perform, reads, Walk.begin]

/-- A walk that is told to go on gives the next entry its turn. -/
theorem Walk.resume_eq_turn {program : Program α} {world : World α} {walk : Walk α}
    {frames : List (Frame α)} {signal : Signal} (calm : signal.stop? = none) :
    (Frame.walk walk).resume program world frames signal = walk.turn world frames := by
  cases signal with
  | proceed | deliver => rfl
  | raise => cases calm

/-- What a rule says is what the machine does, as long as access is not broken and nobody uses the
roster when the topmost work wants to use it. -/
theorem Step.step?_eq {program : Program α} {config next : Config α} {events : List (Event α)}
    (ready : config.Ready) (unbroken : config.world.access ≠ .broken)
    (step : Step program config events next) : config.step? program = some (next, events) := by
  have resumes {world frame frames signal} (unbroken : world.access ≠ .broken) :
      Config.step? program ⟨world, frame :: frames, signal⟩ =
        some (frame.resume program world frames signal) := by
    simp [Config.step?, unbroken]
  cases step with
  | perform code performs =>
      have begins := performs.perform_eq (ready _ rfl code.usesRoster)
      rw [resumes unbroken, ← begins]
      cases code <;> rfl
  | stepsDone | scriptDone => rw [resumes unbroken]; rfl
  | @stepEnd _ rest | @stepFault _ rest | @givenUp _ rest | @told _ _ rest
  | @scriptStop _ _ rest =>
      rw [resumes unbroken]
      cases rest <;> rfl
  | walkDone calm done =>
      rw [resumes unbroken, Walk.resume_eq_turn calm]
      simp only [Walk.turn, done, turn_nil, Walk.finish]
  | visit calm turn live =>
      have reads := fun frames work => (World.use_of_free (ready _ rfl rfl) frames work).1
      rw [resumes unbroken, Walk.resume_eq_turn calm]
      simp only [Walk.turn, turn, turn_of_live live, reads]
  | skip calm turn gone =>
      have reads := fun frames work => (World.use_of_free (ready _ rfl rfl) frames work).1
      rw [resumes unbroken, Walk.resume_eq_turn calm]
      simp only [Walk.turn, turn, turn_of_not_live gone, reads]
  | walkStop | settled | unlock => rw [resumes unbroken]; rfl
  | kept held =>
      rw [resumes unbroken]
      simp only [Frame.resume, World.drop, if_pos held]
  | died last unhooked =>
      rw [resumes unbroken]
      simp only [Frame.resume, World.drop, if_neg last, unhooked]
  | diedHooked last hooked =>
      rw [resumes unbroken]
      simp only [Frame.resume, World.drop, if_neg last, hooked]
  | @hookEnd _ _ _ signal =>
      rw [resumes unbroken]
      cases signal <;> rfl

/-- The machine is at rest only when all work is done, unless access is broken. -/
theorem Config.step?_eq_none_iff {program : Program α} {config : Config α} :
    config.step? program = none ↔ config.frames = [] ∨ config.world.access = .broken := by
  obtain ⟨world, frames, signal⟩ := config
  cases frames with
  | nil => simp [Config.step?]
  | cons frame frames => simp [Config.step?]

end Herald.Roster
