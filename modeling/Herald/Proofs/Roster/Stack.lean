import Herald.Proofs.Roster.Step
import Herald.Roster.Lemmas
import Mathlib.Data.List.Forall2

/-!
# The stack of unfinished work

At every point of every run the stack has one shape. Each frame stands on the kind of work that
started it (`Idle`), and on top of that there may be one use of the roster that is under way
(`Sound`). So access to the roster is free whenever some code or a walk is the topmost work, and
whoever takes an entry out, or registers a handle again, knows another holder of the handle.

`Sound.step` shows that a step keeps the shape; `Run.sound` is the induction over a run.
-/

namespace Herald.Roster

variable {α : Type}

/-- Whether a frame is code: the steps of the program, or the script of a visit or of a hook. -/
def Frame.isCode : Frame α → Bool
  | .steps _ | .script _ _ => true
  | _ => false

/-- Whether a holder that lets go for this reason may be the last one. -/
def Cause.mayKill : Cause → Bool
  | .argument | .removal => false
  | .clearing | .walk | .release => true

/-- The stacks on which nobody uses the roster. A visit stands on its walk, whose snapshot has the
visited handle; a hook stands on the holder that let its handle go; a walk, which still has a last
part of its snapshot to go through, and a holder that lets go stand on the code that started
them. What a walk started was started in the course of the same visits and of its own. -/
inductive Idle : List (Frame α) → Prop where
  | done : Idle []
  | steps {rest} : Idle [.steps rest]
  | visit {handle rest walk frames} (below : Idle (.walk walk :: frames))
      (snapshot : handle ∈ walk.snapshot.map Entry.handle) :
      Idle (.script (handle :: walk.scope) rest :: .walk walk :: frames)
  | hookScript {handle rest frames} (below : Idle (.hook handle :: frames)) :
      Idle (.script [] rest :: .hook handle :: frames)
  | walk {walk frame script frames} (below : Idle (frame :: frames))
      (code : Code frame walk.scope script) (rest : walk.pending <:+ walk.snapshot) :
      Idle (.walk walk :: frame :: frames)
  | letGo {cause handles next frame frames} (below : Idle (frame :: frames)) (code : frame.isCode)
      (kills : cause.mayKill) : Idle (.letGo cause handles next :: frame :: frames)
  | hook {handle cause handles next frames} (below : Idle (.letGo cause handles next :: frames)) :
      Idle (.hook handle :: .letGo cause handles next :: frames)

/-- A handle is being visited, by a walk that holds it. -/
def Visiting (frames : List (Frame α)) (handle : α) : Prop :=
  ∃ scope rest walk below, .script (handle :: scope) rest :: .walk walk :: below <:+ frames ∧
    handle ∈ walk.snapshot.map Entry.handle

/-- The code on top of a stack knows that a handle is held: by the program, or by a walk that is
visiting it. -/
def Keeps (world : World α) (frames : List (Frame α)) (handle : α) : Prop :=
  handle ∈ world.pool ∨ Visiting frames handle

/-- The states that the machine can be in: nobody uses the roster, or one use is under way on top of
the stack. -/
inductive Sound : Config α → Prop where
  | idle {world frames signal} (stack : Idle frames) (free : world.access = .free) :
      Sound ⟨world, frames, signal⟩
  /-- The use is over and access is about to be given back. -/
  | unlock {world next frames signal} (stack : Idle frames)
      (used : world.access = .shared 1 ∨ world.access = .exclusive) (calm : next.stop? = none) :
      Sound ⟨world, .unlock next :: frames, signal⟩
  /-- A handle was registered, and an argument that was refused will be let go after that. -/
  | adding {world handles frame frames signal} (stack : Idle (frame :: frames))
      (code : frame.isCode) (used : world.access = .exclusive)
      (registered : ∀ handle ∈ handles, handle ∈ world.roster.handles) :
      Sound ⟨world, .unlock .proceed :: .letGo .argument handles (.deliver .unit) ::
        frame :: frames, signal⟩
  /-- An argument that was refused is being let go. -/
  | refusing {world handles frame frames signal} (stack : Idle (frame :: frames))
      (code : frame.isCode) (free : world.access = .free)
      (registered : ∀ handle ∈ handles, handle ∈ world.roster.handles) :
      Sound ⟨world, .letGo .argument handles (.deliver .unit) :: frame :: frames, signal⟩
  /-- An entry that was taken out is being let go. -/
  | removing {world handles frame frames signal} (stack : Idle (frame :: frames))
      (code : frame.isCode) (used : world.access = .exclusive)
      (kept : ∀ handle ∈ handles, Keeps world (frame :: frames) handle) :
      Sound ⟨world, .letGo .removal handles .proceed :: .unlock (.deliver .unit) ::
        frame :: frames, signal⟩

/-! ## Shapes of stacks -/

theorem Idle.tail {frame : Frame α} {frames : List (Frame α)} (stack : Idle (frame :: frames)) :
    Idle frames := by
  cases stack with
  | steps => exact .done
  | visit below => exact below
  | hookScript below => exact below
  | walk below => exact below
  | letGo below => exact below
  | hook below => exact below

theorem Code.isCode {frame : Frame α} {scope : List α} {script : Script α}
    (code : Code frame scope script) : frame.isCode := by
  cases code <;> rfl

/-- Code that has begun an action goes on with the rest of its script. -/
theorem Code.advance {frame : Frame α} {scope : List α} {script : Script α}
    (code : Code frame scope script) : Code frame.advance scope script.tail := by
  cases code <;> constructor

/-- Code that has begun an action stands where it stood. -/
theorem Idle.advance {frame : Frame α} {frames : List (Frame α)} (stack : Idle (frame :: frames)) :
    Idle (frame.advance :: frames) := by
  cases stack with
  | steps => exact .steps
  | visit below snapshot => exact .visit below snapshot
  | hookScript below => exact .hookScript below
  | walk below code rest => exact .walk below code rest
  | letGo below code kills => exact .letGo below code kills
  | hook below => exact .hook below

/-- A walk stands where it stood when one of its entries has had its turn. -/
theorem Idle.turn {walk : Walk α} {entry : Entry α} {pending : List (Entry α)}
    {frames : List (Frame α)} (stack : Idle (.walk walk :: frames))
    (turn : walk.pending = entry :: pending) (visits : Nat) :
    entry ∈ walk.snapshot ∧ Idle (.walk { walk with pending, visits } :: frames) := by
  cases stack with
  | walk below code rest =>
      rw [turn] at rest
      exact ⟨rest.subset (by simp), .walk below code ((List.suffix_cons _ _).trans rest)⟩

/-- A holder stands where it stood, whatever it still has to let go. -/
theorem Idle.letGo_congr {cause : Cause} {handles : List α} {next : Signal}
    {frames : List (Frame α)} (stack : Idle (.letGo cause handles next :: frames))
    (rest : List α) : Idle (.letGo cause rest next :: frames) := by
  cases stack with
  | letGo below code kills => exact .letGo below code kills

/-- A handle that is visited is in the snapshot of the walk. -/
theorem Idle.mem_snapshot {handle : α} {scope : List α} {rest : Script α} {walk : Walk α}
    {frames : List (Frame α)}
    (stack : Idle (.script (handle :: scope) rest :: .walk walk :: frames)) :
    handle ∈ walk.snapshot.map Entry.handle := by
  cases stack with
  | visit _ snapshot => exact snapshot

/-- The visits in the course of which a frame does its work, by their handles, the innermost
first. -/
def Frame.scope : Frame α → List α
  | .script scope _ => scope
  | .walk w => w.scope
  | _ => []

theorem Code.scope_eq {frame : Frame α} {scope : List α} {script : Script α}
    (code : Code frame scope script) : frame.scope = scope := by
  cases code <;> rfl

theorem Visiting.cons {frames : List (Frame α)} {handle : α} (visiting : Visiting frames handle)
    (frame : Frame α) : Visiting (frame :: frames) handle := by
  obtain ⟨scope, rest, walk, below, there, snapshot⟩ := visiting
  exact ⟨scope, rest, walk, below, there.trans (List.suffix_cons _ _), snapshot⟩

theorem Visiting.exists_walk {frames : List (Frame α)} {handle : α}
    (visiting : Visiting frames handle) :
    ∃ walk, .walk walk ∈ frames ∧ handle ∈ walk.snapshot.map Entry.handle := by
  obtain ⟨scope, rest, walk, below, there, snapshot⟩ := visiting
  exact ⟨walk, there.subset (.tail _ (.head _)), snapshot⟩

/-- Work is done in the course of visits that stand on the stack. -/
theorem Idle.visiting_of_mem_scope {frame : Frame α} {frames : List (Frame α)} {handle : α}
    (stack : Idle (frame :: frames)) (visited : handle ∈ frame.scope) :
    Visiting (frame :: frames) handle := by
  generalize whole : frame :: frames = stack' at stack
  induction stack generalizing frame frames with
  | done => cases whole
  | steps | hookScript | letGo | hook =>
      cases whole
      cases visited
  | @visit _ _ walk _ below snapshot ih =>
      cases whole
      rcases List.mem_cons.1 visited with rfl | farther
      · exact ⟨_, _, _, _, List.suffix_rfl, snapshot⟩
      · have farther : handle ∈ (Frame.walk walk).scope := farther
        exact (ih farther rfl).cons _
  | walk below code rest ih =>
      cases whole
      exact (ih (code.scope_eq ▸ visited) rfl).cons _

/-- What an action is aimed at is held by the program or by the walk of a visit. -/
theorem Idle.keeps_of_resolve [DecidableEq α] {world : World α} {frame : Frame α}
    {frames : List (Frame α)} {scope : List α} {script : Script α} {target : Target α} {handle : α}
    (stack : Idle (frame :: frames)) (code : Code frame scope script)
    (aimed : world.resolve scope target = some handle) :
    Keeps world (frame.advance :: frames) handle := by
  have visiting (visited : handle ∈ scope) : Visiting (frame.advance :: frames) handle :=
    stack.advance.visiting_of_mem_scope (code.advance.scope_eq ▸ visited)
  cases target with
  | named other =>
      have pooled : other ∈ world.pool ∧ other = handle := by
        simpa [World.resolve] using aimed
      exact .inl (pooled.2 ▸ pooled.1)
  | self => exact .inr (visiting (List.mem_of_head? aimed))
  | enclosing depth => exact .inr (visiting (List.mem_of_mem_tail (List.mem_of_getElem? aimed)))

/-- Work that may use the roster finds that nobody uses it. -/
theorem Sound.idle_of_usesRoster {world : World α} {frame : Frame α} {frames : List (Frame α)}
    {signal : Signal} (sound : Sound ⟨world, frame :: frames, signal⟩)
    (uses : frame.usesRoster) : Idle (frame :: frames) ∧ world.access = .free := by
  cases sound with
  | idle stack free => exact ⟨stack, free⟩
  | unlock | adding | refusing | removing => cases uses

theorem Sound.ready {config : Config α} (sound : Sound config) : config.Ready := by
  obtain ⟨world, frames, signal⟩ := config
  intro frame top uses
  cases frames with
  | nil => cases top
  | cons other frames =>
      cases Option.some.inj top
      exact (sound.idle_of_usesRoster uses).2

theorem Sound.access_ne_broken {config : Config α} (sound : Sound config) :
    config.world.access ≠ .broken := by
  cases sound with
  | idle _ free | refusing _ _ free => rw [free]; exact fun broken => nomatch broken
  | unlock _ used =>
      obtain used | used := used <;> rw [used] <;> exact fun broken => nomatch broken
  | adding _ _ used | removing _ _ used => rw [used]; exact fun broken => nomatch broken

/-! ## Holders -/

@[simp] theorem held_steps (rest : Script α) : (Frame.steps rest).held = [] := rfl

@[simp] theorem held_script (scope : List α) (rest : Script α) :
    (Frame.script scope rest).held = [] := rfl

@[simp] theorem held_walk (walk : Walk α) :
    (Frame.walk walk).held = walk.snapshot.map Entry.handle := rfl

@[simp] theorem held_letGo (cause : Cause) (handles : List α) (next : Signal) :
    (Frame.letGo cause handles next).held = handles := rfl

@[simp] theorem held_hook (handle : α) : (Frame.hook handle).held = [] := rfl

@[simp] theorem held_unlock (next : Signal) : (Frame.unlock next : Frame α).held = [] := rfl

@[simp] theorem held_advance (frame : Frame α) : frame.advance.held = frame.held := by
  cases frame <;> rfl

/-- Whether unfinished work holds a handle. -/
def Holds (frames : List (Frame α)) (handle : α) : Prop :=
  ∃ frame ∈ frames, handle ∈ frame.held

@[simp] theorem holds_cons {frame : Frame α} {frames : List (Frame α)} {handle : α} :
    Holds (frame :: frames) handle ↔ handle ∈ frame.held ∨ Holds frames handle := by
  simp [Holds]

theorem Holds.append {frames : List (Frame α)} {handle : α} (holds : Holds frames handle)
    (upper : List (Frame α)) : Holds (upper ++ frames) handle := by
  obtain ⟨frame, mem, held⟩ := holds
  exact ⟨frame, List.mem_append_right upper mem, held⟩

/-- Stacks whose frames hold the same handles hold the same handles. -/
theorem holds_congr {frames others : List (Frame α)}
    (same : List.Forall₂ (fun frame other : Frame α => other.held = frame.held) frames others)
    {handle : α} : Holds others handle ↔ Holds frames handle := by
  induction same with
  | nil => rfl
  | cons top _ ih => rw [holds_cons, holds_cons, top, ih]

/-- Who keeps a handle holds it, whatever else is on the stack. -/
theorem Keeps.held {world : World α} {frames : List (Frame α)} {handle : α}
    (keeps : Keeps world frames handle) : handle ∈ world.pool ∨ Holds frames handle := by
  refine keeps.imp_right fun visiting => ?_
  obtain ⟨walk, there, snapshot⟩ := visiting.exists_walk
  exact ⟨.walk walk, there, snapshot⟩

variable [DecidableEq α]

theorem isHeld_iff {world : World α} {frames : List (Frame α)} {handle : α} :
    isHeld world frames handle ↔
      handle ∈ world.pool ∨ handle ∈ world.roster.handles ∨ Holds frames handle := by
  simp [isHeld, contains_iff, or_assoc, Holds]

/-- The last holder of a handle is never one that uses the roster, nor one that gives back an
argument that was refused. -/
theorem Sound.idle_of_last {world : World α} {cause : Cause} {handle : α} {handles : List α}
    {next signal : Signal} {frames : List (Frame α)}
    (sound : Sound ⟨world, .letGo cause (handle :: handles) next :: frames, signal⟩)
    (last : ¬ isHeld world (.letGo cause handles next :: frames) handle) :
    Idle (.letGo cause handles next :: frames) ∧ world.access = .free ∧ cause.mayKill := by
  cases sound with
  | idle stack free =>
      refine ⟨stack.letGo_congr handles, free, ?_⟩
      cases stack with
      | letGo below code kills => exact kills
  | refusing stack code free registered =>
      exact absurd (isHeld_iff.2 (.inr (.inl (registered handle (by simp))))) last
  | removing stack code used kept =>
      rcases (kept handle (by simp)).held with pooled | holds
      · exact absurd (isHeld_iff.2 (.inl pooled)) last
      · exact absurd (isHeld_iff.2 (.inr (.inr (holds.append [_, _])))) last

/-! ## Steps keep the shape -/

theorem Performs.sound {world : World α} {scope : List α} {frame : Frame α}
    {frames : List (Frame α)} {script : Script α} {action : Action α} {events : List (Event α)}
    {next : Config α} (stack : Idle (frame :: frames)) (free : world.access = .free)
    (code : Code frame scope script)
    (performs : Performs world scope (frame.advance :: frames) action events next) :
    Sound next := by
  have stack' := stack.advance
  have code' := code.advance.isCode
  cases performs with
  | misaimed => exact .idle stack' free
  | add aimed =>
      -- an argument is refused because its handle is registered, and it stays so
      refine .adding stack' code' rfl ?_
      intro handle refused
      split at refused
      · next registered =>
        rw [List.mem_singleton.1 refused, handles_add, if_pos (contains_iff.1 registered)]
        exact contains_iff.1 registered
      · cases refused
  | remove aimed =>
      -- whoever could aim at the handle holds it, and goes on holding it
      refine .removing stack' code' rfl ?_
      intro handle taken
      split at taken
      · rw [List.mem_singleton.1 taken]
        exact stack.keeps_of_resolve code aimed
      · cases taken
  | clear => exact .unlock (.letGo stack' code' rfl) (.inr rfl) rfl
  | answer => exact .unlock stack' (.inl rfl) rfl
  | release => exact .idle (.letGo stack' code' rfl) free
  | releaseNothing => exact .idle stack' free
  | fail => exact .idle stack' free
  | forEach => exact .unlock (.walk stack' code.advance List.suffix_rfl) (.inl rfl) rfl

/-- One step keeps the shape of the stack. -/
theorem Sound.step {program : Program α} {config next : Config α} {events : List (Event α)}
    (sound : Sound config) (step : Step program config events next) : Sound next := by
  cases step with
  | perform code performs =>
      obtain ⟨stack, free⟩ := sound.idle_of_usesRoster code.usesRoster
      exact performs.sound stack free code
  | stepsDone | givenUp =>
      obtain ⟨stack, free⟩ := sound.idle_of_usesRoster rfl
      exact .idle stack.tail free
  | stepEnd | stepFault =>
      obtain ⟨stack, free⟩ := sound.idle_of_usesRoster rfl
      exact .idle stack free
  | told =>
      obtain ⟨stack, free⟩ := sound.idle_of_usesRoster rfl
      exact .idle stack free
  | scriptDone | scriptStop =>
      obtain ⟨stack, free⟩ := sound.idle_of_usesRoster rfl
      exact .idle stack.tail free
  | walkDone | walkStop =>
      obtain ⟨stack, free⟩ := sound.idle_of_usesRoster rfl
      cases stack with
      | walk below code => exact .idle (.letGo below code.isCode rfl) free
  | visit _ turn =>
      obtain ⟨stack, free⟩ := sound.idle_of_usesRoster rfl
      obtain ⟨inSnapshot, stack'⟩ := stack.turn turn (_ + 1)
      exact .unlock (.visit stack' (List.mem_map_of_mem inSnapshot)) (.inl rfl) rfl
  | skip _ turn =>
      obtain ⟨stack, free⟩ := sound.idle_of_usesRoster rfl
      exact .unlock (stack.turn turn _).2 (.inl rfl) rfl
  | settled =>
      -- what comes next depends on who let go: only a removal has access to give back
      cases sound with
      | idle stack free => exact .idle stack.tail free
      | refusing stack code free => exact .idle stack free
      | removing stack code used => exact .unlock stack (.inr used) rfl
  | kept held =>
      cases sound with
      | idle stack free => exact .idle (stack.letGo_congr _) free
      | refusing stack code free registered =>
          exact .refusing stack code free fun other rest => registered other (.tail _ rest)
      | removing stack code used kept =>
          exact .removing stack code used fun other rest => kept other (.tail _ rest)
  | died last =>
      obtain ⟨stack, free, _⟩ := sound.idle_of_last last
      exact .idle stack free
  | diedHooked last =>
      -- the last holder does not use the roster, so the hook may
      obtain ⟨stack, free, _⟩ := sound.idle_of_last last
      exact .idle (.hookScript (.hook stack)) free
  | hookEnd =>
      cases sound with
      | idle stack free => exact .idle stack.tail free
  | unlock =>
      cases sound with
      | idle stack free => cases stack
      | unlock stack used calm =>
          refine .idle stack ?_
          obtain used | used := used <;> rw [used] <;> rfl
      | adding stack code used registered =>
          exact .refusing stack code (by rw [used]; rfl) registered

/-! ## Runs -/

omit [DecidableEq α] in
theorem Program.start_sound (program : Program α) : Sound program.start :=
  .idle .steps rfl

variable {program : Program α} {start config next : Config α} {journal events : List (Event α)}

/-- The shape is kept as long as the machine goes on. -/
theorem Steps.sound (sound : Sound start) (steps : Steps program start journal config) :
    Sound config := by
  induction steps with
  | refl => exact sound
  | step _ stepped ih => exact ih.step (.of_step? ih.ready stepped)

/-- Every state of every run has the shape. -/
theorem Run.sound (run : Run program journal config) : Sound config :=
  Steps.sound program.start_sound run

/-- The steps of a run are those of `Step`. -/
theorem Sound.step_of_step? (sound : Sound config)
    (stepped : config.step? program = some (next, events)) : Step program config events next :=
  .of_step? sound.ready stepped

/-- The machine takes each of the steps of `Step`. -/
theorem Sound.step?_of_step (sound : Sound config) (step : Step program config events next) :
    config.step? program = some (next, events) :=
  step.step?_eq sound.ready sound.access_ne_broken

/-- The machine is at rest only when all work is done. -/
theorem Sound.frames_eq_nil_of_step? (sound : Sound config)
    (rest : config.step? program = none) : config.frames = [] :=
  (Config.step?_eq_none_iff.1 rest).resolve_right sound.access_ne_broken

/-- A run can be cut at each of its events. -/
theorem Steps.split {start config : Config α} {journal past rest : List (Event α)}
    {event : Event α} (sound : Sound start) (steps : Steps program start journal config)
    (cut : journal = past ++ event :: rest) :
    ∃ before after, Steps program start past before ∧
      before.step? program = some (after, [event]) ∧ Steps program after rest config := by
  refine Machine.Steps.split (fun journal config next events steps stepped => ?_) steps cut
  exact ((Steps.sound sound steps).step_of_step? stepped).length_events_le

/-- What stands in a journal happened in one of the steps. -/
theorem Steps.exists_step {past : List (Event α)} {event : Event α} {config : Config α}
    (sound : Sound start) (steps : Steps program start journal config)
    (there : past ++ [event] <+: journal) :
    ∃ before after, Steps program start past before ∧
      before.step? program = some (after, [event]) := by
  obtain ⟨rest, cut⟩ := there
  have cut : journal = past ++ event :: rest := by simp [← cut]
  obtain ⟨before, after, first, here, -⟩ := steps.split sound cut
  exact ⟨before, after, first, here⟩

end Herald.Roster
